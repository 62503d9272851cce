import PgTransport.Backend.Statement

/-!
# The simple-query bridge over SPI

A batch of several statements without transaction control runs inside one
implicit block; every other batch runs statement by statement, each in its own
`with_spi` bracket, with `BEGIN`, `COMMIT` and `ROLLBACK` intercepted and routed
to the transaction-block API.
-/

namespace PgTransport.Backend

open PgTransport.Computation
open PgTransport.Postgres
open PgTransport.Wire

variable {E : Type}

/-! ## Classification -/

/-- `XactCmd`. -/
inductive XactCmd where
  | begin
  | commit
  | rollback
  deriving DecidableEq, Repr

/-- `classify_raw_stmt`. -/
def classifyRawStmt : Node → Option XactCmd
  | .transactionStmt stmt =>
      match stmt.kind with
      | .begin | .start => some .begin
      | .commit => some .commit
      | .rollback => some .rollback
      | _ => none
  | _ => none

/-- `extract_fetch_portalname`. -/
def extractFetchPortalname : Node → Option String
  | .fetchStmt false portalname => portalname
  | _ => none

/-- `StmtMeta`. -/
structure StmtMeta where
  xact : Option XactCmd
  fetchPortalname : Option String
  deriving DecidableEq, Repr

/-- The metadata `extract_statement_spans` collects for one statement. -/
def RawStmt.stmtMeta (stmt : RawStmt E) : StmtMeta :=
  ⟨classifyRawStmt stmt.node, extractFetchPortalname stmt.node⟩

/-- A statement paired with its metadata. -/
def RawStmt.classified (stmt : RawStmt E) : RawStmt E × StmtMeta :=
  (stmt, stmt.stmtMeta)

/-- `parse_and_classify`, whose `PgTryBuilder` turns a parser error into a
value and leaves the transaction alone. -/
def parseAndClassify (query : SimpleQuery E) :
    PgWireResult (List (RawStmt E × StmtMeta)) :=
  if containsNul query.text then
    .error (genericError "pg_transport" "query string contains a NUL byte")
  else
    match query.parsed with
    | .error report => .error (errorReportToPgwire report)
    | .ok stmts => .ok (stmts.map RawStmt.classified)

/-- `is_xact_exit_stmt`. -/
def isXactExitStmt (stmtMeta : StmtMeta) : Bool :=
  match stmtMeta.xact with
  | some .commit | some .rollback => true
  | _ => false

/-! ## Transaction control -/

/-- The closure of `handle_xact_control_one`. -/
def xactControlBody (cmd : XactCmd) (inBlock : Bool) (finish : Option ErrorReport) :
    PgM E Tag :=
  match cmd with
  | .begin =>
      if inBlock then
        pure (Tag.new "BEGIN")
      else do
        startTransactionCommand
        beginTransactionBlock
        commitTransactionCommand finish
        pure (Tag.new "BEGIN")
  | .commit =>
      if !inBlock then
        pure (Tag.new "COMMIT")
      else do
        startTransactionCommand
        let _committed ← endTransactionBlock false
        commitTransactionCommand finish
        pure (Tag.new "COMMIT")
  | .rollback =>
      if !inBlock then
        pure (Tag.new "ROLLBACK")
      else do
        startTransactionCommand
        userAbortTransactionBlock false
        commitTransactionCommand finish
        pure (Tag.new "ROLLBACK")

/-- `handle_xact_control_one`. -/
def handleXactControlOne (cmd : XactCmd) (finish : Option ErrorReport) :
    PgM E (PgWireResult Response) := do
  let inBlock ← Comp.read fun pg => pg.xact.isTransactionBlock
  let outcome ← Comp.catchUnwind (xactControlBody cmd inBlock finish)
  match outcome with
  | .ok tag => pure (.ok (.execution tag))
  | .error payload => do
      abortCurrentTransaction
      pure (.error (panicToPgwire payload))

/-- `handle_xact_control`. -/
def handleXactControl (cmd : XactCmd) (finish : Option ErrorReport) :
    PgM E (PgWireResult (List Response)) := do
  let result ← handleXactControlOne cmd finish
  pure (result.map fun response => [response])

/-! ## One statement through SPI -/

/-- `SPI_execute` of one statement: transaction statements are refused with a
return code, everything else is answered by the server. -/
def spiExecute (stmt : RawStmt E) : PgM E (SpiResult E) :=
  match stmt.node with
  | .transactionStmt _ => pure (.withoutTable SPI_ERROR_TRANSACTION [])
  | _ => callPg SpiResult.effects stmt.spi

/-- The result format of a statement: binary for a `FETCH` from a binary
cursor. -/
def fetchFormat (portalname : Option String) (cursorIsBinary : Option Bool) :
    FieldFormat :=
  match portalname, cursorIsBinary with
  | some _, some true => .binary
  | _, _ => .text

section Rows

variable [TypeTable]

/-- The response of `run_via_spi` to a successful execution. -/
def spiResponse (format : FieldFormat) (result : SpiResult E) :
    Except Payload (List Response) :=
  match result.tuptable with
  | some table =>
      if 0 < table.tupdesc.length then do
        let schema := table.tupdesc.map (FieldInfo.ofAttribute format)
        let encoders := table.tupdesc.map fun attr =>
          ColumnEncoder.forColumn attr.atttypid format
        let dataRows ← table.encodeRows encoders 0 table.vals
        pure [.query schema dataRows none]
      else
        pure [.execution ((Tag.new "OK").withRows result.processed)]
  | none => pure [.execution ((Tag.new "OK").withRows result.processed)]

/-- `run_via_spi`. -/
def runViaSpi (stmt : RawStmt E) (fetchPortalname : Option String) :
    PgM E (PgWireResult (List Response)) :=
  if containsNul stmt.text then
    pure (.error (genericError "simple-query" "query string contains a NUL byte"))
  else do
    let result ← spiExecute stmt
    if result.rc < 0 then
      pure (.error (spiRcError "SPI_execute" result.rc))
    else do
      let responses ← liftPanic
        (spiResponse (fetchFormat fetchPortalname stmt.cursorIsBinary) result)
      pure (.ok responses)

/-- `run_spi_statement`. -/
def runSpiStatement (stmt : RawStmt E) (fetchPortalname : Option String) :
    PgM E (PgWireResult (List Response)) :=
  withSpi stmt.spiRcs stmt.finish (runViaSpi stmt fetchPortalname)

/-! ## Batches -/

/-- `execute_one_statement`. -/
def executeOneStatement (stmt : RawStmt E) (stmtMeta : StmtMeta) :
    PgM E (PgWireResult (List Response)) := do
  let aborted ← Comp.read fun pg => pg.xact.isAbortedTransactionBlockState
  if aborted && !isXactExitStmt stmtMeta then
    pure (.error abortedTransactionBlockError)
  else
    match stmtMeta.xact with
    | some cmd => handleXactControl cmd stmt.finish
    | none => runSpiStatement stmt stmtMeta.fetchPortalname

/-- The per-statement loop of `execute_simple_query`. -/
def executeStatements : List (RawStmt E × StmtMeta) →
    PgM E (PgWireResult (List Response))
  | [] => pure (.ok [])
  | (stmt, stmtMeta) :: rest =>
      if isBlank stmt.text then
        executeStatements rest
      else do
        let result ← executeOneStatement stmt stmtMeta
        match result with
        | .error err => pure (.error err)
        | .ok responses => do
            let more ← executeStatements rest
            pure (more.map fun later => responses ++ later)

/-- The loop of `execute_with_implicit_block_spi`.  The last statement ends the
implicit block and commits; the others only advance the command counter. -/
def implicitBlockLoopSpi : List (RawStmt E × Option String) →
    PgM E (PgWireResult (List Response))
  | [] => pure (.ok [])
  | (stmt, fetchPortalname) :: rest => do
      let aborted ← Comp.read fun pg => pg.xact.isAbortedTransactionBlockState
      if aborted then
        pure (.error abortedTransactionBlockError)
      else do
        startTransactionCommand
        beginImplicitTransactionBlock
        pushTransactionSnapshot
        let connectRc ← spiConnect stmt.spiRcs.connect
        if connectRc ≠ SPI_OK_CONNECT then do
          popActiveSnapshot
          pure (.error (spiRcError "SPI_connect" connectRc))
        else do
          let bodyResult ← runViaSpi stmt fetchPortalname
          let finishRc ← spiFinish stmt.spiRcs.finish
          popActiveSnapshot
          match bodyResult with
          | .error err => pure (.error err)
          | .ok resp =>
              if finishRc ≠ SPI_OK_FINISH then
                pure (.error (spiRcError "SPI_finish" finishRc))
              else do
                if rest.isEmpty then do
                  endImplicitTransactionBlock
                  commitTransactionCommand stmt.finish
                else
                  commandCounterIncrement stmt.finish
                let more ← implicitBlockLoopSpi rest
                pure (more.map fun later => resp ++ later)

/-- Run a whole implicit block under one `catch_unwind`: any failure, typed or
raised, aborts the transaction. -/
def catchImplicitBlock (body : PgM E (PgWireResult (List Response))) :
    PgM E (PgWireResult (List Response)) := do
  let outcome ← Comp.catchUnwind body
  match outcome with
  | .ok (.ok responses) => pure (.ok responses)
  | .ok (.error err) => do
      abortCurrentTransaction
      pure (.error err)
  | .error payload => do
      abortCurrentTransaction
      pure (.error (panicToPgwire payload))

/-- `execute_with_implicit_block_spi`. -/
def executeWithImplicitBlockSpi (statements : List (RawStmt E × StmtMeta)) :
    PgM E (PgWireResult (List Response)) :=
  catchImplicitBlock <| implicitBlockLoopSpi <|
    (statements.filter fun entry => !isBlank entry.1.text).map fun entry =>
      (entry.1, entry.2.fetchPortalname)

/-- `execute_simple_query`. -/
def executeSimpleQuery (query : SimpleQuery E) :
    PgM E (PgWireResult (List Response)) :=
  if containsNul query.text then
    pure (.error (genericError "pg_transport" "query string contains a NUL byte"))
  else
    match parseAndClassify query with
    | .error err => pure (.error err)
    | .ok statements =>
        let nonEmptyCount :=
          (statements.filter fun entry => !isBlank entry.1.text).length
        let hasXactControl := statements.any fun entry => entry.2.xact.isSome
        if 1 < nonEmptyCount ∧ ¬hasXactControl then
          executeWithImplicitBlockSpi statements
        else
          executeStatements statements

end Rows

end PgTransport.Backend
