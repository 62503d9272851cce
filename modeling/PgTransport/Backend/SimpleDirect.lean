import PgTransport.Backend.DestReceiver
import PgTransport.Backend.SpiBridge

/-!
# The simple-query direct path

Every batch of more than one statement runs through the implicit-block loop of
`exec_simple_query`, transaction statements included; a batch of one runs in a
single `with_xact` bracket.
-/

namespace PgTransport.Backend

open PgTransport.Computation
open PgTransport.Postgres
open PgTransport.Wire

variable {E : Type}

/-- `is_transaction_stmt`. -/
def isTransactionStmt : Node → Bool
  | .transactionStmt _ => true
  | _ => false

/-- `is_transaction_exit_stmt`. -/
def isTransactionExitStmt : Node → Bool
  | .transactionStmt stmt =>
      match stmt.kind with
      | .commit | .rollback | .prepare | .rollbackTo => true
      | _ => false
  | _ => false

/-- `fetch_result_format`. -/
def fetchResultFormat (node : Node) (cursorIsBinary : Option Bool) : FieldFormat :=
  match node with
  | .fetchStmt false (some _) =>
      match cursorIsBinary with
      | some true => .binary
      | _ => .text
  | _ => .text

/-- `parse_and_keep`. -/
def parseAndKeep (query : SimpleQuery E) : PgWireResult (List (RawStmt E)) :=
  if containsNul query.text then
    .error (genericError "pg_transport" "query string contains a NUL byte")
  else
    match query.parsed with
    | .error report => .error (errorReportToPgwire report)
    | .ok stmts => .ok stmts

/-- Analysis, planning and `PortalRun` of one statement: `ProcessUtility` for a
transaction statement, the server's answer for everything else. -/
def runPortal (node : Node) (portal : Except ErrorReport (PortalRun E)) :
    PgM E (PortalRun E) :=
  match node with
  | .transactionStmt stmt => do
      let tag ← processUtility stmt
      pure (.command ⟨tag, false⟩ 0 [])
  | _ => callPg PortalRun.effects portal

section Rows

variable [TypeTable]

/-- The response `run_one_direct` shapes from a portal run. -/
def directResponse (format : FieldFormat) (run : PortalRun E) : Response :=
  let shape := match run.tupDesc with
    | some tupdesc => schemaAndEncodersUniform tupdesc format
    | none => ([], [])
  let tag := Tag.new run.commandTag.name
  if shape.1.isEmpty then
    .execution (if run.commandTag.displayRowcount then tag.withRows run.nprocessed else tag)
  else
    .query shape.1 (receiveAll shape.2 run.tuples) (some run.commandTag.name)

/-- `run_one_direct`. -/
def runOneDirect (stmt : RawStmt E) : PgM E (PgWireResult Response) := do
  let run ← runPortal stmt.node stmt.portal
  pure (.ok (directResponse (fetchResultFormat stmt.node stmt.cursorIsBinary) run))

/-- The loop of `execute_simple_query_direct` over a batch of at most one
statement with content. -/
def executeSingleDirect : List (RawStmt E) → PgM E (PgWireResult (List Response))
  | [] => pure (.ok [])
  | stmt :: rest =>
      if isBlank stmt.text then
        executeSingleDirect rest
      else do
        let aborted ← Comp.read fun pg => pg.xact.isAbortedTransactionBlockState
        if aborted && !isTransactionExitStmt stmt.node then
          pure (.error abortedTransactionBlockError)
        else do
          let result ← withXact stmt.node.analyzeRequiresSnapshot stmt.finish
            (runOneDirect stmt)
          match result with
          | .error err => pure (.error err)
          | .ok response => do
              let more ← executeSingleDirect rest
              pure (more.map fun later => response :: later)

/-- The loop of `execute_with_implicit_block`.  The last statement ends the
implicit block and commits, a transaction statement before it completes what it
did to the block, and every other statement advances the command counter. -/
def implicitBlockLoopDirect : List (RawStmt E) → PgM E (PgWireResult (List Response))
  | [] => pure (.ok [])
  | stmt :: rest => do
      let aborted ← Comp.read fun pg => pg.xact.isAbortedTransactionBlockState
      if aborted && !isTransactionExitStmt stmt.node then
        pure (.error abortedTransactionBlockError)
      else do
        startTransactionCommand
        beginImplicitTransactionBlock
        pushIfNeeded stmt.node.analyzeRequiresSnapshot
        let resp ← runOneDirect stmt
        popIfNeeded stmt.node.analyzeRequiresSnapshot
        match resp with
        | .error err => pure (.error err)
        | .ok response => do
            if rest.isEmpty then do
              endImplicitTransactionBlock
              commitTransactionCommand stmt.finish
            else if isTransactionStmt stmt.node then
              commitTransactionCommand stmt.finish
            else
              commandCounterIncrement stmt.finish
            let more ← implicitBlockLoopDirect rest
            pure (more.map fun later => response :: later)

/-- `execute_with_implicit_block`. -/
def executeWithImplicitBlock (statements : List (RawStmt E)) :
    PgM E (PgWireResult (List Response)) :=
  catchImplicitBlock (implicitBlockLoopDirect (nonEmpty statements))

/-- `execute_simple_query_direct`. -/
def executeSimpleQueryDirect (query : SimpleQuery E) :
    PgM E (PgWireResult (List Response)) :=
  match parseAndKeep query with
  | .error err => pure (.error err)
  | .ok statements =>
      if 1 < (nonEmpty statements).length then
        executeWithImplicitBlock statements
      else
        executeSingleDirect statements

end Rows

end PgTransport.Backend
