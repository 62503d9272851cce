import PgTransport.Backend.Session
import PgTransport.Computation.Scope
import PgTransport.Postgres.Resources

/-!
# What the backends own

The extended-query backends and the direct path of simple queries again, with the
contexts, plans, references and portals that their values own and give back when they are
dropped.  A request that fails carries the call that raises, and a command may end the
transaction that it runs in.  Without these notes, and as long as no command does that, the
computations are those of the backends.
-/

namespace PgTransport.Backend

open PgTransport.Computation
open PgTransport.Postgres
open PgTransport.Transition
open PgTransport.Wire

/-- Computations of one backend process that keep account of what is handed out. -/
abbrev OwnM (E : Type) (α : Type) : Type :=
  Comp Payload (Pg E × Resources) α

/-- A prepared statement with the number of its plan, which only transaction control has no
use for. -/
structure OwnedStatement where
  statement : PreparedStatement
  number : Nat
  deriving DecidableEq

/-- The plan that the statement owns. -/
def OwnedStatement.plans (owned : OwnedStatement) : List Nat :=
  match owned.statement.plan with
  | .spi _ | .direct _ => [owned.number]
  | .xactControl _ => []

/-- The call of `CreateCachedPlan`, `CompleteCachedPlan` and `SaveCachedPlan` that raises,
if one does. -/
inductive CompletionCall where
  | create
  | complete
  | save
  deriving DecidableEq, Repr

/-- The call that raises where a statement fails: planning, `CreatePortal`, or one of the
calls that run the portal. -/
inductive PortalCall where
  | plan
  | create
  | run
  deriving DecidableEq, Repr

/-- What a statement does beside its answer: the call that raises where it fails, and
whether the command ends the transaction that it runs in, as `VACUUM` does and a procedure
that commits. -/
structure PortalFate where
  failing : PortalCall
  endsTransaction : Bool
  deriving DecidableEq, Repr

namespace Owning

variable {E : Type} {α β : Type}

/-- Raise at this call if it is the one that fails. -/
def raiseAt {call : Type} [DecidableEq call] (here failing : call)
    (result : Except ErrorReport β) : OwnM E Unit :=
  match result with
  | .ok _ => pure ()
  | .error report => if here = failing then Comp.onFirst (ereport report) else pure ()

/-! ## Transaction brackets -/

/-- `StartTransactionCommand`. -/
def startTransactionCommand : OwnM E Unit := do
  Comp.onFirst Postgres.startTransactionCommand
  Comp.note Resources.serverContext

/-- `CommitTransactionCommand` ends the transaction from this state. -/
def commitEnds (pg : Pg E) : Bool :=
  match pg.xact.blockState with
  | .started | .endBlock | .abortEnd | .abortPending | .prepare _ => true
  | _ => false

/-- `CommitTransactionCommand`. -/
def commitTransactionCommand (finish : Option ErrorReport) : OwnM E Unit := do
  let ended ← Comp.onFirst (Comp.read commitEnds)
  Comp.onFirst (Postgres.commitTransactionCommand finish)
  if ended then Comp.note Resources.commitTransaction else pure ()

/-- `AbortCurrentTransaction`, which leaves an aborted block as it is. -/
def abortCurrentTransaction : OwnM E Unit := do
  let stays ← Comp.onFirst (Comp.read fun pg => pg.xact.isAbortedTransactionBlockState)
  Comp.onFirst Postgres.abortCurrentTransaction
  let ended ← Comp.onFirst (Comp.read fun pg => decide (pg.xact.blockState = .default))
  if stays then pure () else Comp.note (Resources.abortTransaction ended)

/-- `with_xact`; `release` drops the value of the body where the commit unwinds. -/
def withXact (needsSnapshot : Bool) (finish : Option ErrorReport)
    (release : α → Resources → Unit × Resources) (body : OwnM E (PgWireResult α)) :
    OwnM E (PgWireResult α) := do
  startTransactionCommand
  Comp.onFirst (pushIfNeeded needsSnapshot)
  let outcome ← Comp.catchUnwind body
  match outcome with
  | .ok (.ok value) =>
      Comp.onUnwind (Comp.note (release value)) do
        Comp.onFirst (popIfNeeded needsSnapshot)
        commitTransactionCommand finish
        pure (.ok value)
  | .ok (.error err) => do
      Comp.onFirst (popIfNeeded needsSnapshot)
      commitTransactionCommand finish
      pure (.error err)
  | .error payload => do
      abortCurrentTransaction
      pure (.error (panicToPgwire payload))

/-- Drop what a body has returned. -/
def dropResult (release : α → Resources → Unit × Resources) (result : PgWireResult α) :
    Resources → Unit × Resources :=
  match result with
  | .ok value => release value
  | .error _ => fun resources => ((), resources)

/-- The closure that `with_spi` runs.  A value that the body returned is dropped where
`SPI_finish` fails. -/
def spiSession (rcs : SpiRcs) (release : α → Resources → Unit × Resources)
    (body : OwnM E (PgWireResult α)) : OwnM E (PgWireResult α) := do
  let connectRc ← Comp.onFirst (spiConnect rcs.connect)
  if connectRc ≠ SPI_OK_CONNECT then
    pure (.error (spiRcError "SPI_connect" connectRc))
  else do
    let bodyResult ← body
    let finishRc ← Comp.onFirst (spiFinish rcs.finish)
    Comp.note Resources.spiFinish
    if finishRc ≠ SPI_OK_FINISH then do
      Comp.note (dropResult release bodyResult)
      pure (bodyResult.andError (spiRcError "SPI_finish" finishRc))
    else
      pure bodyResult

/-- A response owns nothing of the server. -/
def releaseResponse (_ : α) (resources : Resources) : Unit × Resources :=
  ((), resources)

/-- A prepared statement drops its plan. -/
def releaseStatement (owned : OwnedStatement) : Resources → Unit × Resources :=
  match owned.statement.plan with
  | .spi _ | .direct _ => Resources.dropPlan owned.number
  | .xactControl _ => fun resources => ((), resources)

section Types

variable [TypeTable]

/-! ## Parse -/

/-- The plan source of a statement: it takes over the context of the query when it is
completed, and is dropped where that fails. -/
def completeSource (request : ParseRequest) (failing : CompletionCall)
    (clean : containsNul request.sql = false) (first : Node) (resolvedOids : List Oid)
    (queryCtx : Nat) : OwnM E (PgWireResult OwnedStatement) := do
  raiseAt .create failing (request.complete resolvedOids)
  let source ← Comp.note Resources.createPlan
  Comp.onUnwind (Comp.note (Resources.dropPlan source)) do
    raiseAt .complete failing (request.complete resolvedOids)
    Comp.note (Resources.completeCachedPlan source queryCtx)
    let shape ← Comp.onFirst (callPg (fun _ => []) (request.complete resolvedOids))
    Comp.note (Resources.keepPlan source)
    pure (.ok ⟨.ofSource request.sql clean first resolvedOids shape, source⟩)

/-- Analysis and completion of the first statement.  The analyzer works in a context of
its own. -/
def directComplete (request : ParseRequest) (failing : CompletionCall)
    (clean : containsNul request.sql = false) (first : Node) :
    OwnM E (PgWireResult OwnedStatement) := do
  let queryCtx ← Comp.note (Resources.allocSetContextCreate .transaction)
  let prevCtx ← Comp.note (Resources.memoryContextSwitchTo (some queryCtx))
  let analysis ← Comp.onFirst (callPg (fun _ => [])
    (request.analyze (if request.anyHintPresent then some request.hintOids else none)))
  let resolvedOids :=
    if request.anyHintPresent then request.hintOids
    else analysis.paramTypes.map resolveOid
  let _ ← Comp.note (Resources.memoryContextSwitchTo prevCtx)
  if analysis.querytreesNull then
    pure (.error analyzeReturnedNull)
  else
    completeSource request failing clean first resolvedOids queryCtx

/-- The closure of `extended::direct::prepare`. -/
def directPrepareBody (request : ParseRequest) (failing : CompletionCall)
    (clean : containsNul request.sql = false) : OwnM E (PgWireResult OwnedStatement) := do
  let rawList ← Comp.onFirst (callPg (fun _ => []) request.parsed)
  match rawList with
  | [] => pure (.error emptyQueryString)
  | none :: _ => pure (.error nullRawStmt)
  | some first :: rest =>
      match (if rest.isEmpty then classifyRawStmt first else none) with
      | some cmd => pure (.ok ⟨.xactControl request.sql clean cmd, 0⟩)
      | none => directComplete request failing clean first

/-- `extended::direct::prepare`. -/
def directPrepare (request : ParseRequest) (failing : CompletionCall) :
    OwnM E (PgWireResult OwnedStatement) :=
  if clean : containsNul request.sql = false then
    withXact true request.finish releaseStatement (directPrepareBody request failing clean)
  else
    pure (.error ⟨"ERROR", "08P01",
      "pg_transport direct: query string contains a NUL byte"⟩)

/-- The closure of `extended::spi::prepare`.  The plan of `SPI_prepare` belongs to the SPI
session until it is kept. -/
def spiPrepareBody (request : ParseRequest) (clean : containsNul request.sql = false) :
    OwnM E (PgWireResult OwnedStatement) := do
  let arguments ← Comp.onFirst (spiArguments request)
  match arguments.2 with
  | some cmd => pure (.ok ⟨.xactControl request.sql clean cmd, 0⟩)
  | none => do
      let prepared ← Comp.onFirst (callPg (fun _ => []) (request.spiPrepare arguments.1))
      match prepared with
      | .error rc => pure (.error (spiRcError "SPI_prepare" rc))
      | .ok plan => do
          let number ← Comp.note Resources.createPlan
          if request.keepplanRc ≠ 0 then
            pure (.error (spiRcError "SPI_keepplan" request.keepplanRc))
          else do
            Comp.note (Resources.keepPlan number)
            pure (.ok ⟨.ofSpiPlan request.sql clean plan, number⟩)

/-- `extended::spi::prepare`. -/
def spiPrepare (request : ParseRequest) : OwnM E (PgWireResult OwnedStatement) :=
  if clean : containsNul request.sql = false then
    withXact true request.finish releaseStatement
      (spiSession request.spiRcs releaseStatement (spiPrepareBody request clean))
  else
    pure (.error (genericError "pg_transport extended"
      "query string contains a NUL byte"))

/-- `extended::prepare`. -/
def prepare (backend : ExecutionBackend) (request : ParseRequest) (failing : CompletionCall) :
    OwnM E (PgWireResult OwnedStatement) :=
  if containsNul request.sql then
    pure (.error (genericError "pg_transport" "query string contains a NUL byte"))
  else
    match backend with
    | .spi => spiPrepare request
    | .direct => directPrepare request failing

end Types

/-! ## Execute -/

/-- What a portal run of the statement answers, for the calls ahead of it: transaction
statements have their answer from `ProcessUtility`. -/
def portalAnswer (node : Node) (portal : Except ErrorReport (PortalRun E)) :
    Except ErrorReport Unit :=
  match node with
  | .transactionStmt _ => .ok ()
  | _ => portal.map fun _ => ()

/-- A command ends the transaction of its bracket and starts the next one.  The snapshots of
the first go, and the portal stays.  The server refuses the command inside a block. -/
def endTransactionInside : OwnM E Unit := do
  let single ← Comp.onFirst (Comp.read fun pg => decide (pg.xact.blockState = .started))
  if single then do
    Comp.onFirst fun pg => (.ret (), { pg with activeSnapshots := 0 })
    Comp.onFirst (Postgres.commitTransactionCommand none)
    Comp.note Resources.commitInside
    Comp.onFirst Postgres.startTransactionCommand
  else
    pure ()

/-- `PortalRun`, for a command that may end its transaction. -/
def portalRun (node : Node) (portal : Except ErrorReport (PortalRun E))
    (endsTransaction : Bool) : OwnM E (PortalRun E) := do
  let run ← Comp.onFirst (runPortal node portal)
  if endsTransaction then endTransactionInside else pure ()
  pure run

/-- Where the command leaves its transaction in place, nothing is handed out or given back. -/
theorem portalRun_false (node : Node) (portal : Except ErrorReport (PortalRun E)) :
    portalRun node portal false = Comp.onFirst (runPortal node portal) := by
  unfold portalRun
  simp only [Bool.false_eq_true, if_false, bind_pure]

/-- The closure of `extended::direct::execute_impl`.  The portal is dropped before the plan
that it runs is released. -/
def directExecuteBody (backend : DirectBackendPlan) (source : Nat) (request : ExecuteRequest E)
    (fate : PortalFate) (formats : BoundFormats) : OwnM E (PgWireResult Response) := do
  let decoded ← Comp.onFirst (decodeParameters (request.parameters.zip formats.paramIsBinary))
  match decoded with
  | .error err => pure (.error err)
  | .ok _ => do
      Comp.onFirst (backend.source.getPlan request.currentDesc)
      let portal := request.portal (portalCount request.maxRows)
      raiseAt .plan fate.failing (portalAnswer backend.source.node portal)
      Comp.note (Resources.getCachedPlan source)
      Comp.releasing (Comp.note (Resources.releaseCachedPlan source)) do
        raiseAt .create fate.failing (portalAnswer backend.source.node portal)
        let created ← Comp.note Resources.createPortal
        Comp.releasing (Comp.note (Resources.portalDrop created)) do
          Comp.note (Resources.usePortal created)
          let run ← portalRun backend.source.node portal fate.endsTransaction
          pure (.ok (directPlanResponse backend request.resultFormat
            formats.resultFormatPerCol run))

/-- `extended::direct::execute_impl`. -/
def directExecuteImpl (backend : DirectBackendPlan) (source : Nat) (request : ExecuteRequest E)
    (fate : PortalFate) : OwnM E (PgWireResult Response) :=
  if request.parameters.length ≠ backend.paramOids.length then
    pure (.error (countMismatch "pg_transport direct" request.parameters.length
      backend.paramOids.length))
  else do
    let formats ← Comp.onFirst (liftPanic (request.boundFormats backend.baseSchema.length))
    withXact true request.finish releaseResponse
      (directExecuteBody backend source request fate formats)

/-- The closure of `extended::spi::execute_impl`. -/
def spiExecuteBody (backend : SpiBackendPlan) (number : Nat) (request : ExecuteRequest E)
    (formats : BoundFormats) : OwnM E (PgWireResult Response) := do
  let decoded ← Comp.onFirst (decodeParameters (request.parameters.zip formats.paramIsBinary))
  match decoded with
  | .error err => pure (.error err)
  | .ok _ => do
      Comp.note (Resources.usePlan number)
      let result ← Comp.onFirst (callPg SpiResult.effects (request.spi request.maxRows))
      if result.rc < 0 then
        pure (.error (spiRcError "SPI_execute_plan" result.rc))
      else do
        let response ← Comp.onFirst (liftPanic
          (spiPlanResponse backend request.resultFormat formats.resultFormatPerCol result))
        pure (.ok response)

/-- `extended::spi::execute_impl`. -/
def spiExecuteImpl (backend : SpiBackendPlan) (number : Nat) (request : ExecuteRequest E) :
    OwnM E (PgWireResult Response) :=
  if request.parameters.length ≠ backend.paramOids.length then
    pure (.error (countMismatch "pg_transport extended" request.parameters.length
      backend.paramOids.length))
  else do
    let formats ← Comp.onFirst (liftPanic (request.boundFormats backend.baseSchema.length))
    withXact true request.finish releaseResponse
      (spiSession request.spiRcs releaseResponse (spiExecuteBody backend number request formats))

/-- The closure of `handle_xact_control_one`. -/
def xactControlBody (cmd : XactCmd) (inBlock : Bool) (finish : Option ErrorReport) :
    OwnM E Tag :=
  match cmd with
  | .begin =>
      if inBlock then
        pure (Tag.new "BEGIN")
      else do
        startTransactionCommand
        Comp.onFirst beginTransactionBlock
        commitTransactionCommand finish
        pure (Tag.new "BEGIN")
  | .commit =>
      if !inBlock then
        pure (Tag.new "COMMIT")
      else do
        startTransactionCommand
        let _committed ← Comp.onFirst (endTransactionBlock false)
        commitTransactionCommand finish
        pure (Tag.new "COMMIT")
  | .rollback =>
      if !inBlock then
        pure (Tag.new "ROLLBACK")
      else do
        startTransactionCommand
        Comp.onFirst (userAbortTransactionBlock false)
        commitTransactionCommand finish
        pure (Tag.new "ROLLBACK")

/-- `handle_xact_control_one`. -/
def handleXactControlOne (cmd : XactCmd) (finish : Option ErrorReport) :
    OwnM E (PgWireResult Response) := do
  let inBlock ← Comp.onFirst (Comp.read fun pg => pg.xact.isTransactionBlock)
  let outcome ← Comp.catchUnwind (xactControlBody cmd inBlock finish)
  match outcome with
  | .ok tag => pure (.ok (.execution tag))
  | .error payload => do
      abortCurrentTransaction
      pure (.error (panicToPgwire payload))

/-- `XactControlBackendPlan::execute`. -/
def xactControlExecute (cmd : XactCmd) (request : ExecuteRequest E) :
    OwnM E (PgWireResult Response) :=
  if request.parameters.isEmpty then
    handleXactControlOne cmd request.finish
  else
    pure (.error (genericError "pg_transport extended"
      ("transaction-control statement takes no parameters; got " ++
        toString request.parameters.length)))

/-- `PreparedStatement::execute`. -/
def execute (owned : OwnedStatement) (request : ExecuteRequest E) (fate : PortalFate) :
    OwnM E (PgWireResult Response) :=
  match owned.statement.plan with
  | .spi plan => spiExecuteImpl plan owned.number request
  | .direct plan => directExecuteImpl plan owned.number request fate
  | .xactControl cmd => xactControlExecute cmd request

/-! ## Simple queries -/

/-- `catch_unwind` around the loop over a batch. -/
def catchImplicitBlock (body : OwnM E (PgWireResult (List Response))) :
    OwnM E (PgWireResult (List Response)) := do
  let outcome ← Comp.catchUnwind body
  match outcome with
  | .ok (.ok responses) => pure (.ok responses)
  | .ok (.error err) => do
      abortCurrentTransaction
      pure (.error err)
  | .error payload => do
      abortCurrentTransaction
      pure (.error (panicToPgwire payload))

/-- `parse_and_keep`: the statements with the context that they are in.  The parser's error
is caught behind the guard that switches back, and the context is deleted. -/
def parseAndKeep (query : SimpleQuery E) : OwnM E (PgWireResult (List (RawStmt E) × Nat)) :=
  if containsNul query.text then
    pure (.error (genericError "pg_transport" "query string contains a NUL byte"))
  else do
    let parseCtx ← Comp.note (Resources.allocSetContextCreate .value)
    let prev ← Comp.note (Resources.memoryContextSwitchTo (some parseCtx))
    let _ ← Comp.note (Resources.memoryContextSwitchTo prev)
    match query.parsed with
    | .error report => do
        Comp.note (Resources.memoryContextDelete parseCtx)
        pure (.error (errorReportToPgwire report))
    | .ok stmts => pure (.ok (stmts, parseCtx))

section Batches

variable [TypeTable]

/-- `run_one_direct`.  The statement is analyzed and planned, and its portal defined, in the
context of the query; it runs in the one that was current before. -/
def runOneDirect (parseCtx : Nat) (fate : RawStmt E → PortalFate) (stmt : RawStmt E) :
    OwnM E (PgWireResult Response) := do
  let prevCtx ← Comp.note (Resources.memoryContextSwitchTo (some parseCtx))
  raiseAt .plan (fate stmt).failing (portalAnswer stmt.node stmt.portal)
  raiseAt .create (fate stmt).failing (portalAnswer stmt.node stmt.portal)
  let portal ← Comp.note Resources.createPortal
  Comp.releasing (Comp.note (Resources.portalDrop portal)) do
    Comp.note (Resources.usePortal portal)
    let _ ← Comp.note (Resources.memoryContextSwitchTo prevCtx)
    Comp.note (Resources.usePortal portal)
    let run ← portalRun stmt.node stmt.portal (fate stmt).endsTransaction
    pure (.ok (directResponse (fetchResultFormat stmt.node stmt.cursorIsBinary) run))

/-- The loop of `execute_simple_query_direct`. -/
def executeSingleDirect (parseCtx : Nat) (fate : RawStmt E → PortalFate) :
    List (RawStmt E) → OwnM E (PgWireResult (List Response))
  | [] => pure (.ok [])
  | stmt :: rest =>
      if isBlank stmt.text then
        executeSingleDirect parseCtx fate rest
      else do
        let aborted ← Comp.onFirst (Comp.read fun pg => pg.xact.isAbortedTransactionBlockState)
        if aborted && !isTransactionExitStmt stmt.node then
          pure (.error abortedTransactionBlockError)
        else do
          let result ← withXact stmt.node.analyzeRequiresSnapshot stmt.finish releaseResponse
            (runOneDirect parseCtx fate stmt)
          match result with
          | .error err => pure (.error err)
          | .ok response => do
              let more ← executeSingleDirect parseCtx fate rest
              pure (more.map fun later => response :: later)

/-- What `execute_with_implicit_block` does behind a statement that has run. -/
def closeStatement (last : Bool) (stmt : RawStmt E) : OwnM E Unit :=
  if last then do
    Comp.onFirst endImplicitTransactionBlock
    commitTransactionCommand stmt.finish
  else if isTransactionStmt stmt.node then
    commitTransactionCommand stmt.finish
  else
    Comp.onFirst (commandCounterIncrement stmt.finish)

/-- The loop of `execute_with_implicit_block`. -/
def implicitBlockLoopDirect (parseCtx : Nat) (fate : RawStmt E → PortalFate) :
    List (RawStmt E) → OwnM E (PgWireResult (List Response))
  | [] => pure (.ok [])
  | stmt :: rest => do
      let aborted ← Comp.onFirst (Comp.read fun pg => pg.xact.isAbortedTransactionBlockState)
      if aborted && !isTransactionExitStmt stmt.node then
        pure (.error abortedTransactionBlockError)
      else do
        startTransactionCommand
        Comp.onFirst beginImplicitTransactionBlock
        Comp.onFirst (pushIfNeeded stmt.node.analyzeRequiresSnapshot)
        let resp ← runOneDirect parseCtx fate stmt
        Comp.onFirst (popIfNeeded stmt.node.analyzeRequiresSnapshot)
        match resp with
        | .error err => pure (.error err)
        | .ok response => do
            closeStatement rest.isEmpty stmt
            let more ← implicitBlockLoopDirect parseCtx fate rest
            pure (more.map fun later => response :: later)

/-- `execute_simple_query_direct`.  The context of the query is deleted behind it. -/
def executeSimpleQueryDirect (query : SimpleQuery E) (fate : RawStmt E → PortalFate) :
    OwnM E (PgWireResult (List Response)) := do
  let parsed ← parseAndKeep query
  match parsed with
  | .error err => pure (.error err)
  | .ok (statements, parseCtx) =>
      Comp.releasing (Comp.note (Resources.memoryContextDelete parseCtx)) <|
        if 1 < (nonEmpty statements).length then
          catchImplicitBlock (implicitBlockLoopDirect parseCtx fate (nonEmpty statements))
        else
          executeSingleDirect parseCtx fate statements

end Batches

end Owning

end PgTransport.Backend
