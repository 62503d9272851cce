import PgTransport.Backend.Batch
import PgTransport.Properties.SnapshotGate

/-!
# The gate in front of an aborted block

In an aborted block only the statements that end it may be dispatched.  The
simple-query loops check for this before each statement.  `Parse`, and
`Execute` of anything but a prepared `COMMIT` or `ROLLBACK`, reach their
brackets without a check: a session keeps the gate exactly as long as it sends
neither while its block is aborted.
-/

namespace PgTransport.Properties

open PgTransport.Backend
open PgTransport.Computation
open PgTransport.Postgres
open PgTransport.Transition
open PgTransport.Wire

variable {E : Type}

/-! ## Leaving an aborted block -/

/-- `COMMIT` and `ROLLBACK` in an aborted block mark it for its end. -/
theorem processUtility_leaving (stmt : TransactionStmt) {pg : Pg E}
    (leaving : stmt.kind = .commit ∨ stmt.kind = .rollback)
    (aborted : pg.xact.blockState = .abort) :
    ∃ marked, processUtility stmt pg = (.ret "ROLLBACK", marked) ∧
      (marked.xact.blockState = .abortEnd ∨ marked.xact.blockState = .abortPending) := by
  rcases leaving with kind | kind <;> cases nested : pg.xact.isSubTransaction <;>
    simp [processUtility, kind, endTransactionBlock, userAbortTransactionBlock, aborted,
      nested]

/-- Completing a block marked for its end leaves it, without raising. -/
theorem commitTransactionCommand_marked {pg : Pg E} (finish : Option ErrorReport)
    (marked : pg.xact.blockState = .abortEnd ∨ pg.xact.blockState = .abortPending) :
    ∃ after, commitTransactionCommand finish pg = (.ret (), after) ∧
      after.xact.blockState ≠ .abort := by
  have chained : ∀ (saved : Characteristics) (xact : Xact E),
      xact.blockState = .default → (xact.startChained saved).blockState ≠ .abort := by
    intro saved xact ended
    unfold Xact.startChained
    split <;> simp [ended]
  rcases marked with state | state
  · refine ⟨pg.mapXact fun xact =>
      xact.cleanupTransaction.startChained xact.characteristics, ?_, chained _ _ rfl⟩
    simp only [commitTransactionCommand, state]
  · refine ⟨pg.releaseAll.mapXact fun xact =>
      xact.rollback.startChained xact.characteristics, ?_, chained _ _ rfl⟩
    simp only [commitTransactionCommand, state]

/-- The intercepted `COMMIT` and `ROLLBACK` leave an aborted block. -/
theorem handleXactControlOne_leaving {cmd : XactCmd} {pg : Pg E}
    (leaving : cmd ≠ .begin) (finish : Option ErrorReport)
    (aborted : pg.xact.blockState = .abort) :
    ∃ response after, handleXactControlOne cmd finish pg = (.ret (.ok response), after) ∧
      after.xact.blockState ≠ .abort := by
  have inBlock : pg.xact.isTransactionBlock = true := by
    simp [Xact.isTransactionBlock, aborted]
  cases cmd with
  | begin => exact absurd rfl leaving
  | commit =>
      obtain ⟨marked, run, state⟩ :=
        processUtility_leaving (.plain .commit) (.inl rfl) aborted
      obtain ⟨after, committed, left⟩ := commitTransactionCommand_marked finish state
      refine ⟨.execution (Tag.new "COMMIT"), after, ?_, left⟩
      cases nested : pg.xact.isSubTransaction <;>
        simp_all [processUtility, TransactionStmt.plain, handleXactControlOne,
          xactControlBody, endTransactionBlock, startTransactionCommand, Comp.catchUnwind]
  | rollback =>
      obtain ⟨marked, run, state⟩ :=
        processUtility_leaving (.plain .rollback) (.inr rfl) aborted
      obtain ⟨after, committed, left⟩ := commitTransactionCommand_marked finish state
      refine ⟨.execution (Tag.new "ROLLBACK"), after, ?_, left⟩
      cases nested : pg.xact.isSubTransaction <;>
        simp_all [processUtility, TransactionStmt.plain, handleXactControlOne,
          xactControlBody, userAbortTransactionBlock, startTransactionCommand,
          Comp.catchUnwind]

section Rows

variable [TypeTable]

/-- Through `with_xact`, a statement that leaves an aborted block completes. -/
theorem withXact_leaving {stmt : RawStmt E} {command : TransactionStmt}
    {pg : Pg E} (node : stmt.node = .transactionStmt command)
    (leaving : command.kind = .commit ∨ command.kind = .rollback)
    (aborted : pg.xact.blockState = .abort) :
    ∃ response after, withXact stmt.node.analyzeRequiresSnapshot stmt.finish
        (runOneDirect stmt) pg = (.ret (.ok response), after) ∧
      after.xact.blockState ≠ .abort := by
  obtain ⟨marked, run, state⟩ := processUtility_leaving command leaving aborted
  obtain ⟨after, committed, left⟩ := commitTransactionCommand_marked stmt.finish state
  refine ⟨.execution (Tag.new "ROLLBACK"), after, ?_, left⟩
  have enter : (do
      startTransactionCommand
      pushIfNeeded stmt.node.analyzeRequiresSnapshot) pg = (.ret (), pg) := by
    simp [startTransactionCommand, aborted, node, Node.analyzeRequiresSnapshot,
      pushIfNeeded]
  rw [withXact_of_enter enter, runOneDirect_transactionStmt node run]
  simp [leaveBracket, node, Node.analyzeRequiresSnapshot, popIfNeeded, committed]

/-- In the implicit-block loop, a statement that leaves an aborted block
completes and the rest of the batch goes on from there. -/
theorem implicitBlockLoopDirect_leaving {stmt : RawStmt E} {command : TransactionStmt}
    {pg : Pg E} (rest : List (RawStmt E)) (node : stmt.node = .transactionStmt command)
    (leaving : command.kind = .commit ∨ command.kind = .rollback)
    (aborted : pg.xact.blockState = .abort) :
    ∃ response after, after.xact.blockState ≠ .abort ∧
      implicitBlockLoopDirect (stmt :: rest) pg =
        resume (implicitBlockLoopDirect rest after) fun more =>
          pure (more.map fun later => response :: later) := by
  obtain ⟨marked, run, state⟩ := processUtility_leaving command leaving aborted
  obtain ⟨after, committed, left⟩ := commitTransactionCommand_marked stmt.finish state
  have exit : isTransactionExitStmt stmt.node = true := by
    rcases leaving with kind | kind <;> simp [isTransactionExitStmt, node, kind]
  have control : isTransactionStmt stmt.node = true := by simp [isTransactionStmt, node]
  have noSnapshot : stmt.node.analyzeRequiresSnapshot = false := by
    simp [node, Node.analyzeRequiresSnapshot]
  have notImplicit : endImplicitTransactionBlock marked = (.ret (), marked) := by
    rcases state with state | state <;> simp [endImplicitTransactionBlock, state]
  refine ⟨.execution (Tag.new "ROLLBACK"), after, left, ?_⟩
  cases last : rest.isEmpty <;>
    simp [implicitBlockLoopDirect, exit, startTransactionCommand, aborted,
      beginImplicitTransactionBlock, pushIfNeeded, popIfNeeded, noSnapshot,
      runOneDirect_transactionStmt node run, last, notImplicit, control, committed]

/-! ## What a message dispatches -/

/-- What a statement asks of an aborted block: to leave it by `COMMIT` or
`ROLLBACK`, to leave it in another way that `IsTransactionExitStmt` lists, or
something the block has to refuse. -/
inductive Dispatch where
  | leaving
  | otherExit
  | ordinary
  deriving DecidableEq, Repr

/-- The classification of a parsed statement. -/
def dispatchOf : Node → Dispatch
  | .transactionStmt stmt =>
      match stmt.kind with
      | .commit | .rollback => .leaving
      | .prepare | .rollbackTo => .otherExit
      | _ => .ordinary
  | _ => .ordinary

/-- The classification of a prepared statement. -/
def planDispatch : BackendPlan → Dispatch
  | .spi _ => .ordinary
  | .direct plan => dispatchOf plan.source.node
  | .xactControl .begin => .ordinary
  | .xactControl _ => .leaving

/-- The first statement of a `Parse` string that the parser accepts. -/
def parseDispatch (request : ParseRequest) : Option Dispatch :=
  match containsNul request.sql, request.parsed with
  | false, .ok (some first :: _) => some (dispatchOf first)
  | _, _ => none

/-- The statement an `Execute` runs; a binding that does not get as far as the
plan runs none. -/
def executeDispatch (session : Session E) (index : Nat) (request : ExecuteRequest E) :
    Option Dispatch :=
  match session.statements[index]? with
  | some statement =>
      if request.Binds statement.plan then
        some (planDispatch statement.plan)
      else
        none
  | none => none

/-- Every statement that the message dispatches in an aborted block, and that
the block has to refuse, is answered with `25P02` and changes nothing. -/
def RefusesOrdinary (session : Session E) (message : Message E) (next : Session E) :
    Prop :=
  let refused (pg : Pg E) :=
    (session.receive message).1 = .error abortedTransactionBlockError ∧
      next.pg.xact = pg.xact
  match message with
  | .query backend body =>
      ∀ stmts responses head tail middle, containsNul body.text = false →
        body.parsed = .ok stmts →
        Arrives backend stmts session.pg responses (head :: tail) middle →
        middle.xact.blockState = .abort → dispatchOf head.node = .ordinary →
          refused middle
  | .parse _ request =>
      session.pg.xact.blockState = .abort → parseDispatch request = some .ordinary →
        refused session.pg
  | .execute index request =>
      session.pg.xact.blockState = .abort →
        executeDispatch session index request = some .ordinary → refused session.pg

/-- Every `COMMIT` and `ROLLBACK` that the message dispatches in an aborted
block is executed and leaves the block; a batch goes on behind it. -/
def AdmitsLeaving (session : Session E) (message : Message E) (next : Session E) : Prop :=
  match message with
  | .query backend body =>
      ∀ stmts responses head tail middle, containsNul body.text = false →
        body.parsed = .ok stmts →
        Arrives backend stmts session.pg responses (head :: tail) middle →
        middle.xact.blockState = .abort → dispatchOf head.node = .leaving →
          ∃ response after, after.xact.blockState ≠ .abort ∧
            Arrives backend stmts session.pg (responses ++ [response]) tail after
  | .parse _ request =>
      session.pg.xact.blockState = .abort → parseDispatch request = some .leaving →
        (session.receive message).1 = .parseComplete
  | .execute index request =>
      session.pg.xact.blockState = .abort →
        executeDispatch session index request = some .leaving →
          ∃ response, (session.receive message).1 = .executed response ∧
            next.pg.xact.blockState ≠ .abort

/-- The gate of an aborted block at one message: no snapshot of an aborted
block is taken, the statements the block has to refuse are refused, and those
that leave it get through. -/
structure GateHolds (session : Session E) (message : Message E) (next : Session E) :
    Prop where
  noSnapshot : snapshotMisuses next.pg = snapshotMisuses session.pg
  refuses : session.alive = true → RefusesOrdinary session message next
  admits : session.alive = true → AdmitsLeaving session message next

/-- The message reaches no bracket that lacks the check: it is no `Parse` of
text the parser sees, and no `Execute` that gets as far as its plan, except of a
prepared `COMMIT` or `ROLLBACK`. -/
def StaysChecked (session : Session E) : Message E → Prop
  | .query _ _ => True
  | .parse _ request => containsNul request.sql = true
  | .execute index request => ∀ statement, session.statements[index]? = some statement →
      request.Binds statement.plan →
        statement.plan = .xactControl .commit ∨ statement.plan = .xactControl .rollback

/-- While its block is aborted, the session sends only messages that stay
checked. -/
def RespectsGate (session : Session E) (message : Message E) (_ : Session E) : Prop :=
  session.alive = true → session.pg.xact.blockState = .abort → StaysChecked session message

/-! ## Query bodies keep the gate -/

omit [TypeTable] in
/-- A statement the block has to refuse is no exit statement of the bridge. -/
theorem isXactExitStmt_of_ordinary {stmt : RawStmt E}
    (ordinary : dispatchOf stmt.node = .ordinary) :
    isXactExitStmt stmt.stmtMeta = false := by
  cases node : stmt.node with
  | transactionStmt command =>
      cases kind : command.kind <;>
        simp_all [dispatchOf, isXactExitStmt, RawStmt.stmtMeta, classifyRawStmt]
  | fetchStmt ismove portalname =>
      simp [isXactExitStmt, RawStmt.stmtMeta, classifyRawStmt, node]
  | other requiresAnalysis =>
      simp [isXactExitStmt, RawStmt.stmtMeta, classifyRawStmt, node]

omit [TypeTable] in
/-- Nor is it an exit statement of the direct path. -/
theorem isTransactionExitStmt_of_ordinary {node : Node}
    (ordinary : dispatchOf node = .ordinary) : isTransactionExitStmt node = false := by
  cases node with
  | transactionStmt command =>
      cases kind : command.kind <;> simp_all [dispatchOf, isTransactionExitStmt]
  | fetchStmt ismove portalname => rfl
  | other requiresAnalysis => rfl

section Loop

variable {backend : ExecutionBackend} {stmts tail : List (RawStmt E)}
  {head : RawStmt E} {pg : Pg E}

/-- Wherever a batch stands, an aborted block refuses a statement it cannot
dispatch, on either backend. -/
theorem batchLoop_refuses (content : isBlank head.text = false)
    (ordinary : dispatchOf head.node = .ordinary)
    (aborted : pg.xact.blockState = .abort) :
    batchLoop backend stmts (head :: tail) pg =
      (.ret (.error abortedTransactionBlockError), pg) := by
  have unchanged : pg.abortCurrent = pg := by simp [Pg.abortCurrent, aborted]
  cases backend with
  | spi =>
      simp only [batchLoop]
      split
      · simp [catchImplicitBlock, Comp.catchUnwind, RawStmt.withPortalname,
          implicitBlockLoopSpi, aborted, unchanged]
      · simp [RawStmt.classified.eq_1 head, executeStatements, content,
          executeOneStatement, aborted, isXactExitStmt_of_ordinary ordinary]
  | direct =>
      have exit := isTransactionExitStmt_of_ordinary ordinary
      simp only [batchLoop]
      split
      · simp [catchImplicitBlock, Comp.catchUnwind, implicitBlockLoopDirect, aborted, exit,
          unchanged]
      · simp [executeSingleDirect, content, aborted, exit]

omit [TypeTable] in
theorem command_of_leaving (leaving : dispatchOf head.node = .leaving) :
    ∃ command, head.node = .transactionStmt command ∧
      (command.kind = .commit ∨ command.kind = .rollback) := by
  cases node : head.node with
  | transactionStmt command =>
      refine ⟨command, rfl, ?_⟩
      cases kind : command.kind <;> simp_all [dispatchOf]
  | fetchStmt ismove portalname => simp [node, dispatchOf] at leaving
  | other requiresAnalysis => simp [node, dispatchOf] at leaving

omit [TypeTable] in
theorem xactCmd_of_leaving (leaving : dispatchOf head.node = .leaving) :
    ∃ cmd, head.stmtMeta.xact = some cmd ∧ cmd ≠ .begin := by
  obtain ⟨command, node, kind | kind⟩ := command_of_leaving leaving
  · exact ⟨.commit, by simp [RawStmt.stmtMeta, classifyRawStmt, node, kind], by simp⟩
  · exact ⟨.rollback, by simp [RawStmt.stmtMeta, classifyRawStmt, node, kind], by simp⟩

/-- Wherever a batch stands, a statement that leaves an aborted block is
executed, and the batch goes on behind it. -/
theorem batchLoop_admits (backend : ExecutionBackend) (tail : List (RawStmt E))
    (member : head ∈ stmts) (content : isBlank head.text = false)
    (leaving : dispatchOf head.node = .leaving)
    (aborted : pg.xact.blockState = .abort) :
    ∃ response after, after.xact.blockState ≠ .abort ∧
      batchLoop backend stmts (head :: tail) pg =
        resume (batchLoop backend stmts tail after) fun more =>
          pure (more.map fun later => response :: later) := by
  cases backend with
  | spi =>
      obtain ⟨cmd, control, notBegin⟩ := xactCmd_of_leaving leaving
      have intercepted : hasXactControl stmts = true :=
        List.any_eq_true.mpr ⟨head, member, by
          simpa [RawStmt.stmtMeta] using congrArg Option.isSome control⟩
      have exit : isXactExitStmt head.stmtMeta = true := by
        cases cmd <;> simp_all [isXactExitStmt]
      obtain ⟨response, after, run, left⟩ :=
        handleXactControlOne_leaving notBegin head.finish aborted
      refine ⟨response, after, left, ?_⟩
      simp [batchLoop, intercepted, RawStmt.classified.eq_1 head, executeStatements,
        content, executeOneStatement, exit, control, handleXactControl, run]
      rfl
  | direct =>
      obtain ⟨command, node, kind⟩ := command_of_leaving leaving
      simp only [batchLoop]
      split
      · obtain ⟨response, after, left, run⟩ :=
          implicitBlockLoopDirect_leaving tail node kind aborted
        exact ⟨response, after, left, catchImplicitBlock_prepend run⟩
      · obtain ⟨response, after, run, left⟩ := withXact_leaving node kind aborted
        have exit : isTransactionExitStmt head.node = true := by
          rcases kind with kind | kind <;> simp [isTransactionExitStmt, node, kind]
        refine ⟨response, after, left, ?_⟩
        simp [executeSingleDirect, content, exit, run]

end Loop

/-! ## Sessions keep the gate -/

omit [TypeTable] in
@[simp]
theorem conclude_pg {α : Type} (session : Session E)
    (result : Outcome Payload (PgWireResult α) × Pg E)
    (reply : α → Reply) (prepared : α → List PreparedStatement) :
    (session.conclude result reply prepared).2.pg = result.2 := by
  rcases result with ⟨(_ | _) | _ | _, pg⟩ <;> rfl

theorem keepsGate_prepare {backend : ExecutionBackend} {request : ParseRequest}
    {pg : Pg E} (notAborted : pg.xact.blockState ≠ .abort) :
    snapshotMisuses (prepare backend request pg).2 = snapshotMisuses pg := by
  unfold prepare
  split
  · rfl
  · next text =>
    have clean : containsNul request.sql = false := by simpa using text
    cases backend with
    | spi =>
        simp only [spiPrepare, clean, dite_true]
        exact withSpi_keepsGate (worksOnly_spiPrepareBody request clean) notAborted
    | direct =>
        simp only [directPrepare, clean, dite_true]
        exact withXact_keepsGate (.ofWorksOnly (worksOnly_directPrepareBody request clean))
          fun _ => notAborted

omit [TypeTable] in
/-- A binding that does not get as far as the plan changes nothing. -/
theorem execute_pg_of_not_binds {statement : PreparedStatement} {request : ExecuteRequest E}
    {pg : Pg E} (unbound : ¬request.Binds statement.plan) :
    (statement.execute request pg).2 = pg := by
  by_cases counted : request.parameters.length = statement.plan.paramCount
  · have uncovered : request.formatsCover statement.plan.columnCount = false := by
      simpa [ExecuteRequest.Binds, counted] using unbound
    obtain ⟨len, index, run⟩ :=
      PreparedStatement.execute_of_uncovered pg counted uncovered
    rw [run]
  · obtain ⟨err, run⟩ := PreparedStatement.execute_of_miscounted pg counted
    rw [run]

omit [TypeTable] in
theorem keepsGate_execute {statement : PreparedStatement} {request : ExecuteRequest E}
    {pg : Pg E} (notAborted : pg.xact.blockState ≠ .abort) :
    snapshotMisuses (statement.execute request pg).2 = snapshotMisuses pg := by
  by_cases binds : request.Binds statement.plan
  · cases choice : statement.plan with
    | spi plan =>
        rw [PreparedStatement.execute_spi choice binds]
        exact withSpi_keepsGate (worksOnly_spiExecuteBody plan request _) notAborted
    | direct plan =>
        rw [PreparedStatement.execute_direct choice binds]
        refine withXact_keepsGate ?_ fun _ => notAborted
        apply (KeepsGate.ofWorksOnly (worksOnly_decodeParameters _)).bind
        rintro (err | datums)
        · exact .pure _
        · exact (KeepsGate.ofWorksOnly (worksOnly_getPlan _ _)).bind fun _ =>
            (keepsGate_runPortal _ _).bind fun _ => .pure _
    | xactControl cmd =>
        rw [PreparedStatement.execute_xactControl choice binds]
        exact keepsGate_handleXactControlOne cmd request.finish pg
  · rw [execute_pg_of_not_binds binds]

/-- A message that respects the gate takes no snapshot of an aborted block. -/
theorem receive_noSnapshot {session : Session E} {message : Message E}
    (respects : session.pg.xact.blockState = .abort → StaysChecked session message)
    (alive : session.alive = true) :
    snapshotMisuses (session.receive message).2.pg = snapshotMisuses session.pg := by
  cases message with
  | query backend body =>
      simpa [Session.receive, alive, SameMisuses] using
        keepsGate_simpleQuery backend body session.pg
  | parse backend request =>
      simp only [Session.receive, alive, if_true, conclude_pg]
      by_cases aborted : session.pg.xact.blockState = .abort
      · simp [prepare, show containsNul request.sql = true from respects aborted]
      · exact keepsGate_prepare aborted
  | execute index request =>
      simp only [Session.receive, alive, if_true]
      cases found : session.statements[index]? with
      | none => rfl
      | some statement =>
          rw [conclude_pg]
          by_cases aborted : session.pg.xact.blockState = .abort
          · by_cases binds : request.Binds statement.plan
            · rcases respects aborted statement found binds with choice | choice <;>
                rw [PreparedStatement.execute_xactControl choice binds] <;>
                exact keepsGate_handleXactControlOne _ request.finish session.pg
            · rw [execute_pg_of_not_binds binds]
          · exact keepsGate_execute aborted

/-- A query body refuses what it has to refuse, wherever its batch stands. -/
theorem query_refuses {session : Session E} (alive : session.alive = true)
    (backend : ExecutionBackend) (body : SimpleQuery E) :
    RefusesOrdinary session (.query backend body)
      (session.receive (.query backend body)).2 := by
  intro stmts responses head tail middle clean parsed ⟨suffix, run⟩ aborted ordinary
  have content := not_blank_of_mem_nonEmpty (suffix.subset List.mem_cons_self)
  rw [← simpleQuery_eq_batchLoop backend clean parsed,
    batchLoop_refuses content ordinary aborted] at run
  simp [Session.receive, alive, run, Session.conclude, Except.map]

/-- A query body lets the statements that leave an aborted block through,
wherever its batch stands. -/
theorem query_admits {session : Session E} (backend : ExecutionBackend)
    (body : SimpleQuery E) :
    AdmitsLeaving session (.query backend body)
      (session.receive (.query backend body)).2 := by
  intro stmts responses head tail middle _ _ ⟨suffix, run⟩ aborted leaving
  have member := suffix.subset List.mem_cons_self
  obtain ⟨response, after, left, rest⟩ := batchLoop_admits backend tail
    (mem_of_mem_nonEmpty member) (not_blank_of_mem_nonEmpty member) leaving aborted
  refine ⟨response, after, left, (List.suffix_cons head tail).trans suffix, ?_⟩
  rw [run, rest]
  rcases batchLoop backend stmts tail after with ⟨(_ | _) | _ | _, final⟩ <;>
    simp [Except.map]

/-- An `Execute` that stays checked runs a prepared `COMMIT` or `ROLLBACK`,
which leaves the block. -/
theorem execute_gated {session : Session E} {index : Nat} {request : ExecuteRequest E}
    (checked : session.pg.xact.blockState = .abort →
      StaysChecked session (.execute index request))
    (alive : session.alive = true) :
    RefusesOrdinary session (.execute index request)
        (session.receive (.execute index request)).2 ∧
      AdmitsLeaving session (.execute index request)
        (session.receive (.execute index request)).2 := by
  have leaves : session.pg.xact.blockState = .abort → ∀ kind,
      executeDispatch session index request = some kind → kind = .leaving ∧
        ∃ response, (session.receive (.execute index request)).1 = .executed response ∧
          (session.receive (.execute index request)).2.pg.xact.blockState ≠ .abort := by
    intro aborted kind dispatched
    unfold executeDispatch at dispatched
    split at dispatched
    · next statement found =>
      split at dispatched
      · next binds =>
        obtain ⟨cmd, choice, notBegin⟩ : ∃ cmd, statement.plan = .xactControl cmd ∧
            cmd ≠ .begin := by
          rcases checked aborted statement found binds with choice | choice
          · exact ⟨.commit, choice, by simp⟩
          · exact ⟨.rollback, choice, by simp⟩
        obtain ⟨response, after, run, left⟩ :=
          handleXactControlOne_leaving notBegin request.finish aborted
        refine ⟨?_, response, ?_⟩
        · cases cmd <;> simp_all [planDispatch]
        · simp [Session.receive, alive, found,
            PreparedStatement.execute_xactControl choice binds, run, Session.conclude, left]
      · cases dispatched
    · cases dispatched
  constructor
  · intro aborted ordinary
    exact absurd (leaves aborted _ ordinary).1 (by simp)
  · intro aborted leaving
    exact (leaves aborted _ leaving).2

omit [TypeTable] in
/-- A bracket with a snapshot records its misuse of an aborted block. -/
theorem snapshotMisuses_withXact_abort {α : Type} {finish : Option ErrorReport}
    {body : PgM E (PgWireResult α)} {pg : Pg E}
    (aborted : pg.xact.blockState = .abort) :
    snapshotMisuses (withXact true finish body pg).2 = snapshotMisuses pg + 1 := by
  simp [withXact_abort aborted, snapshotMisuses, Pg.record]

/-- Outside the checked messages the gate fails: a bracket takes a snapshot of
the aborted block, or a prepared `BEGIN` is answered as if it had run. -/
theorem staysChecked_of_gateHolds {session : Session E} {message : Message E}
    (gate : GateHolds session message (session.receive message).2)
    (alive : session.alive = true) (aborted : session.pg.xact.blockState = .abort) :
    StaysChecked session message := by
  have noSnapshot := gate.noSnapshot
  cases message with
  | query backend body => trivial
  | parse backend request =>
      by_contra seen
      have clean : containsNul request.sql = false := by simpa [StaysChecked] using seen
      cases backend <;>
        simp [Session.receive, alive, prepare, clean, spiPrepare, directPrepare,
          withSpi_eq_withXact, snapshotMisuses_withXact_abort aborted] at noSnapshot
  | execute index request =>
      intro statement found binds
      cases choice : statement.plan with
      | spi plan =>
          simp [Session.receive, alive, found, PreparedStatement.execute_spi choice binds,
            withSpi_eq_withXact, snapshotMisuses_withXact_abort aborted] at noSnapshot
      | direct plan =>
          simp [Session.receive, alive, found, PreparedStatement.execute_direct choice binds,
            snapshotMisuses_withXact_abort aborted] at noSnapshot
      | xactControl cmd =>
          cases cmd with
          | begin =>
              have inBlock : session.pg.xact.isTransactionBlock = true := by
                simp [Xact.isTransactionBlock, aborted]
              have refused := gate.refuses alive aborted (by
                rw [executeDispatch, found]
                dsimp only
                rw [if_pos binds, choice]
                rfl)
              simp [Session.receive, alive, found,
                PreparedStatement.execute_xactControl choice binds, handleXactControlOne,
                xactControlBody, inBlock, Comp.catchUnwind, Session.conclude] at refused
          | commit => exact .inl rfl
          | rollback => exact .inr rfl

theorem gateHolds_of_respects {session : Session E} {message : Message E}
    (respects : session.pg.xact.blockState = .abort → StaysChecked session message)
    (alive : session.alive = true) :
    GateHolds session message (session.receive message).2 := by
  refine ⟨receive_noSnapshot respects alive, fun _ => ?_, fun _ => ?_⟩
  · cases message with
    | query backend body => exact query_refuses alive backend body
    | parse backend request =>
        intro aborted dispatched
        have seen : containsNul request.sql = true := respects aborted
        simp [parseDispatch, seen] at dispatched
    | execute index request => exact (execute_gated respects alive).1
  · cases message with
    | query backend body => exact query_admits backend body
    | parse backend request =>
        intro aborted dispatched
        have seen : containsNul request.sql = true := respects aborted
        simp [parseDispatch, seen] at dispatched
    | execute index request => exact (execute_gated respects alive).2

/-- A run finds the gate of aborted blocks holding at each of its messages
exactly if each of its messages respects it. -/
theorem gate_holds_along_run_iff_respected {source target : Session E}
    {messages : List (Message E)} :
    RunWith (sessions E) GateHolds source messages target ↔
      RunWith (sessions E) RespectsGate source messages target := by
  refine RunWith.congr (fun _ => True) (fun _ _ _ _ _ => trivial) ?_ trivial
  intro session message next _ step
  subst step
  constructor
  · intro gate alive aborted
    exact staysChecked_of_gateHolds gate alive aborted
  · intro respects
    cases alive : session.alive with
    | true => exact gateHolds_of_respects (respects alive) alive
    | false =>
        exact ⟨by simp [Session.receive, alive],
          fun impossible => by simp [alive] at impossible,
          fun impossible => by simp [alive] at impossible⟩

end Rows

/-! ## A `Parse` in an aborted block -/

/-- A `Parse` of `SELECT 1` that PG would answer without an error. -/
def parseSelect : ParseRequest where
  sql := "SELECT 1"
  paramHints := []
  spiRcs := .clean
  parsed := .ok [some (.other true)]
  analyze _ := .ok ⟨false, []⟩
  spiPrepare _ := .ok (.ok ⟨[], [some [⟨"?column?", 23⟩]]⟩)
  keepplanRc := 0
  complete _ := .ok ⟨some [⟨"?column?", 23⟩], ⟨"SELECT", true⟩⟩
  finish := none

/-- `BEGIN`, a failing statement, and a `Parse`. -/
def parseAfterError : List (Message Nat) :=
  [.query .spi (.batch [.control "BEGIN" .begin]),
    .query .spi (.batch [.command "SELECT 1/0" (.other true)
      (.error ⟨"ERROR", "ERRCODE_DIVISION_BY_ZERO", "division by zero"⟩)]),
    .parse .spi parseSelect]

/-- The gate does not hold along every run of a fresh session: a `Parse` in an
aborted block takes a snapshot of it. -/
theorem parse_breaks_gate :
    ¬∀ [TypeTable] (messages : List (Message Nat)) (target : Session Nat),
      Run (sessions Nat) (Session.fresh .standard) messages target →
        RunWith (sessions Nat) GateHolds (Session.fresh .standard) messages target := by
  intro always
  let _ : TypeTable := ⟨fun _ => none, by simp⟩
  have run : ∃ target, Run (sessions Nat) (Session.fresh .standard) parseAfterError
      target :=
    ⟨_, .cons rfl trivial (.cons rfl trivial (.cons rfl trivial (.nil _)))⟩
  obtain ⟨target, run⟩ := run
  have gated := always parseAfterError target run
  obtain _ | ⟨rfl, _, _ | ⟨rfl, _, _ | ⟨rfl, gate, _⟩⟩⟩ := gated
  have checked := staysChecked_of_gateHolds gate rfl rfl
  exact absurd checked (show ¬containsNul parseSelect.sql = true by decide)

end PgTransport.Properties
