import PgTransport.Backend.Outcome
import PgTransport.Computation.Ending

/-!
# The stacks of a session

The bridge pushes and pops snapshots, opens and closes SPI sessions, and starts
and ends transactions by hand.  Each call is given here the depths of the two
stacks and the block state it expects, and those it leaves.
-/

namespace PgTransport.Postgres

variable {E : Type}

/-- The misuses of a bridge that loses count: a pop of an empty stack and a start
from a block state in which nothing can start. -/
def Misuse.unbalances : Misuse → Bool
  | .popWithoutSnapshot | .finishWithoutConnect | .startFrom _ => true
  | _ => false

/-- No call was ever out of balance. -/
def Orderly (pg : Pg E) : Prop :=
  ∀ misuse ∈ pg.misuses, misuse.unbalances = false

/-- The stacks have these depths, the transaction is in such a state, and no
call was ever out of balance. -/
structure At (snapshots spiDepth : Nat) (holds : Xact E → Prop) (pg : Pg E) : Prop where
  snapshots : pg.activeSnapshots = snapshots
  spiDepth : pg.spiDepth = spiDepth
  xact : holds pg.xact
  orderly : Orderly pg

/-- An abort leaves both stacks empty: it clears them, or they are empty where
it does nothing. -/
structure Abortable (pg : Pg E) : Prop where
  orderly : Orderly pg
  empty : pg.xact.blockState = .default ∨ pg.xact.blockState = .abort →
    pg.activeSnapshots = 0 ∧ pg.spiDepth = 0

namespace Xact

/-- The session waits for a message. -/
def Waits (xact : Xact E) : Prop :=
  xact.blockState = .default ∨ xact.blockState = .inprogress ∨ xact.blockState = .abort

/-- A command is running in a transaction that is not aborted. -/
def Running (xact : Xact E) : Prop :=
  xact.blockState = .started ∨ xact.blockState = .inprogress ∨
    xact.blockState = .implicitInprogress

/-- A command is running in a block, implicit or not. -/
def Joined (xact : Xact E) : Prop :=
  xact.blockState = .inprogress ∨ xact.blockState = .implicitInprogress

/-- The block is aborted. -/
def Aborted (xact : Xact E) : Prop :=
  xact.blockState = .abort

/-- The next statement of a batch can start. -/
def Continues (xact : Xact E) : Prop :=
  xact.Waits ∨ xact.blockState = .implicitInprogress

/-- A command has run and its end can be committed; a savepoint that is to be
restarted exists. -/
structure Concludes (xact : Xact E) : Prop where
  begun : xact.blockState ≠ .default
  restarts : ∀ depth, xact.blockState = .subrestart depth →
    (xact.savepoints[depth - 1]?).isSome = true

theorem Running.concludes {xact : Xact E} (running : xact.Running) : xact.Concludes := by
  rcases running with state | state | state <;> exact ⟨by simp [state], by simp [state]⟩

theorem Joined.running {xact : Xact E} (joined : xact.Joined) : xact.Running :=
  .inr joined

theorem Joined.continues {xact : Xact E} (joined : xact.Joined) : xact.Continues := by
  rcases joined with state | state
  · exact .inl (.inr (.inl state))
  · exact .inr state

theorem Running.notAborted {xact : Xact E} (running : xact.Running) :
    xact.blockState ≠ .default ∧ xact.blockState ≠ .abort := by
  rcases running with state | state | state <;> exact ⟨by simp [state], by simp [state]⟩

end Xact

namespace At

variable {snapshots spiDepth : Nat} {holds other : Xact E → Prop} {pg : Pg E}

/-- The same state, of whose transaction something else is known. -/
theorem also (here : At snapshots spiDepth holds pg) (known : other pg.xact) :
    At snapshots spiDepth other pg :=
  ⟨here.snapshots, here.spiDepth, known, here.orderly⟩

theorem imp (here : At snapshots spiDepth holds pg)
    (implies : ∀ xact, holds xact → other xact) : At snapshots spiDepth other pg :=
  here.also (implies _ here.xact)

/-- The same stacks with another transaction state. -/
theorem mapXact {update : Xact E → Xact E} (here : At snapshots spiDepth holds pg)
    (updated : other (update pg.xact)) : At snapshots spiDepth other (pg.mapXact update) :=
  ⟨here.snapshots, here.spiDepth, updated, here.orderly⟩

/-- Both stacks cleared. -/
theorem releaseAll {update : Xact E → Xact E} (orderly : Orderly pg)
    (updated : other (update pg.xact)) : At 0 0 other (pg.releaseAll.mapXact update) :=
  ⟨rfl, rfl, updated, orderly⟩

theorem abortable (here : At 0 0 holds pg) : Abortable pg :=
  ⟨here.orderly, fun _ => ⟨here.snapshots, here.spiDepth⟩⟩

end At

end PgTransport.Postgres

namespace PgTransport.Backend

open PgTransport.Computation
open PgTransport.Postgres
open PgTransport.Wire

variable {E : Type} {α : Type}

/-- A step that leaves what an abort can clear, however it ends. -/
abbrev Balanced (pre : Pg E → Prop) (step : PgM E α) (post : α → Pg E → Prop) : Prop :=
  Triple pre step post Abortable Orderly

section Calls

variable {snapshots spiDepth : Nat} {holds : Xact E → Prop}

/-! ## Transactions -/

theorem balanced_start :
    Balanced (At snapshots spiDepth fun xact : Xact E => Serves xact.blockState)
      startTransactionCommand fun _ => At snapshots spiDepth Xact.Running := by
  rintro pg here
  rcases here.xact with state | state | state <;>
    simp only [startTransactionCommand, state, Meets]
  · exact here.mapXact (.inl rfl)
  · exact here.also (.inr (.inl state))
  · exact here.also (.inr (.inr state))

theorem balanced_start_aborted :
    Balanced (At snapshots spiDepth (Xact.Aborted (E := E))) startTransactionCommand
      fun _ => At snapshots spiDepth Xact.Aborted := by
  rintro pg here
  have state : pg.xact.blockState = .abort := here.xact
  simp only [startTransactionCommand, state]
  exact here

theorem balanced_beginImplicit :
    Balanced (At snapshots spiDepth (Xact.Running (E := E))) beginImplicitTransactionBlock
      fun _ => At snapshots spiDepth Xact.Joined := by
  rintro pg here
  rcases here.xact with state | state | state <;>
    simp only [beginImplicitTransactionBlock, state, Meets]
  · exact here.mapXact (.inr rfl)
  · exact here.also (.inl state)
  · exact here.also (.inr state)

theorem balanced_beginImplicit_aborted :
    Balanced (At snapshots spiDepth (Xact.Aborted (E := E))) beginImplicitTransactionBlock
      fun _ => At snapshots spiDepth Xact.Aborted := by
  rintro pg here
  have state : pg.xact.blockState = .abort := here.xact
  simp only [beginImplicitTransactionBlock, state]
  exact here

/-- The end of the implicit block leaves what can be committed, and no implicit
block. -/
theorem balanced_endImplicit :
    Balanced (At snapshots spiDepth (Xact.Concludes (E := E))) endImplicitTransactionBlock
      fun _ => At snapshots spiDepth fun xact =>
        xact.Concludes ∧ xact.blockState ≠ .implicitInprogress := by
  rintro pg here
  unfold endImplicitTransactionBlock
  split
  · next state => exact here.mapXact ⟨⟨by simp, by simp⟩, by simp⟩
  · next other => exact here.also ⟨here.xact, other⟩

theorem balanced_raiseIf (report : Option ErrorReport) :
    Balanced (At 0 0 holds) (raiseIf report) fun _ => At 0 0 holds := by
  intro pg here
  cases report with
  | none => exact here
  | some report => exact here.abortable

/-- A chained transaction starts a block, another end leaves none. -/
theorem startChained_waits (saved : Characteristics) {xact : Xact E}
    (ended : xact.blockState = .default) : (xact.startChained saved).Waits := by
  unfold Xact.startChained
  split
  · exact .inr (.inl rfl)
  · exact .inl ended

/-- A commit outside an implicit block ends or continues what has run, and the
session waits again. -/
theorem balanced_commit (finish : Option ErrorReport) :
    Balanced (At 0 0 fun xact : Xact E => xact.Concludes ∧ xact.blockState ≠ .implicitInprogress)
      (commitTransactionCommand finish) fun _ => At 0 0 Xact.Waits := by
  rintro pg here
  obtain ⟨concludes, notImplicit⟩ := here.xact
  have raising : ∀ {update : Xact E → Xact E}, (update pg.xact).Waits →
      Meets (fun _ => At 0 0 Xact.Waits) Abortable Orderly
        ((do raiseIf finish; setXact update : PgM E Unit) pg) := by
    intro update waits
    cases finish with
    | none => exact here.mapXact waits
    | some report => exact here.abortable
  unfold commitTransactionCommand
  split
  case h_1 state => exact absurd state concludes.begun
  case h_2 => exact raising (.inl rfl)
  case h_3 => exact here.mapXact (.inr (.inl rfl))
  case h_4 state =>
    exact (balanced_raiseIf finish) pg (here.also (.inr (.inl state)))
  case h_5 state => exact absurd state notImplicit
  case h_6 => exact raising (startChained_waits _ rfl)
  case h_7 state => exact here.also (.inr (.inr state))
  case h_8 => exact here.mapXact (startChained_waits _ rfl)
  case h_9 => exact .releaseAll here.orderly (startChained_waits _ rfl)
  case h_10 => exact raising (.inl rfl)
  case h_11 => exact here.mapXact (.inr (.inl rfl))
  case h_12 => exact here.mapXact (.inr (.inl rfl))
  case h_13 depth state =>
    obtain ⟨savepoint, found⟩ := Option.isSome_iff_exists.mp (concludes.restarts depth state)
    apply here.mapXact
    rw [Xact.restartSavepoint, found]
    exact .inr (.inl rfl)

/-- Inside an implicit block a commit only ends the command. -/
theorem balanced_commit_joined (finish : Option ErrorReport) :
    Balanced (At 0 0 (Xact.Concludes (E := E))) (commitTransactionCommand finish)
      fun _ => At 0 0 Xact.Continues := by
  rintro pg here
  by_cases state : pg.xact.blockState = .implicitInprogress
  · rw [commitTransactionCommand, state]
    exact balanced_raiseIf finish pg (here.also (.inr state))
  · have commits := (balanced_commit (E := E) finish).concluding fun _ _ after =>
      after.imp fun _ waits => (.inl waits : Xact.Continues _)
    exact commits pg (here.also ⟨here.xact, state⟩)

/-- The call behind an intercepted `BEGIN` outside a block. -/
theorem balanced_beginBlock :
    Balanced (At snapshots spiDepth fun xact : Xact E => xact.blockState = .started)
      beginTransactionBlock fun _ => At snapshots spiDepth fun xact =>
        xact.Concludes ∧ xact.blockState ≠ .implicitInprogress := by
  rintro pg here
  have state : pg.xact.blockState = .started := here.xact
  simp only [beginTransactionBlock, state]
  exact here.mapXact ⟨⟨by simp, by simp⟩, by simp⟩

/-- The call behind an intercepted `COMMIT` inside a block. -/
theorem balanced_endBlock :
    Balanced (At snapshots spiDepth fun xact : Xact E =>
        xact.blockState = .inprogress ∨ xact.blockState = .abort)
      (endTransactionBlock false) fun _ => At snapshots spiDepth fun xact =>
        xact.Concludes ∧ xact.blockState ≠ .implicitInprogress := by
  rintro pg here
  rcases here.xact with state | state
  · simp only [endTransactionBlock, state]
    exact here.mapXact ⟨⟨by simp, by simp⟩, by simp⟩
  · simp only [endTransactionBlock, state]
    cases pg.xact.isSubTransaction <;> exact here.mapXact ⟨⟨by simp, by simp⟩, by simp⟩

/-- The call behind an intercepted `ROLLBACK` inside a block. -/
theorem balanced_userAbort :
    Balanced (At snapshots spiDepth fun xact : Xact E =>
        xact.blockState = .inprogress ∨ xact.blockState = .abort)
      (userAbortTransactionBlock false) fun _ => At snapshots spiDepth fun xact =>
        xact.Concludes ∧ xact.blockState ≠ .implicitInprogress := by
  rintro pg here
  rcases here.xact with state | state
  · simp only [userAbortTransactionBlock, state]
    exact here.mapXact ⟨⟨by simp, by simp⟩, by simp⟩
  · simp only [userAbortTransactionBlock, state]
    cases pg.xact.isSubTransaction <;> exact here.mapXact ⟨⟨by simp, by simp⟩, by simp⟩

/-- An abort clears both stacks, and the session waits again. -/
theorem balanced_abort :
    Triple Abortable (abortCurrentTransaction : PgM E Unit) (fun _ => At 0 0 Xact.Waits)
      Never Never := by
  rintro pg ⟨orderly, empty⟩
  simp only [abortCurrentTransaction_apply, Pg.abortCurrent]
  split
  case h_1 state =>
    obtain ⟨snapshots, spiDepth⟩ := empty (.inl state)
    exact ⟨snapshots, spiDepth, .inl state, orderly⟩
  case h_2 state =>
    obtain ⟨snapshots, spiDepth⟩ := empty (.inr state)
    exact ⟨snapshots, spiDepth, .inr (.inr state), orderly⟩
  case h_9 => exact .releaseAll orderly (.inl rfl)
  case h_10 | h_11 | h_12 | h_13 => exact .releaseAll orderly (.inr (.inr rfl))
  all_goals exact .releaseAll orderly (.inl rfl)

/-! ## Snapshots and SPI sessions -/

theorem balanced_push {state : TBlockState} :
    Balanced (At snapshots spiDepth fun xact : Xact E => xact.Running ∧ xact.blockState = state)
      pushTransactionSnapshot
      fun _ => At (snapshots + 1) spiDepth fun xact => xact.Running ∧ xact.blockState = state := by
  intro pg here
  have notAborted : pg.xact.blockState ≠ .abort := here.xact.1.notAborted.2
  simp only [pushTransactionSnapshot, Xact.isAbortedTransactionBlockState_iff, notAborted,
    if_false]
  exact ⟨congrArg (· + 1) here.snapshots, here.spiDepth, here.xact, here.orderly⟩

theorem balanced_pop :
    Balanced (At (snapshots + 1) spiDepth holds) popActiveSnapshot
      fun _ => At snapshots spiDepth holds := by
  intro pg here
  simp only [popActiveSnapshot, here.snapshots]
  exact ⟨rfl, here.spiDepth, here.xact, here.orderly⟩

theorem balanced_spiConnect (rc : Int) :
    Balanced (At snapshots spiDepth holds) (spiConnect rc) fun returned pg => returned = rc ∧
      At snapshots (if rc = SPI_OK_CONNECT then spiDepth + 1 else spiDepth) holds pg := by
  intro pg here
  unfold spiConnect
  refine ⟨rfl, ?_⟩
  split
  · exact ⟨here.snapshots, congrArg (· + 1) here.spiDepth, here.xact, here.orderly⟩
  · exact here

theorem balanced_spiFinish (rc : Int) :
    Balanced (At snapshots (spiDepth + 1) holds) (spiFinish rc) fun returned pg =>
      returned = rc ∧ At snapshots spiDepth holds pg := by
  intro pg here
  simp only [spiFinish, Pg.closeSession, here.spiDepth]
  exact ⟨rfl, here.snapshots, rfl, here.xact, here.orderly⟩

end Calls

/-! ## Transaction statements -/

/-- A savepoint that a command names exists. -/
theorem savepoint_exists {name : String} {xact : Xact E} {depth : Nat}
    (found : xact.savepointDepth name = some depth) :
    (xact.savepoints[depth - 1]?).isSome = true := by
  unfold Xact.savepointDepth at found
  obtain ⟨index, at_index, rfl⟩ := Option.map_eq_some_iff.mp found
  obtain ⟨inside, _⟩ := List.findIdx?_eq_some_iff_getElem.mp at_index
  simp [inside]

/-- The block state that a statement leaves when it is executed in a running
transaction: its end can be committed, or it has raised and can be aborted. -/
def LeavesRunning (before : Xact E) : Outcome Payload α × Pg E → Prop :=
  Meets
    (fun _ after => after.xact.Concludes ∧
      (after.xact.blockState = .implicitInprogress → before.blockState = .implicitInprogress))
    (fun after => after.xact.blockState ≠ .default ∧ after.xact.blockState ≠ .abort)
    fun _ => True

/-- The block state that it leaves when it is executed in an aborted block. -/
def LeavesAborted : Outcome Payload α × Pg E → Prop :=
  Meets
    (fun _ (after : Pg E) => after.xact.Concludes ∧ after.xact.blockState ≠ .implicitInprogress)
    (fun _ => True) fun _ => True

theorem begin_leavesRunning (options : List TransactionOption) (tag : String) {pg : Pg E}
    (running : pg.xact.Running) :
    LeavesRunning pg.xact ((do
      beginTransactionBlock
      setPGVariables options
      pure tag : PgM E String) pg) := by
  have begun : ∃ after, beginTransactionBlock pg = (.ret (), after) ∧
      (after.xact.blockState = .begin ∨ after.xact.blockState = .inprogress) := by
    rcases running with state | state | state <;> simp [beginTransactionBlock, state]
  obtain ⟨after, run, state⟩ := begun
  rw [Comp.bind_apply, run, resume_ret, Comp.bind_apply]
  by_cases accepted : Accepted options after.xact
  · rw [setPGVariables_of_accepted accepted]
    rcases state with state | state <;>
      exact ⟨⟨by simp [state], by simp [state]⟩, by simp [state]⟩
  · obtain ⟨payload, refused, raised, same⟩ := setPGVariables_of_refused accepted
    rw [raised]
    rcases state with state | state <;> exact ⟨by simp [same, state], by simp [same, state]⟩

/-- A statement that raises at once. -/
theorem raised_leavesRunning {payload : Payload} {pg : Pg E} (running : pg.xact.Running) :
    LeavesRunning pg.xact ((.unwind payload, pg) : Outcome Payload α × Pg E) := by
  rcases running with state | state | state <;> exact ⟨by simp [state], by simp [state]⟩

/-- A statement that marks the block for what its end is to do. -/
theorem marked_leavesRunning {before : Xact E} {value : α} {after : Pg E}
    (begun : after.xact.blockState ≠ .default)
    (explicit : after.xact.blockState ≠ .implicitInprogress)
    (restarts : ∀ depth, after.xact.blockState ≠ .subrestart depth) :
    LeavesRunning before (.ret value, after) :=
  ⟨⟨begun, fun depth state => absurd state (restarts depth)⟩, fun state => absurd state explicit⟩

/-- A statement outside any block changes no block state. -/
theorem finishPrepared_leavesRunning (command gid : String) (isCommit : Bool) {pg : Pg E}
    (running : pg.xact.Running) :
    LeavesRunning pg.xact ((do
      preventInTransactionBlock command
      finishPreparedTransaction gid isCommit
      pure command : PgM E String) pg) := by
  rcases running with state | state | state
  · cases found : pg.xact.prepared.find? fun entry => entry.1 = gid <;>
      simp only [preventInTransactionBlock, Xact.isTransactionBlock, state, Comp.bind_apply,
        finishPreparedTransaction, found, ereport_apply, Bool.false_eq_true, if_false, resume_ret,
        resume_unwind]
    · exact raised_leavesRunning (.inl state)
    · exact marked_leavesRunning (by simp [state]) (by simp [state]) (by simp [state])
  · simp only [preventInTransactionBlock, Xact.isTransactionBlock, state, Comp.bind_apply,
      if_true, ereport_apply, resume_unwind]
    exact raised_leavesRunning (.inr (.inl state))
  · simp only [preventInTransactionBlock, Xact.isTransactionBlock, state, Comp.bind_apply,
      if_true, ereport_apply, resume_unwind]
    exact raised_leavesRunning (.inr (.inr state))

theorem processUtility_leavesRunning (command : TransactionStmt) {pg : Pg E}
    (running : pg.xact.Running) :
    LeavesRunning pg.xact (processUtility command pg) := by
  have raised {payload : Payload} :
      LeavesRunning pg.xact ((.unwind payload, pg) : Outcome Payload String × Pg E) :=
    raised_leavesRunning running
  unfold processUtility
  cases command.kind with
  | begin => exact begin_leavesRunning _ _ running
  | start => exact begin_leavesRunning _ _ running
  | commit =>
      rcases running with state | state | state <;> cases command.chain <;>
        simp [endTransactionBlock, state]
      all_goals first
        | exact raised
        | exact marked_leavesRunning (by simp) (by simp) (by simp)
  | rollback =>
      rcases running with state | state | state <;> cases command.chain <;>
        simp [userAbortTransactionBlock, state]
      all_goals first
        | exact raised
        | exact marked_leavesRunning (by simp) (by simp) (by simp)
  | savepoint =>
      rcases running with state | state | state <;>
        simp [requireTransactionBlock, Xact.isTransactionBlock, defineSavepoint, state]
      all_goals first
        | exact raised
        | exact marked_leavesRunning (by simp) (by simp) (by simp)
  | release =>
      rcases running with state | state | state <;>
        cases found : pg.xact.savepointDepth command.name <;>
          simp [requireTransactionBlock, Xact.isTransactionBlock, releaseSavepoint, state, found]
      all_goals first
        | exact raised
        | exact marked_leavesRunning (by simp) (by simp) (by simp)
  | rollbackTo =>
      rcases running with state | state | state <;>
        cases found : pg.xact.savepointDepth command.name <;>
          simp [requireTransactionBlock, Xact.isTransactionBlock, rollbackToSavepoint, state, found]
      all_goals first
        | exact raised
        | exact ⟨⟨by simp, by simpa using savepoint_exists found⟩, by simp⟩
  | prepare =>
      rcases running with state | state | state <;>
        simp [prepareTransactionBlock, endTransactionBlock, markPrepare, state]
      all_goals exact marked_leavesRunning (by simp) (by simp) (by simp)
  | commitPrepared => exact finishPrepared_leavesRunning _ _ _ running
  | rollbackPrepared => exact finishPrepared_leavesRunning _ _ _ running

/-- In an aborted block a statement marks the block for its end or a savepoint
for its restart, does nothing, or fails. -/
theorem processUtility_leavesAborted (command : TransactionStmt) {pg : Pg E}
    (aborted : pg.xact.Aborted) : LeavesAborted (processUtility command pg) := by
  have state : pg.xact.blockState = .abort := aborted
  have begins : ∀ tag, LeavesAborted ((do
      beginTransactionBlock
      setPGVariables command.options
      pure tag : PgM E String) pg) := by
    intro tag
    simp only [Comp.bind_apply, beginTransactionBlock, state, resume_ret]
    by_cases accepted : Accepted command.options pg.xact
    · rw [setPGVariables_of_accepted accepted]
      exact ⟨⟨by simp [state], by simp [state]⟩, by simp [state]⟩
    · obtain ⟨payload, refused, raised, _⟩ := setPGVariables_of_refused accepted
      rw [raised]
      trivial
  unfold processUtility
  cases command.kind with
  | begin => exact begins _
  | start => exact begins _
  | commit =>
      cases nested : pg.xact.isSubTransaction <;>
        simp [endTransactionBlock, state, nested, LeavesAborted, Meets] <;>
        exact ⟨by simp, by simp⟩
  | rollback =>
      cases nested : pg.xact.isSubTransaction <;>
        simp [userAbortTransactionBlock, state, nested, LeavesAborted, Meets] <;>
        exact ⟨by simp, by simp⟩
  | savepoint =>
      simp [requireTransactionBlock, Xact.isTransactionBlock, defineSavepoint, state,
        LeavesAborted, Meets]
  | release =>
      simp [requireTransactionBlock, Xact.isTransactionBlock, releaseSavepoint, state,
        LeavesAborted, Meets]
  | rollbackTo =>
      cases found : pg.xact.savepointDepth command.name <;>
        simp [requireTransactionBlock, Xact.isTransactionBlock, rollbackToSavepoint, state, found,
          LeavesAborted, Meets]
      exact ⟨by simp, by simpa using savepoint_exists found⟩
  | prepare =>
      cases nested : pg.xact.isSubTransaction <;>
        simp [prepareTransactionBlock, endTransactionBlock, state, nested, LeavesAborted,
          Meets] <;>
        exact ⟨by simp, by simp⟩
  | commitPrepared =>
      simp [preventInTransactionBlock, Xact.isTransactionBlock, state, LeavesAborted, Meets]
  | rollbackPrepared =>
      simp [preventInTransactionBlock, Xact.isTransactionBlock, state, LeavesAborted, Meets]

/-! ## The bodies of brackets -/

/-- What a bracket relies on: where the body returns, both stacks are as it found
them and its end can be committed; where it raises, an abort clears them.  Only
a bracket without a snapshot runs its body in an aborted block. -/
structure Contract (needsSnapshot : Bool) (body : PgM E α) : Prop where
  running : ∀ snapshots spiDepth state,
    Balanced (At snapshots spiDepth fun xact : Xact E => xact.Running ∧ xact.blockState = state)
      body fun _ => At snapshots spiDepth fun xact => xact.Concludes ∧
        (xact.blockState = .implicitInprogress → state = .implicitInprogress)
  aborted : needsSnapshot = false → Balanced (At 0 0 (Xact.Aborted (E := E))) body
    fun _ => At 0 0 fun xact => xact.Concludes ∧ xact.blockState ≠ .implicitInprogress

/-- A body that only adds work keeps the block state. -/
theorem balanced_worksOnly {snapshots spiDepth : Nat} {state : TBlockState} {body : PgM E α}
    (works : WorksOnly body) :
    Balanced (At snapshots spiDepth fun xact : Xact E => xact.Running ∧ xact.blockState = state)
      body fun _ => At snapshots spiDepth fun xact => xact.Running ∧ xact.blockState = state := by
  intro pg here
  obtain ⟨effects, ⟨value, run⟩ | ⟨payload, depth, run⟩⟩ := works pg
  · rw [run]
    exact here.mapXact here.xact
  · rw [run]
    refine ⟨here.orderly, fun left => ?_⟩
    have running : pg.xact.Running := here.xact.1
    have same : ((pg.work effects).atSpiDepth depth).xact.blockState = pg.xact.blockState := rfl
    rw [same] at left
    exact absurd left (not_or.mpr running.notAborted)

theorem contract_of_worksOnly {body : PgM E α} (works : WorksOnly body) :
    Contract true body where
  running snapshots spiDepth state := (balanced_worksOnly works).concluding fun _ _ after =>
    after.imp fun _ known => ⟨known.1.concludes, fun implicit => known.2.symm.trans implicit⟩
  aborted impossible := by cases impossible

theorem contract_spiSession (rcs : SpiRcs) {body : PgM E (PgWireResult α)}
    (contract : Contract true body) : Contract true (spiSession rcs body) where
  running snapshots spiDepth state := by
    refine (balanced_spiConnect rcs.connect).bind fun connectRc => .ite ?_ ?_
    · rintro refused
      refine .pure fun pg here => ?_
      obtain ⟨rfl, here⟩ := here
      rw [if_neg refused] at here
      exact here.imp fun _ known =>
        ⟨known.1.concludes, fun implicit => known.2.symm.trans implicit⟩
    · intro connected
      rw [ne_eq, not_not] at connected
      refine ((contract.running snapshots (spiDepth + 1) state).assuming ?_).bind fun result =>
        (balanced_spiFinish rcs.finish).bind fun finishRc => .ite ?_ ?_
      · rintro pg ⟨rfl, here⟩
        rwa [if_pos connected] at here
      · exact fun _ => .pure fun _ here => here.2
      · exact fun _ => .pure fun _ here => here.2
  aborted impossible := by cases impossible

theorem OnlyXact.orderly {pg after : Pg E} (only : OnlyXact pg after) (before : Orderly pg) :
    Orderly after := by
  unfold Orderly
  rw [only.misuses]
  exact before

theorem at_of_onlyXact {snapshots spiDepth : Nat} {holds other : Xact E → Prop} {pg after : Pg E}
    (here : At snapshots spiDepth holds pg) (only : OnlyXact pg after)
    (known : other after.xact) : At snapshots spiDepth other after where
  snapshots := only.snapshots.trans here.snapshots
  spiDepth := only.spiDepth.trans here.spiDepth
  xact := known
  orderly := only.orderly here.orderly

theorem contract_processUtility (needsSnapshot : Bool) (command : TransactionStmt) :
    Contract needsSnapshot (processUtility command : PgM E String) where
  running snapshots spiDepth state := by
    intro pg here
    have only := onlyXact_processUtility command pg
    have leaves := processUtility_leavesRunning command here.xact.1
    rcases ended : processUtility command pg with ⟨tag | payload | _, after⟩ <;>
      rw [ended] at only leaves
    · have stays (implicit : _) := here.xact.2.symm.trans (leaves.2 implicit)
      exact at_of_onlyXact here only ⟨leaves.1, stays⟩
    · exact ⟨only.orderly here.orderly, fun left => absurd left (not_or.mpr leaves)⟩
    · exact only.orderly here.orderly
  aborted _ := by
    intro pg here
    have only := onlyXact_processUtility command pg
    have leaves := processUtility_leavesAborted command here.xact
    rcases ended : processUtility command pg with ⟨tag | payload | _, after⟩ <;>
      rw [ended] at only leaves
    · exact at_of_onlyXact here only leaves
    · have kept : At _ _ (fun _ => True) after := at_of_onlyXact here only trivial
      exact kept.abortable
    · exact only.orderly here.orderly

theorem contract_callPg (needsSnapshot : Bool) (effects : α → List E)
    (result : Except ErrorReport α) : Contract needsSnapshot (callPg effects result) where
  running := (contract_of_worksOnly (worksOnly_callPg effects result)).running
  aborted _ := by
    intro pg here
    have state : pg.xact.blockState = .abort := here.xact
    cases result with
    | error report => exact here.abortable
    | ok value => exact here.mapXact ⟨⟨by simp [Xact.work, state], by simp [Xact.work, state]⟩,
        by simp [Xact.work, state]⟩

theorem Contract.map {β : Type} {needsSnapshot : Bool} {body : PgM E α}
    (contract : Contract needsSnapshot body) (change : α → β) :
    Contract needsSnapshot (do let value ← body; pure (change value)) where
  running snapshots spiDepth state :=
    (contract.running snapshots spiDepth state).bind fun _ => .pure fun _ here => here
  aborted without := (contract.aborted without).bind fun _ => .pure fun _ here => here

/-- Work in front of a body. -/
theorem Contract.after {β : Type} {step : PgM E α} {next : α → PgM E β}
    (works : WorksOnly step) (contract : ∀ value, Contract true (next value)) :
    Contract true (step >>= next) where
  running snapshots spiDepth state :=
    (balanced_worksOnly works).bind fun value => (contract value).running snapshots spiDepth state
  aborted impossible := by cases impossible

/-- The body of the direct path, a transaction statement or not. -/
theorem contract_runPortal (needsSnapshot : Bool) (node : Node)
    (portal : Except ErrorReport (PortalRun E)) :
    Contract needsSnapshot (runPortal node portal) := by
  cases node with
  | transactionStmt command => exact (contract_processUtility needsSnapshot command).map _
  | fetchStmt ismove portalname => exact contract_callPg needsSnapshot _ _
  | other requiresAnalysis => exact contract_callPg needsSnapshot _ _

/-! ## Brackets -/

theorem balanced_pushIfNeeded (needsSnapshot : Bool) {spiDepth : Nat} {state : TBlockState} :
    Balanced (At 0 spiDepth fun xact : Xact E => xact.Running ∧ xact.blockState = state)
      (pushIfNeeded needsSnapshot)
      fun _ => At needsSnapshot.toNat spiDepth fun xact =>
        xact.Running ∧ xact.blockState = state := by
  cases needsSnapshot with
  | false => exact fun _ here => here
  | true => exact balanced_push

theorem balanced_popIfNeeded (needsSnapshot : Bool) {spiDepth : Nat}
    {holds : Xact E → Prop} :
    Balanced (At needsSnapshot.toNat spiDepth holds) (popIfNeeded needsSnapshot)
      fun _ => At 0 spiDepth holds := by
  cases needsSnapshot with
  | false => exact fun _ here => here
  | true => exact balanced_pop

section Bracket

variable {needsSnapshot : Bool} {finish : Option ErrorReport} {body : PgM E (PgWireResult α)}

/-- The body of a bracket with what comes behind it, however it ends. -/
theorem balanced_leave {inside : Pg E} (ending : Meets
      (fun _ => At needsSnapshot.toNat 0 fun xact : Xact E =>
        xact.Concludes ∧ xact.blockState ≠ .implicitInprogress)
      Abortable Orderly (body inside)) :
    Meets (fun _ => At 0 0 Xact.Waits) Abortable Orderly
      (leaveBracket needsSnapshot finish (body inside)) := by
  rcases ended : body inside with ⟨result | payload | _, after⟩ <;> rw [ended] at ending
  · have leave : Balanced (At needsSnapshot.toNat 0 fun xact : Xact E =>
          xact.Concludes ∧ xact.blockState ≠ .implicitInprogress)
        (do popIfNeeded needsSnapshot; commitTransactionCommand finish; pure result)
        fun _ => At 0 0 Xact.Waits :=
      (balanced_popIfNeeded needsSnapshot).bind fun _ =>
        (balanced_commit finish).bind fun _ => .pure fun _ here => here
    exact leave after ending
  · exact balanced_abort after ending
  · exact ending

/-- A bracket that runs its body in an open transaction. -/
theorem balanced_enter (contract : Contract needsSnapshot body) {pg started : Pg E}
    (start : startTransactionCommand pg = (.ret (), started)) {state : TBlockState}
    (explicit : state ≠ .implicitInprogress)
    (here : At 0 0 (fun xact => xact.Running ∧ xact.blockState = state) started) :
    Meets (fun _ => At 0 0 Xact.Waits) Abortable Orderly
      (withXact needsSnapshot finish body pg) := by
  have pushed := balanced_pushIfNeeded needsSnapshot started here
  rcases push : pushIfNeeded needsSnapshot started with ⟨_ | payload | _, inside⟩ <;>
    rw [push] at pushed
  case ret =>
    have enter : (do startTransactionCommand; pushIfNeeded needsSnapshot) pg =
        (.ret (), inside) := by
      rw [Comp.bind_apply, start, resume_ret, push]
    rw [withXact_of_enter enter]
    apply balanced_leave
    have returns := (contract.running needsSnapshot.toNat 0 state).concluding fun _ _ after =>
      after.imp fun _ known => And.intro known.1 fun implicit => explicit (known.2 implicit)
    exact returns inside pushed
  case unwind =>
    have run : withXact needsSnapshot finish body pg = (.unwind payload, inside) := by
      simp [withXact, start, push]
    rw [run]
    exact pushed
  case halt =>
    have run : withXact needsSnapshot finish body pg = (.halt, inside) := by
      simp [withXact, start, push]
    rw [run]
    exact pushed

/-- A bracket leaves the stacks empty and the session waiting, if it returns. -/
theorem balanced_withXact (contract : Contract needsSnapshot body) :
    Balanced (At 0 0 (Xact.Waits (E := E))) (withXact needsSnapshot finish body)
      fun _ => At 0 0 Xact.Waits := by
  intro pg here
  rcases waits : here.xact with state | state | state
  · have started : At 0 0 (fun xact : Xact E => xact.Running ∧ xact.blockState = .started)
        (pg.mapXact Xact.startTransaction) := here.mapXact ⟨.inl rfl, rfl⟩
    exact balanced_enter contract (by rw [startTransactionCommand, state]) (by simp) started
  · exact balanced_enter contract (by rw [startTransactionCommand, state]) (by simp)
      (here.also ⟨.inr (.inl state), state⟩)
  · cases needsSnapshot with
    | false =>
        have enter : (do startTransactionCommand; pushIfNeeded false) pg = (.ret (), pg) := by
          simp [startTransactionCommand, state, pushIfNeeded]
        rw [withXact_of_enter enter]
        exact balanced_leave (contract.aborted rfl pg (here.also state))
    | true =>
        rw [withXact_abort state]
        intro misuse member
        rcases List.mem_append.mp member with before | now
        · exact here.orderly misuse before
        · rw [List.mem_singleton.mp now]
          rfl

theorem balanced_withSpi {rcs : SpiRcs} (contract : Contract true body) :
    Balanced (At 0 0 (Xact.Waits (E := E))) (withSpi rcs finish body)
      fun _ => At 0 0 Xact.Waits := by
  rw [withSpi_eq_withXact]
  exact balanced_withXact (contract_spiSession rcs contract)

end Bracket

end PgTransport.Backend
