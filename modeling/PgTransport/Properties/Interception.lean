import PgTransport.Backend.Autocommit

/-!
# The meaning of intercepted transaction control

The bridge reduces a transaction statement to one of three commands before it
executes it.  `ProcessUtility`, through which the direct backend executes the
same statement, also applies the transaction modes of a `BEGIN` and chains a
new transaction to the end of one.  The two agree exactly where there is nothing
to apply and nothing to chain.
-/

namespace PgTransport.Properties

open PgTransport.Backend
open PgTransport.Computation
open PgTransport.Postgres
open PgTransport.Wire

variable {E : Type}

/-! ## The reference -/

/-- A transaction statement executed through `ProcessUtility`, in the bracket
that the direct backend gives it; the commit at its end raises no error. -/
def throughUtility (command : TransactionStmt) : PgM E (PgWireResult String) :=
  withXact false none do
    let tag ← processUtility command
    pure (.ok tag)

theorem withXact_of_start {α : Type} {pg started : Pg E} (body : PgM E (PgWireResult α))
    (start : startTransactionCommand pg = (.ret (), started)) :
    withXact false none body pg = leaveBracket false none (body started) :=
  withXact_of_enter (by simp [start, pushIfNeeded])

/-- The direct backend executes a transaction statement on its own through the
reference. -/
theorem executeSingleDirect_state [TypeTable] {stmt : RawStmt E} {command : TransactionStmt}
    {pg : Pg E} (content : isBlank stmt.text = false)
    (node : stmt.node = .transactionStmt command) (finish : stmt.finish = none)
    (admitted : pg.xact.blockState = .abort → isTransactionExitStmt stmt.node = true) :
    (executeSingleDirect [stmt] pg).2 = (throughUtility command pg).2 := by
  have gate : (pg.xact.isAbortedTransactionBlockState &&
      !isTransactionExitStmt stmt.node) = false := gate_admits admitted
  have noSnapshot : stmt.node.analyzeRequiresSnapshot = false := by
    simp [node, Node.analyzeRequiresSnapshot]
  have passes : ∀ result : Outcome Payload (PgWireResult Response) × Pg E,
      (resume result fun answer => continueWith (executeSingleDirect [])
        (answer.map fun response => [response])).2 = result.2 := by
    rintro ⟨(_ | _) | _ | _, final⟩ <;> rfl
  rw [executeSingleDirect_cons content [] gate, passes, noSnapshot, finish, throughUtility]
  rcases started : startTransactionCommand pg with ⟨_ | _ | _, inside⟩
  · rw [withXact_of_start _ started, withXact_of_start _ started]
    rcases utility : processUtility command inside with ⟨tag | payload | _, marked⟩
    · rw [runOneDirect_transactionStmt node utility]
      rcases committed : commitTransactionCommand none marked with ⟨_ | _ | _, after⟩ <;>
        simp [utility, leaveBracket, popIfNeeded, committed]
    · simp [runOneDirect, runPortal, node, utility, leaveBracket]
    · simp [runOneDirect, runPortal, node, utility, leaveBracket]
  · simp [withXact, started]
  · simp [withXact, started]

/-! ## What is compared -/

/-- The end of the block will start a chained transaction. -/
def chainsNext (xact : Xact E) : Bool :=
  match xact.blockState with
  | .endBlock | .abortEnd | .abortPending => xact.chain
  | _ => false

/-- The two sessions are in the same block state, run a transaction of the same
characteristics, if any, and have the same chained transaction ahead. -/
structure SameTransaction (first second : Xact E) : Prop where
  blockState : first.blockState = second.blockState
  current : first.current = second.current
  chains : chainsNext first = chainsNext second

/-- The block states in which a statement that the bridge classifies as `cmd`
is allowed: an aborted block can only be ended, and only a block can be ended
by a chained transaction. -/
def Allowed (cmd : XactCmd) (command : TransactionStmt) : TBlockState → Prop
  | .default => cmd = .begin ∨ command.chain = false
  | .inprogress => True
  | .abort => cmd ≠ .begin
  | _ => False

/-- The statement asks for nothing that its command does not do. -/
def AsksNothingElse (cmd : XactCmd) (command : TransactionStmt) (xact : Xact E) : Prop :=
  match cmd with
  | .begin =>
      if xact.blockState = .default then
        assignAll command.options xact.defaults = xact.defaults
      else
        Accepted command.options xact ∧
          assignAll command.options xact.characteristics = xact.characteristics
  | .commit | .rollback => command.chain = false

section Cases

variable {command : TransactionStmt} {cmd : XactCmd} {pg : Pg E}

theorem throughUtility_of_ret {started marked after : Pg E} {tag : String}
    (start : startTransactionCommand pg = (.ret (), started))
    (utility : processUtility command started = (.ret tag, marked))
    (completed : commitTransactionCommand none marked = (.ret (), after)) :
    throughUtility command pg = (.ret (.ok tag), after) := by
  simp [throughUtility, withXact_of_start _ start, utility, leaveBracket, popIfNeeded,
    completed]

theorem throughUtility_of_unwind {started marked : Pg E} {payload : Payload}
    (start : startTransactionCommand pg = (.ret (), started))
    (utility : processUtility command started = (.unwind payload, marked)) :
    throughUtility command pg = (.ret (.error (panicToPgwire payload)), marked.abortCurrent) := by
  simp [throughUtility, withXact_of_start _ start, utility, leaveBracket]

/-- Both kinds of `BEGIN` begin a block and apply their options. -/
theorem processUtility_begin (classified : classifyRawStmt (.transactionStmt command) =
      some .begin) {started marked : Pg E} {outcome : Outcome Payload Unit} {after : Pg E}
    (called : beginTransactionBlock started = (.ret (), marked))
    (options : setPGVariables command.options marked = (outcome, after)) :
    (outcome = .ret () → ∃ tag, processUtility command started = (.ret tag, after)) ∧
      ∀ payload, outcome = .unwind payload →
        processUtility command started = (.unwind payload, after) := by
  have kind : command.kind = .begin ∨ command.kind = .start := by
    cases kind : command.kind <;> simp_all [classifyRawStmt]
  constructor
  · rintro rfl
    rcases kind with kind | kind
    · exact ⟨"BEGIN", by simp [processUtility, kind, called, options]⟩
    · exact ⟨"START TRANSACTION", by simp [processUtility, kind, called, options]⟩
  · rintro payload rfl
    rcases kind with kind | kind <;> simp [processUtility, kind, called, options]

/-- A `BEGIN` outside a block starts a transaction; its options decide the
characteristics. -/
theorem begin_default_iff (classified : classifyRawStmt (.transactionStmt command) =
      some .begin) (outside : pg.xact.blockState = .default) :
    SameTransaction (handleXactControlOne .begin none pg).2.xact
        (throughUtility command pg).2.xact ↔
      assignAll command.options pg.xact.defaults = pg.xact.defaults := by
  have start : startTransactionCommand pg = (.ret (), pg.mapXact Xact.startTransaction) := by
    simp [startTransactionCommand, outside]
  have called : beginTransactionBlock (pg.mapXact Xact.startTransaction) =
      (.ret (), pg.mapXact fun xact => { xact.startTransaction with blockState := .begin }) :=
    rfl
  have active : XactCmd.begin.active pg := by
    simp [XactCmd.active, Xact.isTransactionBlock, outside]
  have intercepted : handleXactControlOne .begin none pg =
      (.ret (.ok (.execution (Tag.new "BEGIN"))), pg.mapXact fun xact =>
        { xact.startTransaction with blockState := .inprogress }) :=
    handleXactControlOne_active active start called rfl
  obtain ⟨tag, utility⟩ := (processUtility_begin classified called
    (setPGVariables_of_accepted (accepted_of_noSnapshot rfl rfl))).1 rfl
  rw [intercepted, throughUtility_of_ret start utility rfl]
  constructor
  · intro same
    simpa [Xact.current, Xact.startTransaction, eq_comm] using same.current
  · intro unchanged
    exact ⟨rfl, by simp [Xact.current, Xact.startTransaction, unchanged], rfl⟩

/-- A `BEGIN` inside a block only applies its options. -/
theorem begin_inprogress_iff (classified : classifyRawStmt (.transactionStmt command) =
      some .begin) (inBlock : pg.xact.blockState = .inprogress) :
    SameTransaction (handleXactControlOne .begin none pg).2.xact
        (throughUtility command pg).2.xact ↔
      Accepted command.options pg.xact ∧
        assignAll command.options pg.xact.characteristics = pg.xact.characteristics := by
  have idle : ¬XactCmd.begin.active pg := by
    simp [XactCmd.active, Xact.isTransactionBlock, inBlock]
  have start : startTransactionCommand pg = (.ret (), pg) := by
    simp [startTransactionCommand, inBlock]
  have called : beginTransactionBlock pg = (.ret (), pg) := by
    simp [beginTransactionBlock, inBlock]
  rw [handleXactControlOne_idle idle]
  by_cases accepted : Accepted command.options pg.xact
  · obtain ⟨tag, utility⟩ := (processUtility_begin classified called
      (setPGVariables_of_accepted accepted)).1 rfl
    have completed : commitTransactionCommand none (pg.mapXact fun xact =>
        { xact with characteristics := assignAll command.options xact.characteristics }) =
        (.ret (), pg.mapXact fun xact =>
          { xact with characteristics := assignAll command.options xact.characteristics }) := by
      simp [commitTransactionCommand, commandCounterIncrement, inBlock]
    rw [throughUtility_of_ret start utility completed]
    constructor
    · intro same
      refine ⟨accepted, ?_⟩
      simpa [Xact.current, inBlock, eq_comm] using same.current
    · rintro ⟨_, unchanged⟩
      exact ⟨rfl, by simp [Xact.current, inBlock, unchanged], rfl⟩
  · obtain ⟨payload, refused, options, state⟩ := setPGVariables_of_refused accepted
    rw [throughUtility_of_unwind start
      ((processUtility_begin classified called options).2 payload rfl)]
    constructor
    · intro same
      have states := same.blockState
      simp [Pg.abortCurrent, state, inBlock, Xact.abortLevel] at states
    · rintro ⟨impossible, _⟩
      exact absurd impossible accepted

/-! ## The end of a block -/

/-- The block is marked for its end. -/
def MarkedForEnd (xact : Xact E) : Prop :=
  xact.blockState = .endBlock ∨ xact.blockState = .abortEnd ∨ xact.blockState = .abortPending

/-- Completing the mark leaves the block, and enters the next one if it is
chained. -/
theorem commit_of_marked {marked : Pg E} (ending : MarkedForEnd marked.xact) :
    ∃ after, commitTransactionCommand none marked = (.ret (), after) ∧
      after.xact.blockState = if marked.xact.chain then .inprogress else .default := by
  have chained : ∀ (saved : Characteristics) (xact : Xact E), xact.blockState = .default →
      (xact.startChained saved).blockState = if xact.chain then .inprogress else .default := by
    intro saved xact ended
    unfold Xact.startChained
    split <;> simp_all
  rcases ending with state | state | state
  · refine ⟨marked.mapXact fun xact =>
      xact.commitTransaction.startChained xact.characteristics, ?_, chained _ _ rfl⟩
    simp [commitTransactionCommand, state]
  · refine ⟨marked.mapXact fun xact =>
      xact.cleanupTransaction.startChained xact.characteristics, ?_, chained _ _ rfl⟩
    simp [commitTransactionCommand, state]
  · refine ⟨marked.releaseAll.mapXact fun xact =>
      xact.rollback.startChained xact.characteristics, ?_, chained _ _ rfl⟩
    simp [commitTransactionCommand, state]

/-- Inside a block both ends of it mark the block and record the chain. -/
theorem processUtility_end (classified : classifyRawStmt (.transactionStmt command) = some cmd)
    (ending : cmd ≠ .begin)
    (inBlock : pg.xact.blockState = .inprogress ∨ pg.xact.blockState = .abort) :
    ∃ tag marked, processUtility command pg = (.ret tag, marked) ∧
      MarkedForEnd marked.xact ∧ marked.xact.chain = command.chain := by
  have kind : command.kind = .commit ∨ command.kind = .rollback := by
    cases kind : command.kind <;> simp_all [classifyRawStmt]
  rcases kind with kind | kind <;> rcases inBlock with state | state <;>
    cases nested : pg.xact.isSubTransaction <;>
      simp [processUtility, kind, endTransactionBlock, userAbortTransactionBlock, state,
        nested, MarkedForEnd]

/-- The bridge ends the block without a chain. -/
theorem handleXactControlOne_end (ending : cmd ≠ .begin)
    (inBlock : pg.xact.blockState = .inprogress ∨ pg.xact.blockState = .abort) :
    ∃ response after, handleXactControlOne cmd none pg = (.ret (.ok response), after) ∧
      after.xact.blockState = .default := by
  have active : cmd.active pg := by
    rcases inBlock with state | state <;> cases cmd <;>
      simp_all [XactCmd.active, Xact.isTransactionBlock]
  have start : startTransactionCommand pg = (.ret (), pg) := by
    rcases inBlock with state | state <;> simp [startTransactionCommand, state]
  have called : ∃ marked, controlCall cmd pg = (.ret (), marked) ∧
      MarkedForEnd marked.xact ∧ marked.xact.chain = false := by
    cases cmd with
    | begin => exact absurd rfl ending
    | commit | rollback =>
        rcases inBlock with state | state <;> cases nested : pg.xact.isSubTransaction <;>
          simp [controlCall, endTransactionBlock, userAbortTransactionBlock, state, nested,
            MarkedForEnd]
  obtain ⟨marked, call, marks, unchained⟩ := called
  obtain ⟨after, completed, ended⟩ := commit_of_marked marks
  refine ⟨_, after, handleXactControlOne_active active start call completed, ?_⟩
  simpa [unchained] using ended

/-- Both backends leave no transaction behind. -/
theorem sameTransaction_of_default {first second : Xact E}
    (firstEnded : first.blockState = .default) (secondEnded : second.blockState = .default) :
    SameTransaction first second :=
  ⟨firstEnded.trans secondEnded.symm, by simp [Xact.current, firstEnded, secondEnded],
    by simp [chainsNext, firstEnded, secondEnded]⟩

/-- Ending a block means the same on both backends unless it is chained. -/
theorem end_inBlock_iff (classified : classifyRawStmt (.transactionStmt command) = some cmd)
    (ending : cmd ≠ .begin)
    (inBlock : pg.xact.blockState = .inprogress ∨ pg.xact.blockState = .abort) :
    SameTransaction (handleXactControlOne cmd none pg).2.xact
        (throughUtility command pg).2.xact ↔ command.chain = false := by
  obtain ⟨response, after, intercepted, ended⟩ := handleXactControlOne_end ending inBlock
  obtain ⟨tag, marked, utility, marks, chain⟩ := processUtility_end classified ending inBlock
  obtain ⟨final, completed, state⟩ := commit_of_marked marks
  have start : startTransactionCommand pg = (.ret (), pg) := by
    rcases inBlock with state | state <;> simp [startTransactionCommand, state]
  rw [intercepted, throughUtility_of_ret start utility completed]
  rw [chain] at state
  cases chained : command.chain with
  | false =>
      have left : final.xact.blockState = .default := by simpa [chained] using state
      exact ⟨fun _ => rfl, fun _ => sameTransaction_of_default ended left⟩
  | true =>
      have entered : final.xact.blockState = .inprogress := by simpa [chained] using state
      constructor
      · intro same
        have states := same.blockState
        simp [ended, entered] at states
      · intro impossible
        cases impossible

/-- Outside a block, `COMMIT` and `ROLLBACK` have nothing to end. -/
theorem end_default (classified : classifyRawStmt (.transactionStmt command) = some cmd)
    (ending : cmd ≠ .begin) (unchained : command.chain = false)
    (outside : pg.xact.blockState = .default) :
    SameTransaction (handleXactControlOne cmd none pg).2.xact
        (throughUtility command pg).2.xact := by
  have idle : ¬cmd.active pg := by
    cases cmd <;> simp_all [XactCmd.active, Xact.isTransactionBlock]
  have start : startTransactionCommand pg = (.ret (), pg.mapXact Xact.startTransaction) := by
    simp [startTransactionCommand, outside]
  have kind : command.kind = .commit ∨ command.kind = .rollback := by
    cases kind : command.kind <;> simp_all [classifyRawStmt]
  rw [handleXactControlOne_idle idle]
  rcases kind with kind | kind
  · have utility : processUtility command (pg.mapXact Xact.startTransaction) =
        (.ret "COMMIT", pg.mapXact fun xact => { xact.startTransaction with chain := false }) := by
      simp [processUtility, kind, unchained, endTransactionBlock, Pg.mapXact,
        Xact.startTransaction]
    rw [throughUtility_of_ret start utility rfl]
    exact sameTransaction_of_default outside rfl
  · have utility : processUtility command (pg.mapXact Xact.startTransaction) =
        (.ret "ROLLBACK", pg.mapXact fun xact =>
          { xact.startTransaction with blockState := .abortPending, chain := false }) := by
      simp [processUtility, kind, unchained, userAbortTransactionBlock, Pg.mapXact,
        Xact.startTransaction]
    rw [throughUtility_of_ret start utility rfl]
    exact sameTransaction_of_default outside rfl

/-- Where a transaction statement is allowed, its interception leaves the
transaction that `ProcessUtility` would leave exactly if the statement asks for
nothing that its command does not do. -/
theorem interception_keeps_meaning_iff (command : TransactionStmt) (cmd : XactCmd) (pg : Pg E)
    (classified : classifyRawStmt (.transactionStmt command) = some cmd)
    (allowed : Allowed cmd command pg.xact.blockState) :
    SameTransaction (handleXactControlOne cmd none pg).2.xact
        (throughUtility command pg).2.xact ↔ AsksNothingElse cmd command pg.xact := by
  by_cases begins : cmd = .begin
  · subst begins
    cases state : pg.xact.blockState <;> rw [state] at allowed
    case default =>
      rw [begin_default_iff classified state]
      simp [AsksNothingElse, state]
    case inprogress =>
      rw [begin_inprogress_iff classified state]
      simp [AsksNothingElse, state]
    case abort => exact absurd rfl allowed
    all_goals exact allowed.elim
  · have asks : AsksNothingElse cmd command pg.xact ↔ command.chain = false := by
      cases cmd with
      | begin => exact absurd rfl begins
      | commit | rollback => rfl
    rw [asks]
    cases state : pg.xact.blockState <;> rw [state] at allowed
    case default =>
      have unchained := allowed.resolve_left begins
      exact ⟨fun _ => unchained, fun _ => end_default classified begins unchained state⟩
    case inprogress => exact end_inBlock_iff classified begins (.inl state)
    case abort => exact end_inBlock_iff classified begins (.inr state)
    all_goals exact allowed.elim

end Cases

/-- `BEGIN ISOLATION LEVEL SERIALIZABLE`. -/
def beginSerializable : TransactionStmt :=
  { TransactionStmt.plain .begin with options := [.isolation .serializable] }

/-- `BEGIN READ WRITE`. -/
def beginReadWrite : TransactionStmt :=
  { TransactionStmt.plain .begin with options := [.readOnly false] }

/-- The interception of a `BEGIN` keeps its meaning where its option changes nothing. -/
theorem begin_keeps_meaning :
    SameTransaction (handleXactControlOne .begin none (Pg.fresh .standard : Pg Nat)).2.xact
      (throughUtility beginReadWrite (Pg.fresh .standard : Pg Nat)).2.xact :=
  (interception_keeps_meaning_iff beginReadWrite .begin (Pg.fresh .standard) rfl
    (.inl rfl)).mpr rfl

/-- Interception does not keep the meaning of every allowed statement: the
isolation level of a `BEGIN` is dropped. -/
theorem isolation_level_dropped :
    ¬∀ (command : TransactionStmt) (cmd : XactCmd) (pg : Pg Nat),
      classifyRawStmt (.transactionStmt command) = some cmd →
      Allowed cmd command pg.xact.blockState →
        SameTransaction (handleXactControlOne cmd none pg).2.xact
          (throughUtility command pg).2.xact := by
  intro always
  have same := (always beginSerializable .begin (Pg.fresh .standard) rfl (.inl rfl)).current
  exact absurd same (by decide)

end PgTransport.Properties
