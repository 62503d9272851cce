import PgTransport.Backend.Refinement

/-!
# Transaction control follows the books

`BEGIN`, `COMMIT` and `ROLLBACK` without options mark the block through the
transaction-block API, and the `CommitTransactionCommand` behind them completes
the mark.  The direct path makes the calls through `ProcessUtility`.
-/

namespace PgTransport.Backend

open PgTransport.Computation
open PgTransport.Postgres
open PgTransport.Transaction
open PgTransport.Wire

variable {E : Type}

/-- The statement is `BEGIN`, `COMMIT` or `ROLLBACK` without options. -/
structure PlainControl (command : TransactionStmt) (cmd : XactCmd) : Prop where
  options : command.options = []
  chain : command.chain = false
  classified : classifyRawStmt (.transactionStmt command) = some cmd

/-- The call to the transaction-block API behind transaction control. -/
def controlCall : XactCmd → PgM E Unit
  | .begin => beginTransactionBlock
  | .commit => do
      let _committed ← endTransactionBlock false
      pure ()
  | .rollback => userAbortTransactionBlock false

/-- The state a transaction statement is executed in: a phase of the books, or
a transaction that has just been started. -/
def Accepts (xact : Xact E) (phase : Phase) : Prop :=
  (xact.blockState = blockStateOf phase ∧ phase ≠ .outside) ∨
    (xact.blockState = .started ∧ phase = .implicit)

/-- The call marks the block, and completing the mark arrives at the books.  The
end of an implicit block between the two does nothing. -/
def Completes (call : PgM E Unit) (pg : Pg E) (books : Books E) : Prop :=
  ∃ marked after, call pg = (.ret (), marked) ∧
    endImplicitTransactionBlock marked = (.ret (), marked) ∧
    commitTransactionCommand none marked = (.ret (), after) ∧ Shows after.xact books

section Control

variable {pg : Pg E}

theorem begin_completes {phase : Phase} (accepts : Accepts pg.xact phase)
    (active : phase ≠ .failed) :
    Completes beginTransactionBlock pg (booksIn phase pg.xact).openBlock := by
  rcases accepts with ⟨state, entered⟩ | ⟨state, rfl⟩
  · cases phase with
    | outside => exact absurd rfl entered
    | failed => exact absurd rfl active
    | implicit =>
        refine ⟨pg.mapXact fun xact => { xact with blockState := .begin },
          pg.mapXact fun xact => { xact with blockState := .inprogress }, ?_, rfl, rfl,
          .inside .explicit (by simp) rfl⟩
        simp [beginTransactionBlock, state, blockStateOf]
    | explicit =>
        refine ⟨pg, pg, ?_, ?_, ?_, .inside .explicit (by simp) state⟩
        · simp [beginTransactionBlock, state, blockStateOf]
        · simp [endImplicitTransactionBlock, state, blockStateOf]
        · simp [commitTransactionCommand, commandCounterIncrement, state, blockStateOf]
  · refine ⟨pg.mapXact fun xact => { xact with blockState := .begin },
      pg.mapXact fun xact => { xact with blockState := .inprogress }, ?_, rfl, rfl,
      .inside .explicit (by simp) rfl⟩
    simp [beginTransactionBlock, state]

theorem commit_completes {phase : Phase} (accepts : Accepts pg.xact phase)
    (active : phase ≠ .failed) :
    Completes (controlCall .commit) pg (booksIn phase pg.xact).commit := by
  have ends : pg.xact.blockState = .inprogress ∨
      pg.xact.blockState = .implicitInprogress →
      Completes (controlCall .commit) pg (booksIn phase pg.xact).commit := by
    intro state
    refine ⟨pg.mapXact fun xact => { xact with blockState := .endBlock, chain := false },
      pg.mapXact fun xact => { xact.commitTransaction with chain := false }, ?_, rfl, ?_,
      .outside rfl⟩
    · rcases state with state | state <;> simp [controlCall, endTransactionBlock, state]
    · simp [commitTransactionCommand, Pg.mapXact, Xact.commitTransaction, Xact.startChained]
  rcases accepts with ⟨state, entered⟩ | ⟨state, rfl⟩
  · cases phase with
    | outside => exact absurd rfl entered
    | failed => exact absurd rfl active
    | implicit => exact ends (.inr state)
    | explicit => exact ends (.inl state)
  · refine ⟨pg.mapXact fun xact => { xact with blockState := .started, chain := false },
      pg.mapXact fun xact => { xact.commitTransaction with chain := false }, ?_, rfl, ?_,
      .outside rfl⟩
    · simp [controlCall, endTransactionBlock, state]
    · simp [commitTransactionCommand, Pg.mapXact, Xact.commitTransaction]

theorem rollback_completes {phase : Phase} (accepts : Accepts pg.xact phase)
    (active : phase ≠ .failed) :
    Completes (controlCall .rollback) pg (booksIn phase pg.xact).rollback := by
  have state : pg.xact.blockState = .inprogress ∨
      pg.xact.blockState = .implicitInprogress ∨ pg.xact.blockState = .started := by
    rcases accepts with ⟨state, entered⟩ | ⟨state, rfl⟩
    · cases phase with
      | outside => exact absurd rfl entered
      | failed => exact absurd rfl active
      | implicit => exact .inr (.inl state)
      | explicit => exact .inl state
    · exact .inr (.inr state)
  refine ⟨pg.mapXact fun xact => { xact with blockState := .abortPending, chain := false },
    pg.releaseAll.mapXact fun xact => { xact.rollback with chain := false }, ?_, rfl, ?_,
    .outside rfl⟩
  · rcases state with state | state | state <;>
      simp [controlCall, userAbortTransactionBlock, state]
  · simp [commitTransactionCommand, Pg.mapXact, Pg.releaseAll, Xact.rollback, Xact.discard,
      Xact.cleanupTransaction, Xact.startChained]

/-- Both ways to end a failed block leave it. -/
theorem leave_completes {cmd : XactCmd} (leaving : cmd ≠ .begin)
    (failed : pg.xact.blockState = .abort) :
    Completes (controlCall cmd) pg (booksIn .failed pg.xact).leave := by
  cases nested : pg.xact.savepoints with
  | nil =>
      have books : (booksIn .failed pg.xact).leave =
          ⟨.outside, [], [], pg.xact.committed, pg.xact.rolledBack⟩ := by
        simp [Books.leave, booksIn, nested]
      rw [books]
      refine ⟨pg.mapXact fun xact => { xact with blockState := .abortEnd, chain := false },
        pg.mapXact fun xact => { xact.cleanupTransaction with chain := false }, ?_, rfl, ?_,
        .outside rfl⟩
      · cases cmd <;> simp_all [controlCall, endTransactionBlock,
          userAbortTransactionBlock, Xact.isSubTransaction]
      · simp [commitTransactionCommand, Pg.mapXact, Xact.cleanupTransaction,
          Xact.startChained]
  | cons savepoint savepoints =>
      have books : (booksIn .failed pg.xact).leave = (booksIn .failed pg.xact).rollback := by
        simp [Books.leave, booksIn, nested]
      rw [books]
      refine ⟨pg.mapXact fun xact => { xact with blockState := .abortPending, chain := false },
        pg.releaseAll.mapXact fun xact => { xact.rollback with chain := false }, ?_, rfl, ?_,
        .outside rfl⟩
      · cases cmd <;> simp_all [controlCall, endTransactionBlock,
          userAbortTransactionBlock, Xact.isSubTransaction]
      · simp [commitTransactionCommand, Pg.mapXact, Pg.releaseAll, Xact.rollback,
          Xact.discard, Xact.cleanupTransaction, Xact.startChained]

/-- Transaction control follows the books from every state that accepts it. -/
theorem control_completes (cmd : XactCmd) {phase : Phase}
    (accepts : Accepts pg.xact phase) (allowed : ¬(phase = .failed ∧ cmd = .begin)) :
    ∃ books, Books.execute cmd.asCommand (booksIn phase pg.xact) = (true, books) ∧
      Completes (controlCall cmd) pg books := by
  by_cases active : phase = .failed
  · have failed : pg.xact.blockState = .abort := by
      rcases accepts with ⟨state, _⟩ | ⟨_, impossible⟩
      · rw [state, active]
        rfl
      · cases active.symm.trans impossible
    have leaving : cmd ≠ .begin := fun begins => allowed ⟨active, begins⟩
    subst active
    refine ⟨(booksIn .failed pg.xact).leave, ?_, leave_completes leaving failed⟩
    cases cmd with
    | begin => exact absurd rfl leaving
    | commit | rollback => rfl
  · have entered : phase ≠ .outside := by
      rcases accepts with ⟨_, entered⟩ | ⟨_, rfl⟩
      · exact entered
      · simp
    cases cmd with
    | begin =>
        refine ⟨_, ?_, begin_completes accepts active⟩
        cases phase <;> simp_all [Books.execute, XactCmd.asCommand, booksIn]
    | commit =>
        refine ⟨_, ?_, commit_completes accepts active⟩
        cases phase <;> simp_all [Books.execute, XactCmd.asCommand, booksIn]
    | rollback =>
        refine ⟨_, ?_, rollback_completes accepts active⟩
        cases phase <;> simp_all [Books.execute, XactCmd.asCommand, booksIn]

theorem exists_command_of_transactionStmt {node : Node}
    (control : ¬isTransactionStmt node = false) : ∃ command, node = .transactionStmt command := by
  cases node with
  | transactionStmt command => exact ⟨command, rfl⟩
  | fetchStmt ismove portalname => exact absurd rfl control
  | other requiresAnalysis => exact absurd rfl control

/-- `ProcessUtility` of option-free transaction control makes the same call. -/
theorem processUtility_plain {command : TransactionStmt} {cmd : XactCmd}
    (plain : PlainControl command cmd) {marked : Pg E}
    (run : controlCall cmd pg = (.ret (), marked)) :
    ∃ tag, processUtility command pg = (.ret tag, marked) := by
  obtain ⟨options, chain, classified⟩ := plain
  cases cmd with
  | begin =>
      have kind : command.kind = .begin ∨ command.kind = .start := by
        cases kind : command.kind <;> simp_all [classifyRawStmt]
      have called : beginTransactionBlock pg = (.ret (), marked) := run
      rcases kind with kind | kind
      · exact ⟨"BEGIN", by simp [processUtility, kind, options, setPGVariables, called]⟩
      · exact ⟨"START TRANSACTION", by
          simp [processUtility, kind, options, setPGVariables, called]⟩
  | commit =>
      have kind : command.kind = .commit := by
        cases kind : command.kind <;> simp_all [classifyRawStmt]
      rcases ended : endTransactionBlock false pg with ⟨committed | _ | _, final⟩ <;>
        simp [controlCall, ended] at run
      exact ⟨if committed then "COMMIT" else "ROLLBACK", by
        simp [processUtility, kind, chain, ended, run]⟩
  | rollback =>
      have kind : command.kind = .rollback := by
        cases kind : command.kind <;> simp_all [classifyRawStmt]
      have called : userAbortTransactionBlock false pg = (.ret (), marked) := run
      exact ⟨"ROLLBACK", by simp [processUtility, kind, chain, called]⟩

end Control

section Rows

variable [TypeTable] {stmt : RawStmt E} {command : TransactionStmt} {cmd : XactCmd}

omit [TypeTable] in
/-- The two commands that leave a failed block count as exits of it. -/
theorem plain_exit (plain : PlainControl command cmd) :
    isTransactionExitStmt (.transactionStmt command) = (cmd != .begin) := by
  have classified := plain.classified
  cases kind : command.kind <;> cases cmd <;>
    simp_all [classifyRawStmt, isTransactionExitStmt]

/-- In the implicit-block loop of the direct path, option-free transaction
control follows its command. -/
theorem implicitBlockLoopDirect_control (node : stmt.node = .transactionStmt command)
    (plain : PlainControl command cmd) (finish : stmt.finish = none) :
    StepFollows AwaitsAbort false .direct (implicitBlockLoop .direct) stmt := by
  intro rest pg books shown _
  have classified : classifyRawStmt stmt.node = some cmd := by rw [node, plain.classified]
  have control : isTransactionStmt stmt.node = true := by simp [isTransactionStmt, node]
  have noSnapshot : stmt.node.analyzeRequiresSnapshot = false := by
    simp [node, Node.analyzeRequiresSnapshot]
  have command_eq : stmt.asCommand .direct = cmd.asCommand := by
    simp [RawStmt.asCommand, classified]
  unfold HeadFollows
  rw [command_eq]
  by_cases refused : books.phase = .failed ∧ cmd = .begin
  · obtain ⟨failed, rfl⟩ := refused
    have aborted := shown.blockState_eq_abort_iff.mpr failed
    have executed : Books.execute XactCmd.begin.asCommand books.enter = (false, books) := by
      rcases books with ⟨phase, levels, pending, committed, rolledBack⟩
      cases failed
      rfl
    have notExit : isTransactionExitStmt stmt.node = false := by
      rw [node, plain_exit plain]
      rfl
    rw [executed]
    refine ⟨.ret (.error abortedTransactionBlockError), pg, ?_, trivial, ?_⟩
    · simp [implicitBlockLoop, implicitBlockLoopDirect, aborted, notExit]
    · simpa only [Books.abandon, failed] using shown.abortCurrent
  · have accepts : Accepts (enterImplicit pg).xact books.enter.phase :=
      .inl ⟨shown.enter.phase_eq, books.enter_entered⟩
    obtain ⟨after, executed, marked, final, called, unended, completed, shows⟩ :=
      control_completes cmd accepts (by rwa [books.enter_failed_iff])
    obtain ⟨tag, utility⟩ := processUtility_plain plain called
    obtain ⟨started, start, enter⟩ := enter_implicitBlock shown
    have gate : (pg.xact.isAbortedTransactionBlockState &&
        !isTransactionExitStmt stmt.node) = false := by
      apply gate_admits
      rw [shown.blockState_eq_abort_iff]
      intro failed
      have leaving : cmd ≠ .begin := fun begins => refused ⟨failed, begins⟩
      simp [node, plain_exit plain, leaving]
    rw [shown.enter.eq_booksIn books.enter_entered, executed]
    refine ⟨.execution (Tag.new tag), final, ?_, ?_, ?_⟩
    · intro ordinary
      cases control.symm.trans ordinary
    · simp only [implicitBlockLoop, implicitBlockLoopDirect, Comp.bind_apply,
        Comp.read_apply, resume_ret, gate, Bool.false_eq_true, if_false, start, enter,
        noSnapshot, pushIfNeeded, popIfNeeded]
      cases last : rest.isEmpty <;>
        simp [runOneDirect_transactionStmt node utility, control, unended, finish, completed]
    · rw [Books.closeIf_of_control cmd.asCommand_isControl executed]
      exact shows

end Rows

end PgTransport.Backend
