import PgTransport.Backend.Control

/-!
# Statements in brackets of their own

The loop over `with_spi` brackets, and the direct path for a single statement,
make every statement outside a block a transaction of its own.
-/

namespace PgTransport.Backend

open PgTransport.Computation
open PgTransport.Postgres
open PgTransport.Transaction
open PgTransport.Wire

variable {E : Type}

/-- `StartTransactionCommand` enters the books, in a transaction that is not
marked as implicit. -/
theorem startTransactionCommand_follows {pg : Pg E} {books : Books E}
    (shown : Shows pg.xact books) (single : books.phase ≠ .implicit) :
    ∃ started, startTransactionCommand pg = (.ret (), started) ∧
      Accepts started.xact books.enter.phase ∧
      booksIn books.enter.phase started.xact = books.enter := by
  cases shown with
  | outside state =>
      exact ⟨pg.mapXact Xact.startTransaction, by simp [startTransactionCommand, state],
        .inr ⟨rfl, rfl⟩, rfl⟩
  | inside phase entered state =>
      cases phase with
      | outside => exact absurd rfl entered
      | implicit => exact absurd rfl single
      | explicit | failed =>
          exact ⟨pg, by simp [startTransactionCommand, state, blockStateOf],
            .inl ⟨state, entered⟩, rfl⟩

section Bracket

variable {α : Type} {needsSnapshot : Bool} {body : PgM E (PgWireResult α)}
  {effects : List E} {answers : α → Prop} {pg : Pg E} {books : Books E}

/-- Inside an explicit block the body of a bracket works on the books. -/
theorem joined_perform (needsSnapshot : Bool) (shown : Shows pg.xact books)
    (block : books.phase = .explicit) (effects : List E) :
    Shows ((pg.joined needsSnapshot).work effects).xact (books.perform effects) := by
  have joined : Shows (pg.joined needsSnapshot).xact books := shown.congr rfl rfl rfl rfl rfl
  exact joined.perform (by simp [block]) effects

/-- A bracket whose body succeeds does its work and closes the books. -/
theorem withXact_succeeds (ends : EndsAs body .succeeds effects answers)
    (shown : Shows pg.xact books)
    (bracket : books.phase = .outside ∨ books.phase = .explicit) :
    ∃ value after, answers value ∧
      withXact needsSnapshot none body pg = (.ret (.ok value), after) ∧
      Shows after.xact (books.enter.perform effects).close := by
  rcases bracket with phase | phase
  · cases shown with
    | inside other entered => exact absurd phase entered
    | outside state =>
        obtain ⟨value, answer, run⟩ := ends ((pg.begun needsSnapshot).hold needsSnapshot)
        refine ⟨value, ((pg.begun needsSnapshot).work effects).mapXact
          Xact.commitTransaction, answer, ?_, .outside rfl⟩
        rw [withXact_default_ret state run]
        rfl
  · have state : pg.xact.blockState = .inprogress := by
      rw [shown.phase_eq, phase]
      rfl
    obtain ⟨value, answer, run⟩ := ends ((pg.joined needsSnapshot).hold needsSnapshot)
    refine ⟨value, (pg.joined needsSnapshot).work effects, answer, ?_, ?_⟩
    · rw [withXact_inprogress_ret state run]
      rfl
    · simpa only [Books.enter, Books.close, Books.perform, phase] using
        joined_perform needsSnapshot shown phase effects

/-- A bracket whose body raises abandons the books. -/
theorem withXact_raises (ends : EndsAs body .raises effects answers)
    (shown : Shows pg.xact books)
    (bracket : books.phase = .outside ∨ books.phase = .explicit) :
    AnsweredWithError (withXact needsSnapshot none body pg)
      (books.enter.perform effects).abandon := by
  rcases bracket with phase | phase
  · cases shown with
    | inside other entered => exact absurd phase entered
    | outside state =>
        obtain ⟨payload, depth, run⟩ := ends ((pg.begun needsSnapshot).hold needsSnapshot)
        refine ⟨panicToPgwire payload, ((pg.begun needsSnapshot).work effects).releaseAll.mapXact
          Xact.rollback, ?_, .outside rfl⟩
        rw [withXact_default_unwind state run]
  · have state : pg.xact.blockState = .inprogress := by
      rw [shown.phase_eq, phase]
      rfl
    obtain ⟨payload, depth, run⟩ := ends ((pg.joined needsSnapshot).hold needsSnapshot)
    refine ⟨panicToPgwire payload, ((pg.joined needsSnapshot).work effects).releaseAll.mapXact
      Xact.abortLevel, ?_, ?_⟩
    · rw [withXact_inprogress_unwind state run]
    · have entered : books.enter = books := by simp only [Books.enter, phase]
      rw [entered]
      exact (joined_perform needsSnapshot shown phase effects).abortLevel phase

/-- The execution of a statement on its own follows its command. -/
def StatementFollows (backend : ExecutionBackend) (stmt : RawStmt E) (answers : α → Prop)
    (result : Ending E α) (books : Books E) : Prop :=
  match Books.execute (stmt.asCommand backend) books.enter with
  | (true, after) => ∃ value middle, answers value ∧
      result = (.ret (.ok value), middle) ∧ Shows middle.xact after.close
  | (false, after) => AnsweredWithError result after

/-- A statement that is no transaction statement, in a bracket. -/
theorem withXact_follows {backend : ExecutionBackend} {stmt : RawStmt E}
    (ordinary : isTransactionStmt stmt.node = false)
    (ends : EndsAs body (stmt.verdict backend) (stmt.effects backend) answers)
    (finish : stmt.finish = none) (settled : stmt.verdict backend ≠ .refuses)
    (shown : Shows pg.xact books)
    (bracket : books.phase = .outside ∨ books.phase = .explicit) :
    StatementFollows backend stmt answers (withXact needsSnapshot stmt.finish body pg)
      books := by
  have running : books.enter.phase = .implicit ∨ books.enter.phase = .explicit := by
    apply Books.running_cases
    rcases bracket with phase | phase <;> simp [phase]
  unfold StatementFollows RawStmt.asCommand
  rw [classifyRawStmt_ordinary ordinary, finish]
  cases verdict : stmt.verdict backend with
  | succeeds =>
      rw [verdict] at ends
      have executed : Books.execute (.run (stmt.effects backend)) books.enter =
          (true, books.enter.perform (stmt.effects backend)) := by
        rcases running with phase | phase <;> simp only [Books.execute, phase]
      simp only [and_self, if_true, executed]
      exact withXact_succeeds ends shown bracket
  | raises =>
      rw [verdict] at ends
      have executed : Books.execute (.fail (stmt.effects backend)) books.enter =
          (false, (books.enter.perform (stmt.effects backend)).abandon) := by
        rcases running with phase | phase <;> simp only [Books.execute, phase]
      simp only [reduceCtorEq, false_and, if_false, executed]
      exact withXact_raises ends shown bracket
  | refuses => exact absurd verdict settled

/-- What a failed block refuses. -/
theorem statementFollows_refused {backend : ExecutionBackend} {stmt : RawStmt E}
    {result : Ending E α} {err : PgWireError}
    (stays : classifyRawStmt stmt.node = none ∨ classifyRawStmt stmt.node = some .begin)
    (shown : Shows pg.xact books) (failed : books.phase = .failed)
    (refused : result = (.ret (.error err), pg)) :
    StatementFollows backend stmt answers result books := by
  have executed : Books.execute (stmt.asCommand backend) books.enter = (false, books) := by
    rcases books with ⟨phase, levels, pending, committed, rolledBack⟩
    cases failed
    rcases stays with none | begins
    · simp only [RawStmt.asCommand, none, Books.enter]
      split <;> rfl
    · simp only [RawStmt.asCommand, begins, Books.enter, XactCmd.asCommand]
      rfl
  unfold StatementFollows
  rw [executed]
  exact ⟨err, pg, refused, shown⟩

end Bracket

/-! ## The loop over `with_spi` brackets -/

section Spi

variable {pg : Pg E} {books : Books E}

/-- The tag the bridge answers transaction control with. -/
def XactCmd.tag : XactCmd → String
  | .begin => "BEGIN"
  | .commit => "COMMIT"
  | .rollback => "ROLLBACK"

/-- The command has something to do: `BEGIN` outside a block, the others inside
one. -/
def XactCmd.active (cmd : XactCmd) (pg : Pg E) : Prop :=
  pg.xact.isTransactionBlock = (cmd != .begin)

/-- A command with nothing to do is answered without a call. -/
theorem handleXactControlOne_idle {cmd : XactCmd} {finish : Option ErrorReport}
    (idle : ¬cmd.active pg) :
    handleXactControlOne cmd finish pg =
      (.ret (.ok (.execution (Tag.new cmd.tag))), pg) := by
  cases cmd with
  | begin =>
      have inBlock : pg.xact.isTransactionBlock = true := by simpa [XactCmd.active] using idle
      simp [handleXactControlOne, xactControlBody, inBlock, Comp.catchUnwind, XactCmd.tag]
  | commit | rollback =>
      have outside : pg.xact.isTransactionBlock = false := by
        rw [← Bool.not_eq_true]
        exact idle
      simp [handleXactControlOne, xactControlBody, outside, Comp.catchUnwind, XactCmd.tag]

/-- Where no block is aborted, the command is answered and leaves a block open if it
is `BEGIN`, unless the commit that ends a block raises. -/
theorem handleXactControlOne_answers (cmd : XactCmd) (finish : Option ErrorReport)
    {inBlock : Bool} (place : pg.xact.blockState = if inBlock then .inprogress else .default) :
    if cmd == .commit && inBlock && finish.isSome then
      ∃ err after, handleXactControlOne cmd finish pg = (.ret (.error err), after) ∧
        after.xact.blockState = .default
    else
      ∃ response after, handleXactControlOne cmd finish pg = (.ret (.ok response), after) ∧
        after.xact.blockState = if cmd == .begin then .inprogress else .default := by
  cases inBlock <;> cases cmd <;> cases finish <;>
    simp [handleXactControlOne, xactControlBody, Comp.catchUnwind, Xact.isTransactionBlock, place,
      startTransactionCommand, endTransactionBlock, beginTransactionBlock,
      userAbortTransactionBlock, commitTransactionCommand, Xact.startTransaction,
      Xact.startChained, Xact.commitTransaction, Xact.rollback, Xact.discard,
      Xact.cleanupTransaction, Pg.abortCurrent]

/-- Otherwise the command is a transaction command around its call. -/
theorem handleXactControlOne_active {cmd : XactCmd} {started marked after : Pg E}
    {finish : Option ErrorReport} (active : cmd.active pg)
    (start : startTransactionCommand pg = (.ret (), started))
    (called : controlCall cmd started = (.ret (), marked))
    (completed : commitTransactionCommand finish marked = (.ret (), after)) :
    handleXactControlOne cmd finish pg =
      (.ret (.ok (.execution (Tag.new cmd.tag))), after) := by
  have inBlock : pg.xact.isTransactionBlock = (cmd != .begin) := active
  have body : xactControlBody cmd (cmd != .begin) finish pg =
      (.ret (Tag.new cmd.tag), after) := by
    cases cmd with
    | begin =>
        have called : beginTransactionBlock started = (.ret (), marked) := called
        simp [xactControlBody, start, called, completed, XactCmd.tag]
    | commit =>
        rcases ended : endTransactionBlock false started with ⟨_ | _ | _, final⟩ <;>
          simp [controlCall, ended] at called
        simp [xactControlBody, start, ended, called, completed, XactCmd.tag]
    | rollback =>
        have called : userAbortTransactionBlock false started = (.ret (), marked) := called
        simp [xactControlBody, start, called, completed, XactCmd.tag]
  simp only [handleXactControlOne, Comp.bind_apply, Comp.read_apply, resume_ret, inBlock,
    Comp.catchUnwind_of_ret body]
  rfl

/-- A command with nothing to do leaves the books as they are. -/
theorem shows_of_idle {cmd : XactCmd} {after : Books E} (shown : Shows pg.xact books)
    (single : books.phase ≠ .implicit) (idle : ¬cmd.active pg)
    (executed : Books.execute cmd.asCommand books.enter = (true, after)) :
    Shows pg.xact after := by
  cases shown with
  | outside state =>
      have outside : pg.xact.isTransactionBlock = false := by
        simp [Xact.isTransactionBlock, state]
      have same : Shows pg.xact ⟨.outside, [], [], pg.xact.committed, pg.xact.rolledBack⟩ :=
        .outside state
      cases cmd with
      | begin => exact absurd outside idle
      | commit | rollback =>
          cases executed
          simpa [Books.commit, Books.rollback, Books.enter] using same
  | inside phase entered state =>
      have inBlock : pg.xact.isTransactionBlock = true := by
        cases phase <;> simp_all [Xact.isTransactionBlock, blockStateOf]
      cases cmd with
      | begin =>
          cases phase with
          | outside => exact absurd rfl entered
          | implicit => exact absurd rfl single
          | explicit =>
              cases executed
              exact .inside .explicit entered state
          | failed => cases executed
      | commit | rollback => exact absurd inBlock idle

/-- The intercepted commands follow the books, where the block does not refuse
them. -/
theorem handleXactControlOne_follows {cmd : XactCmd} (shown : Shows pg.xact books)
    (single : books.phase ≠ .implicit)
    (allowed : ¬(books.phase = .failed ∧ cmd = .begin)) :
    ∃ after middle, Books.execute cmd.asCommand books.enter = (true, after) ∧
      handleXactControlOne cmd none pg =
        (.ret (.ok (.execution (Tag.new cmd.tag))), middle) ∧
      Shows middle.xact after := by
  obtain ⟨started, start, accepts, same⟩ := startTransactionCommand_follows shown single
  obtain ⟨after, executed, marked, final, called, _, completed, shows⟩ :=
    control_completes cmd accepts (by rwa [books.enter_failed_iff])
  rw [same] at executed
  by_cases active : cmd.active pg
  · exact ⟨after, final, executed,
      handleXactControlOne_active active start called completed, shows⟩
  · exact ⟨after, pg, executed, handleXactControlOne_idle active,
      shows_of_idle shown single active executed⟩

end Spi

/-! ## The loops -/

/-- A statement whose answers are the same success or PG error on its own
behalf: it is `BEGIN`, `COMMIT` or `ROLLBACK` without options, or it succeeds or
raises, and nothing is raised behind it. -/
structure Settled (stmt : RawStmt E) (backend : ExecutionBackend) : Prop where
  finish : stmt.finish = none
  control : ∀ command, stmt.node = .transactionStmt command →
    ∃ cmd, PlainControl command cmd
  settled : isTransactionStmt stmt.node = false → stmt.verdict backend ≠ .refuses

section Loops

variable [TypeTable] {stmt : RawStmt E} {pg : Pg E} {books : Books E}

/-- A statement that is no transaction statement, through SPI. -/
theorem executeOneStatement_ordinary (clean : containsNul stmt.text = false)
    (settled : Settled stmt .spi) (ordinary : isTransactionStmt stmt.node = false)
    (shown : Shows pg.xact books) (single : books.phase ≠ .implicit) :
    StatementFollows .spi stmt
      (fun responses => ∃ response, AnsweredBy .spi stmt response ∧ responses = [response])
      (executeOneStatement stmt stmt.stmtMeta pg) books := by
  have notControl := classifyRawStmt_ordinary ordinary
  have notExit : isXactExitStmt stmt.stmtMeta = false := by
    simp [isXactExitStmt, RawStmt.stmtMeta, notControl]
  by_cases failed : books.phase = .failed
  · apply statementFollows_refused (.inl notControl) shown failed
    simp [executeOneStatement, notExit, shown.blockState_eq_abort_iff.mpr failed]
    rfl
  · have bracket : books.phase = .outside ∨ books.phase = .explicit := by
      cases phase : books.phase <;> simp_all
    have gate : (pg.xact.isAbortedTransactionBlockState &&
        !isXactExitStmt stmt.stmtMeta) = false :=
      gate_admits fun aborted => absurd (shown.blockState_eq_abort_iff.mp aborted) failed
    rw [executeOneStatement_admitted gate, notControl]
    apply withXact_follows ordinary ?_ settled.finish (settled.settled ordinary) shown bracket
    apply (endsAs_runViaSpi clean).imp
    rintro _ ⟨response, answer, rfl⟩
    exact ⟨response, fun _ => answer, rfl⟩

/-- Transaction control, through the interception. -/
theorem executeOneStatement_control {command : TransactionStmt} {cmd : XactCmd}
    (settled : Settled stmt .spi) (node : stmt.node = .transactionStmt command)
    (plain : PlainControl command cmd)
    (shown : Shows pg.xact books) (single : books.phase ≠ .implicit) :
    StatementFollows .spi stmt
      (fun responses => ∃ response, AnsweredBy .spi stmt response ∧ responses = [response])
      (executeOneStatement stmt stmt.stmtMeta pg) books := by
  have classified : classifyRawStmt stmt.node = some cmd := by rw [node, plain.classified]
  have intercepted : stmt.stmtMeta.xact = some cmd := classified
  have control : isTransactionStmt stmt.node = true := by simp [isTransactionStmt, node]
  by_cases refused : books.phase = .failed ∧ cmd = .begin
  · obtain ⟨failed, rfl⟩ := refused
    apply statementFollows_refused (.inr classified) shown failed
    simp [executeOneStatement, isXactExitStmt, intercepted,
      shown.blockState_eq_abort_iff.mpr failed]
    rfl
  · obtain ⟨after, middle, executed, run, shows⟩ :=
      handleXactControlOne_follows shown single refused
    have gate : (pg.xact.isAbortedTransactionBlockState &&
        !isXactExitStmt stmt.stmtMeta) = false := by
      apply gate_admits
      rw [shown.blockState_eq_abort_iff]
      intro failed
      cases cmd <;> simp_all [isXactExitStmt]
    have command_eq : stmt.asCommand .spi = cmd.asCommand := by
      simp [RawStmt.asCommand, classified]
    unfold StatementFollows
    rw [command_eq, executed]
    refine ⟨[.execution (Tag.new cmd.tag)], middle, ⟨_, ?_, rfl⟩, ?_, ?_⟩
    · intro ordinary
      cases control.symm.trans ordinary
    · rw [executeOneStatement_admitted gate, classified, settled.finish]
      simp only [handleXactControl, Comp.bind_apply, run, resume_ret]
      rfl
    · have closed : after.close = after :=
        Books.closeIf_of_control cmd.asCommand_isControl executed true
      rw [closed]
      exact shows

/-- Executing one statement through SPI follows its command. -/
theorem executeOneStatement_follows (clean : containsNul stmt.text = false)
    (settled : Settled stmt .spi) (shown : Shows pg.xact books)
    (single : books.phase ≠ .implicit) :
    StatementFollows .spi stmt
      (fun responses => ∃ response, AnsweredBy .spi stmt response ∧ responses = [response])
      (executeOneStatement stmt stmt.stmtMeta pg) books := by
  cases node : stmt.node with
  | transactionStmt command =>
      obtain ⟨cmd, plain⟩ := settled.control command node
      exact executeOneStatement_control settled node plain shown single
  | fetchStmt ismove portalname =>
      exact executeOneStatement_ordinary clean settled (by rw [node]; rfl) shown single
  | other requiresAnalysis =>
      exact executeOneStatement_ordinary clean settled (by rw [node]; rfl) shown single

/-- A loop that goes on behind the execution of one statement follows its
command when the statement does. -/
theorem stepFollows_of_statement {α : Type} {backend : ExecutionBackend}
    {loop : List (RawStmt E) → PgM E (PgWireResult (List Response))}
    {rest : List (RawStmt E)} {result : Ending E α} (embed : α → List Response)
    (follows : StatementFollows backend stmt (fun value => ∃ response,
      AnsweredBy backend stmt response ∧ embed value = [response]) result books)
    (run : loop (stmt :: rest) pg =
      resume result fun value => continueWith (loop rest) (value.map embed)) :
    HeadFollows AnsweredWithError true backend loop stmt rest pg books := by
  unfold HeadFollows
  unfold StatementFollows at follows
  rcases executed : Books.execute (stmt.asCommand backend) books.enter with ⟨_ | _, after⟩ <;>
    rw [executed] at follows
  · obtain ⟨err, middle, rfl, shows⟩ := follows
    exact ⟨err, middle, run, shows⟩
  · obtain ⟨value, middle, ⟨response, answer, embedded⟩, rfl, shows⟩ := follows
    refine ⟨response, middle, answer, ?_, shows⟩
    rw [run]
    simp [continueWith, Except.map, embedded]

/-- The statement-by-statement loop over SPI closes the books behind every
statement. -/
theorem executeStatements_stepFollows (content : isBlank stmt.text = false)
    (clean : containsNul stmt.text = false) (settled : Settled stmt .spi) :
    StepFollows AnsweredWithError true .spi
      (fun stmts => executeStatements (stmts.map RawStmt.classified)) stmt := by
  intro rest pg books shown single
  apply stepFollows_of_statement id
    (executeOneStatement_follows clean settled shown (single rfl))
  rw [executeStatements_cons content]
  apply resume_congr
  intro value _
  cases value <;> rfl

/-! ## The direct path for a single statement -/

/-- A single statement that is no transaction statement, in the bracket of the
direct path. -/
theorem singleDirect_ordinary (settled : Settled stmt .direct)
    (ordinary : isTransactionStmt stmt.node = false) (shown : Shows pg.xact books)
    (bracket : books.phase = .outside ∨ books.phase = .explicit) :
    StatementFollows .direct stmt
      (fun response => ∃ same, AnsweredBy .direct stmt same ∧ [response] = [same])
      (withXact stmt.node.analyzeRequiresSnapshot stmt.finish (runOneDirect stmt) pg)
      books := by
  apply withXact_follows ordinary ?_ settled.finish (settled.settled ordinary) shown bracket
  exact (endsAs_runOneDirect ordinary).imp fun response answer =>
    ⟨response, fun _ => answer, rfl⟩

/-- Single transaction control, in the bracket of the direct path. -/
theorem singleDirect_control {command : TransactionStmt} {cmd : XactCmd}
    (settled : Settled stmt .direct) (node : stmt.node = .transactionStmt command)
    (plain : PlainControl command cmd) (shown : Shows pg.xact books)
    (single : books.phase ≠ .implicit) (allowed : ¬(books.phase = .failed ∧ cmd = .begin)) :
    StatementFollows .direct stmt
      (fun response => ∃ same, AnsweredBy .direct stmt same ∧ [response] = [same])
      (withXact stmt.node.analyzeRequiresSnapshot stmt.finish (runOneDirect stmt) pg)
      books := by
  obtain ⟨started, start, accepts, same⟩ := startTransactionCommand_follows shown single
  obtain ⟨after, executed, marked, final, called, _, completed, shows⟩ :=
    control_completes cmd accepts (by rwa [books.enter_failed_iff])
  obtain ⟨tag, utility⟩ := processUtility_plain plain called
  have classified : classifyRawStmt stmt.node = some cmd := by rw [node, plain.classified]
  have command_eq : stmt.asCommand .direct = cmd.asCommand := by
    simp [RawStmt.asCommand, classified]
  have noSnapshot : stmt.node.analyzeRequiresSnapshot = false := by
    simp [node, Node.analyzeRequiresSnapshot]
  have enter : (do startTransactionCommand; pushIfNeeded false) pg = (.ret (), started) := by
    simp [start, pushIfNeeded]
  have closed : after.close = after :=
    Books.closeIf_of_control cmd.asCommand_isControl executed true
  unfold StatementFollows
  rw [command_eq, ← same, executed, noSnapshot]
  refine ⟨.execution (Tag.new tag), final, ⟨_, ?_, rfl⟩, ?_, ?_⟩
  · intro ordinary
    simp [node, isTransactionStmt] at ordinary
  · rw [withXact_of_enter enter, runOneDirect_transactionStmt node utility, settled.finish]
    simp [leaveBracket, popIfNeeded, completed]
  · rw [closed]
    exact shows

/-- The direct loop over a batch of one statement closes the books behind it. -/
theorem executeSingleDirect_stepFollows (content : isBlank stmt.text = false)
    (settled : Settled stmt .direct) :
    StepFollows AnsweredWithError true .direct executeSingleDirect stmt := by
  intro rest pg books shown single
  have exits : ∀ command cmd, stmt.node = .transactionStmt command →
      PlainControl command cmd → isTransactionExitStmt stmt.node = (cmd != .begin) := by
    intro command cmd node plain
    rw [node, plain_exit plain]
  by_cases refused : books.phase = .failed ∧ isTransactionExitStmt stmt.node = false
  · obtain ⟨failed, notExit⟩ := refused
    have aborted := shown.blockState_eq_abort_iff.mpr failed
    have stays : classifyRawStmt stmt.node = none ∨ classifyRawStmt stmt.node = some .begin := by
      cases node : stmt.node with
      | transactionStmt command =>
          obtain ⟨cmd, plain⟩ := settled.control command node
          have begins : (cmd != .begin) = false := (exits command cmd node plain).symm.trans notExit
          exact .inr (by rw [plain.classified, bne_eq_false_iff_eq.mp begins])
      | fetchStmt ismove portalname => exact .inl rfl
      | other requiresAnalysis => exact .inl rfl
    have gate : (pg.xact.isAbortedTransactionBlockState &&
        !isTransactionExitStmt stmt.node) = true := by simp [aborted, notExit]
    have follows : StatementFollows .direct stmt
        (fun response => ∃ same, AnsweredBy .direct stmt same ∧ [response] = [same])
        (.ret (.error abortedTransactionBlockError), pg) books :=
      statementFollows_refused stays shown failed rfl
    apply stepFollows_of_statement (fun response => [response]) follows
    simp only [executeSingleDirect, content, Comp.bind_apply, Comp.read_apply, resume_ret,
      gate, Bool.false_eq_true, if_false, if_true]
    rfl
  · have gate : (pg.xact.isAbortedTransactionBlockState &&
        !isTransactionExitStmt stmt.node) = false := by
      apply gate_admits
      rw [shown.blockState_eq_abort_iff]
      intro failed
      simpa using fun notExit => refused ⟨failed, notExit⟩
    apply stepFollows_of_statement (fun response => [response]) ?_
      (executeSingleDirect_cons content rest gate)
    by_cases ordinary : isTransactionStmt stmt.node = false
    · apply singleDirect_ordinary settled ordinary shown
      have notExit : isTransactionExitStmt stmt.node = false := by
        cases node : stmt.node <;> simp_all [isTransactionStmt, isTransactionExitStmt]
      have active : books.phase ≠ .failed := fun failed => refused ⟨failed, notExit⟩
      have notImplicit := single rfl
      cases phase : books.phase <;> simp_all
    · obtain ⟨command, node⟩ := exists_command_of_transactionStmt ordinary
      obtain ⟨cmd, plain⟩ := settled.control command node
      apply singleDirect_control settled node plain shown (single rfl)
      rintro ⟨failed, rfl⟩
      exact refused ⟨failed, exits command .begin node plain⟩

end Loops

end PgTransport.Backend
