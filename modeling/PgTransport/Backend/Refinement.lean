import PgTransport.Backend.ImplicitBlock

/-!
# The statement loops interpret the books

Every loop over the statements of a query body follows the interpretation of
the commands that the statements amount to.  The implicit-block loops close the
books behind the last statement only; the loop over `with_spi` brackets closes
them behind each statement.
-/

namespace PgTransport.Backend

open PgTransport.Computation
open PgTransport.Postgres
open PgTransport.Transaction
open PgTransport.Wire

variable {E : Type}

/-- Transaction control as a command. -/
def XactCmd.asCommand : XactCmd → Command E
  | .begin => .begin
  | .commit => .commit
  | .rollback => .rollback

theorem XactCmd.asCommand_isControl (cmd : XactCmd) :
    Books.IsControl (cmd.asCommand : Command E) := by
  cases cmd <;> simp [Books.IsControl, XactCmd.asCommand]

/-- The command a statement amounts to on a backend. -/
def RawStmt.asCommand (stmt : RawStmt E) (backend : ExecutionBackend) : Command E :=
  match classifyRawStmt stmt.node with
  | some cmd => cmd.asCommand
  | none =>
      if stmt.verdict backend = .succeeds ∧ stmt.finish = none then
        .run (stmt.effects backend)
      else
        .fail (stmt.effects backend)

theorem classifyRawStmt_ordinary {node : Node}
    (ordinary : isTransactionStmt node = false) : classifyRawStmt node = none := by
  cases node with
  | transactionStmt command => cases ordinary
  | fetchStmt ismove portalname => rfl
  | other requiresAnalysis => rfl

section Rows

variable [TypeTable]

/-- The response to a statement, shaped from its answer unless the statement is
a transaction statement. -/
def AnsweredBy (backend : ExecutionBackend) (stmt : RawStmt E) (response : Response) :
    Prop :=
  isTransactionStmt stmt.node = false → stmt.Answers backend response

/-- The responses of a batch, one for each statement in order. -/
def Replies (backend : ExecutionBackend) (stmts : List (RawStmt E))
    (responses : List Response) : Prop :=
  List.Forall₂ (AnsweredBy backend) stmts responses

/-- The ending of a computation that returns a wire result. -/
abbrev Ending (E : Type) (α : Type) : Type :=
  Outcome Payload (PgWireResult α) × Pg E

/-- The ending of a loop is the one the books call for.  `ended` says what a
loop that fails leaves behind. -/
def Follows (ended : Ending E (List Response) → Books E → Prop)
    (replies : List Response → Prop) (result : Ending E (List Response))
    (books : Option Nat × Books E) : Prop :=
  match books.1 with
  | some count => ∃ responses after, result = (.ret (.ok responses), after) ∧
      replies responses ∧ responses.length = count ∧ Shows after.xact books.2
  | none => ended result books.2

/-- A failure that is still to be followed by an abort. -/
def AwaitsAbort {α : Type} (result : Ending E α) (books : Books E) : Prop :=
  ∃ outcome after, result = (outcome, after) ∧ Fails outcome ∧
    Shows after.abortCurrent.xact books

/-- A failure that has been answered. -/
def AnsweredWithError {α : Type} (result : Ending E α) (books : Books E) : Prop :=
  ∃ err after, result = (.ret (.error err), after) ∧ Shows after.xact books

/-- Executing the statement at the head of a batch follows the execution of its
command; behind it the loop goes on. -/
def HeadFollows (ended : Ending E (List Response) → Books E → Prop) (close : Bool)
    (backend : ExecutionBackend) (loop : List (RawStmt E) → PgM E (PgWireResult (List Response)))
    (stmt : RawStmt E) (rest : List (RawStmt E)) (pg : Pg E) (books : Books E) : Prop :=
  match Books.execute (stmt.asCommand backend) books.enter with
  | (true, after) => ∃ response middle, AnsweredBy backend stmt response ∧
      loop (stmt :: rest) pg = resume (loop rest middle) (fun more =>
        pure (more.map fun later => response :: later)) ∧
      Shows middle.xact (after.closeIf close)
  | (false, after) => ended (loop (stmt :: rest) pg) after

/-- A statement follows its command wherever it stands in a batch. -/
def StepFollows (ended : Ending E (List Response) → Books E → Prop) (closeEach : Bool)
    (backend : ExecutionBackend) (loop : List (RawStmt E) → PgM E (PgWireResult (List Response)))
    (stmt : RawStmt E) : Prop :=
  ∀ rest pg books, Shows pg.xact books → (closeEach = true → books.phase ≠ .implicit) →
    HeadFollows ended (closeEach || rest.isEmpty) backend loop stmt rest pg books

/-- A loop whose every step follows its command follows the batch, up to the
form of its failure. -/
theorem loop_follows {ended : Ending E (List Response) → Books E → Prop}
    {closeEach : Bool} {backend : ExecutionBackend}
    (loop : List (RawStmt E) → PgM E (PgWireResult (List Response)))
    (done : loop [] = pure (.ok []))
    (passes : ∀ result books response, ended result books →
      ended (resume result fun more =>
        pure (more.map fun later => response :: later)) books)
    {stmts : List (RawStmt E)}
    (steps : ∀ stmt ∈ stmts, StepFollows ended closeEach backend loop stmt) :
    ∀ {pg : Pg E} {books : Books E}, Shows pg.xact books →
      (closeEach = true → books.phase ≠ .implicit) →
      Follows ended (Replies backend stmts) (loop stmts pg)
        (Books.interpret closeEach (stmts.map fun stmt => stmt.asCommand backend) books) := by
  induction stmts with
  | nil =>
      intro pg books shown _
      exact ⟨[], pg, by rw [done]; rfl, .nil, rfl, shown⟩
  | cons stmt rest inductionHypothesis =>
      intro pg books shown closed
      have step := steps stmt List.mem_cons_self rest pg books shown closed
      unfold HeadFollows at step
      rcases run : Books.execute (stmt.asCommand backend) books.enter with ⟨_ | _, after⟩
      · rw [run] at step
        rw [List.map_cons, Books.interpret_cons_false run]
        exact step
      · rw [run] at step
        obtain ⟨response, middle, answer, head, shows⟩ := step
        have later := inductionHypothesis
          (fun other member => steps other (List.mem_cons_of_mem _ member)) shows (by
            intro each
            simpa [each] using Books.close_not_implicit after)
        rcases rested : Books.interpret closeEach
            (rest.map fun stmt => stmt.asCommand backend)
            (after.closeIf (closeEach || rest.isEmpty)) with ⟨_ | count, final⟩ <;>
          rw [rested] at later <;> rw [← List.isEmpty_map] at rested <;>
          rw [List.map_cons, Books.interpret_cons_true run rested, head]
        · exact passes _ _ response later
        · obtain ⟨responses, last, ran, replies, length, ends⟩ := later
          refine ⟨response :: responses, last, ?_, .cons answer replies, ?_, ends⟩
          · rw [ran]
            rfl
          · rw [List.length_cons, length]

omit [TypeTable] in
theorem awaitsAbort_passes
    (result : Ending E (List Response)) (books : Books E) (response : Response)
    (ended : AwaitsAbort result books) :
    AwaitsAbort (resume result fun more =>
      pure (more.map fun later => response :: later)) books := by
  obtain ⟨outcome, after, rfl, fails, shows⟩ := ended
  match outcome, fails with
  | .ret (.error err), _ => exact ⟨.ret (.error err), after, rfl, trivial, shows⟩
  | .unwind payload, _ => exact ⟨.unwind payload, after, rfl, trivial, shows⟩

omit [TypeTable] in
theorem answeredWithError_passes
    (result : Ending E (List Response)) (books : Books E) (response : Response)
    (ended : AnsweredWithError result books) :
    AnsweredWithError (resume result fun more =>
      pure (more.map fun later => response :: later)) books := by
  obtain ⟨err, after, rfl, shows⟩ := ended
  exact ⟨err, after, rfl, shows⟩

omit [TypeTable] in
/-- The `catch_unwind` around an implicit block answers its failures. -/
theorem catchImplicitBlock_follows {body : PgM E (PgWireResult (List Response))}
    {pg : Pg E} {replies : List Response → Prop} {books : Option Nat × Books E}
    (follows : Follows AwaitsAbort replies (body pg) books) :
    Follows AnsweredWithError replies (catchImplicitBlock body pg) books := by
  rcases books with ⟨_ | count, books⟩
  · obtain ⟨outcome, after, run, fails, shows⟩ := follows
    match outcome, fails with
    | .ret (.error err), _ =>
        exact ⟨err, after.abortCurrent, by
          simp [catchImplicitBlock, Comp.catchUnwind, run], shows⟩
    | .unwind payload, _ =>
        exact ⟨panicToPgwire payload, after.abortCurrent, by
          simp [catchImplicitBlock, Comp.catchUnwind, run], shows⟩
  · obtain ⟨responses, after, run, rest⟩ := follows
    exact ⟨responses, after, by simp [catchImplicitBlock, Comp.catchUnwind, run], rest⟩

/-! ## Statements of an implicit block -/

theorem endsAs_body (backend : ExecutionBackend) {stmt : RawStmt E}
    (clean : containsNul stmt.text = false)
    (ordinary : isTransactionStmt stmt.node = false) :
    EndsAs (stmt.body backend) (stmt.verdict backend) (stmt.effects backend)
      (stmt.AnswersAlone backend) := by
  cases backend with
  | spi => exact endsAs_runViaSpi clean
  | direct =>
      intro pg
      have ends := endsAs_runOneDirect ordinary pg
      cases verdict : stmt.verdict .direct with
      | succeeds =>
          rw [verdict] at ends
          obtain ⟨response, answer, run⟩ := ends
          exact ⟨[response], ⟨response, answer, rfl⟩, by simp [RawStmt.body, run, Except.map]⟩
      | raises =>
          rw [verdict] at ends
          obtain ⟨payload, depth, run⟩ := ends
          exact ⟨payload, depth, by simp [RawStmt.body, run]⟩
      | refuses =>
          rw [verdict] at ends
          obtain ⟨err, run⟩ := ends
          exact ⟨err, by simp [RawStmt.body, run, Except.map]⟩

/-- In an implicit-block loop, a statement that is no transaction statement
does its work or fails. -/
theorem implicitBlockLoop_stepFollows (backend : ExecutionBackend) {stmt : RawStmt E}
    (clean : containsNul stmt.text = false)
    (ordinary : isTransactionStmt stmt.node = false) :
    StepFollows AwaitsAbort false backend (implicitBlockLoop backend) stmt := by
  intro rest pg books shown _
  have notControl := classifyRawStmt_ordinary ordinary
  have ends := endsAs_body backend clean ordinary
  by_cases active : books.phase = .failed
  · have refused : Books.execute (stmt.asCommand backend) books.enter = (false, books) := by
      rcases books with ⟨phase, levels, pending, committed, rolledBack⟩
      cases active
      simp only [Books.enter, RawStmt.asCommand, notControl]
      split <;> rfl
    have aborted := shown.blockState_eq_abort_iff.mpr active
    unfold HeadFollows
    rw [refused]
    refine ⟨.ret (.error abortedTransactionBlockError), pg,
      implicitBlockLoop_refuses backend _ ordinary aborted, trivial, ?_⟩
    simpa only [Books.abandon, active] using shown.abortCurrent
  · have running := Books.running_cases active
    have head := implicitBlockLoop_cons backend rest ordinary
      (mt shown.blockState_eq_abort_iff.mp active)
    by_cases outcome : stmt.verdict backend = .succeeds ∧ stmt.finish = none
    · have executed : Books.execute (stmt.asCommand backend) books.enter =
          (true, books.enter.perform (stmt.effects backend)) := by
        rcases running with phase | phase <;>
          simp only [RawStmt.asCommand, notControl, outcome, and_self, if_true,
            Books.execute, phase]
      unfold HeadFollows
      rw [executed]
      rw [outcome.1] at ends
      obtain ⟨responses, middle, ⟨response, answer, rfl⟩, step, shows⟩ :=
        implicitStep_succeeds (stmt.needsSnapshot backend) rest.isEmpty ends shown active
      refine ⟨response, middle, fun _ => answer, ?_, shows⟩
      rw [head, outcome.2, step]
      rfl
    · have executed : Books.execute (stmt.asCommand backend) books.enter =
          (false, (books.enter.perform (stmt.effects backend)).abandon) := by
        rcases running with phase | phase <;>
          simp only [RawStmt.asCommand, notControl, outcome, if_false,
            Books.execute, phase]
      unfold HeadFollows
      rw [executed]
      obtain ⟨result, after, step, fails, shows⟩ :=
        implicitStep_fails (stmt.needsSnapshot backend) rest.isEmpty ends outcome shown active
      rw [head, step]
      rcases result with (err | value) | payload | _
      · exact ⟨.ret (.error err), after, rfl, trivial, shows⟩
      · exact fails.elim
      · exact ⟨.unwind payload, after, rfl, trivial, shows⟩
      · exact fails.elim

end Rows

end PgTransport.Backend
