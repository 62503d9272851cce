import Mathlib.Data.List.Basic

/-!
# The books of a session

This module says what transaction blocks are for, without reference to any
server: work is pending until the transaction that did it ends, and then it is
committed or rolled back as a whole.  A batch of commands is interpreted in one
of two ways.  Closing every command makes each of them a transaction of its own
while no block is open; closing only the last command makes one implicit
transaction of the commands outside a block.
-/

namespace PgTransport.Transaction

universe u

/-- Where a session stands: outside a transaction, in the implicit transaction
of a batch, in an explicit block, or in a block that has failed. -/
inductive Phase where
  | outside
  | implicit
  | explicit
  | failed
  deriving DecidableEq, Repr

/-- What a command does: some work, some work before it fails, or transaction
control. -/
inductive Command (E : Type u) where
  | run (effects : List E)
  | fail (effects : List E)
  | begin
  | commit
  | rollback
  deriving DecidableEq, Repr

/-- The books of a session.  `levels` holds, from the innermost savepoint
outwards, how much of the pending work was done before it. -/
structure Books (E : Type u) where
  phase : Phase
  levels : List Nat
  pending : List E
  committed : List E
  rolledBack : List E
  deriving DecidableEq, Repr

variable {E : Type u}

namespace Books

/-! ## Operations -/

/-- Do some work in the running transaction. -/
def perform (effects : List E) (books : Books E) : Books E :=
  { books with pending := books.pending ++ effects }

/-- Commit the running transaction. -/
def commit (books : Books E) : Books E :=
  ⟨.outside, [], [], books.committed ++ books.pending, books.rolledBack⟩

/-- Roll the running transaction back. -/
def rollback (books : Books E) : Books E :=
  ⟨.outside, [], [], books.committed, books.rolledBack ++ books.pending⟩

/-- Fail: an implicit transaction is rolled back, an explicit block loses the
work of its innermost level and waits for its end. -/
def abandon (books : Books E) : Books E :=
  match books.phase with
  | .outside | .failed => books
  | .implicit => books.rollback
  | .explicit =>
      { books with
        phase := .failed
        pending := books.pending.take (books.levels.headD 0)
        rolledBack := books.rolledBack ++ books.pending.drop (books.levels.headD 0) }

/-- End a failed block. -/
def leave (books : Books E) : Books E :=
  match books.levels with
  | [] => ⟨.outside, [], [], books.committed, books.rolledBack⟩
  | _ :: _ => books.rollback

/-- Start an implicit transaction when none is running. -/
def enter (books : Books E) : Books E :=
  match books.phase with
  | .outside => ⟨.implicit, [], [], books.committed, books.rolledBack⟩
  | _ => books

/-- Commit an implicit transaction. -/
def close (books : Books E) : Books E :=
  match books.phase with
  | .implicit => books.commit
  | _ => books

/-- Close the books behind a command when `now` says so. -/
def closeIf (now : Bool) (books : Books E) : Books E :=
  if now then books.close else books

/-- Turn an implicit transaction into an explicit block. -/
def openBlock (books : Books E) : Books E :=
  match books.phase with
  | .implicit => { books with phase := .explicit }
  | _ => books

/-- Execute a command in a running transaction, and say whether it succeeds. -/
def execute (command : Command E) (books : Books E) : Bool × Books E :=
  match books.phase, command with
  | .failed, .commit | .failed, .rollback => (true, books.leave)
  | .failed, _ => (false, books)
  | _, .run effects => (true, books.perform effects)
  | _, .fail effects => (false, (books.perform effects).abandon)
  | _, .begin => (true, books.openBlock)
  | _, .commit => (true, books.commit)
  | _, .rollback => (true, books.rollback)

/-- Interpret a batch: the number of its responses unless a command fails, and
the books it leaves.  `closeEach` closes the books behind every command, and
otherwise only behind the last one. -/
def interpret (closeEach : Bool) : List (Command E) → Books E → Option Nat × Books E
  | [], books => (some 0, books)
  | command :: commands, books =>
      match execute command books.enter with
      | (false, after) => (none, after)
      | (true, after) =>
          let rest := interpret closeEach commands
            (after.closeIf (closeEach || commands.isEmpty))
          (rest.1.map (· + 1), rest.2)

/-! ## Rules -/

@[simp]
theorem enter_enter (books : Books E) : books.enter.enter = books.enter := by
  rcases books with ⟨_ | _ | _ | _, levels, pending, committed, rolledBack⟩ <;> rfl

@[simp]
theorem closeIf_true (books : Books E) : books.closeIf true = books.close :=
  rfl

@[simp]
theorem closeIf_false (books : Books E) : books.closeIf false = books :=
  rfl

/-- An implicit transaction stays open while commands are left. -/
theorem closeIf_of_ne_nil {commands : List (Command E)} (content : commands ≠ [])
    (books : Books E) : books.closeIf (false || commands.isEmpty) = books := by
  cases commands with
  | nil => exact absurd rfl content
  | cons => rfl

theorem enter_entered (books : Books E) : books.enter.phase ≠ .outside := by
  rcases books with ⟨_ | _ | _ | _, levels, pending, committed, rolledBack⟩ <;> simp [enter]

theorem enter_failed_iff (books : Books E) :
    books.enter.phase = .failed ↔ books.phase = .failed := by
  rcases books with ⟨_ | _ | _ | _, levels, pending, committed, rolledBack⟩ <;> simp [enter]

theorem interpret_cons_false {closeEach : Bool} {command : Command E}
    {commands : List (Command E)} {books after : Books E}
    (fails : execute command books.enter = (false, after)) :
    interpret closeEach (command :: commands) books = (none, after) := by
  simp only [interpret, fails]

theorem interpret_cons_true {closeEach : Bool} {command : Command E}
    {commands : List (Command E)} {books after final : Books E} {count : Option Nat}
    (succeeds : execute command books.enter = (true, after))
    (rest : interpret closeEach commands
      (after.closeIf (closeEach || commands.isEmpty)) = (count, final)) :
    interpret closeEach (command :: commands) books = (count.map (· + 1), final) := by
  simp only [interpret, succeeds, rest]

theorem close_not_implicit (books : Books E) : books.close.phase ≠ .implicit := by
  rcases books with ⟨_ | _ | _ | _, levels, pending, committed, rolledBack⟩ <;>
    simp [close, commit]

/-- A batch of one command is interpreted in the same way by both modes. -/
theorem interpret_single (closeEach : Bool) (command : Command E) (books : Books E) :
    interpret closeEach [command] books = interpret true [command] books := by
  simp only [interpret, List.isEmpty_nil, Bool.or_true]

/-! ## Transaction control -/

/-- The command is transaction control. -/
def IsControl (command : Command E) : Prop :=
  command = .begin ∨ command = .commit ∨ command = .rollback

/-- Closing the books behind transaction control changes nothing, as no
implicit transaction is left to commit. -/
theorem closeIf_of_control {command : Command E} {books after : Books E}
    (control : IsControl command) (executed : execute command books = (true, after))
    (now : Bool) : after.closeIf now = after := by
  have closed : after.close = after := by
    rcases books with ⟨_ | _ | _ | _, _ | ⟨level, levels⟩, pending, committed, rolledBack⟩ <;>
      rcases control with rfl | rfl | rfl <;> cases executed <;> rfl
  cases now with
  | false => rfl
  | true => exact closed

/-! ## Batches without transaction control -/

/-- The work of a command. -/
def effectsOf : Command E → List E
  | .run effects | .fail effects => effects
  | _ => []

/-- The command does work and does not fail. -/
def Runs (command : Command E) : Prop :=
  ∃ effects, command = .run effects

/-- The command does work, and then may fail. -/
def Works (command : Command E) : Prop :=
  Runs command ∨ ∃ effects, command = .fail effects

/-- A transaction in which commands can be executed. -/
theorem running_cases {books : Books E} (active : books.phase ≠ .failed) :
    books.enter.phase = .implicit ∨ books.enter.phase = .explicit := by
  cases here : books.phase <;> simp_all [enter]

theorem enter_perform {books : Books E} (active : books.phase ≠ .failed)
    (effects : List E) :
    (books.enter.perform effects).enter = books.enter.perform effects ∧
      (books.enter.perform effects).phase ≠ .failed := by
  rcases running_cases active with phase | phase <;>
    simp [enter, perform] at phase ⊢ <;> simp [phase]

theorem perform_perform (first second : List E) (books : Books E) :
    (books.perform first).perform second = books.perform (first ++ second) := by
  simp only [perform, List.append_assoc]

/-- A batch whose commands all run does all of its work, and commits it if it
was an implicit transaction. -/
theorem interpret_runs {commands : List (Command E)}
    (runs : ∀ command ∈ commands, Runs command) (content : commands ≠ []) :
    ∀ {books : Books E}, books.phase ≠ .failed →
      interpret false commands books =
        (some commands.length,
          (books.enter.perform (commands.flatMap effectsOf)).close) := by
  induction commands with
  | nil => exact absurd rfl content
  | cons command commands inductionHypothesis =>
      intro books active
      obtain ⟨effects, rfl⟩ := runs command List.mem_cons_self
      have executed : execute (.run effects) books.enter =
          (true, books.enter.perform effects) := by
        rcases running_cases active with phase | phase <;> simp only [execute, phase]
      obtain ⟨entered, stillActive⟩ := enter_perform active effects
      by_cases last : commands = []
      · subst last
        have rest : interpret false [] ((books.enter.perform effects).closeIf
            (false || true)) = (some 0, (books.enter.perform effects).closeIf
              (false || true)) := rfl
        rw [interpret_cons_true executed rest]
        simp [effectsOf]
      · have rest := inductionHypothesis
          (fun other member => runs other (List.mem_cons_of_mem _ member)) last stillActive
        rw [interpret_cons_true executed ((congrArg _ (closeIf_of_ne_nil last _)).trans rest),
          entered, perform_perform]
        rfl

/-- A batch of which a command fails abandons all of its work. -/
theorem interpret_fails {commands : List (Command E)}
    (works : ∀ command ∈ commands, Works command)
    (failing : ¬∀ command ∈ commands, Runs command) :
    ∀ {books : Books E}, books.phase ≠ .failed →
      ∃ done, interpret false commands books =
        (none, (books.enter.perform done).abandon) := by
  induction commands with
  | nil => simp at failing
  | cons command commands inductionHypothesis =>
      intro books active
      rcases works command List.mem_cons_self with ⟨effects, rfl⟩ | ⟨effects, rfl⟩
      · have executed : execute (.run effects) books.enter =
            (true, books.enter.perform effects) := by
          rcases running_cases active with phase | phase <;> simp only [execute, phase]
        obtain ⟨entered, stillActive⟩ := enter_perform active effects
        have later : ¬∀ command ∈ commands, Runs command := fun all =>
          failing (List.forall_mem_cons.mpr ⟨⟨effects, rfl⟩, all⟩)
        have notLast : commands ≠ [] := by
          rintro rfl
          simp at later
        obtain ⟨done, rest⟩ := inductionHypothesis
          (fun other member => works other (List.mem_cons_of_mem _ member)) later stillActive
        rw [entered, perform_perform] at rest
        exact ⟨effects ++ done, interpret_cons_true executed
          ((congrArg _ (closeIf_of_ne_nil notLast _)).trans rest)⟩
      · have executed : execute (.fail effects) books.enter =
            (false, (books.enter.perform effects).abandon) := by
          rcases running_cases active with phase | phase <;> simp only [execute, phase]
        exact ⟨effects, interpret_cons_false executed⟩

end Books

end PgTransport.Transaction
