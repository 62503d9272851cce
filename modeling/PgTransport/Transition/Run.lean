import Mathlib.Logic.Basic

/-!
# Runs of labelled transition systems

Runs are indexed by the list of labels they take and by a condition that each
of their steps satisfies.  A condition on steps is how a guarded claim is
stated: a run whose steps all meet one condition is compared with the same run
under another one.  The rules below reduce each such comparison, and each
invariant of the reachable states, to a statement about a single step.
-/

namespace PgTransport.Transition

universe u v

/-- A labelled transition system with its initial states. -/
structure System (σ : Type u) (α : Type v) where
  initial : σ → Prop
  step : σ → α → σ → Prop

variable {σ : Type u} {α : Type v}

/-- A run from one state to another along `labels`, each step of which
satisfies `condition`. -/
inductive RunWith (system : System σ α) (condition : σ → α → σ → Prop) :
    σ → List α → σ → Prop where
  | nil (state : σ) : RunWith system condition state [] state
  | cons {source middle target : σ} {label : α} {labels : List α}
      (step : system.step source label middle)
      (meets : condition source label middle)
      (rest : RunWith system condition middle labels target) :
      RunWith system condition source (label :: labels) target

/-- A run without a condition on its steps. -/
abbrev Run (system : System σ α) : σ → List α → σ → Prop :=
  RunWith system fun _ _ _ => True

/-- A state that some run reaches from an initial state. -/
def Reachable (system : System σ α) (target : σ) : Prop :=
  ∃ source labels, system.initial source ∧ Run system source labels target

/-- A property that holds initially and that every step preserves. -/
structure Invariant (system : System σ α) (holds : σ → Prop) : Prop where
  initial : ∀ state, system.initial state → holds state
  step : ∀ source label target, holds source →
    system.step source label target → holds target

namespace RunWith

variable {system : System σ α} {first second : σ → α → σ → Prop}
  {holds : σ → Prop} {source target : σ} {labels : List α}

/-- A property that steps meeting the condition preserve holds at the end of a
guarded run when it holds at its start. -/
theorem preserves
    (keeps : ∀ source label target, holds source →
      system.step source label target → first source label target → holds target)
    (guarded : RunWith system first source labels target)
    (start : holds source) : holds target := by
  induction guarded with
  | nil => exact start
  | cons step meets _ inductionHypothesis =>
      exact inductionHypothesis (keeps _ _ _ start step meets)

/-- One condition may be replaced by a second that it implies in every state
of an invariant which it preserves. -/
theorem strengthen
    (keeps : ∀ source label target, holds source →
      system.step source label target → first source label target → holds target)
    (implies : ∀ source label target, holds source →
      system.step source label target → first source label target →
        second source label target)
    (guarded : RunWith system first source labels target)
    (start : holds source) : RunWith system second source labels target := by
  induction guarded with
  | nil state => exact .nil state
  | cons step meets _ inductionHypothesis =>
      exact .cons step (implies _ _ _ start step meets)
        (inductionHypothesis (keeps _ _ _ start step meets))

/-- Two conditions that agree in every state of an invariant admit the same
runs from its states. -/
theorem congr (holds : σ → Prop)
    (keeps : ∀ source label target, holds source →
      system.step source label target → holds target)
    (agree : ∀ source label target, holds source →
      system.step source label target →
        (first source label target ↔ second source label target))
    (start : holds source) :
    RunWith system first source labels target ↔
      RunWith system second source labels target := by
  constructor
  · intro guarded
    exact guarded.strengthen (fun _ _ _ here step _ => keeps _ _ _ here step)
      (fun _ _ _ here step meets => (agree _ _ _ here step).mp meets) start
  · intro guarded
    exact guarded.strengthen (fun _ _ _ here step _ => keeps _ _ _ here step)
      (fun _ _ _ here step meets => (agree _ _ _ here step).mpr meets) start

/-- A run behind a run. -/
theorem append {middle : σ} {later : List α}
    (guarded : RunWith system first source labels middle)
    (rest : RunWith system first middle later target) :
    RunWith system first source (labels ++ later) target := by
  induction guarded with
  | nil => exact rest
  | cons step meets _ inductionHypothesis => exact .cons step meets (inductionHypothesis rest)

/-- A property of the labels so far and the state that each step preserves. -/
theorem history {before : List α} {kept : List α → σ → Prop}
    (keeps : ∀ earlier source label target, kept earlier source →
      system.step source label target → first source label target →
        kept (earlier ++ [label]) target)
    (run : RunWith system first source labels target) (start : kept before source) :
    kept (before ++ labels) target := by
  induction run generalizing before with
  | nil =>
      rw [List.append_nil]
      exact start
  | cons step meets _ inductionHypothesis =>
      have later := inductionHypothesis (keeps _ _ _ _ start step meets)
      rw [List.append_assoc] at later
      exact later

/-- A measure that no step raises is no higher at the end of a run. -/
theorem measure_le {measure : σ → Nat}
    (keeps : ∀ source label target, holds source →
      system.step source label target → first source label target → holds target)
    (shrinks : ∀ source label target, holds source →
      system.step source label target → first source label target →
        measure target ≤ measure source)
    (run : RunWith system first source labels target) (start : holds source) :
    measure target ≤ measure source := by
  induction run with
  | nil => exact Nat.le_refl _
  | cons step meets _ inductionHypothesis =>
      exact Nat.le_trans (inductionHypothesis (keeps _ _ _ start step meets))
        (shrinks _ _ _ start step meets)

/-- Such a measure ends a run above a floor, or where it was, exactly if every step
leaves it there. -/
theorem floor_iff {measure : σ → Nat} (floor : Nat)
    (keeps : ∀ source label target, holds source →
      system.step source label target → first source label target → holds target)
    (shrinks : ∀ source label target, holds source →
      system.step source label target → first source label target →
        measure target ≤ measure source)
    (run : RunWith system first source labels target) (start : holds source) :
    min floor (measure source) ≤ measure target ↔
      RunWith system (fun source label target =>
        first source label target ∧ min floor (measure source) ≤ measure target)
        source labels target := by
  constructor
  · intro above
    induction run with
    | nil state => exact .nil state
    | cons step meets rest inductionHypothesis =>
        have later := keeps _ _ _ start step meets
        have least := rest.measure_le keeps shrinks later
        have less := shrinks _ _ _ start step meets
        apply RunWith.cons step ⟨meets, Nat.le_trans above least⟩
        apply inductionHypothesis later
        omega
  · intro guarded
    clear run
    induction guarded with
    | nil => exact Nat.min_le_right _ _
    | cons step meets _ inductionHypothesis =>
        have above := inductionHypothesis (keeps _ _ _ start step meets.1)
        have least := meets.2
        omega

end RunWith

/-- Labels that a partial function takes one after the other are a run. -/
theorem run_of_foldlM {system : System σ α} {next : σ → α → Option σ} {labels : List α}
    {source target : σ}
    (takes : ∀ source label target, label ∈ labels → next source label = some target →
      system.step source label target)
    (taken : labels.foldlM next source = some target) : Run system source labels target := by
  induction labels generalizing source with
  | nil =>
      cases taken
      exact .nil _
  | cons label labels inductionHypothesis =>
      rw [List.foldlM_cons] at taken
      obtain ⟨middle, step, rest⟩ := Option.bind_eq_some_iff.mp taken
      apply RunWith.cons (takes source label middle List.mem_cons_self step) trivial
      apply inductionHypothesis _ rest
      intro source other target member
      exact takes source other target (List.mem_cons_of_mem label member)

/-- A run from a reachable state ends in one. -/
theorem Reachable.run {system : System σ α} {state target : σ} {labels : List α}
    (reached : Reachable system state) (run : Run system state labels target) :
    Reachable system target := by
  obtain ⟨source, earlier, start, before⟩ := reached
  exact ⟨source, earlier ++ labels, start, before.append run⟩

namespace Invariant

variable {system : System σ α} {holds other : σ → Prop}

/-- An invariant holds in every reachable state. -/
theorem reachable (invariant : Invariant system holds) {state : σ}
    (reached : Reachable system state) : holds state := by
  obtain ⟨source, labels, start, run⟩ := reached
  exact run.preserves (fun _ _ _ here step _ => invariant.step _ _ _ here step)
    (invariant.initial source start)

end Invariant

end PgTransport.Transition
