import PgTransport.Computation.Core

/-!
# Computations that cannot tell states apart

Two states are related when a client has no business telling them apart.  A
computation is uniform when it ends in the same way from any two related states,
and leaves related states behind.  Uniform computations compose: what a state
hides from each step, it hides from the whole.
-/

namespace PgTransport.Computation

universe u v w

variable {ε : Type u} {σ : Type v} {α β : Type w} {rel : σ → σ → Prop}

/-- The same ending, in related states. -/
structure Agree (rel : σ → σ → Prop) (first second : Outcome ε α × σ) : Prop where
  outcome : first.1 = second.1
  state : rel first.2 second.2

/-- Related states make no difference to how the computation ends. -/
def Uniform (rel : σ → σ → Prop) (step : Comp ε σ α) : Prop :=
  ∀ ⦃first second : σ⦄, rel first second → Agree rel (step first) (step second)

/-- Two computations that end alike may be continued alike. -/
theorem Agree.resume {first second : Outcome ε α × σ} {next : α → Comp ε σ β}
    (agree : Agree rel first second)
    (later : ∀ value left right, first = (.ret value, left) → second = (.ret value, right) →
      rel left right → Agree rel (next value left) (next value right)) :
    Agree rel (resume first next) (Computation.resume second next) := by
  obtain ⟨outcome, left⟩ := first
  obtain ⟨ending, right⟩ := second
  obtain ⟨same, related⟩ := agree
  cases same
  cases outcome with
  | ret value => exact later value left right rfl rfl related
  | unwind payload => exact ⟨rfl, related⟩
  | halt => exact ⟨rfl, related⟩

namespace Uniform

variable {step : Comp ε σ α} {next : α → Comp ε σ β}

theorem pure (value : α) : Uniform rel (Pure.pure value : Comp ε σ α) :=
  fun _ _ related => ⟨rfl, related⟩

theorem raise (payload : ε) : Uniform rel (Comp.raise payload : Comp ε σ α) :=
  fun _ _ related => ⟨rfl, related⟩

theorem read {view : σ → α} (same : ∀ left right, rel left right → view left = view right) :
    Uniform rel (Comp.read view : Comp ε σ α) := by
  intro left right related
  constructor
  · exact congrArg Outcome.ret (same left right related)
  · exact related

theorem ite {condition : Prop} [Decidable condition] {positive negative : Comp ε σ α}
    (first : Uniform rel positive) (second : Uniform rel negative) :
    Uniform rel (if condition then positive else negative) := by
  split
  · exact first
  · exact second

theorem bind (first : Uniform rel step) (second : ∀ value, Uniform rel (next value)) :
    Uniform rel (step >>= next) := by
  intro left right related
  apply (first related).resume
  intro value middle other _ _ reached
  exact second value reached

theorem catchUnwind {α : Type u} {body : Comp ε σ α} (uniform : Uniform rel body) :
    Uniform rel (Comp.catchUnwind body) := by
  intro left right related
  obtain ⟨same, reached⟩ := uniform related
  rcases first : body left with ⟨outcome, middle⟩
  rcases second : body right with ⟨ending, other⟩
  rw [first, second] at same reached
  cases same
  cases outcome with
  | ret value =>
      rw [Comp.catchUnwind_of_ret first, Comp.catchUnwind_of_ret second]
      exact ⟨rfl, reached⟩
  | unwind payload =>
      rw [Comp.catchUnwind_of_unwind first, Comp.catchUnwind_of_unwind second]
      exact ⟨rfl, reached⟩
  | halt =>
      rw [Comp.catchUnwind_of_halt first, Comp.catchUnwind_of_halt second]
      exact ⟨rfl, reached⟩

end Uniform

end PgTransport.Computation
