import PgTransport.Computation.Core

/-!
# Pre- and postconditions

A computation ends in one of three ways, so that its postcondition has three
parts: what holds when it returns a value, when it unwinds, and when it halts.
The rules follow the ways in which computations are put together.
-/

namespace PgTransport.Computation

universe u v w

variable {ε : Type u} {σ : Type v} {α β : Type w}

/-- The ending satisfies the condition for its kind. -/
def Meets (post : α → σ → Prop) (raised halted : σ → Prop) : Outcome ε α × σ → Prop
  | (.ret value, state) => post value state
  | (.unwind _, state) => raised state
  | (.halt, state) => halted state

/-- Weaken each of the three conditions. -/
theorem Meets.imp {post weaker : α → σ → Prop} {raised halted raises halts : σ → Prop}
    {ended : Outcome ε α × σ} (ending : Meets post raised halted ended)
    (after : ∀ value state, post value state → weaker value state)
    (unwound : ∀ state, raised state → raises state)
    (stopped : ∀ state, halted state → halts state) : Meets weaker raises halts ended := by
  rcases ended with ⟨value | payload | _, final⟩
  · exact after value final ending
  · exact unwound final ending
  · exact stopped final ending

/-- Another value in the same state. -/
theorem Meets.map {post raised halted : σ → Prop} {step : Comp ε σ α} {state : σ}
    (ending : Meets (fun _ => post) raised halted (step state)) (change : α → β) :
    Meets (fun _ => post) raised halted ((do let value ← step; pure (change value)) state) := by
  rw [Comp.bind_apply]
  rcases ended : step state with ⟨value | payload | _, final⟩ <;> rw [ended] at ending <;>
    exact ending

/-- The condition on a value and the one on an unwinding, once it is caught. -/
def Caught (post : α → σ → Prop) (raised : σ → Prop) : Except ε α → σ → Prop
  | .ok value => post value
  | .error _ => raised

/-- From every state with `pre`, the computation ends as the conditions say. -/
def Triple (pre : σ → Prop) (step : Comp ε σ α) (post : α → σ → Prop)
    (raised halted : σ → Prop) : Prop :=
  ∀ state, pre state → Meets post raised halted (step state)

/-- An ending that does not occur. -/
def Never : σ → Prop :=
  fun _ => False

namespace Triple

variable {pre : σ → Prop} {step : Comp ε σ α} {post : α → σ → Prop}
  {raised halted : σ → Prop}

theorem pure {value : α} (holds : ∀ state, pre state → post value state) :
    Triple pre (Pure.pure value : Comp ε σ α) post raised halted :=
  holds

/-- Observe the state. -/
theorem read (view : σ → α) :
    Triple pre (Comp.read view : Comp ε σ α) (fun value state => pre state ∧ view state = value)
      raised halted :=
  fun _ holds => ⟨holds, rfl⟩

/-- Strengthen what is assumed and weaken what is concluded. -/
theorem consequence {stronger : σ → Prop} {weaker : α → σ → Prop} {raises halts : σ → Prop}
    (triple : Triple pre step post raised halted)
    (before : ∀ state, stronger state → pre state)
    (after : ∀ value state, post value state → weaker value state)
    (unwound : ∀ state, raised state → raises state)
    (stopped : ∀ state, halted state → halts state) :
    Triple stronger step weaker raises halts :=
  fun state holds => (triple state (before state holds)).imp after unwound stopped

/-- Strengthen what is assumed. -/
theorem assuming {stronger : σ → Prop} (triple : Triple pre step post raised halted)
    (before : ∀ state, stronger state → pre state) :
    Triple stronger step post raised halted :=
  fun state holds => triple state (before state holds)

/-- Weaken what is concluded where a value is returned. -/
theorem concluding {weaker : α → σ → Prop} (triple : Triple pre step post raised halted)
    (after : ∀ value state, post value state → weaker value state) :
    Triple pre step weaker raised halted :=
  fun state holds => (triple state holds).imp after (fun _ raises => raises) fun _ halts => halts

/-- What is seen of the state may be fixed before the step. -/
theorem observing {γ : Type*} (view : σ → γ)
    (each : ∀ seen, Triple (fun state => pre state ∧ view state = seen) step post raised halted) :
    Triple pre step post raised halted :=
  fun state holds => each (view state) state ⟨holds, rfl⟩

/-- What the condition before the step implies of the surroundings may be used. -/
theorem knowing (known : Prop) (implied : ∀ state, pre state → known)
    (triple : known → Triple pre step post raised halted) :
    Triple pre step post raised halted :=
  fun state holds => triple (implied state holds) state holds

/-- The second step starts in what the first one has established. -/
theorem bind {middle : α → σ → Prop} {next : α → Comp ε σ β} {final : β → σ → Prop}
    (first : Triple pre step middle raised halted)
    (second : ∀ value, Triple (middle value) (next value) final raised halted) :
    Triple pre (step >>= next) final raised halted := by
  intro state holds
  have ending := first state holds
  rw [Comp.bind_apply]
  rcases ended : step state with ⟨value | payload | _, mid⟩ <;> rw [ended] at ending
  · exact second value mid ending
  · exact ending
  · exact ending

/-- A step that neither unwinds nor halts meets every condition on such endings. -/
theorem surely (triple : Triple pre step post Never Never) :
    Triple pre step post raised halted :=
  triple.consequence (fun _ holds => holds) (fun _ _ holds => holds)
    (fun _ impossible => impossible.elim) fun _ impossible => impossible.elim

theorem ite {condition : Prop} [Decidable condition] {positive negative : Comp ε σ α}
    (first : condition → Triple pre positive post raised halted)
    (second : ¬condition → Triple pre negative post raised halted) :
    Triple pre (if condition then positive else negative) post raised halted := by
  split
  · next holds => exact first holds
  · next fails => exact second fails

/-- What is caught has returned, and what unwound is a value. -/
theorem catchUnwind {α : Type u} {body : Comp ε σ α} {post : α → σ → Prop} {raises : σ → Prop}
    (triple : Triple pre body post raised halted) :
    Triple pre (Comp.catchUnwind body) (Caught post raised) raises halted := by
  intro state holds
  have ending := triple state holds
  rcases ended : body state with ⟨value | payload | _, final⟩ <;> rw [ended] at ending
  · rw [Comp.catchUnwind_of_ret ended]
    exact ending
  · rw [Comp.catchUnwind_of_unwind ended]
    exact ending
  · rw [Comp.catchUnwind_of_halt ended]
    exact ending

/-- The conditions on a returned value and on the state it is returned in. -/
theorem returned {value : α} {state final : σ} (triple : Triple pre step post raised halted)
    (holds : pre state) (run : step state = (.ret value, final)) : post value final := by
  have ending := triple state holds
  rwa [run] at ending

end Triple

end PgTransport.Computation
