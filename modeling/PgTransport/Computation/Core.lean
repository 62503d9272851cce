import Mathlib.Order.Defs.Unbundled

/-!
# Computations that return, unwind or halt

A computation threads a state and ends in one of three ways: it returns a
value, it unwinds with a payload that an enclosing handler may catch, or it
halts the process, which nothing catches.  The state reached so far survives
all three endings, so what was done before a failure stays observable.

Sequencing is described by `resume`, so that symbolic execution proceeds by
rewriting the outcome of the first step and never has to unfold a match.
-/

namespace PgTransport.Computation

universe u v w

/-- The ending of a computation. -/
inductive Outcome (ε : Type u) (α : Type w) where
  | ret (value : α)
  | unwind (payload : ε)
  | halt
  deriving DecidableEq, Repr

/-- A computation over the state `σ` that unwinds with payloads of type `ε`. -/
def Comp (ε : Type u) (σ : Type v) (α : Type w) :=
  σ → Outcome ε α × σ

variable {ε : Type u} {σ : Type v} {α β : Type w}

/-- Continue with `next` after a computation that ended in `result`. -/
def resume (result : Outcome ε α × σ) (next : α → Comp ε σ β) :
    Outcome ε β × σ :=
  match result with
  | (.ret value, state) => next value state
  | (.unwind payload, state) => (.unwind payload, state)
  | (.halt, state) => (.halt, state)

@[simp]
theorem resume_ret (value : α) (state : σ) (next : α → Comp ε σ β) :
    resume (.ret value, state) next = next value state :=
  rfl

@[simp]
theorem resume_unwind (payload : ε) (state : σ) (next : α → Comp ε σ β) :
    resume (.unwind payload, state) next = (.unwind payload, state) :=
  rfl

@[simp]
theorem resume_halt (state : σ) (next : α → Comp ε σ β) :
    resume ((.halt : Outcome ε α), state) next = (.halt, state) :=
  rfl

theorem resume_congr {result : Outcome ε α × σ} {first second : α → Comp ε σ β}
    (agree : ∀ value state, first value state = second value state) :
    resume result first = resume result second := by
  rcases result with ⟨_ | _ | _, state⟩
  · exact agree _ _
  · rfl
  · rfl

namespace Comp

instance : Monad (Comp ε σ) where
  pure value := fun state => (.ret value, state)
  bind step next := fun state => resume (step state) next

@[simp]
theorem pure_apply (value : α) (state : σ) :
    (pure value : Comp ε σ α) state = (.ret value, state) :=
  rfl

@[simp]
theorem bind_apply (step : Comp ε σ α) (next : α → Comp ε σ β) (state : σ) :
    (step >>= next) state = resume (step state) next :=
  rfl

instance : LawfulMonad (Comp.{u, v, w} ε σ) :=
  LawfulMonad.mk' _
    (by
      intro α step
      funext state
      change resume (step state) _ = step state
      rcases step state with ⟨_ | _ | _, final⟩ <;> rfl)
    (fun _ _ => rfl)
    (by
      intro α β γ step next last
      funext state
      change resume (resume (step state) next) last = resume (step state) _
      rcases step state with ⟨_ | _ | _, final⟩ <;> rfl)

@[simp]
theorem map_apply (change : α → β) (step : Comp ε σ α) (state : σ) :
    (change <$> step) state =
      resume (step state) fun value => (pure (change value) : Comp ε σ β) :=
  rfl

/-- Resumption is associative. -/
theorem resume_resume {γ : Type w} (result : Outcome ε α × σ) (next : α → Comp ε σ β)
    (last : β → Comp ε σ γ) :
    resume (resume result next) last = resume result fun value => next value >>= last := by
  rcases result with ⟨_ | _ | _, state⟩ <;> rfl

/-- Observe the state. -/
def read (view : σ → α) : Comp ε σ α :=
  fun state => (.ret (view state), state)

@[simp]
theorem read_apply (view : σ → α) (state : σ) :
    (read view : Comp ε σ α) state = (.ret (view state), state) :=
  rfl

/-- Unwind with a payload. -/
def raise (payload : ε) : Comp ε σ α :=
  fun state => (.unwind payload, state)

@[simp]
theorem raise_apply (payload : ε) (state : σ) :
    (raise payload : Comp ε σ α) state = (.unwind payload, state) :=
  rfl

/-- Run `body` and turn unwinding into a value; halting is not caught. -/
def catchUnwind {α : Type u} (body : Comp ε σ α) : Comp ε σ (Except ε α) :=
  fun state =>
    match body state with
    | (.ret value, final) => (.ret (.ok value), final)
    | (.unwind payload, final) => (.ret (.error payload), final)
    | (.halt, final) => (.halt, final)

section Catch

variable {α : Type u} {body : Comp ε σ α} {state final : σ}

theorem catchUnwind_of_ret {value : α} (run : body state = (.ret value, final)) :
    catchUnwind body state = (.ret (.ok value), final) := by
  simp [catchUnwind, run]

theorem catchUnwind_of_unwind {payload : ε}
    (run : body state = (.unwind payload, final)) :
    catchUnwind body state = (.ret (.error payload), final) := by
  simp [catchUnwind, run]

theorem catchUnwind_of_halt (run : body state = (.halt, final)) :
    catchUnwind body state = (.halt, final) := by
  simp [catchUnwind, run]

end Catch

end Comp

/-! ## Relations between the start and every ending -/

/-- However the computation ends, its last state is related to its first. -/
def Moves (rel : σ → σ → Prop) (step : Comp ε σ α) : Prop :=
  ∀ state, rel state (step state).2

namespace Moves

variable {rel : σ → σ → Prop} [IsPreorder σ rel] {step : Comp ε σ α}
  {next : α → Comp ε σ β}

theorem pure (value : α) : Moves rel (Pure.pure value : Comp ε σ α) :=
  fun state => refl_of rel state

theorem read (view : σ → α) : Moves rel (Comp.read view : Comp ε σ α) :=
  fun state => refl_of rel state

theorem raise (payload : ε) : Moves rel (Comp.raise payload : Comp ε σ α) :=
  fun state => refl_of rel state

omit [IsPreorder σ rel] in
theorem ite {condition : Prop} [Decidable condition] {positive negative : Comp ε σ α}
    (first : Moves rel positive) (second : Moves rel negative) :
    Moves rel (if condition then positive else negative) := by
  split
  · exact first
  · exact second

/-- Sequencing from one state: the continuation matters only where the first
step returns. -/
theorem bind_at {state : σ} (first : rel state (step state).2)
    (second : ∀ value middle, step state = (.ret value, middle) →
      rel middle (next value middle).2) :
    rel state ((step >>= next) state).2 := by
  rw [Comp.bind_apply]
  rcases ended : step state with ⟨outcome, middle⟩
  rw [ended] at first
  cases outcome with
  | ret value => exact trans_of rel first (second value middle ended)
  | unwind payload => exact first
  | halt => exact first

theorem bind (first : Moves rel step) (second : ∀ value, Moves rel (next value)) :
    Moves rel (step >>= next) :=
  fun state => bind_at (first state) fun value middle _ => second value middle

omit [IsPreorder σ rel] in
theorem catchUnwind {α : Type u} {body : Comp ε σ α} (moves : Moves rel body) :
    Moves rel (Comp.catchUnwind body) := by
  intro state
  have moved := moves state
  rcases ended : body state with ⟨_ | _ | _, middle⟩ <;>
    simpa [Comp.catchUnwind, ended] using moved

end Moves

/-! ## What a computation returns -/

/-- Every value the computation returns satisfies `post`. -/
def Returns (step : Comp ε σ α) (post : α → Prop) : Prop :=
  ∀ state value final, step state = (.ret value, final) → post value

namespace Returns

variable {step : Comp ε σ α} {next : α → Comp ε σ β} {post : α → Prop}
  {after : β → Prop}

theorem pure {value : α} (holds : post value) :
    Returns (Pure.pure value : Comp ε σ α) post := by
  intro state result final run
  cases run
  exact holds

theorem raise (payload : ε) : Returns (Comp.raise payload : Comp ε σ α) post := by
  intro state result final run
  cases run

theorem any (step : Comp ε σ α) : Returns step fun _ => True :=
  fun _ _ _ _ => trivial

theorem ite {condition : Prop} [Decidable condition] {positive negative : Comp ε σ α}
    (first : Returns positive post) (second : Returns negative post) :
    Returns (if condition then positive else negative) post := by
  split
  · exact first
  · exact second

theorem bind (first : Returns step post) (second : ∀ value, post value →
    Returns (next value) after) : Returns (step >>= next) after := by
  intro state result final run
  rw [Comp.bind_apply] at run
  rcases ended : step state with ⟨outcome, middle⟩
  rw [ended] at run
  cases outcome with
  | ret value => exact second value (first state value middle ended) middle result final run
  | unwind payload => cases run
  | halt => cases run

theorem catchUnwind {α : Type u} {body : Comp ε σ α} {post : α → Prop}
    (returns : Returns body post) :
    Returns (Comp.catchUnwind body) fun outcome =>
      ∀ value, outcome = .ok value → post value := by
  intro state outcome final run value same
  subst same
  rcases ended : body state with ⟨ending, middle⟩
  cases ending with
  | ret result =>
      rw [Comp.catchUnwind_of_ret ended] at run
      cases run
      exact returns state value final ended
  | unwind payload =>
      rw [Comp.catchUnwind_of_unwind ended] at run
      cases run
  | halt =>
      rw [Comp.catchUnwind_of_halt ended] at run
      cases run

end Returns

end PgTransport.Computation
