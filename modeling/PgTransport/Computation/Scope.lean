import PgTransport.Computation.Ending

/-!
# Scopes and parts of the state

A value that owns something releases it when it is dropped: behind the body of its
scope, or, if the body gives it away, only where the body unwinds.  A computation over the
first of two parts of a state leaves the second alone, and may be accompanied by notes in
the second; a computation with notes shadows the one without.
-/

namespace PgTransport.Computation

universe u v w

variable {ε : Type u} {σ : Type v} {α β : Type}

namespace Comp

/-- Run `release` behind `body` where that unwinds; if it does not return then, the process
halts. -/
def onUnwind (release : Comp ε σ Unit) (body : Comp ε σ α) : Comp ε σ α := fun state =>
  match body state with
  | (.ret value, final) => (.ret value, final)
  | (.unwind payload, final) =>
      match release final with
      | (.ret _, last) => (.unwind payload, last)
      | (_, last) => (.halt, last)
  | (.halt, final) => (.halt, final)

/-- Run `release` behind `body`, whether it returns or unwinds. -/
def releasing (release : Comp ε σ Unit) (body : Comp ε σ α) : Comp ε σ α := do
  let value ← onUnwind release body
  release
  pure value

end Comp

namespace Triple

variable {pre raises raised halted : σ → Prop} {release : Comp ε σ Unit} {body : Comp ε σ α}
  {post mid : α → σ → Prop}

/-- Where the body unwinds, its release leads on. -/
theorem onUnwind (triple : Triple pre body post raises halted)
    (released : Triple raises release (fun _ => raised) Never Never) :
    Triple pre (Comp.onUnwind release body) post raised halted := by
  intro state holds
  have ending := triple state holds
  unfold Comp.onUnwind
  rcases ended : body state with ⟨value | payload | _, final⟩ <;> rw [ended] at ending
  · exact ending
  · have behind := released final ending
    dsimp only
    rcases last : release final with ⟨_ | _ | _, after⟩ <;> rw [last] at behind
    · exact behind
    · exact behind.elim
    · exact behind.elim
  · exact ending

/-- The release leads on from both endings of the body. -/
theorem releasing (triple : Triple pre body mid raises halted)
    (returned : ∀ value, Triple (mid value) release (fun _ => post value) raised halted)
    (unwound : Triple raises release (fun _ => raised) Never Never) :
    Triple pre (Comp.releasing release body) post raised halted := by
  apply bind
  · exact onUnwind triple unwound
  · intro value
    apply bind
    · exact returned value
    · intro _
      exact pure fun _ holds => holds

end Triple

/-! ## Parts of the state -/

section Parts

variable {τ : Type w}

namespace Comp

/-- A computation over the first part. -/
def onFirst (step : Comp ε σ α) : Comp ε (σ × τ) α := fun state =>
  ((step state.1).1, (step state.1).2, state.2)

/-- A note in the second part. -/
def note (change : τ → α × τ) : Comp ε (σ × τ) α := fun state =>
  (.ret (change state.2).1, state.1, (change state.2).2)

end Comp

/-- A condition on each part. -/
def Both (first : σ → Prop) (second : τ → Prop) (state : σ × τ) : Prop :=
  first state.1 ∧ second state.2

namespace Triple

variable {first raised halted : σ → Prop}

/-- What holds of the second part is left alone. -/
theorem onFirst {step : Comp ε σ α} {post : α → σ → Prop}
    (triple : Triple first step post raised halted) (second : τ → Prop) :
    Triple (Both first second) (Comp.onFirst step) (fun value => Both (post value) second)
      (Both raised second) (Both halted second) := by
  rintro state ⟨here, there⟩
  have ending := triple state.1 here
  rw [Comp.onFirst]
  rcases ended : step state.1 with ⟨_ | _ | _, final⟩ <;> rw [ended] at ending <;>
    exact ⟨ending, there⟩

end Triple

/-- The step returns and leaves the first part alone. -/
def Silent (step : Comp ε (σ × τ) α) : Prop :=
  ∀ state, ∃ value part, step state = (.ret value, state.1, part)

namespace Silent

theorem pure (value : α) : Silent (Pure.pure value : Comp ε (σ × τ) α) :=
  fun state => ⟨value, state.2, rfl⟩

theorem note (change : τ → α × τ) : Silent (Comp.note change : Comp ε (σ × τ) α) :=
  fun _ => ⟨_, _, rfl⟩

theorem read (view : σ → α) : Silent (Comp.onFirst (Comp.read view) : Comp ε (σ × τ) α) :=
  fun state => ⟨view state.1, state.2, rfl⟩

theorem bind {step : Comp ε (σ × τ) α} {next : α → Comp ε (σ × τ) β} (first : Silent step)
    (second : ∀ value, Silent (next value)) : Silent (step >>= next) := by
  intro state
  obtain ⟨value, part, run⟩ := first state
  obtain ⟨result, last, rest⟩ := second value (state.1, part)
  refine ⟨result, last, ?_⟩
  rw [Comp.bind_apply, run]
  exact rest

theorem ite {condition : Prop} [Decidable condition] {positive negative : Comp ε (σ × τ) α}
    (first : Silent positive) (second : Silent negative) :
    Silent (if condition then positive else negative) := by
  split
  · exact first
  · exact second

end Silent

/-- An ending without the second part of its state, and with its value seen through
`view`. -/
def withoutNotes (view : α → β) : Outcome ε α × (σ × τ) → Outcome ε β × σ
  | (.ret value, state) => (.ret (view value), state.1)
  | (.unwind payload, state) => (.unwind payload, state.1)
  | (.halt, state) => (.halt, state.1)

/-- Without its notes the computation is `plain`. -/
def Shadows (view : α → β) (step : Comp ε (σ × τ) α) (plain : Comp ε σ β) : Prop :=
  ∀ state, withoutNotes view (step state) = plain state.1

namespace Shadows

variable {γ δ : Type} {view : α → β} {step : Comp ε (σ × τ) α} {plain : Comp ε σ β}

theorem pure (view : α → β) (value : α) :
    Shadows view (Pure.pure value : Comp ε (σ × τ) α) (Pure.pure (view value)) :=
  fun _ => rfl

theorem onFirst (step : Comp ε σ α) :
    Shadows id (Comp.onFirst step : Comp ε (σ × τ) α) step := by
  intro state
  rw [Comp.onFirst]
  rcases step state.1 with ⟨_ | _ | _, final⟩ <;> rfl

theorem bind {other : γ → δ} {next : α → Comp ε (σ × τ) γ} {plainNext : β → Comp ε σ δ}
    (first : Shadows view step plain)
    (second : ∀ value, Shadows other (next value) (plainNext (view value))) :
    Shadows other (step >>= next) (plain >>= plainNext) := by
  intro state
  rw [Comp.bind_apply, Comp.bind_apply, ← first state]
  rcases step state with ⟨value | payload | _, final⟩
  · exact second value final
  · rfl
  · rfl

/-- A silent step in front makes no difference. -/
theorem silent_bind {first : Comp ε (σ × τ) γ} {next : γ → Comp ε (σ × τ) α}
    (silent : Silent first) (shadows : ∀ value, Shadows view (next value) plain) :
    Shadows view (first >>= next) plain := by
  intro state
  obtain ⟨value, part, run⟩ := silent state
  rw [Comp.bind_apply, run]
  exact shadows value (state.1, part)

/-- Nor does one behind. -/
theorem bind_silent {first : Comp ε (σ × τ) Unit} {last : Unit → Comp ε (σ × τ) Unit}
    {plain : Comp ε σ Unit} (shadows : Shadows id first plain)
    (silent : ∀ value, Silent (last value)) : Shadows id (first >>= last) plain := by
  intro state
  rw [← shadows state, Comp.bind_apply]
  rcases first state with ⟨value | payload | _, final⟩
  · obtain ⟨_, part, run⟩ := silent value final
    rw [resume_ret, run]
    rfl
  · rfl
  · rfl

/-- A step that returns what is known makes no difference but for its value. -/
theorem bind_known {known : β} {next : α → Comp ε (σ × τ) γ} {plain : Comp ε σ γ}
    (first : Shadows view step (Pure.pure known))
    (second : ∀ value, view value = known → Shadows id (next value) plain) :
    Shadows id (step >>= next) plain := by
  intro state
  have returns := first state
  rw [Comp.bind_apply]
  rcases ended : step state with ⟨value | payload | _, final⟩ <;> rw [ended] at returns
  · obtain ⟨same, there⟩ := Prod.mk.inj returns
    rw [resume_ret, second value (Outcome.ret.inj same) final, there]
  · cases returns
  · cases returns

theorem catchUnwind {ε α β : Type} {σ : Type v} {τ : Type w} {view : α → β}
    {step : Comp ε (σ × τ) α} {plain : Comp ε σ β} (shadows : Shadows view step plain) :
    Shadows (Except.map view) (Comp.catchUnwind step) (Comp.catchUnwind plain) := by
  intro state
  rw [Comp.catchUnwind, Comp.catchUnwind, ← shadows state]
  rcases step state with ⟨value | payload | _, final⟩ <;> rfl

/-- A silent release makes no difference. -/
theorem onUnwind {release : Comp ε (σ × τ) Unit} (silent : Silent release)
    (shadows : Shadows view step plain) : Shadows view (Comp.onUnwind release step) plain := by
  intro state
  rw [← shadows state, Comp.onUnwind]
  rcases step state with ⟨value | payload | _, final⟩
  · rfl
  · obtain ⟨_, part, run⟩ := silent final
    dsimp only
    rw [run]
    rfl
  · rfl

theorem releasing {release : Comp ε (σ × τ) Unit} (silent : Silent release)
    (shadows : Shadows view step plain) : Shadows view (Comp.releasing release step) plain := by
  intro state
  rw [← onUnwind silent shadows state, Comp.releasing, Comp.bind_apply]
  rcases Comp.onUnwind release step state with ⟨value | payload | _, final⟩
  · obtain ⟨_, part, run⟩ := silent final
    rw [resume_ret, Comp.bind_apply, run]
    rfl
  · rfl
  · rfl

theorem ite {condition : Prop} [Decidable condition] {positive negative : Comp ε (σ × τ) α}
    {plainPositive plainNegative : Comp ε σ β} (first : Shadows view positive plainPositive)
    (second : Shadows view negative plainNegative) :
    Shadows view (if condition then positive else negative)
      (if condition then plainPositive else plainNegative) := by
  split
  · exact first
  · exact second

end Shadows

end Parts

end PgTransport.Computation
