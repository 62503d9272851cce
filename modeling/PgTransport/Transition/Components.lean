import Mathlib.Data.List.Forall2

/-!
# Components that are related one by one

A system with a list of components is simulated by one with related components if
what is done to one of them is done to its counterpart.
-/

namespace PgTransport.Transition

universe u v

variable {α : Type u} {β : Type v} {relation : α → β → Prop} {first : List α} {second : List β}

/-! ## What is at a place -/

theorem set_place {index place : Nat} {component found : α}
    (there : (first.set index component)[place]? = some found) :
    place = index ∧ found = component ∨ place ≠ index ∧ first[place]? = some found := by
  rw [List.getElem?_set] at there
  split at there
  · next same =>
    split at there <;> cases there
    exact .inl ⟨same.symm, rfl⟩
  · next different => exact .inr ⟨Ne.symm different, there⟩

theorem modify_place {index place : Nat} {change : α → α} {found : α}
    (there : (first.modify index change)[place]? = some found) :
    ∃ earlier, first[place]? = some earlier ∧ (found = change earlier ∨ found = earlier) := by
  rw [List.getElem?_modify] at there
  obtain ⟨earlier, was, made⟩ := Option.map_eq_some_iff.mp there
  refine ⟨earlier, was, ?_⟩
  split at made
  · exact .inl made.symm
  · exact .inr made.symm

theorem concat_place {place : Nat} {component found : α}
    (there : (first ++ [component])[place]? = some found) :
    first[place]? = some found ∨ found = component ∧ first.length ≤ place := by
  rw [List.getElem?_append] at there
  split at there
  · exact .inl there
  · next beyond =>
    have new : found ∈ [component] := List.mem_of_getElem? there
    exact .inr ⟨List.mem_singleton.mp new, Nat.le_of_not_lt beyond⟩

theorem eraseIdx_place {index place : Nat} {found : α}
    (there : (first.eraseIdx index)[place]? = some found) :
    first[place]? = some found ∨ first[place + 1]? = some found ∧ index ≤ place := by
  rw [List.getElem?_eraseIdx] at there
  split at there
  · exact .inl there
  · next late => exact .inr ⟨there, Nat.le_of_not_lt late⟩

/-! ## Two lists -/

/-- The counterpart of a component. -/
theorem forall₂_getElem? (related : List.Forall₂ relation first second) (index : Nat) :
    (first[index]? = none ∧ second[index]? = none) ∨
      ∃ component counterpart, first[index]? = some component ∧
        second[index]? = some counterpart ∧ relation component counterpart := by
  induction related generalizing index with
  | nil => exact .inl ⟨rfl, rfl⟩
  | cons here _ inductionHypothesis =>
      cases index with
      | zero => exact .inr ⟨_, _, rfl, rfl, here⟩
      | succ index => exact inductionHypothesis index

theorem forall₂_set (related : List.Forall₂ relation first second) (index : Nat)
    {component : α} {counterpart : β} (here : relation component counterpart) :
    List.Forall₂ relation (first.set index component) (second.set index counterpart) := by
  induction related generalizing index with
  | nil => exact .nil
  | cons head tail inductionHypothesis =>
      cases index with
      | zero => exact .cons here tail
      | succ index => exact .cons head (inductionHypothesis index)

theorem forall₂_modify (related : List.Forall₂ relation first second) (index : Nat)
    {change : α → α} {counterchange : β → β}
    (keeps : ∀ component counterpart, relation component counterpart →
      relation (change component) (counterchange counterpart)) :
    List.Forall₂ relation (first.modify index change) (second.modify index counterchange) := by
  induction related generalizing index with
  | nil =>
      rw [List.modify_nil, List.modify_nil]
      exact .nil
  | cons head tail inductionHypothesis =>
      cases index with
      | zero => exact .cons (keeps _ _ head) tail
      | succ index => exact .cons head (inductionHypothesis index)

theorem forall₂_eraseIdx (related : List.Forall₂ relation first second) (index : Nat) :
    List.Forall₂ relation (first.eraseIdx index) (second.eraseIdx index) := by
  induction related generalizing index with
  | nil => exact .nil
  | cons head tail inductionHypothesis =>
      cases index with
      | zero => exact tail
      | succ index => exact .cons head (inductionHypothesis index)

theorem forall₂_concat (related : List.Forall₂ relation first second)
    {component : α} {counterpart : β} (here : relation component counterpart) :
    List.Forall₂ relation (first ++ [component]) (second ++ [counterpart]) :=
  List.rel_append related (.cons here .nil)

/-- A change of one component that is made in both lists, or in neither. -/
theorem forall₂_modify_ite (related : List.Forall₂ relation first second)
    (condition : Prop) [Decidable condition] (index : Nat)
    {change : α → α} {counterchange : β → β}
    (keeps : ∀ component counterpart, relation component counterpart →
      relation (change component) (counterchange counterpart)) :
    List.Forall₂ relation (if condition then first.modify index change else first)
      (if condition then second.modify index counterchange else second) := by
  by_cases changes : condition
  · rw [if_pos changes, if_pos changes]
    exact forall₂_modify related index keeps
  · rw [if_neg changes, if_neg changes]
    exact related

end PgTransport.Transition
