import Mathlib.Data.List.Infix
import PgTransport.Computation.Core

/-!
# Memory contexts

A context is given by its number and those of its ancestors, so that its descendants are
the contexts that it is a suffix of.  A new context draws a number that no context in use
has; numbers of deleted contexts may come back, as addresses do.
-/

namespace PgTransport.Postgres

open PgTransport.Computation

universe u

/-- `MemoryContext`: a number in front of the numbers of the ancestors. -/
abbrev MemoryContext : Type :=
  List Nat

/-- `TopMemoryContext`. -/
def topMemoryContext : MemoryContext :=
  [0]

/-- `CurrentMemoryContext` and the contexts that are alive. -/
structure Contexts where
  current : MemoryContext
  live : List MemoryContext
  deriving DecidableEq, Repr

namespace Contexts

/-- A number above those of all contexts in use. -/
def unused (contexts : Contexts) (parent : MemoryContext) : Nat :=
  (contexts.current ++ parent ++ contexts.live.flatten).foldr max 0 + 1

/-- The next child of a context. -/
def child (contexts : Contexts) (parent : MemoryContext) : MemoryContext :=
  contexts.unused parent :: parent

/-- With one more context. -/
def add (contexts : Contexts) (context : MemoryContext) : Contexts :=
  { contexts with live := contexts.live ++ [context] }

/-- Without a context and its descendants. -/
def delete (contexts : Contexts) (context : MemoryContext) : Contexts :=
  { contexts with live := contexts.live.filter fun other => !context.isSuffixOf other }

/-- With another current context. -/
def switchTo (contexts : Contexts) (context : MemoryContext) : Contexts :=
  { contexts with current := context }

end Contexts

variable {ε α : Type u}

/-- `AllocSetContextCreateInternal`. -/
def allocSetContextCreate (parent : MemoryContext) : Comp ε Contexts MemoryContext :=
  fun contexts => (.ret (contexts.child parent), contexts.add (contexts.child parent))

/-- `MemoryContextSwitchTo`: the context that was current before. -/
def memoryContextSwitchTo (context : MemoryContext) : Comp ε Contexts MemoryContext :=
  fun contexts => (.ret contexts.current, contexts.switchTo context)

/-- `MemoryContextDelete`. -/
def memoryContextDelete (context : MemoryContext) : Comp ε Contexts Unit :=
  fun contexts => (.ret (), contexts.delete context)

/-- The scope of a `MemoryContextGuard`: the context that was current before is
current again behind it, however its body ends. -/
def switchedTo {ε α : Type} (context : MemoryContext) (body : Comp ε Contexts α) :
    Comp ε Contexts α := do
  let prev ← memoryContextSwitchTo context
  let outcome ← Comp.catchUnwind body
  let _ ← memoryContextSwitchTo prev
  match outcome with
  | .ok value => pure value
  | .error payload => Comp.raise payload

/-! ## Numbers -/

theorem le_foldr_max {numbers : List Nat} {number : Nat} (member : number ∈ numbers) :
    number ≤ numbers.foldr max 0 := by
  induction numbers with
  | nil => cases member
  | cons first numbers inductionHypothesis =>
      rcases List.mem_cons.mp member with rfl | later
      · exact Nat.le_max_left _ _
      · exact Nat.le_trans (inductionHypothesis later) (Nat.le_max_right _ _)

namespace Contexts

variable {contexts : Contexts} {parent context : MemoryContext}

/-- The number of a new context is not in use. -/
theorem unused_not_mem (member : context = contexts.current ∨ context = parent ∨
    context ∈ contexts.live) : contexts.unused parent ∉ context := by
  intro inside
  have listed : contexts.unused parent ∈
      contexts.current ++ parent ++ contexts.live.flatten := by
    rcases member with rfl | rfl | there
    · exact List.mem_append_left _ (List.mem_append_left _ inside)
    · exact List.mem_append_left _ (List.mem_append_right _ inside)
    · exact List.mem_append_right _ (List.mem_flatten.mpr ⟨context, there, inside⟩)
  exact absurd (le_foldr_max listed) (Nat.not_succ_le_self _)

/-- A new context is none of those that are alive. -/
theorem child_not_mem (contexts : Contexts) (parent : MemoryContext) :
    contexts.child parent ∉ contexts.live := fun listed =>
  unused_not_mem (.inr (.inr listed)) List.mem_cons_self

theorem mem_delete {other : MemoryContext} :
    other ∈ (contexts.delete context).live ↔ other ∈ contexts.live ∧ ¬context <:+ other := by
  rw [delete, List.mem_filter, Bool.not_eq_true', ← Bool.not_eq_true,
    List.isSuffixOf_iff_suffix]

/-- Deleting a context that has just been created leads back. -/
theorem delete_add_child (contexts : Contexts) (parent : MemoryContext) :
    ((contexts.add (contexts.child parent)).delete (contexts.child parent)) = contexts := by
  have others : contexts.live.filter
      (fun other => !(contexts.child parent).isSuffixOf other) = contexts.live := by
    rw [List.filter_eq_self]
    intro other listed
    rw [Bool.not_eq_true', ← Bool.not_eq_true, List.isSuffixOf_iff_suffix]
    intro suffix
    exact unused_not_mem (.inr (.inr listed)) (suffix.subset List.mem_cons_self)
  have itself : [contexts.child parent].filter
      (fun other => !(contexts.child parent).isSuffixOf other) = [] := by
    simp
  simp only [delete, add, List.filter_append, others, itself, List.append_nil]

end Contexts

end PgTransport.Postgres
