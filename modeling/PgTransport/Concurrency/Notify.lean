import Mathlib.Data.List.Perm.Basic

/-!
# A notification primitive with one permit

Tasks wait in the order in which they have come.  A notification goes to the
first of them, or is kept as a permit, of which there is at most one, for the
next task that comes.  A notified task that is dropped before it runs passes its
notification on.

A supply of resources is covered if no task waits unnotified while there are more
resources than notified tasks.  The operations below keep it covered when each
new resource is announced by one notification and a task waits only where it has
found none.
-/

open scoped List

namespace PgTransport.Concurrency

universe u

/-- The state of the primitive: the permit, the waiting tasks, and the tasks that
have been notified and have not run since. -/
structure Notify (α : Type u) where
  permit : Bool
  waiters : List α
  notified : List α
  deriving DecidableEq, Repr

namespace Notify

variable {α : Type u}

/-- No permit and no task. -/
def idle : Notify α :=
  ⟨false, [], []⟩

/-- Notify one task. -/
def notifyOne (notify : Notify α) : Notify α :=
  match notify.waiters with
  | [] => { notify with permit := true }
  | task :: rest =>
      { notify with waiters := rest, notified := notify.notified ++ [task] }

/-- A task begins to wait without a permit. -/
def wait (notify : Notify α) (task : α) : Notify α :=
  { notify with waiters := notify.waiters ++ [task] }

/-- Use up the permit. -/
def usePermit (notify : Notify α) : Notify α :=
  { notify with permit := false }

variable [DecidableEq α]

/-- A notified task runs. -/
def consume (notify : Notify α) (task : α) : Notify α :=
  { notify with notified := notify.notified.erase task }

/-- A task stops waiting; a notified one passes its notification on. -/
def forget (notify : Notify α) (task : α) : Notify α :=
  if task ∈ notify.notified then
    (notify.consume task).notifyOne
  else
    { notify with waiters := notify.waiters.erase task }

/-- The tasks that wait or have been notified. -/
def tasks (notify : Notify α) : List α :=
  notify.waiters ++ notify.notified

/-- No task waits unnotified while there are more resources than notified tasks. -/
def Covers (notify : Notify α) (resources : Nat) : Prop :=
  notify.waiters ≠ [] → resources ≤ notify.notified.length

omit [DecidableEq α]

variable {notify : Notify α} {resources : Nat}

theorem covers_idle (resources : Nat) : (idle : Notify α).Covers resources :=
  fun waiting => absurd rfl waiting

theorem Covers.fewer {fewer : Nat} (covers : notify.Covers resources)
    (less : fewer ≤ resources) : notify.Covers fewer :=
  fun waiting => Nat.le_trans less (covers waiting)

/-- A new resource with its notification. -/
theorem Covers.notifyOne (covers : notify.Covers resources) :
    notify.notifyOne.Covers (resources + 1) := by
  obtain ⟨permit, waiters, notified⟩ := notify
  cases waiters with
  | nil => exact fun waiting => absurd rfl waiting
  | cons task rest =>
      intro _
      have covered : resources ≤ notified.length := covers (List.cons_ne_nil task rest)
      simpa [Notify.notifyOne] using covered

/-- A task that finds no resource may wait. -/
theorem covers_wait (notify : Notify α) (task : α) : (notify.wait task).Covers 0 :=
  fun _ => Nat.zero_le _

variable [DecidableEq α]

/-- A notified task runs and takes a resource. -/
theorem Covers.consume {task : α} (covers : notify.Covers (resources + 1)) :
    (notify.consume task).Covers resources := by
  intro waiting
  have covered : resources + 1 ≤ notify.notified.length := covers waiting
  have erased : notify.notified.length - 1 ≤ (notify.notified.erase task).length := by
    rw [List.length_erase]
    split
    · exact Nat.le_refl _
    · exact Nat.sub_le _ _
  exact Nat.le_trans (Nat.le_sub_one_of_lt covered) erased

/-- A task that stops waiting leaves the resources covered. -/
theorem Covers.forget {task : α} (covers : notify.Covers resources) :
    (notify.forget task).Covers resources := by
  unfold Notify.forget
  split
  · next member =>
    obtain ⟨permit, waiters, notified⟩ := notify
    cases waiters with
    | nil => exact fun waiting => absurd rfl waiting
    | cons next rest =>
        intro _
        have covered : resources ≤ notified.length := covers (List.cons_ne_nil next rest)
        have erased : (notified.erase task).length + 1 = notified.length :=
          List.length_erase_add_one member
        simpa [Notify.notifyOne, Notify.consume, erased] using covered
  · intro waiting
    apply covers
    intro none
    rw [none] at waiting
    exact waiting rfl

/-! ## The tasks -/

omit [DecidableEq α] in
theorem tasks_notifyOne (notify : Notify α) : notify.notifyOne.tasks ~ notify.tasks := by
  obtain ⟨permit, waiters, notified⟩ := notify
  cases waiters with
  | nil => exact .refl _
  | cons task rest =>
      calc
        rest ++ (notified ++ [task]) ~ rest ++ (task :: notified) :=
          (List.perm_append_singleton task notified).append_left rest
        _ ~ task :: rest ++ notified := List.perm_middle

omit [DecidableEq α] in
theorem tasks_wait (notify : Notify α) (task : α) :
    (notify.wait task).tasks ~ task :: notify.tasks :=
  (List.perm_append_singleton task notify.waiters).append_right notify.notified

/-- A notified task that runs is no task of the primitive any more. -/
theorem tasks_consume {task : α} (member : task ∈ notify.notified) :
    notify.tasks ~ task :: (notify.consume task).tasks :=
  calc
    notify.tasks ~ notify.waiters ++ (task :: notify.notified.erase task) :=
      (List.perm_cons_erase member).append_left _
    _ ~ task :: (notify.waiters ++ notify.notified.erase task) := List.perm_middle

/-- A task that stops waiting takes no other with it. -/
theorem tasks_forget (notify : Notify α) (task : α) :
    ∃ gone, notify.tasks ~ gone ++ (notify.forget task).tasks := by
  unfold Notify.forget
  split
  · next member =>
    exact ⟨[task], (tasks_consume member).trans ((tasks_notifyOne _).symm.cons task)⟩
  · by_cases waiting : task ∈ notify.waiters
    · exact ⟨[task], (List.perm_cons_erase waiting).append_right notify.notified⟩
    · refine ⟨[], ?_⟩
      rw [List.erase_of_not_mem waiting]
      exact .refl _

end Notify

end PgTransport.Concurrency
