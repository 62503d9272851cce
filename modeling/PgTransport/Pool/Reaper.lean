import PgTransport.Pool.Frontend

/-!
# The idle reaper

`reap_once` over any warm floor and any idle time, and the frontend's tasks again with a
clock that no step sets back.
-/

open scoped List

namespace PgTransport.Pool

open PgTransport.Transition

/-- The slot has been ready for longer than `reapAfter`. -/
def SlotPeer.OverIdle (reapAfter now : Nat) (peer : SlotPeer) : Prop :=
  peer.lastReadyAt < now ∧ reapAfter < now - peer.lastReadyAt

instance (reapAfter now : Nat) (peer : SlotPeer) : Decidable (peer.OverIdle reapAfter now) :=
  inferInstanceAs (Decidable (_ ∧ _))

namespace PoolState

/-- The candidates of `reap_once`. -/
def candidates (pool : PoolState) (reapAfter now : Nat) : List Nat :=
  Slots.ids (pool.ready.filter fun entry => entry.2.OverIdle reapAfter now)

/-- The slots that `reap_once` drains with the floor `minWarm` in place of
`MIN_WARM_SLOTS` and the time `reapAfter` in place of `IDLE_REAP_AFTER`. -/
def reapedAbove (pool : PoolState) (minWarm reapAfter now : Nat) : List Nat :=
  let postReap := pool.ready.length - (pool.candidates reapAfter now).length
  let keep := minWarm - postReap
  (pool.candidates reapAfter now).drop keep

theorem reaped_eq_reapedAbove (pool : PoolState) (now : Nat) :
    pool.reaped now = pool.reapedAbove minWarmSlots idleReapAfter now :=
  rfl

end PoolState

namespace Frontend

/-- `reap_once`. -/
def reapOnce (frontend : Frontend) (minWarm reapAfter now : Nat) : Frontend :=
  frontend.requestDrains (frontend.pool.reapedAbove minWarm reapAfter now)

/-- One step of the tasks, with these parameters of the reaper. -/
def stepAbove (minWarm reapAfter : Nat) (frontend : Frontend) :
    FrontendEvent → Option Frontend
  | .reapOnce now => some (frontend.reapOnce minWarm reapAfter now)
  | event => frontend.step event

theorem step_eq_stepAbove (frontend : Frontend) (event : FrontendEvent) :
    frontend.step event =
      frontend.stepAbove PoolState.minWarmSlots PoolState.idleReapAfter event := by
  cases event <;> rfl

end Frontend

/-- The time at which a step looks at the clock. -/
def FrontendEvent.now : FrontendEvent → Option Nat
  | .accept now => some now
  | .reads _ _ now => some now
  | .reapOnce now => some now
  | _ => none

/-- The frontend and its clock. -/
structure Clocked where
  frontend : Frontend
  clock : Nat
  deriving DecidableEq, Repr

/-- A step at a time that is no earlier than that of the step before it. -/
structure ClockedStep (minWarm reapAfter : Nat) (source : Clocked) (event : FrontendEvent)
    (target : Clocked) : Prop where
  later : source.clock ≤ target.clock
  reads : ∀ now ∈ event.now, now = target.clock
  step : source.frontend.stepAbove minWarm reapAfter event = some target.frontend

theorem ClockedStep.at_time {minWarm reapAfter : Nat} {source : Clocked} {event : FrontendEvent}
    {next : Frontend} (now : Nat) (later : source.clock ≤ now)
    (reads : ∀ time ∈ event.now, time = now)
    (step : source.frontend.stepAbove minWarm reapAfter event = some next) :
    ClockedStep minWarm reapAfter source event ⟨next, now⟩ :=
  ⟨later, reads, step⟩

/-- Frontends with a clock as a transition system. -/
def clocked (minWarm reapAfter : Nat) : System Clocked FrontendEvent where
  initial state := state.frontend = .start
  step := ClockedStep minWarm reapAfter

/-- With the parameters of the source, what is reached with a clock is reached without. -/
theorem Clocked.frontend_reachable {state : Clocked}
    (reached : Reachable (clocked PoolState.minWarmSlots PoolState.idleReapAfter) state) :
    Reachable frontends state.frontend := by
  have invariant : Invariant (clocked PoolState.minWarmSlots PoolState.idleReapAfter)
      fun state => Reachable frontends state.frontend := by
    constructor
    · intro state start
      exact ⟨state.frontend, [], start, .nil _⟩
    · intro source event target reached step
      have plain := (Frontend.step_eq_stepAbove source.frontend event).trans step.step
      exact reached.run (.cons plain trivial (.nil _))
  exact invariant.reachable reached

/-! ## The slots that stay ready -/

namespace Slots

variable {slots rest : Slots} {id : Nat} {peer : SlotPeer}

theorem sublist_of_remove (removed : slots.remove id = some (peer, rest)) :
    rest.Sublist slots := by
  unfold remove at removed
  split at removed
  · cases removed
  · cases removed
    exact List.eraseP_sublist

end Slots

namespace PoolState

variable {pool : PoolState}

theorem requestDrain_sublist (id : Nat) :
    (pool.requestDrain id).1.ready.Sublist pool.ready := by
  unfold requestDrain
  split
  · exact .refl _
  · next removed => exact Slots.sublist_of_remove removed

theorem cleanupOrphaned_sublist (id : Nat) :
    (pool.cleanupOrphaned id).ready.Sublist pool.ready := by
  unfold cleanupOrphaned
  split
  · next removed => exact Slots.sublist_of_remove removed
  · split
    · exact .refl _
    · split <;> exact .refl _

theorem tryPopReady_sublist {id : Nat} {next : PoolState}
    (popped : pool.tryPopReady = some (id, next)) : next.ready.Sublist pool.ready := by
  unfold tryPopReady at popped
  split at popped
  · cases popped
  · next ready =>
    cases popped
    rw [ready]
    exact List.sublist_cons_self _ _

/-- A slot that becomes ready comes last, with the time it does so. -/
theorem onReady_ready (formed : pool.WellFormed) (id now : Nat) :
    (pool.onReady id now).1.ready = pool.ready ∨
      (pool.onReady id now).1.ready = pool.ready ++ [(id, ⟨now⟩)] := by
  unfold onReady
  split
  · exact .inl rfl
  · next removed =>
    right
    have absent : id ∉ pool.ready.ids := by
      intro ready
      have unique := (List.nodup_append.mp (List.nodup_append.mp formed.nodup).1).2.2
      exact unique id ready id (mem_of_remove removed) rfl
    change pool.ready.insert id ⟨now⟩ = _
    rw [Slots.insert, if_neg absent]

end PoolState

namespace Frontend

variable {frontend next : Frontend} {event : FrontendEvent} {minWarm reapAfter : Nat}

theorem requestDrains_sublist (ids : List Nat) :
    (frontend.requestDrains ids).pool.ready.Sublist frontend.pool.ready := by
  induction ids generalizing frontend with
  | nil => exact .refl _
  | cons id ids inductionHypothesis =>
      exact (@inductionHypothesis (frontend.requestDrain id)).trans
        (PoolState.requestDrain_sublist id)

/-- Drained slots are listed as draining. -/
theorem draining_requestDrains (formed : frontend.pool.WellFormed) {ids : List Nat}
    (nodup : ids.Nodup) (within : ∀ id ∈ ids, id ∈ frontend.pool.ready.ids) :
    (frontend.requestDrains ids).pool.draining.ids ~ ids ++ frontend.pool.draining.ids := by
  obtain ⟨taken, inFlight⟩ := ready_requestDrains nodup within
  have same := (requestDrains_sameSlots formed ids).1.all
  apply (List.perm_append_left_iff (frontend.requestDrains ids).pool.undrained).mp
  calc
    (frontend.requestDrains ids).pool.undrained ++
        (frontend.requestDrains ids).pool.draining.ids
        ~ frontend.pool.ready.ids ++ frontend.pool.inFlight.ids ++ frontend.pool.draining.ids :=
      same
    _ ~ ids ++ (frontend.requestDrains ids).pool.ready.ids ++ frontend.pool.inFlight.ids ++
          frontend.pool.draining.ids :=
      (taken.append_right _).append_right _
    _ = ids ++ (frontend.requestDrains ids).pool.undrained ++ frontend.pool.draining.ids := by
      rw [PoolState.undrained, inFlight, List.append_assoc ids]
    _ ~ (frontend.requestDrains ids).pool.undrained ++ ids ++ frontend.pool.draining.ids :=
      List.perm_append_comm.append_right _
    _ = (frontend.requestDrains ids).pool.undrained ++ (ids ++ frontend.pool.draining.ids) :=
      List.append_assoc _ _ _

/-- A step keeps the order of the slots that stay ready; a slot that becomes ready comes
last, with the time of the step. -/
theorem ready_of_stepAbove (formed : frontend.pool.WellFormed)
    (step : frontend.stepAbove minWarm reapAfter event = some next) :
    next.pool.ready.Sublist frontend.pool.ready ∨
      ∃ id now, event.now = some now ∧
        next.pool.ready = frontend.pool.ready ++ [(id, ⟨now⟩)] := by
  cases event with
  | accept now =>
      cases step
      exact .inl (.refl _)
  | reads id received now =>
      by_cases runs : id ∈ frontend.readers
      · cases received with
        | ready =>
            simp only [stepAbove, Frontend.step, runs, if_true, Option.some.injEq] at step
            subst step
            rcases PoolState.onReady_ready formed id now with same | last
            · exact .inl (same ▸ .refl _)
            · exact .inr ⟨id, now, rfl, last⟩
        | drainAck =>
            simp only [stepAbove, Frontend.step, runs, if_true, Option.some.injEq] at step
            subst step
            have acked : (frontend.pool.onDrainAck id).ready = frontend.pool.ready :=
              (PoolState.undrained_dropDraining id).1
            exact .inl (acked ▸ PoolState.cleanupOrphaned_sublist id)
        | stops =>
            simp only [stepAbove, Frontend.step, runs, if_true, Option.some.injEq] at step
            subst step
            exact .inl (PoolState.cleanupOrphaned_sublist id)
      · simp [stepAbove, Frontend.step, runs] at step
  | dispatch =>
      simp only [stepAbove, Frontend.step] at step
      split at step
      · cases step
        exact .inl (.refl _)
      · next popped =>
        cases step
        exact .inl (PoolState.tryPopReady_sublist popped)
  | requestDrain id =>
      cases step
      exact .inl (PoolState.requestDrain_sublist id)
  | reapOnce now =>
      cases step
      exact .inl (requestDrains_sublist _)
  | sighupReconcile max =>
      cases step
      exact .inl (requestDrains_sublist _)
  | watchdog id =>
      by_cases set : id ∈ frontend.watchdogs
      · simp only [stepAbove, Frontend.step, set, if_true, Option.some.injEq] at step
        subst step
        have acked := (@PoolState.undrained_dropDraining frontend.pool id).1
        left
        change (frontend.pool.dropDraining id).1.ready.Sublist frontend.pool.ready
        rw [acked]
      · simp [stepAbove, Frontend.step, set] at step

end Frontend

end PgTransport.Pool
