import PgTransport.Pool.Dispatch

/-!
# No wake-up is lost

A slot that becomes ready notifies one `handoff` call.  The ready slots never
outnumber the calls that have been notified and have not run, as long as another
call waits unnotified.
-/

namespace PgTransport.Properties

open PgTransport.Concurrency
open PgTransport.Pool
open PgTransport.Transition

/-- The notified calls cover the ready slots. -/
def Covered (dispatch : Dispatch) : Prop :=
  dispatch.hasReady.Covers dispatch.pool.ready.length

/-- Nothing but an opcode of a slot in flight makes a slot ready. -/
theorem ready_onReceived_le {pool : PoolState} {received : Received} (id now : Nat)
    (quiet : received ≠ .ready) :
    (pool.onReceived id now received).ready.length ≤ pool.ready.length := by
  cases received with
  | ready => exact absurd rfl quiet
  | drainAck =>
      have acked : (pool.onDrainAck id).ready = pool.ready := PoolState.ready_dropDraining id
      rw [← acked]
      exact PoolState.ready_cleanupOrphaned_le id
  | stops => exact PoolState.ready_cleanupOrphaned_le id

/-- A call that finds no slot may wait. -/
theorem covered_awaitReady {dispatch : Dispatch} (call : Nat)
    (empty : dispatch.pool.ready = []) : Covered (dispatch.awaitReady call).1 := by
  rw [Dispatch.awaitReady_of_none (PoolState.tryPopReady_eq_none_iff.mpr empty)]
  exact (Notify.covers_wait _ call).fewer (Nat.le_of_eq (congrArg List.length empty))

theorem covered_handoff {dispatch : Dispatch} (covered : Covered dispatch) (max : Nat)
    (spawns : Bool) : Covered (dispatch.handoff max spawns).1 := by
  cases popped : dispatch.pool.tryPopReady with
  | some taken =>
      rw [Dispatch.handoff_of_some popped]
      exact covered.fewer (Nat.le_of_succ_le
        (Nat.le_of_eq (PoolState.ready_tryPopReady popped).symm))
  | none =>
      have empty : dispatch.pool.ready = [] := PoolState.tryPopReady_eq_none_iff.mp popped
      rw [Dispatch.handoff_of_none popped]
      split
      · exact covered_awaitReady _ (Dispatch.grow_ready.trans empty)
      · exact covered_awaitReady _ empty

theorem covered_wake {dispatch : Dispatch} (covered : Covered dispatch) (call : Nat) :
    Covered (dispatch.wake call).1 := by
  cases popped : dispatch.pool.tryPopReady with
  | some taken =>
      rw [Dispatch.wake_of_some popped]
      have taking : dispatch.hasReady.Covers (taken.2.ready.length + 1) := by
        rw [← PoolState.ready_tryPopReady popped]
        exact covered
      exact taking.consume
  | none =>
      rw [Dispatch.wake_of_none popped]
      exact covered_awaitReady call (PoolState.tryPopReady_eq_none_iff.mp popped)

/-- Every step keeps the ready slots covered. -/
theorem covered_step {dispatch next : Dispatch} {event : DispatchEvent}
    {dispatched : Option Nat} (covered : Covered dispatch)
    (step : dispatch.step event = some (next, dispatched)) : Covered next := by
  cases event with
  | accept now =>
      obtain ⟨pool, tasks, _⟩ := Dispatch.step_accept step
      rw [Covered, tasks, pool]
      exact covered
  | workerFails =>
      cases Dispatch.step_workerFails step
      exact covered
  | reads id received now =>
      obtain ⟨pool, tasks, _⟩ := Dispatch.step_reads step
      rw [Covered, tasks, pool]
      cases received with
      | ready =>
          have ready := @PoolState.ready_onReady_le dispatch.pool id now
          cases woken : (dispatch.pool.onReady id now).2 with
          | false =>
              rw [woken] at ready
              exact covered.fewer ready
          | true =>
              rw [woken] at ready
              exact covered.notifyOne.fewer ready
      | drainAck => exact covered.fewer (ready_onReceived_le id now (by simp))
      | stops => exact covered.fewer (ready_onReceived_le id now (by simp))
  | reapOnce now =>
      cases step
      exact covered.fewer (Frontend.ready_requestDrains_le _ _)
  | sighupReconcile max =>
      cases step
      exact covered.fewer (Frontend.ready_requestDrains_le _ _)
  | watchdog id running =>
      obtain ⟨pool, tasks, _⟩ := Dispatch.step_watchdog step
      rw [Covered, tasks, pool, PoolState.ready_dropDraining]
      exact covered
  | exits id =>
      cases Dispatch.step_exits step
      exact covered
  | handoff max spawns =>
      have same : (dispatch.handoff max spawns).1 = next := congrArg Prod.fst (Option.some.inj step)
      rw [← same]
      exact covered_handoff covered max spawns
  | poll call expired =>
      rcases Dispatch.step_poll step with ⟨_, woken⟩ | ⟨_, rfl | rfl⟩
      · have same : next = (dispatch.wake call).1 := congrArg Prod.fst woken
        rw [same]
        exact covered_wake covered call
      · exact covered
      · exact covered.forget
  | cancel call =>
      cases step
      exact covered.forget

theorem covered_invariant : Invariant dispatches Covered where
  initial := by
    rintro _ rfl
    exact Notify.covers_idle _
  step _ _ _ covered step := covered_step covered step.choose_spec

/-- In every reachable state, while a call waits unnotified the ready slots do not
outnumber the calls that have been notified and have not run.  So no slot is ready
once these have run, and a call that reaches its deadline unnotified leaves no slot
behind that no other call has been notified of. -/
theorem ready_slots_are_announced (dispatch : Dispatch)
    (reached : Reachable dispatches dispatch) :
    (∀ call, dispatch.Waits call →
      dispatch.pool.ready.length ≤ dispatch.hasReady.notified.length) ∧
    (dispatch.hasReady.notified = [] → (∃ call, dispatch.Waits call) →
      dispatch.pool.ready = []) ∧
    (∀ call next dispatched, dispatch.step (.poll call true) = some (next, dispatched) →
      dispatch.Waits call →
        dispatch.pool.ready.length ≤ dispatch.hasReady.notified.length ∧
        next.pool.ready.length ≤ dispatch.hasReady.notified.length) := by
  have covered := covered_invariant.reachable reached
  have announced : ∀ call, dispatch.Waits call →
      dispatch.pool.ready.length ≤ dispatch.hasReady.notified.length :=
    fun call waits => covered (List.ne_nil_of_mem waits.1)
  refine ⟨announced, ?_, ?_⟩
  · rintro run ⟨call, waits⟩
    have few := announced call waits
    rw [run, List.length_nil, Nat.le_zero] at few
    exact List.eq_nil_of_length_eq_zero few
  · intro call next dispatched step waits
    simp only [Dispatch.step, waits.1, waits.2, if_true, if_false, Option.some.injEq,
      Prod.mk.injEq] at step
    rw [← step.1]
    exact ⟨announced call waits, announced call waits⟩

/-- A call waits for a slot, and the slot that becomes ready notifies it. -/
theorem waiting_call_notified :
    (⟨⟨⟨[(0, ⟨1⟩)], [], [], 1, false⟩, [0], []⟩, ⟨false, [1], [0]⟩, 2, 0, []⟩ :
        Dispatch).pool.ready.length ≤ [0].length :=
  (ready_slots_are_announced
    ⟨⟨⟨[(0, ⟨1⟩)], [], [], 1, false⟩, [0], []⟩, ⟨false, [1], [0]⟩, 2, 0, []⟩
    ⟨.start, [.handoff 1 true, .accept 0, .handoff 1 true, .reads 0 .ready 1], rfl,
      .cons ⟨none, rfl⟩ trivial (.cons ⟨none, rfl⟩ trivial (.cons ⟨none, rfl⟩ trivial
        (.cons ⟨none, rfl⟩ trivial (.nil _))))⟩).1 1 (by decide)

end PgTransport.Properties
