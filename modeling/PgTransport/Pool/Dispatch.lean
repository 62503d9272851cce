import PgTransport.Concurrency.Notify
import PgTransport.Pool.Frontend

/-!
# Dispatch and growth

A `handoff` call takes a ready slot or waits for one, and may start one more
worker before it waits.  Calls are numbered in the order in which they come.  The
state also counts the workers that run without being listed: those that have not
been accepted yet, and those that a watchdog has dropped.
-/

open scoped List

namespace PgTransport.Pool

open PgTransport.Concurrency
open PgTransport.Transition

/-- The frontend with its `handoff` calls and its workers. -/
structure Dispatch where
  frontend : Frontend
  hasReady : Notify Nat
  handoffs : Nat
  unconnected : Nat
  lingering : List Nat
  deriving DecidableEq, Repr

/-- The steps of the frontend, of its callers and of the workers.  A `handoff`
call reads the limit and learns whether its worker could be started; a watchdog
may find a slot that still runs. -/
inductive DispatchEvent where
  | accept (now : Nat)
  | workerFails
  | reads (id : Nat) (received : Received) (now : Nat)
  | reapOnce (now : Nat)
  | sighupReconcile (max : Nat)
  | watchdog (id : Nat) (running : Bool)
  | exits (id : Nat)
  | handoff (max : Nat) (spawns : Bool)
  | poll (call : Nat) (expired : Bool)
  | cancel (call : Nat)
  deriving DecidableEq, Repr

namespace PoolState

/-- The grow gate of `handoff`. -/
def shouldGrow (pool : PoolState) (max : Nat) : Bool :=
  pool.total < max && !pool.growing

end PoolState

namespace Dispatch

/-- The frontend at its start, with `MIN_WARM_SLOTS` workers. -/
def start : Dispatch :=
  ⟨.start, .idle, 0, PoolState.minWarmSlots, []⟩

/-- The pool of the frontend. -/
def pool (dispatch : Dispatch) : PoolState :=
  dispatch.frontend.pool

/-- The same state with another pool. -/
def withPool (dispatch : Dispatch) (pool : PoolState) : Dispatch :=
  { dispatch with frontend := { dispatch.frontend with pool } }

/-- `grow_one` under its guard, which clears the flag again. -/
def grow (dispatch : Dispatch) (spawns : Bool) : Dispatch :=
  let growing := dispatch.withPool { dispatch.pool with growing := true }
  let grown := if spawns then { growing with unconnected := growing.unconnected + 1 } else growing
  grown.withPool { grown.pool with growing := false }

/-- The loop of `handoff` up to where it suspends: with a permit, it looks once
more before it waits.  The slot is the one that the call is dispatched to. -/
def awaitReady (dispatch : Dispatch) (call : Nat) : Dispatch × Option Nat :=
  if dispatch.hasReady.permit then
    let woken := { dispatch with hasReady := dispatch.hasReady.usePermit }
    match woken.pool.tryPopReady with
    | some (id, pool) => (woken.withPool pool, some id)
    | none => ({ woken with hasReady := woken.hasReady.wait call }, none)
  else
    ({ dispatch with hasReady := dispatch.hasReady.wait call }, none)

/-- A `handoff` call up to where it suspends. -/
def handoff (dispatch : Dispatch) (max : Nat) (spawns : Bool) : Dispatch × Option Nat :=
  let called := { dispatch with handoffs := dispatch.handoffs + 1 }
  match called.pool.tryPopReady with
  | some (id, pool) => (called.withPool pool, some id)
  | none =>
      (if called.pool.shouldGrow max then called.grow spawns else called).awaitReady
        dispatch.handoffs

/-- A notified call runs: it takes a slot or waits again. -/
def wake (dispatch : Dispatch) (call : Nat) : Dispatch × Option Nat :=
  let woken := { dispatch with hasReady := dispatch.hasReady.consume call }
  match woken.pool.tryPopReady with
  | some (id, pool) => (woken.withPool pool, some id)
  | none => woken.awaitReady call

/-- A call stops waiting: at its deadline, or because it is dropped. -/
def leave (dispatch : Dispatch) (call : Nat) : Dispatch :=
  { dispatch with hasReady := dispatch.hasReady.forget call }

/-- The call waits and has not been notified. -/
def Waits (dispatch : Dispatch) (call : Nat) : Prop :=
  call ∈ dispatch.hasReady.waiters ∧ call ∉ dispatch.hasReady.notified

instance (dispatch : Dispatch) (call : Nat) : Decidable (dispatch.Waits call) :=
  inferInstanceAs (Decidable (_ ∧ _))

/-- One step, with the slot that a call is dispatched to; `none` if its task does
not run. -/
def step (dispatch : Dispatch) : DispatchEvent → Option (Dispatch × Option Nat)
  | .accept now =>
      if dispatch.unconnected = 0 then
        none
      else
        (dispatch.frontend.step (.accept now)).map fun frontend =>
          ({ dispatch with frontend, unconnected := dispatch.unconnected - 1 }, none)
  | .workerFails =>
      if dispatch.unconnected = 0 then
        none
      else
        some ({ dispatch with unconnected := dispatch.unconnected - 1 }, none)
  | .reads id received now =>
      (dispatch.frontend.step (.reads id received now)).map fun frontend =>
        let notifies := received = .ready && (dispatch.pool.onReady id now).2
        ({ dispatch with
            frontend
            hasReady := if notifies then dispatch.hasReady.notifyOne else dispatch.hasReady },
          none)
  | .reapOnce now =>
      (dispatch.frontend.step (.reapOnce now)).map fun frontend =>
        ({ dispatch with frontend }, none)
  | .sighupReconcile max =>
      (dispatch.frontend.step (.sighupReconcile max)).map fun frontend =>
        ({ dispatch with frontend }, none)
  | .watchdog id running =>
      (dispatch.frontend.step (.watchdog id)).map fun frontend =>
        let lingers := running && (dispatch.pool.dropDraining id).2
        ({ dispatch with
            frontend
            lingering := if lingers then id :: dispatch.lingering else dispatch.lingering },
          none)
  | .exits id =>
      if id ∈ dispatch.lingering then
        some ({ dispatch with lingering := dispatch.lingering.erase id }, none)
      else
        none
  | .handoff max spawns => some (dispatch.handoff max spawns)
  | .poll call expired =>
      if call ∈ dispatch.hasReady.notified then
        some (dispatch.wake call)
      else if call ∈ dispatch.hasReady.waiters then
        some (if expired then dispatch.leave call else dispatch, none)
      else
        none
  | .cancel call => some (dispatch.leave call, none)

end Dispatch

/-- Dispatch as a transition system. -/
def dispatches : System Dispatch DispatchEvent where
  initial dispatch := dispatch = .start
  step source event target := ∃ dispatched, source.step event = some (target, dispatched)

/-! ## The number of ready slots -/

namespace PoolState

variable {pool : PoolState}

theorem length_of_remove {slots rest : Slots} {id : Nat} {peer : SlotPeer}
    (removed : slots.remove id = some (peer, rest)) : slots.length = rest.length + 1 := by
  simpa using (Slots.remove_perm removed).length_eq

theorem ready_onReady_le (id now : Nat) :
    (pool.onReady id now).1.ready.length ≤
      pool.ready.length + if (pool.onReady id now).2 then 1 else 0 := by
  unfold onReady
  split
  · simp
  · simp only [if_true, Slots.insert]
    split <;> simp

theorem ready_cleanupOrphaned_le (id : Nat) :
    (pool.cleanupOrphaned id).ready.length ≤ pool.ready.length := by
  unfold cleanupOrphaned
  split
  · next removed => exact Nat.le_of_succ_le (Nat.le_of_eq (length_of_remove removed).symm)
  · split
    · exact Nat.le_refl _
    · split <;> exact Nat.le_refl _

theorem ready_dropDraining (id : Nat) : (pool.dropDraining id).1.ready = pool.ready := by
  unfold dropDraining
  split <;> rfl

theorem ready_requestDrain_le (id : Nat) :
    (pool.requestDrain id).1.ready.length ≤ pool.ready.length := by
  unfold requestDrain
  split
  · exact Nat.le_refl _
  · next removed => exact Nat.le_of_succ_le (Nat.le_of_eq (length_of_remove removed).symm)

theorem ready_tryPopReady {id : Nat} {next : PoolState}
    (popped : pool.tryPopReady = some (id, next)) :
    pool.ready.length = next.ready.length + 1 := by
  unfold tryPopReady at popped
  split at popped
  · cases popped
  · next ready =>
    cases popped
    rw [ready, List.length_cons]

theorem tryPopReady_eq_none_iff : pool.tryPopReady = none ↔ pool.ready = [] := by
  unfold tryPopReady
  split
  · next ready => simp [ready]
  · next ready => simp [ready]

end PoolState

namespace Frontend

theorem ready_requestDrains_le (frontend : Frontend) (ids : List Nat) :
    (frontend.requestDrains ids).pool.ready.length ≤ frontend.pool.ready.length := by
  induction ids generalizing frontend with
  | nil => exact Nat.le_refl _
  | cons id ids inductionHypothesis =>
      exact Nat.le_trans (inductionHypothesis (frontend.requestDrain id))
        (PoolState.ready_requestDrain_le id)

end Frontend

/-! ## What a step does -/

namespace PoolState

/-- The pool behind what a reader has received. -/
def onReceived (pool : PoolState) (id now : Nat) : Received → PoolState
  | .ready => (pool.onReady id now).1
  | .drainAck => (pool.onDrainAck id).cleanupOrphaned id
  | .stops => pool.cleanupOrphaned id

variable {pool : PoolState}

theorem counter_onReceived (formed : pool.WellFormed) (id now : Nat) (received : Received) :
    (pool.onReceived id now received).slotIdCounter = pool.slotIdCounter := by
  cases received with
  | ready => exact (onReady_sameSlots formed id now).counter
  | drainAck =>
      obtain ⟨_, _, acked⟩ := dropDraining_drops pool id
      obtain ⟨_, _, cleaned⟩ := cleanupOrphaned_drops (pool.onDrainAck id) id
      exact cleaned.counter.trans acked.counter
  | stops =>
      obtain ⟨_, _, cleaned⟩ := cleanupOrphaned_drops pool id
      exact cleaned.counter

/-- A reader lists no slot that was draining or not listed. -/
theorem undrained_onReceived (formed : pool.WellFormed) (id now : Nat) (received : Received) :
    ∀ other ∈ (pool.onReceived id now received).undrained, other ∈ pool.undrained := by
  intro other listed
  cases received with
  | ready => exact (undrained_onReady formed id now).mem_iff.mp listed
  | drainAck =>
      rw [← undrained_dropped id]
      exact (@undrained_cleanupOrphaned (pool.onDrainAck id) id).subset listed
  | stops => exact (undrained_cleanupOrphaned id).subset listed

/-- A reader that ends lists no slot as ready. -/
theorem ready_onReceived (id now : Nat) {received : Received} (ends : received ≠ .ready) :
    (pool.onReceived id now received).ready.ids <+~ pool.ready.ids := by
  cases received with
  | ready => exact absurd rfl ends
  | drainAck =>
      have left := (@cleanupOrphaned_subperm (pool.onDrainAck id) id).1
      rw [onDrainAck, (@undrained_dropDraining pool id).1] at left
      exact left
  | stops => exact (cleanupOrphaned_subperm id).1

/-- A reader that ends leaves its slot unlisted. -/
theorem not_mem_onReceived (formed : pool.WellFormed) (id now : Nat) {received : Received}
    (ends : received ≠ .ready) : id ∉ (pool.onReceived id now received).all := by
  cases received with
  | ready => exact absurd rfl ends
  | drainAck =>
      obtain ⟨_, _, acked⟩ := dropDraining_drops pool id
      exact not_mem_cleanupOrphaned (formed.of_drops acked) id
  | stops => exact not_mem_cleanupOrphaned formed id

end PoolState

namespace Frontend

theorem pool_of_reads {frontend next : Frontend} {id now : Nat} {received : Received}
    (step : frontend.step (.reads id received now) = some next) :
    next.pool = frontend.pool.onReceived id now received := by
  simp only [Frontend.step] at step
  split at step
  · cases received <;> cases step <;> rfl
  · cases step

theorem pool_of_watchdog {frontend next : Frontend} {id : Nat}
    (step : frontend.step (.watchdog id) = some next) :
    next.pool = (frontend.pool.dropDraining id).1 := by
  simp only [Frontend.step] at step
  split at step
  · cases step
    rfl
  · cases step

end Frontend

namespace Dispatch

variable {dispatch next : Dispatch} {id call now : Nat} {running expired : Bool}
  {received : Received} {dispatched : Option Nat}

theorem step_accept (step : dispatch.step (.accept now) = some (next, dispatched)) :
    next.pool = dispatch.pool.accept now ∧ next.hasReady = dispatch.hasReady ∧
      next.handoffs = dispatch.handoffs ∧ next.lingering = dispatch.lingering ∧
      dispatch.unconnected = next.unconnected + 1 := by
  simp only [Dispatch.step] at step
  split at step
  · cases step
  · next waiting =>
    cases step
    exact ⟨rfl, rfl, rfl, rfl, (Nat.succ_pred_eq_of_ne_zero waiting).symm⟩

theorem step_workerFails (step : dispatch.step .workerFails = some (next, dispatched)) :
    next = { dispatch with unconnected := dispatch.unconnected - 1 } := by
  simp only [Dispatch.step] at step
  split at step
  · cases step
  · cases step
    rfl

theorem step_reads (step : dispatch.step (.reads id received now) = some (next, dispatched)) :
    next.pool = dispatch.pool.onReceived id now received ∧
      next.hasReady = (if received = .ready && (dispatch.pool.onReady id now).2 then
        dispatch.hasReady.notifyOne else dispatch.hasReady) ∧
      next.handoffs = dispatch.handoffs ∧ next.lingering = dispatch.lingering ∧
      next.unconnected = dispatch.unconnected := by
  obtain ⟨frontend, moved, made⟩ := Option.map_eq_some_iff.mp step
  cases made
  exact ⟨Frontend.pool_of_reads moved, rfl, rfl, rfl, rfl⟩

/-- A reader that receives something runs. -/
theorem mem_readers_of_step
    (step : dispatch.step (.reads id received now) = some (next, dispatched)) :
    id ∈ dispatch.frontend.readers := by
  obtain ⟨_, moved, _⟩ := Option.map_eq_some_iff.mp step
  simp only [Frontend.step] at moved
  split at moved
  · assumption
  · cases moved

theorem step_watchdog (step : dispatch.step (.watchdog id running) = some (next, dispatched)) :
    next.pool = (dispatch.pool.dropDraining id).1 ∧ next.hasReady = dispatch.hasReady ∧
      next.handoffs = dispatch.handoffs ∧ next.unconnected = dispatch.unconnected ∧
      next.lingering =
        (if running && (dispatch.pool.dropDraining id).2 then id :: dispatch.lingering
          else dispatch.lingering) := by
  obtain ⟨frontend, moved, made⟩ := Option.map_eq_some_iff.mp step
  cases made
  exact ⟨Frontend.pool_of_watchdog moved, rfl, rfl, rfl, rfl⟩

theorem step_exits (step : dispatch.step (.exits id) = some (next, dispatched)) :
    next = { dispatch with lingering := dispatch.lingering.erase id } := by
  simp only [Dispatch.step] at step
  split at step
  · cases step
    rfl
  · cases step

theorem step_poll (step : dispatch.step (.poll call expired) = some (next, dispatched)) :
    call ∈ dispatch.hasReady.notified ∧ (next, dispatched) = dispatch.wake call ∨
      dispatched = none ∧ (next = dispatch ∨ next = dispatch.leave call) := by
  simp only [Dispatch.step] at step
  split at step
  · next notified => exact .inl ⟨notified, (Option.some.inj step).symm⟩
  · split at step
    · cases step
      cases expired
      · exact .inr ⟨rfl, .inl rfl⟩
      · exact .inr ⟨rfl, .inr rfl⟩
    · cases step

end Dispatch

/-! ## What a call does -/

namespace Dispatch

variable {dispatch : Dispatch} {id call max : Nat} {pool : PoolState} {spawns : Bool}

theorem awaitReady_of_none (none : dispatch.pool.tryPopReady = none) :
    dispatch.awaitReady call =
      ({ dispatch with hasReady := dispatch.hasReady.usePermit.wait call }, Option.none) := by
  obtain ⟨frontend, ⟨permit, waiters, notified⟩, handoffs, unconnected, lingering⟩ := dispatch
  change frontend.pool.tryPopReady = Option.none at none
  cases permit <;> simp [awaitReady, Dispatch.pool, none, Notify.usePermit, Notify.wait]

theorem handoff_of_some (popped : dispatch.pool.tryPopReady = some (id, pool)) :
    dispatch.handoff max spawns =
      ({ dispatch with handoffs := dispatch.handoffs + 1 }.withPool pool, some id) := by
  change dispatch.frontend.pool.tryPopReady = some (id, pool) at popped
  simp [handoff, Dispatch.pool, popped]

theorem handoff_of_none (none : dispatch.pool.tryPopReady = none) :
    dispatch.handoff max spawns =
      ((if dispatch.pool.shouldGrow max then
          { dispatch with handoffs := dispatch.handoffs + 1 }.grow spawns
        else
          { dispatch with handoffs := dispatch.handoffs + 1 }).awaitReady dispatch.handoffs) := by
  change dispatch.frontend.pool.tryPopReady = Option.none at none
  simp only [handoff, Dispatch.pool, none]
  all_goals rfl

theorem wake_of_some (popped : dispatch.pool.tryPopReady = some (id, pool)) :
    dispatch.wake call =
      ({ dispatch with hasReady := dispatch.hasReady.consume call }.withPool pool, some id) := by
  change dispatch.frontend.pool.tryPopReady = some (id, pool) at popped
  simp [wake, Dispatch.pool, popped]

theorem wake_of_none (none : dispatch.pool.tryPopReady = none) :
    dispatch.wake call =
      { dispatch with hasReady := dispatch.hasReady.consume call }.awaitReady call := by
  change dispatch.frontend.pool.tryPopReady = Option.none at none
  simp [wake, Dispatch.pool, none]

theorem grow_ready : (dispatch.grow spawns).pool.ready = dispatch.pool.ready := by
  cases spawns <;> rfl

/-- The grow gate is clear before and behind a growth, which starts a worker and
touches no container. -/
theorem grow_eq (gated : dispatch.pool.shouldGrow max = true) :
    dispatch.grow spawns =
      { dispatch with unconnected := dispatch.unconnected + if spawns then 1 else 0 } := by
  obtain ⟨⟨⟨ready, inFlight, draining, counter, growing⟩, readers, watchdogs⟩, hasReady, handoffs,
    unconnected, lingering⟩ := dispatch
  have clear : growing = false := by
    simp only [PoolState.shouldGrow, Dispatch.pool, Bool.and_eq_true, Bool.not_eq_true'] at gated
    exact gated.2
  subst clear
  cases spawns <;> rfl

/-- A call that waits, after a growth or without one. -/
theorem handoff_waits (empty : dispatch.pool.ready = []) :
    dispatch.handoff max spawns =
      ({ dispatch with
          hasReady := dispatch.hasReady.usePermit.wait dispatch.handoffs
          handoffs := dispatch.handoffs + 1
          unconnected := dispatch.unconnected +
            if dispatch.pool.shouldGrow max && spawns then 1 else 0 }, none) := by
  have none : dispatch.pool.tryPopReady = Option.none :=
    PoolState.tryPopReady_eq_none_iff.mpr empty
  rw [handoff_of_none none]
  cases gated : dispatch.pool.shouldGrow max with
  | false => exact awaitReady_of_none none
  | true =>
      have grown := @grow_eq { dispatch with handoffs := dispatch.handoffs + 1 } max spawns gated
      rw [if_pos rfl, grown, Bool.true_and]
      exact awaitReady_of_none none

/-- A call pops a ready slot or joins the tasks that wait. -/
theorem handoff_cases (dispatch : Dispatch) (max : Nat) (spawns : Bool) :
    (dispatch.handoff max spawns).1.handoffs = dispatch.handoffs + 1 ∧
      ((dispatch.handoff max spawns).2 = none ∧
          (dispatch.handoff max spawns).1.frontend = dispatch.frontend ∧
          (dispatch.handoff max spawns).1.hasReady.tasks ~
            dispatch.handoffs :: dispatch.hasReady.tasks ∨
        ∃ id, (dispatch.handoff max spawns).2 = some id ∧
          dispatch.pool.tryPopReady = some (id, (dispatch.handoff max spawns).1.pool) ∧
          (dispatch.handoff max spawns).1.hasReady = dispatch.hasReady) := by
  cases popped : dispatch.pool.tryPopReady with
  | none =>
      rw [handoff_waits (PoolState.tryPopReady_eq_none_iff.mp popped)]
      exact ⟨rfl, .inl ⟨rfl, rfl, Notify.tasks_wait _ _⟩⟩
  | some taken =>
      rw [handoff_of_some popped]
      exact ⟨rfl, .inr ⟨taken.1, rfl, rfl, rfl⟩⟩

/-- A notified call pops a ready slot or waits again. -/
theorem wake_cases (notified : call ∈ dispatch.hasReady.notified) :
    (dispatch.wake call).1.handoffs = dispatch.handoffs ∧
      ((dispatch.wake call).2 = none ∧
          (dispatch.wake call).1.frontend = dispatch.frontend ∧
          (dispatch.wake call).1.hasReady.tasks ~ dispatch.hasReady.tasks ∨
        ∃ id, (dispatch.wake call).2 = some id ∧
          dispatch.pool.tryPopReady = some (id, (dispatch.wake call).1.pool) ∧
          dispatch.hasReady.tasks ~ call :: (dispatch.wake call).1.hasReady.tasks) := by
  have consumed := Notify.tasks_consume notified
  cases popped : dispatch.pool.tryPopReady with
  | none =>
      have waits := @awaitReady_of_none
        { dispatch with hasReady := dispatch.hasReady.consume call } call popped
      rw [wake_of_none popped, waits]
      exact ⟨rfl, .inl ⟨rfl, rfl, (Notify.tasks_wait _ _).trans consumed.symm⟩⟩
  | some taken =>
      rw [wake_of_some popped]
      exact ⟨rfl, .inr ⟨taken.1, rfl, rfl, consumed⟩⟩

/-- Every step is a step of the frontend, or it leaves the frontend alone. -/
theorem frontend_of_step {next : Dispatch} {event : DispatchEvent} {dispatched : Option Nat}
    (step : dispatch.step event = some (next, dispatched)) :
    next.frontend = dispatch.frontend ∨
      ∃ moved, dispatch.frontend.step moved = some next.frontend := by
  cases event with
  | accept now =>
      simp only [Dispatch.step] at step
      split at step
      · cases step
      · obtain ⟨frontend, moved, made⟩ := Option.map_eq_some_iff.mp step
        cases made
        exact .inr ⟨_, moved⟩
  | workerFails =>
      simp only [Dispatch.step] at step
      split at step
      · cases step
      · cases step
        exact .inl rfl
  | reads id received now =>
      obtain ⟨frontend, moved, made⟩ := Option.map_eq_some_iff.mp step
      cases made
      exact .inr ⟨_, moved⟩
  | reapOnce now =>
      cases step
      exact .inr ⟨.reapOnce now, rfl⟩
  | sighupReconcile max =>
      cases step
      exact .inr ⟨.sighupReconcile max, rfl⟩
  | watchdog id running =>
      obtain ⟨frontend, moved, made⟩ := Option.map_eq_some_iff.mp step
      cases made
      exact .inr ⟨_, moved⟩
  | exits id =>
      simp only [Dispatch.step] at step
      split at step
      · cases step
        exact .inl rfl
      · cases step
  | handoff max spawns =>
      have same : (dispatch.handoff max spawns).1 = next := congrArg Prod.fst (Option.some.inj step)
      rw [← same]
      cases popped : dispatch.pool.tryPopReady with
      | none =>
          rw [handoff_waits (PoolState.tryPopReady_eq_none_iff.mp popped)]
          exact .inl rfl
      | some taken =>
          rw [handoff_of_some popped]
          refine .inr ⟨.dispatch, ?_⟩
          change dispatch.frontend.pool.tryPopReady = some taken at popped
          simp only [Frontend.step, popped, withPool]
  | poll call expired =>
      simp only [Dispatch.step] at step
      split at step
      · have same : (dispatch.wake call).1 = next := congrArg Prod.fst (Option.some.inj step)
        rw [← same]
        cases popped : dispatch.pool.tryPopReady with
        | none =>
            have waits := @awaitReady_of_none
              { dispatch with hasReady := dispatch.hasReady.consume call } call popped
            rw [wake_of_none popped, waits]
            exact .inl rfl
        | some taken =>
            rw [wake_of_some popped]
            refine .inr ⟨.dispatch, ?_⟩
            change dispatch.frontend.pool.tryPopReady = some taken at popped
            simp only [Frontend.step, popped, withPool]
      · split at step
        · cases step
          cases expired <;> exact .inl rfl
        · cases step
  | cancel call =>
      cases step
      exact .inl rfl

end Dispatch

end PgTransport.Pool
