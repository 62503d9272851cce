import PgTransport.Pool.Dispatch
import PgTransport.Properties.PoolContainers

/-!
# The ceiling of the pool

The grow gate compares the limit with the slots that are listed, and its flag is
clear again before a worker that was started connects.  The limit bounds the
workers in exactly the runs that start a worker only while none is on its way and
the workers that run unlisted leave room for it.
-/

namespace PgTransport.Properties

open PgTransport.Pool
open PgTransport.Transition

/-- The workers that run: started and not accepted yet, listed, or dropped by a
watchdog. -/
def live (dispatch : Dispatch) : Nat :=
  dispatch.unconnected + dispatch.pool.total + dispatch.lingering.length

/-- The ceiling, and one worker on its way at most. -/
structure Bounded (max : Nat) (dispatch : Dispatch) : Prop where
  live : live dispatch ≤ max
  unconnected : dispatch.unconnected ≤ 1

/-- A step that reads the limit reads `max`. -/
def Limited (max : Nat) : DispatchEvent → Prop
  | .handoff limit _ | .sighupReconcile limit => limit = max
  | _ => True

/-- The step starts a worker. -/
def grows (dispatch : Dispatch) : DispatchEvent → Bool
  | .handoff max spawns =>
      dispatch.pool.ready.isEmpty && (dispatch.pool.shouldGrow max && spawns)
  | _ => false

/-- A worker is started only if none is on its way, and if the listed slots and
the dropped workers that still run are fewer than the limit. -/
def RoomToGrow (max : Nat) (dispatch : Dispatch) (event : DispatchEvent) : Prop :=
  grows dispatch event = true →
    dispatch.unconnected = 0 ∧ dispatch.pool.total + dispatch.lingering.length < max

/-! ## The number of listed slots -/

theorem total_of_sameSlots {before after : PoolState} (same : SameSlots before after) :
    after.total = before.total := by
  rw [← PoolState.length_all, ← PoolState.length_all]
  exact same.all.length_eq

theorem total_of_drops {before after : PoolState} {gone : List Nat}
    (drops : Drops before after gone) : before.total = gone.length + after.total := by
  rw [← PoolState.length_all, ← PoolState.length_all, drops.all.length_eq, List.length_append]

theorem total_accept {pool : PoolState} (formed : pool.WellFormed) (now : Nat) :
    (pool.accept now).total = pool.total + 1 := by
  rw [← PoolState.length_all, ← PoolState.length_all,
    (PoolState.all_accept formed now).length_eq, List.length_cons]

theorem total_dropDraining (pool : PoolState) (id : Nat) :
    (pool.dropDraining id).1.total ≤ pool.total := by
  obtain ⟨_, _, dropped⟩ := PoolState.dropDraining_drops pool id
  rw [total_of_drops dropped]
  exact Nat.le_add_left _ _

theorem total_cleanupOrphaned (pool : PoolState) (id : Nat) :
    (pool.cleanupOrphaned id).total ≤ pool.total := by
  obtain ⟨_, _, dropped⟩ := PoolState.cleanupOrphaned_drops pool id
  rw [total_of_drops dropped]
  exact Nat.le_add_left _ _

/-- A reader lists no slot. -/
theorem total_onReceived {pool : PoolState} (formed : pool.WellFormed) (id now : Nat)
    (received : Received) : (pool.onReceived id now received).total ≤ pool.total := by
  cases received with
  | ready => exact Nat.le_of_eq (total_of_sameSlots (PoolState.onReady_sameSlots formed id now))
  | drainAck =>
      exact Nat.le_trans (total_cleanupOrphaned (pool.onDrainAck id) id)
        (total_dropDraining pool id)
  | stops => exact total_cleanupOrphaned pool id

/-- A watchdog that drops a slot unlists it. -/
theorem total_of_dropped {pool : PoolState} {id : Nat}
    (dropped : (pool.dropDraining id).2 = true) :
    (pool.dropDraining id).1.total + 1 = pool.total := by
  rcases @PoolState.all_dropDraining pool id with ⟨_, unchanged⟩ | ⟨all, _⟩
  · rw [unchanged] at dropped
    cases dropped
  · rw [← PoolState.length_all, ← PoolState.length_all, all.length_eq]
    rfl

/-! ## The number of workers -/

variable {max : Nat} {dispatch next : Dispatch} {event : DispatchEvent}
  {dispatched : Option Nat}

/-- A step that moves listed slots only. -/
theorem live_of_sameSlots (same : SameSlots dispatch.pool next.pool)
    (unconnected : next.unconnected = dispatch.unconnected)
    (lingering : next.lingering = dispatch.lingering) : live next = live dispatch := by
  rw [live, live, total_of_sameSlots same, unconnected, lingering]

/-- A call that is woken starts no worker. -/
theorem live_wake (formed : dispatch.pool.WellFormed) (call : Nat) :
    live (dispatch.wake call).1 ≤ live dispatch ∧
      (dispatch.wake call).1.unconnected ≤ dispatch.unconnected := by
  cases popped : dispatch.pool.tryPopReady with
  | none =>
      have waits := @Dispatch.awaitReady_of_none
        { dispatch with hasReady := dispatch.hasReady.consume call } call popped
      rw [Dispatch.wake_of_none popped, waits]
      exact ⟨Nat.le_refl _, Nat.le_refl _⟩
  | some taken =>
      have same := PoolState.tryPopReady_sameSlots formed popped
      rw [Dispatch.wake_of_some popped]
      exact ⟨Nat.le_of_eq (live_of_sameSlots same rfl rfl), Nat.le_refl _⟩

/-- What a call adds to the workers: one if it grows the pool. -/
theorem live_handoff (formed : dispatch.pool.WellFormed) (limit : Nat) (spawns : Bool) :
    live (dispatch.handoff limit spawns).1 =
        live dispatch + (if grows dispatch (.handoff limit spawns) then 1 else 0) ∧
      (dispatch.handoff limit spawns).1.unconnected =
        dispatch.unconnected + if grows dispatch (.handoff limit spawns) then 1 else 0 := by
  cases popped : dispatch.pool.tryPopReady with
  | none =>
      have empty := PoolState.tryPopReady_eq_none_iff.mp popped
      have gate : grows dispatch (.handoff limit spawns) =
          (dispatch.pool.shouldGrow limit && spawns) := by
        rw [grows, empty]
        rfl
      rw [Dispatch.handoff_waits empty, gate]
      constructor
      · simp only [live, Dispatch.pool]
        omega
      · rfl
  | some taken =>
      have full : dispatch.pool.ready.isEmpty = false := by
        cases ready : dispatch.pool.ready with
        | nil =>
            rw [PoolState.tryPopReady_eq_none_iff.mpr ready] at popped
            cases popped
        | cons first rest => rfl
      have gate : grows dispatch (.handoff limit spawns) = false := by
        rw [grows, full]
        rfl
      have same := PoolState.tryPopReady_sameSlots formed popped
      rw [Dispatch.handoff_of_some popped, gate]
      exact ⟨live_of_sameSlots same rfl rfl, rfl⟩

/-- No step but a call that grows the pool adds a worker. -/
theorem live_step (formed : dispatch.pool.WellFormed)
    (step : dispatch.step event = some (next, dispatched)) :
    live next ≤ live dispatch + (if grows dispatch event then 1 else 0) ∧
      next.unconnected ≤ dispatch.unconnected + if grows dispatch event then 1 else 0 := by
  cases event with
  | accept now =>
      obtain ⟨pool, _, _, lingering, unconnected⟩ := Dispatch.step_accept step
      rw [live, live, pool, lingering, total_accept formed, unconnected]
      simp only [grows]
      omega
  | workerFails =>
      cases Dispatch.step_workerFails step
      simp only [live, Dispatch.pool, grows]
      omega
  | reads id received now =>
      obtain ⟨pool, _, _, lingering, unconnected⟩ := Dispatch.step_reads step
      have total := total_onReceived formed id now received
      rw [live, live, pool, lingering, unconnected]
      simp only [grows]
      omega
  | reapOnce now =>
      cases step
      have same := (Frontend.requestDrains_sameSlots formed (dispatch.pool.reaped now)).1
      exact ⟨Nat.le_of_eq (live_of_sameSlots same rfl rfl), Nat.le_refl _⟩
  | sighupReconcile limit =>
      cases step
      have same := (Frontend.requestDrains_sameSlots formed (dispatch.pool.excess limit)).1
      exact ⟨Nat.le_of_eq (live_of_sameSlots same rfl rfl), Nat.le_refl _⟩
  | watchdog id running =>
      obtain ⟨pool, _, _, unconnected, lingering⟩ := Dispatch.step_watchdog step
      have total := total_dropDraining dispatch.pool id
      rw [live, live, pool, unconnected, lingering]
      simp only [grows]
      split
      · next dropped =>
        have drops := total_of_dropped ((Bool.and_eq_true _ _).mp dropped).2
        rw [List.length_cons]
        omega
      · omega
  | exits id =>
      cases Dispatch.step_exits step
      have fewer := @List.length_erase_le _ _ id dispatch.lingering
      simp only [live, Dispatch.pool, grows]
      omega
  | handoff limit spawns =>
      have same : (dispatch.handoff limit spawns).1 = next :=
        congrArg Prod.fst (Option.some.inj step)
      obtain ⟨workers, unconnected⟩ := live_handoff formed limit spawns
      rw [← same]
      exact ⟨Nat.le_of_eq workers, Nat.le_of_eq unconnected⟩
  | poll call expired =>
      rcases Dispatch.step_poll step with ⟨_, woken⟩ | ⟨_, rfl | rfl⟩
      · have same : next = (dispatch.wake call).1 := congrArg Prod.fst woken
        rw [same]
        exact live_wake formed call
      · exact ⟨Nat.le_refl _, Nat.le_refl _⟩
      · exact ⟨Nat.le_refl _, Nat.le_refl _⟩
  | cancel call =>
      cases step
      exact ⟨Nat.le_refl _, Nat.le_refl _⟩

/-- A step that starts a worker adds one to those that run and to those on their
way. -/
theorem live_of_grows (formed : dispatch.pool.WellFormed)
    (step : dispatch.step event = some (next, dispatched)) (grown : grows dispatch event = true) :
    live next = live dispatch + 1 ∧ next.unconnected = dispatch.unconnected + 1 := by
  cases event with
  | handoff limit spawns =>
      have same : (dispatch.handoff limit spawns).1 = next :=
        congrArg Prod.fst (Option.some.inj step)
      obtain ⟨workers, unconnected⟩ := live_handoff formed limit spawns
      rw [grown] at workers unconnected
      rw [← same]
      exact ⟨workers, unconnected⟩
  | _ => cases grown

/-- A step with room to grow keeps the bounds. -/
theorem bounded_step (formed : dispatch.pool.WellFormed) (bounded : Bounded max dispatch)
    (step : dispatch.step event = some (next, dispatched))
    (room : RoomToGrow max dispatch event) : Bounded max next := by
  obtain ⟨workers, unconnected⟩ := live_step formed step
  cases grown : grows dispatch event with
  | false =>
      rw [grown] at workers unconnected
      exact ⟨Nat.le_trans workers bounded.live, Nat.le_trans unconnected bounded.unconnected⟩
  | true =>
      obtain ⟨none, fits⟩ := room grown
      rw [grown, if_pos rfl] at workers unconnected
      rw [none] at unconnected
      refine ⟨Nat.le_trans workers ?_, unconnected⟩
      rw [live, none, Nat.zero_add]
      exact fits

/-- A step that keeps the bounds had room to grow. -/
theorem roomToGrow_of_bounded (formed : dispatch.pool.WellFormed)
    (step : dispatch.step event = some (next, dispatched)) (bounded : Bounded max next) :
    RoomToGrow max dispatch event := by
  intro grown
  obtain ⟨workers, unconnected⟩ := live_of_grows formed step grown
  have fits := bounded.live
  have single := bounded.unconnected
  rw [workers, live] at fits
  omega

/-- The limit bounds the workers in every state of exactly the runs that start a
worker only while none is on its way and the workers that run leave room for it. -/
theorem ceiling_holds_iff_room_to_grow (max : Nat) (events : List DispatchEvent)
    (target : Dispatch) :
    RunWith dispatches (fun _ event next => Limited max event ∧ Bounded max next)
        .start events target ↔
      RunWith dispatches (fun source event _ => Limited max event ∧ RoomToGrow max source event)
        .start events target := by
  have start : Sound Dispatch.start.frontend := sound_invariant.initial _ rfl
  have bounded : Bounded max Dispatch.start := ⟨Nat.zero_le _, Nat.zero_le _⟩
  constructor
  · intro run
    refine @RunWith.strengthen _ _ dispatches _ _ (fun dispatch => Sound dispatch.frontend)
      _ _ _ ?_ ?_ run start
    · rintro _ _ _ sound ⟨_, step⟩ _
      exact sound_dispatch_step sound step
    · rintro _ _ _ sound ⟨_, step⟩ ⟨limited, bounded⟩
      exact ⟨limited, roomToGrow_of_bounded sound.formed step bounded⟩
  · intro run
    refine @RunWith.strengthen _ _ dispatches _ _
      (fun dispatch => Sound dispatch.frontend ∧ Bounded max dispatch)
      _ _ _ ?_ ?_ run ⟨start, bounded⟩
    · rintro _ _ _ ⟨sound, bounded⟩ ⟨_, step⟩ ⟨_, room⟩
      exact ⟨sound_dispatch_step sound step, bounded_step sound.formed bounded step room⟩
    · rintro _ _ _ ⟨sound, bounded⟩ ⟨_, step⟩ ⟨limited, room⟩
      exact ⟨limited, bounded_step sound.formed bounded step room⟩

/-- Two calls that come before the first worker has connected start two workers
where one is allowed. -/
theorem burst_starts_two_workers :
    ¬∀ (max : Nat) (events : List DispatchEvent) (target : Dispatch),
      RunWith dispatches (fun _ event _ => Limited max event) .start events target →
        Bounded max target := by
  intro claimed
  have run : RunWith dispatches (fun _ event _ => Limited 1 event) .start
      [.handoff 1 true, .handoff 1 true] ⟨.start, ⟨false, [0, 1], []⟩, 2, 2, []⟩ :=
    .cons ⟨none, rfl⟩ rfl (.cons ⟨none, rfl⟩ rfl (.nil _))
  exact absurd (claimed 1 _ _ run).unconnected (by decide)

end PgTransport.Properties
