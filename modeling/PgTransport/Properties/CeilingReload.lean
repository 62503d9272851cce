import PgTransport.Properties.HandoffProtocol

/-!
# Reloads with an unchanged ceiling

A reload drains as many ready slots as the pool is over its ceiling, and counts
the slots that are draining already.  Repeated before these have gone, it drains
below the ceiling; the runs in which it does not are those whose reloads each find
no slot draining, none to drain, nothing in excess or the ceiling used up by the
slots in flight.
-/

open scoped List

namespace PgTransport.Properties

open PgTransport.Pool
open PgTransport.Transition

/-- The number of slots that are not draining. -/
def nonDraining (sockets : Sockets) : Nat :=
  sockets.pool.undrained.length

/-- A step that lists no slot and drains none, and after which no slot is gone but
one that is draining. -/
def Steady (sockets : Sockets) : SocketEvent → Prop
  | .accept _ | .reapOnce _ _ | .sighupReconcile _ _ => False
  | .stops id _ => id ∉ sockets.pool.undrained
  | _ => True

/-- A reload with the ceiling `max`, or a steady step. -/
def Reloads (max : Nat) (sockets : Sockets) : SocketEvent → Prop
  | .sighupReconcile limit _ => limit = max
  | event => Steady sockets event

/-- A reload finds no slot draining, no slot to drain, no slot in excess, or the
ceiling used up by the slots in flight. -/
def ReloadSettled (max : Nat) (pool : PoolState) : Prop :=
  pool.draining = [] ∨ pool.ready = [] ∨ pool.total ≤ max ∨ max ≤ pool.inFlight.length

/-- A reload is settled. -/
def SettledAt (max : Nat) (sockets : Sockets) : SocketEvent → Prop
  | .sighupReconcile _ _ => ReloadSettled max sockets.pool
  | _ => True

/-! ## What draining takes -/

section Draining

variable {frontend : Frontend}

theorem length_excess (pool : PoolState) (max : Nat) :
    (pool.excess max).length = min (pool.total - max) pool.ready.length := by
  unfold PoolState.excess
  split
  · next fits => simp [Nat.sub_eq_zero_of_le fits]
  · rw [List.length_take, Slots.length_ids]

/-- A reload takes the slots that are in excess, as far as they are ready. -/
theorem undrained_sighupReconcile (formed : frontend.pool.WellFormed) (max : Nat) :
    frontend.pool.undrained.length =
      min (frontend.pool.total - max) frontend.pool.ready.length +
        (frontend.requestDrains (frontend.pool.excess max)).pool.undrained.length := by
  have unique : frontend.pool.ready.ids.Nodup :=
    (List.nodup_append.mp (List.nodup_append.mp formed.nodup).1).1
  have chosen : (frontend.pool.excess max).Sublist frontend.pool.ready.ids := by
    unfold PoolState.excess
    split
    · exact List.nil_sublist _
    · exact List.take_sublist _ _
  obtain ⟨taken, same⟩ :=
    Frontend.ready_requestDrains (chosen.nodup unique) fun _ member => chosen.subset member
  have length := taken.length_eq
  rw [List.length_append, length_excess, Slots.length_ids, Slots.length_ids] at length
  rw [PoolState.length_undrained, PoolState.length_undrained, same]
  omega

end Draining

/-! ## What a step does to the number -/

section Steps

variable {before after : Sockets} {event : SocketEvent} {max : Nat}

theorem nonDraining_of_pool (same : after.pool.undrained ~ before.pool.undrained) :
    nonDraining after = nonDraining before :=
  same.length_eq

/-- A steady step leaves the number alone. -/
theorem nonDraining_steady (prompted : Prompted before) (step : before.step event = some after)
    (steady : Steady before event) : nonDraining after = nonDraining before := by
  have formed : before.pool.WellFormed := prompted.lockstep.sound.formed
  apply nonDraining_of_pool
  cases Sockets.effect_of_step step with
  | connects | slot | cancel | sends | fails => exact .refl _
  | accept | reapOnce | sighupReconcile => exact steady.elim
  | refuses _ moved =>
      cases Dispatch.step_workerFails moved
      exact .refl _
  | workerFails moved =>
      cases Dispatch.step_workerFails moved
      exact .refl _
  | gone moved =>
      cases Dispatch.step_exits moved
      exact .refl _
  | waits _ same =>
      rw [Sockets.pool, Dispatch.pool, same]
      exact .refl _
  | pops _ popped => exact PoolState.undrained_of_popped formed popped
  | @reads id now opcode slot next dispatch _ there read moved =>
      have pool : dispatch.pool = _ := (Dispatch.step_reads moved).1
      rw [Sockets.pool, pool]
      cases opcode with
      | ready => exact PoolState.undrained_onReady formed id now
      | drainAck =>
          have absent := prompted.not_mem_undrained there read
          have acked := @PoolState.undrained_dropped before.pool id
          rw [← acked] at absent
          rw [← acked]
          exact .of_eq (PoolState.undrained_of_orphaned absent)
  | @stops id now dispatch _ moved =>
      have pool : dispatch.pool = _ := (Dispatch.step_reads moved).1
      rw [Sockets.pool, pool]
      exact .of_eq (PoolState.undrained_of_orphaned steady)
  | @watchdog id _ dispatch _ moved =>
      have pool : dispatch.pool = _ := (Dispatch.step_watchdog moved).1
      rw [Sockets.pool, pool]
      exact .of_eq (PoolState.undrained_dropped id)

/-- A reload takes the ready slots that are in excess. -/
theorem nonDraining_sighupReconcile (prompted : Prompted before) {lost : List Nat}
    (step : before.step (.sighupReconcile max lost) = some after) :
    nonDraining before =
      min (before.pool.total - max) before.pool.ready.length + nonDraining after := by
  cases step
  rw [nonDraining, nonDraining, Sockets.pool, Dispatch.pool, Sockets.pool, Dispatch.pool,
    Sockets.frontend_requestDrains]
  exact undrained_sighupReconcile prompted.lockstep.sound.formed max

/-- A reload leaves the ceiling's slots, or those that there were, exactly if it is
settled. -/
theorem settled_iff (pool : PoolState) {left : Nat}
    (taken : pool.undrained.length = min (pool.total - max) pool.ready.length + left) :
    min max pool.undrained.length ≤ left ↔ ReloadSettled max pool := by
  rw [ReloadSettled, ← List.length_eq_zero_iff, ← List.length_eq_zero_iff]
  rw [PoolState.length_undrained] at *
  rw [PoolState.total] at *
  omega

theorem nonDraining_reload_le (prompted : Prompted before) (reloads : Reloads max before event)
    (step : before.step event = some after) : nonDraining after ≤ nonDraining before := by
  cases event with
  | sighupReconcile limit lost =>
      rw [nonDraining_sighupReconcile prompted step]
      exact Nat.le_add_left _ _
  | _ => exact Nat.le_of_eq (nonDraining_steady prompted step reloads)

theorem settledAt_iff (prompted : Prompted before) (reloads : Reloads max before event)
    (step : before.step event = some after) :
    min max (nonDraining before) ≤ nonDraining after ↔ SettledAt max before event := by
  cases event with
  | sighupReconcile limit lost =>
      have same : limit = max := reloads
      subst same
      exact settled_iff before.pool (nonDraining_sighupReconcile prompted step)
  | _ =>
      rw [nonDraining_steady prompted step reloads]
      exact ⟨fun _ => trivial, fun _ => Nat.min_le_right _ _⟩

end Steps

/-- From every reachable state, in every run whose drains are those of reloads with
the ceiling `max`, and in which no slot is accepted and no slot goes but one that is
draining: the slots that are not draining are as many in the end as the ceiling
allows, or as there were, exactly if each reload is settled. -/
theorem reloads_keep_ceiling_iff_settled (max : Nat) (state target : Sockets)
    (events : List SocketEvent) (reached : Reachable sockets state)
    (run : RunWith sockets (fun source event _ => Reloads max source event) state events target) :
    min max (nonDraining state) ≤ nonDraining target ↔
      RunWith sockets (fun source event _ => Reloads max source event ∧ SettledAt max source event)
        state events target := by
  have prompted := prompted_invariant.reachable reached
  rw [run.floor_iff max (fun _ _ _ here step _ => prompted_step here step)
    (fun _ _ _ here step reloads => nonDraining_reload_le here reloads step) prompted]
  apply RunWith.congr Prompted (fun _ _ _ here step => prompted_step here step) _ prompted
  intro source event target here step
  exact and_congr_right fun reloads => settledAt_iff here reloads step

/-- Two slots are ready. -/
def twoReady : Sockets where
  dispatch :=
    ⟨⟨⟨[(0, ⟨1⟩), (1, ⟨1⟩)], [], [], 2, false⟩, [1, 0], []⟩, ⟨false, [], [0, 1]⟩, 2, 0, []⟩
  slots :=
    [⟨.waiting, [], [], false, false, false⟩, ⟨.waiting, [], [], false, false, false⟩]
  sending := []
  sent := []

theorem twoReady_reached : Reachable sockets twoReady :=
  ⟨.start, [.handoff 2 true, .handoff 2 true, .connects, .connects, .accept 0, .accept 0,
    .slot 0 .announces, .slot 1 .announces, .reads 0 1, .reads 1 1], rfl,
    .cons rfl trivial (.cons rfl trivial (.cons rfl trivial (.cons rfl trivial (.cons rfl trivial
      (.cons rfl trivial (.cons rfl trivial (.cons rfl trivial (.cons rfl trivial
        (.cons rfl trivial (.nil _))))))))))⟩

/-- One of the two slots drains. -/
def oneDraining : Sockets where
  dispatch :=
    ⟨⟨⟨[(1, ⟨1⟩)], [], [(0, ⟨1⟩)], 2, false⟩, [1, 0], [0]⟩, ⟨false, [], [0, 1]⟩, 2, 0, []⟩
  slots :=
    [⟨.waiting, [], [.drainRequest], false, false, true⟩,
      ⟨.waiting, [], [], false, false, false⟩]
  sending := []
  sent := []

/-- A single reload is settled. -/
theorem single_reload_keeps : min 1 (nonDraining twoReady) ≤ nonDraining oneDraining :=
  (reloads_keep_ceiling_iff_settled 1 twoReady oneDraining [.sighupReconcile 1 []] twoReady_reached
    (.cons rfl rfl (.nil _))).mpr (.cons rfl ⟨rfl, .inl rfl⟩ (.nil _))

/-- A second reload drains the other slot, too, before the first has gone. -/
theorem second_reload_overdrains :
    ¬∀ (max : Nat) (state target : Sockets) (events : List SocketEvent),
      Reachable sockets state →
      RunWith sockets (fun source event _ => Reloads max source event) state events target →
        min max (nonDraining state) ≤ nonDraining target := by
  intro claimed
  have run : RunWith sockets (fun source event _ => Reloads 1 source event) twoReady
      [.sighupReconcile 1 [], .sighupReconcile 1 []] _ :=
    .cons rfl rfl (.cons rfl rfl (.nil _))
  exact absurd (claimed 1 _ _ _ twoReady_reached run) (by decide)

end PgTransport.Properties
