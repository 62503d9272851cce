import Mathlib.Data.List.Perm.Basic
import Mathlib.Data.List.Nodup

/-!
# The state of the slot pool

A slot is listed in one of three containers, and the container is its state.
Containers are lists of identifiers with what is kept of the slot, in the order
of insertion; only the order of `ready` is ever looked at.  Identifiers are drawn
from a counter without a bound, and times are what the frontend's clock shows.
-/

namespace PgTransport.Pool

/-- What the pool keeps of a slot. -/
structure SlotPeer where
  lastReadyAt : Nat
  deriving DecidableEq, Repr

/-- A container of slots. -/
abbrev Slots : Type :=
  List (Nat × SlotPeer)

namespace Slots

/-- The identifiers in a container. -/
def ids (slots : Slots) : List Nat :=
  slots.map Prod.fst

/-- `insert`: a slot that is there already keeps its place. -/
def insert (slots : Slots) (id : Nat) (peer : SlotPeer) : Slots :=
  if id ∈ slots.ids then
    slots.map fun entry => if entry.1 = id then (id, peer) else entry
  else
    slots ++ [(id, peer)]

/-- `remove`, or `shift_remove`: the slot, and the container without it. -/
def remove (slots : Slots) (id : Nat) : Option (SlotPeer × Slots) :=
  match slots.find? (fun entry => entry.1 == id) with
  | none => none
  | some entry => some (entry.2, slots.eraseP fun entry => entry.1 == id)

theorem ids_append (first second : Slots) :
    ids (first ++ second) = first.ids ++ second.ids :=
  List.map_append

@[simp]
theorem length_ids (slots : Slots) : slots.ids.length = slots.length :=
  List.length_map Prod.fst

theorem insert_perm {slots : Slots} {id : Nat} (peer : SlotPeer) (absent : id ∉ slots.ids) :
    (slots.insert id peer).ids.Perm (id :: slots.ids) := by
  rw [insert, if_neg absent, ids_append]
  exact List.perm_append_singleton id slots.ids

/-- An insertion lists no other slot. -/
theorem mem_of_insert {slots : Slots} {id other : Nat} {peer : SlotPeer}
    (listed : other ∈ (slots.insert id peer).ids) : other = id ∨ other ∈ slots.ids := by
  unfold insert at listed
  split at listed
  · obtain ⟨entry, member, same⟩ := List.mem_map.mp listed
    obtain ⟨earlier, there, replaced⟩ := List.mem_map.mp member
    split at replaced
    · left
      rw [← same, ← replaced]
    · right
      rw [← same, ← replaced]
      exact List.mem_map_of_mem there
  · rw [ids_append, List.mem_append] at listed
    exact listed.symm.imp_left List.mem_singleton.mp

theorem remove_perm {slots rest : Slots} {id : Nat} {peer : SlotPeer}
    (removed : slots.remove id = some (peer, rest)) : slots.ids.Perm (id :: rest.ids) := by
  unfold remove at removed
  split at removed
  · cases removed
  · next entry found =>
    cases removed
    obtain ⟨other, before, later, _, same, split, erased⟩ :=
      List.exists_of_eraseP (List.mem_of_find?_eq_some found) (List.find?_some found)
    have same : other.1 = id := by simpa using same
    rw [erased, split, ids_append, ids_append, ← same]
    exact List.perm_middle

theorem remove_eq_none_iff {slots : Slots} {id : Nat} :
    slots.remove id = none ↔ id ∉ slots.ids := by
  unfold remove
  cases found : slots.find? (fun entry => entry.1 == id) with
  | none =>
      simp only [true_iff]
      intro listed
      rw [List.find?_eq_none] at found
      obtain ⟨entry, member, same⟩ := List.mem_map.mp listed
      exact found entry member (by simpa using same)
  | some entry =>
      simp only [reduceCtorEq, false_iff, not_not]
      have same : entry.1 = id := by simpa using List.find?_some found
      exact List.mem_map.mpr ⟨entry, List.mem_of_find?_eq_some found, same⟩

end Slots

/-- `PoolState`. -/
structure PoolState where
  ready : Slots
  inFlight : Slots
  draining : Slots
  slotIdCounter : Nat
  growing : Bool
  deriving DecidableEq, Repr

namespace PoolState

/-- `PoolState::new`. -/
def new : PoolState :=
  ⟨[], [], [], 0, false⟩

/-- `total`. -/
def total (pool : PoolState) : Nat :=
  pool.ready.length + pool.inFlight.length + pool.draining.length

/-- `next_slot_id`, and the insertion of the slot that was accepted. -/
def accept (pool : PoolState) (now : Nat) : PoolState :=
  { pool with
    inFlight := pool.inFlight.insert pool.slotIdCounter ⟨now⟩
    slotIdCounter := pool.slotIdCounter + 1 }

/-- `on_ready`, and whether it wakes a dispatcher. -/
def onReady (pool : PoolState) (id now : Nat) : PoolState × Bool :=
  match pool.inFlight.remove id with
  | none => (pool, false)
  | some (_, rest) =>
      ({ pool with ready := pool.ready.insert id ⟨now⟩, inFlight := rest }, true)

/-- `draining.remove`, and whether the slot was there. -/
def dropDraining (pool : PoolState) (id : Nat) : PoolState × Bool :=
  match pool.draining.remove id with
  | none => (pool, false)
  | some (_, rest) => ({ pool with draining := rest }, true)

/-- `on_drain_ack`. -/
def onDrainAck (pool : PoolState) (id : Nat) : PoolState :=
  (pool.dropDraining id).1

/-- `cleanup_orphaned`. -/
def cleanupOrphaned (pool : PoolState) (id : Nat) : PoolState :=
  match pool.ready.remove id with
  | some (_, rest) => { pool with ready := rest }
  | none =>
      match pool.inFlight.remove id with
      | some (_, rest) => { pool with inFlight := rest }
      | none =>
          match pool.draining.remove id with
          | some (_, rest) => { pool with draining := rest }
          | none => pool

/-- `try_pop_ready`: the slot that a client is dispatched to. -/
def tryPopReady (pool : PoolState) : Option (Nat × PoolState) :=
  match pool.ready with
  | [] => none
  | (id, peer) :: rest =>
      some (id, { pool with ready := rest, inFlight := pool.inFlight.insert id peer })

/-- `request_drain`, up to the drain request that it sends; whether it sends one
and starts a watchdog. -/
def requestDrain (pool : PoolState) (id : Nat) : PoolState × Bool :=
  match pool.ready.remove id with
  | none => (pool, false)
  | some (peer, rest) =>
      ({ pool with ready := rest, draining := pool.draining.insert id peer }, true)

/-- `MIN_WARM_SLOTS`. -/
def minWarmSlots : Nat :=
  0

/-- `IDLE_REAP_AFTER`, in seconds. -/
def idleReapAfter : Nat :=
  60

/-- The slots that `reap_once` drains. -/
def reaped (pool : PoolState) (now : Nat) : List Nat :=
  let candidates := Slots.ids (pool.ready.filter fun entry =>
    entry.2.lastReadyAt < now ∧ idleReapAfter < now - entry.2.lastReadyAt)
  candidates.drop (minWarmSlots - (pool.ready.length - candidates.length))

/-- The slots that `sighup_reconcile` drains. -/
def excess (pool : PoolState) (max : Nat) : List Nat :=
  if pool.total ≤ max then [] else pool.ready.ids.take (pool.total - max)

end PoolState

end PgTransport.Pool
