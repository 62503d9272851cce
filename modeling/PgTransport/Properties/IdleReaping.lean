import PgTransport.Pool.Reaper

/-!
# Idle reaping

The slots that are ready are listed in the order in which they became so, since a slot
that becomes ready comes last and every other step only takes slots away.  What the
reaper drains is compared with the floor that it keeps.
-/

open scoped List

namespace PgTransport.Properties

open PgTransport.Pool
open PgTransport.Transition

/-- The slots were ready in the order in which they are listed, the last one no later than
`clock`. -/
structure OldestFirst (slots : Slots) (clock : Nat) : Prop where
  sorted : slots.Pairwise fun first second => first.2.lastReadyAt ≤ second.2.lastReadyAt
  past : ∀ entry ∈ slots, entry.2.lastReadyAt ≤ clock

/-- What the reaper does: it drains over-idle slots that were ready, as many as the floor
allows, and keeps the order of the others. -/
structure Reaps (minWarm reapAfter now : Nat) (before after : PoolState) : Prop where
  moves : ∃ moved, before.ready.ids ~ moved ++ after.ready.ids ∧
    after.draining.ids ~ moved ++ before.draining.ids ∧
    ∀ id ∈ moved, ∃ peer, (id, peer) ∈ before.ready ∧ peer.lastReadyAt + reapAfter < now
  floor : min minWarm before.ready.length ≤ after.ready.length
  complete : (∃ entry ∈ after.ready, entry.2.lastReadyAt + reapAfter < now) →
    after.ready.length ≤ minWarm
  order : after.ready.Sublist before.ready
  inFlight : after.inFlight = before.inFlight

/-! ## The order of the ready slots -/

namespace OldestFirst

variable {slots rest : Slots} {clock now : Nat}

theorem sublist (oldest : OldestFirst slots clock) (kept : rest.Sublist slots)
    (later : clock ≤ now) : OldestFirst rest now where
  sorted := oldest.sorted.sublist kept
  past entry member := Nat.le_trans (oldest.past entry (kept.subset member)) later

theorem append (oldest : OldestFirst slots clock) (later : clock ≤ now) (id : Nat) :
    OldestFirst (slots ++ [(id, ⟨now⟩)]) now where
  sorted := by
    rw [List.pairwise_append]
    refine ⟨oldest.sorted, List.pairwise_singleton _ _, ?_⟩
    intro first member second last
    rw [List.mem_singleton.mp last]
    exact Nat.le_trans (oldest.past first member) later
  past entry member := by
    rcases List.mem_append.mp member with early | last
    · exact Nat.le_trans (oldest.past entry early) later
    · cases List.mem_singleton.mp last
      exact Nat.le_refl now

end OldestFirst

/-- The containers are well formed and the ready slots in order. -/
structure ReadyInOrder (state : Clocked) : Prop where
  formed : state.frontend.pool.WellFormed
  oldest : OldestFirst state.frontend.pool.ready state.clock

section Reaper

variable {minWarm reapAfter : Nat}

theorem wellFormed_stepAbove {frontend next : Frontend} {event : FrontendEvent}
    (formed : frontend.pool.WellFormed)
    (step : frontend.stepAbove minWarm reapAfter event = some next) :
    next.pool.WellFormed := by
  by_cases reaper : ∃ now, event = .reapOnce now
  · obtain ⟨now, rfl⟩ := reaper
    cases step
    exact formed.of_sameSlots (Frontend.requestDrains_sameSlots formed _).1
  · have plain : frontend.step event = some next := by
      cases event with
      | reapOnce now => exact absurd ⟨now, rfl⟩ reaper
      | _ => exact step
    rcases Frontend.step_cases formed plain with ⟨now, _, accepted, _⟩ |
      ⟨_, _, _, _, drops, _⟩ | ⟨_, _, drops, _⟩ | ⟨_, _, _, same, _⟩
    · exact accepted ▸ formed.accept now
    · exact formed.of_drops drops
    · exact formed.of_drops drops
    · exact formed.of_sameSlots same

/-- Every step keeps the ready slots in order. -/
theorem readyInOrder_step {source target : Clocked} {event : FrontendEvent}
    (order : ReadyInOrder source)
    (step : ClockedStep minWarm reapAfter source event target) : ReadyInOrder target := by
  constructor
  · exact wellFormed_stepAbove order.formed step.step
  · rcases Frontend.ready_of_stepAbove order.formed step.step with kept | ⟨id, now, time, last⟩
    · exact order.oldest.sublist kept step.later
    · rw [last, step.reads now time]
      exact order.oldest.append step.later id

theorem readyInOrder_invariant : Invariant (clocked minWarm reapAfter) ReadyInOrder where
  initial := by
    rintro ⟨_, clock⟩ rfl
    constructor
    · constructor
      · exact List.nodup_nil
      · intro id listed
        cases listed
    · constructor
      · exact List.Pairwise.nil
      · intro entry member
        cases member
  step _ _ _ := readyInOrder_step

/-! ## What the reaper drains -/

variable {pool : PoolState} {now : Nat}

/-- The candidates are the slots that are over-idle. -/
theorem mem_candidates {id : Nat} :
    id ∈ pool.candidates reapAfter now ↔
      ∃ peer, (id, peer) ∈ pool.ready ∧ peer.lastReadyAt + reapAfter < now := by
  have overIdle : ∀ peer : SlotPeer,
      peer.OverIdle reapAfter now ↔ peer.lastReadyAt + reapAfter < now := by
    intro peer
    unfold SlotPeer.OverIdle
    omega
  simp [PoolState.candidates, Slots.ids, overIdle]

theorem candidates_sublist : (pool.candidates reapAfter now).Sublist pool.ready.ids :=
  List.filter_sublist.map Prod.fst

theorem reapedAbove_sublist :
    (pool.reapedAbove minWarm reapAfter now).Sublist (pool.candidates reapAfter now) :=
  List.drop_sublist _ _

theorem length_reapedAbove :
    (pool.reapedAbove minWarm reapAfter now).length =
      min (pool.candidates reapAfter now).length (pool.ready.length - minWarm) := by
  have fewer := (@candidates_sublist reapAfter pool now).length_le
  rw [Slots.length_ids] at fewer
  rw [PoolState.reapedAbove, List.length_drop]
  omega

/-- The reaper drains what it may, whatever the floor and the time. -/
theorem reaps_reapOnce {frontend : Frontend} (formed : frontend.pool.WellFormed) :
    Reaps minWarm reapAfter now frontend.pool
      (frontend.reapOnce minWarm reapAfter now).pool := by
  have unique : frontend.pool.ready.ids.Nodup :=
    (List.nodup_append.mp (List.nodup_append.mp formed.nodup).1).1
  have dropped := @reapedAbove_sublist minWarm reapAfter frontend.pool now
  have chosen := dropped.trans candidates_sublist
  obtain ⟨taken, inFlight⟩ := Frontend.ready_requestDrains (chosen.nodup unique)
    fun _ member => chosen.subset member
  have drained := @length_reapedAbove minWarm reapAfter frontend.pool now
  have lengths : frontend.pool.ready.length =
      (frontend.pool.reapedAbove minWarm reapAfter now).length +
        (frontend.reapOnce minWarm reapAfter now).pool.ready.length := by
    have length := taken.length_eq
    rwa [List.length_append, Slots.length_ids, Slots.length_ids] at length
  constructor
  · refine ⟨frontend.pool.reapedAbove minWarm reapAfter now, taken, ?_, ?_⟩
    · exact Frontend.draining_requestDrains formed (chosen.nodup unique)
        fun _ member => chosen.subset member
    · intro id member
      exact mem_candidates.mp (dropped.subset member)
  · omega
  · rintro ⟨entry, stays, idle⟩
    -- an over-idle slot that stays is a candidate that is not drained
    have listed : entry.1 ∈ (frontend.reapOnce minWarm reapAfter now).pool.ready.ids :=
      List.mem_map_of_mem stays
    have candidate : entry.1 ∈ frontend.pool.candidates reapAfter now :=
      mem_candidates.mpr ⟨entry.2, (Frontend.requestDrains_sublist _).subset stays, idle⟩
    have spared : entry.1 ∉ frontend.pool.reapedAbove minWarm reapAfter now := by
      intro member
      exact (List.nodup_append.mp (taken.nodup_iff.mp unique)).2.2 _ member _ listed rfl
    have fewer : (frontend.pool.reapedAbove minWarm reapAfter now).length <
        (frontend.pool.candidates reapAfter now).length := by
      apply Nat.lt_of_le_of_ne dropped.length_le
      intro same
      rw [dropped.eq_of_length same] at spared
      exact spared candidate
    omega
  · exact Frontend.requestDrains_sublist _
  · exact inFlight

/-- In every reachable state the ready slots are listed oldest first, and the reaper keeps
to its floor there, whatever its parameters and its clock. -/
theorem idle_reaping {state : Clocked}
    (reachable : Reachable (clocked minWarm reapAfter) state) :
    (state.frontend.pool.ready.Pairwise fun first second =>
        first.2.lastReadyAt ≤ second.2.lastReadyAt) ∧
      ∀ warm after now, Reaps warm after now state.frontend.pool
        (state.frontend.reapOnce warm after now).pool := by
  have order : ReadyInOrder state := readyInOrder_invariant.reachable reachable
  constructor
  · exact order.oldest.sorted
  · intro warm after now
    exact reaps_reapOnce order.formed

/-- Two slots that are ready and over-idle. -/
def idlers : Clocked where
  frontend := ⟨⟨[(0, ⟨1⟩), (1, ⟨2⟩)], [], [], 2, false⟩, [1, 0], []⟩
  clock := 2

theorem idlers_reached : Reachable (clocked 1 60) idlers :=
  ⟨⟨.start, 0⟩, [.accept 0, .accept 0, .reads 0 .ready 1, .reads 1 .ready 2], rfl,
    .cons (.at_time 0 (by decide) (by decide) rfl) trivial
      (.cons (.at_time 0 (by decide) (by decide) rfl) trivial
        (.cons (.at_time 1 (by decide) (by decide) rfl) trivial
          (.cons (.at_time 2 (by decide) (by decide) rfl) trivial (.nil _))))⟩

/-- With a floor of one slot the reaper drains one of them. -/
theorem idlers_reaped :
    Reaps 1 60 100 idlers.frontend.pool (idlers.frontend.reapOnce 1 60 100).pool :=
  (idle_reaping idlers_reached).2 1 60 100

end Reaper

end PgTransport.Properties
