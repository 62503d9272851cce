import PgTransport.Pool.Dispatch

/-!
# The containers of the pool

Whatever the frontend's tasks do, and whatever bytes the slots send, a slot is
listed in one container at most, its reader runs, and a slot that is no longer
listed never comes back.
-/

open scoped List

namespace PgTransport.Properties

open PgTransport.Pool
open PgTransport.Transition

/-- The containers are disjoint, the identifiers in them have been drawn, and the
readers of the slots run. -/
structure Sound (frontend : Frontend) : Prop where
  formed : frontend.pool.WellFormed
  reading : ∀ id ∈ frontend.pool.all, id ∈ frontend.readers

/-- The containers are pairwise disjoint. -/
structure Disjoint (pool : PoolState) : Prop where
  ready_inFlight : ∀ id ∈ pool.ready.ids, id ∉ pool.inFlight.ids
  ready_draining : ∀ id ∈ pool.ready.ids, id ∉ pool.draining.ids
  inFlight_draining : ∀ id ∈ pool.inFlight.ids, id ∉ pool.draining.ids

theorem disjoint_of_wellFormed {pool : PoolState} (formed : pool.WellFormed) :
    Disjoint pool := by
  obtain ⟨early, _, apart⟩ := List.nodup_append.mp formed.nodup
  obtain ⟨_, _, first⟩ := List.nodup_append.mp early
  exact ⟨fun id here there => first id here id there rfl,
    fun id here there => apart id (List.mem_append_left _ here) id there rfl,
    fun id here there => apart id (List.mem_append_right _ here) id there rfl⟩

/-- Every step keeps the containers sound. -/
theorem sound_step {frontend next : Frontend} {event : FrontendEvent} (sound : Sound frontend)
    (step : frontend.step event = some next) : Sound next := by
  rcases Frontend.step_cases sound.formed step with ⟨now, _, accepted, readers⟩ |
    ⟨id, gone, _, _, drops, absent, readers⟩ | ⟨gone, _, drops, readers⟩ |
      ⟨_, _, _, same, readers⟩
  · refine ⟨accepted ▸ sound.formed.accept now, ?_⟩
    intro id listed
    rw [accepted] at listed
    rw [readers]
    rcases List.mem_cons.mp ((PoolState.all_accept sound.formed now).mem_iff.mp listed) with
      rfl | listed
    · exact List.mem_cons_self
    · exact List.mem_cons_of_mem _ (sound.reading id listed)
  · refine ⟨sound.formed.of_drops drops, ?_⟩
    intro other listed
    have before := sound.reading other (drops.all.mem_iff.mpr (List.mem_append_right _ listed))
    have different : other ≠ id := by
      rintro rfl
      exact absent listed
    rw [readers]
    exact (List.mem_erase_of_ne different).mpr before
  · refine ⟨sound.formed.of_drops drops, ?_⟩
    intro other listed
    rw [readers]
    exact sound.reading other (drops.all.mem_iff.mpr (List.mem_append_right _ listed))
  · refine ⟨sound.formed.of_sameSlots same, ?_⟩
    intro other listed
    rw [readers]
    exact sound.reading other (same.all.mem_iff.mp listed)

theorem sound_invariant : Invariant frontends Sound where
  initial := by
    rintro _ rfl
    refine ⟨⟨List.nodup_nil, ?_⟩, ?_⟩ <;> intro id listed <;> cases listed
  step _ _ _ sound step := sound_step sound step

/-- Every step of dispatch keeps the containers sound. -/
theorem sound_dispatch_step {dispatch next : Dispatch} {event : DispatchEvent}
    {dispatched : Option Nat} (sound : Sound dispatch.frontend)
    (step : dispatch.step event = some (next, dispatched)) : Sound next.frontend := by
  rcases Dispatch.frontend_of_step step with same | ⟨moved, taken⟩
  · rw [same]
    exact sound
  · exact sound_step sound taken

/-- The counter only grows, and no step lists a slot that has been drawn before
and is not listed. -/
theorem unlisted_step {frontend next : Frontend} {event : FrontendEvent} (sound : Sound frontend)
    (step : frontend.step event = some next) :
    frontend.pool.slotIdCounter ≤ next.pool.slotIdCounter ∧
      ∀ id, id < frontend.pool.slotIdCounter → id ∉ frontend.pool.all → id ∉ next.pool.all := by
  rcases Frontend.step_cases sound.formed step with ⟨now, _, accepted, _⟩ |
    ⟨_, gone, _, _, drops, _⟩ | ⟨gone, _, drops, _⟩ | ⟨_, _, _, same, _⟩
  · rw [accepted]
    refine ⟨Nat.le_succ _, ?_⟩
    intro id drawn absent listed
    rcases List.mem_cons.mp ((PoolState.all_accept sound.formed now).mem_iff.mp listed) with
      rfl | listed
    · exact Nat.lt_irrefl _ drawn
    · exact absent listed
  · exact ⟨Nat.le_of_eq drops.counter.symm, fun id _ absent listed =>
      absent (drops.all.mem_iff.mpr (List.mem_append_right _ listed))⟩
  · exact ⟨Nat.le_of_eq drops.counter.symm, fun id _ absent listed =>
      absent (drops.all.mem_iff.mpr (List.mem_append_right _ listed))⟩
  · exact ⟨Nat.le_of_eq same.counter.symm, fun id _ absent listed =>
      absent (same.all.mem_iff.mp listed)⟩

/-- In every run, a slot that is no longer listed is not listed again. -/
theorem unlisted_run {frontend later : Frontend} {events : List FrontendEvent}
    (run : Run frontends frontend events later) (sound : Sound frontend) :
    frontend.pool.slotIdCounter ≤ later.pool.slotIdCounter ∧
      ∀ id, id < frontend.pool.slotIdCounter → id ∉ frontend.pool.all → id ∉ later.pool.all := by
  induction run with
  | nil => exact ⟨Nat.le_refl _, fun _ _ absent => absent⟩
  | cons step _ _ inductionHypothesis =>
      obtain ⟨grows, unlisted⟩ := unlisted_step sound step
      obtain ⟨growsLater, unlistedLater⟩ := inductionHypothesis (sound_step sound step)
      exact ⟨Nat.le_trans grows growsLater, fun id drawn absent =>
        unlistedLater id (Nat.lt_of_lt_of_le drawn grows) (unlisted id drawn absent)⟩

/-- In every reachable state the containers are pairwise disjoint, their slots
have been drawn from the counter and have running readers.  What is listed changes
only by an accept, which lists the next identifier, by the end of a reader and by a
watchdog; and in no run from there is a slot that is not listed listed again. -/
theorem containers_partition_slots (frontend : Frontend)
    (reached : Reachable frontends frontend) :
    Disjoint frontend.pool ∧
    (∀ id ∈ frontend.pool.all, id < frontend.pool.slotIdCounter ∧ id ∈ frontend.readers) ∧
    (∀ event next, frontend.step event = some next →
      (event.isAccept = true → next.pool.slotIdCounter = frontend.pool.slotIdCounter + 1 ∧
        ∀ id, id ∈ next.pool.all ↔ id = frontend.pool.slotIdCounter ∨ id ∈ frontend.pool.all) ∧
      (event.isAccept = false → event.endsReader = false → event.isWatchdog = false →
        ∀ id, id ∈ next.pool.all ↔ id ∈ frontend.pool.all)) ∧
    ∀ events later, Run frontends frontend events later →
      frontend.pool.slotIdCounter ≤ later.pool.slotIdCounter ∧
        ∀ id, id < frontend.pool.slotIdCounter → id ∉ frontend.pool.all →
          id ∉ later.pool.all := by
  have sound := sound_invariant.reachable reached
  refine ⟨disjoint_of_wellFormed sound.formed,
    fun id listed => ⟨sound.formed.below id listed, sound.reading id listed⟩, ?_,
    fun _ _ run => unlisted_run run sound⟩
  intro event next step
  rcases Frontend.step_cases sound.formed step with ⟨now, rfl, accepted, _⟩ |
    ⟨_, _, ends, _⟩ | ⟨_, watchdog, _⟩ | ⟨other, _, _, same, _⟩
  · constructor
    · intro _
      rw [accepted]
      refine ⟨rfl, fun id => ?_⟩
      rw [(PoolState.all_accept sound.formed now).mem_iff, List.mem_cons]
    · intro impossible
      cases impossible
  · refine ⟨fun accepts => ?_, fun _ no => by rw [ends] at no; cases no⟩
    cases event <;> simp [FrontendEvent.isAccept] at accepts
    simp [FrontendEvent.endsReader] at ends
  · refine ⟨fun accepts => ?_, fun _ _ no => by rw [watchdog] at no; cases no⟩
    cases event <;> simp [FrontendEvent.isAccept] at accepts
    simp [FrontendEvent.isWatchdog] at watchdog
  · constructor
    · intro accepts
      rw [other] at accepts
      cases accepts
    · exact fun _ _ _ id => same.all.mem_iff

/-- A frontend with one slot, which has been accepted, has become ready and is being
drained. -/
def oneDrained : Frontend :=
  ⟨⟨[], [], [(0, ⟨1⟩)], 1, false⟩, [0], [0]⟩

theorem drained_slot_listed_once :
    Disjoint oneDrained.pool ∧ 0 ∈ oneDrained.readers :=
  have reached : Reachable frontends oneDrained :=
    ⟨.start, [.accept 0, .reads 0 .ready 1, .reapOnce 100], rfl,
      .cons rfl trivial (.cons rfl trivial (.cons rfl trivial (.nil _)))⟩
  ⟨(containers_partition_slots _ reached).1,
    ((containers_partition_slots _ reached).2.1 0 (by decide)).2⟩

end PgTransport.Properties
