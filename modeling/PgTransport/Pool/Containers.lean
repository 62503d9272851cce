import Mathlib.Data.List.Perm.Subperm
import PgTransport.Pool.State
import PgTransport.Transition.Run

/-!
# What the pool's operations do to its containers

Every operation accepts a slot, moves one between two containers, drops one or
changes nothing.  The lists of all identifiers before and behind it are compared
up to their order, which says what happens to membership, to uniqueness and to
the number of slots at once.
-/

open scoped List

namespace PgTransport.Pool

open PgTransport.Transition

namespace PoolState

/-- The identifiers of all listed slots. -/
def all (pool : PoolState) : List Nat :=
  pool.ready.ids ++ pool.inFlight.ids ++ pool.draining.ids

/-- No slot is listed twice, and every identifier has been drawn. -/
structure WellFormed (pool : PoolState) : Prop where
  nodup : pool.all.Nodup
  below : ∀ id ∈ pool.all, id < pool.slotIdCounter

theorem length_all (pool : PoolState) : pool.all.length = pool.total := by
  simp [all, total, Nat.add_assoc]

variable {pool : PoolState}

theorem WellFormed.counter_not_mem (formed : pool.WellFormed) :
    pool.slotIdCounter ∉ pool.all :=
  fun listed => Nat.lt_irrefl _ (formed.below _ listed)

theorem mem_all {id : Nat} :
    id ∈ pool.all ↔ id ∈ pool.ready.ids ∨ id ∈ pool.inFlight.ids ∨ id ∈ pool.draining.ids := by
  simp [all]

/-- A removed slot was listed. -/
theorem mem_of_remove {slots rest : Slots} {id : Nat} {peer : SlotPeer}
    (removed : slots.remove id = some (peer, rest)) : id ∈ slots.ids :=
  (Slots.remove_perm removed).mem_iff.mpr List.mem_cons_self

theorem all_accept (formed : pool.WellFormed) (now : Nat) :
    (pool.accept now).all.Perm (pool.slotIdCounter :: pool.all) := by
  have absent : pool.slotIdCounter ∉ pool.inFlight.ids := fun listed =>
    formed.counter_not_mem (mem_all.mpr (.inr (.inl listed)))
  have inserted := Slots.insert_perm ⟨now⟩ absent
  calc
    (pool.accept now).all
        ~ pool.ready.ids ++ (pool.slotIdCounter :: pool.inFlight.ids) ++ pool.draining.ids :=
      (inserted.append_left _).append_right _
    _ ~ pool.slotIdCounter :: (pool.ready.ids ++ pool.inFlight.ids) ++ pool.draining.ids :=
      List.perm_middle.append_right _

theorem all_onReady (formed : pool.WellFormed) (id now : Nat) :
    (pool.onReady id now).1.all.Perm pool.all := by
  unfold onReady
  split
  · exact .refl _
  · next peer rest removed =>
    have absent : id ∉ pool.ready.ids := by
      intro listed
      have unique := (List.nodup_append.mp (List.nodup_append.mp formed.nodup).1).2.2
      exact unique id listed id (mem_of_remove removed) rfl
    have inserted := Slots.insert_perm ⟨now⟩ absent
    calc
      (pool.ready.insert id ⟨now⟩).ids ++ rest.ids ++ pool.draining.ids
          ~ id :: pool.ready.ids ++ rest.ids ++ pool.draining.ids :=
        (inserted.append_right _).append_right _
      _ ~ pool.ready.ids ++ (id :: rest.ids) ++ pool.draining.ids :=
        (List.perm_middle.symm).append_right _
      _ ~ pool.ready.ids ++ pool.inFlight.ids ++ pool.draining.ids :=
        (((Slots.remove_perm removed).symm).append_left _).append_right _

theorem all_tryPopReady (formed : pool.WellFormed) {id : Nat} {next : PoolState}
    (popped : pool.tryPopReady = some (id, next)) : next.all ~ pool.all := by
  unfold tryPopReady at popped
  split at popped
  · cases popped
  · next first peer rest ready =>
    cases popped
    have unique := formed.nodup
    simp only [all, ready, Slots.ids, List.map_cons, List.cons_append, List.nodup_cons,
      List.mem_append, not_or] at unique
    have inserted := Slots.insert_perm peer unique.1.1.2
    calc
      Slots.ids rest ++ (pool.inFlight.insert id peer).ids ++ pool.draining.ids
          ~ Slots.ids rest ++ (id :: pool.inFlight.ids) ++ pool.draining.ids :=
        (inserted.append_left _).append_right _
      _ ~ id :: (Slots.ids rest ++ pool.inFlight.ids) ++ pool.draining.ids :=
        List.perm_middle.append_right _
      _ = pool.all := by rw [all, ready]; rfl

theorem all_requestDrain (formed : pool.WellFormed) (id : Nat) :
    (pool.requestDrain id).1.all ~ pool.all := by
  unfold requestDrain
  split
  · exact .refl _
  · next peer rest removed =>
    have absent : id ∉ pool.draining.ids := by
      intro listed
      have unique := (List.nodup_append.mp formed.nodup).2.2
      exact unique id (List.mem_append_left _ (mem_of_remove removed)) id listed rfl
    have inserted := Slots.insert_perm peer absent
    calc
      rest.ids ++ pool.inFlight.ids ++ (pool.draining.insert id peer).ids
          ~ rest.ids ++ pool.inFlight.ids ++ (id :: pool.draining.ids) :=
        inserted.append_left _
      _ ~ id :: (rest.ids ++ pool.inFlight.ids ++ pool.draining.ids) := List.perm_middle
      _ = id :: rest.ids ++ pool.inFlight.ids ++ pool.draining.ids := by simp
      _ ~ pool.ready.ids ++ pool.inFlight.ids ++ pool.draining.ids :=
        (((Slots.remove_perm removed).symm).append_right _).append_right _

/-- A slot that is dropped from one container is the only one that goes. -/
theorem perm_cons_of_removed {slots rest : Slots} {id : Nat} {peer : SlotPeer}
    (before after : List Nat) (removed : slots.remove id = some (peer, rest)) :
    before ++ slots.ids ++ after ~ id :: (before ++ rest.ids ++ after) :=
  calc
    before ++ slots.ids ++ after ~ before ++ (id :: rest.ids) ++ after :=
      ((Slots.remove_perm removed).append_left _).append_right _
    _ ~ id :: (before ++ rest.ids) ++ after := List.perm_middle.append_right _

theorem all_dropDraining (id : Nat) :
    (id ∉ pool.draining.ids ∧ pool.dropDraining id = (pool, false)) ∨
      pool.all ~ id :: (pool.dropDraining id).1.all ∧ (pool.dropDraining id).2 = true := by
  cases removed : pool.draining.remove id with
  | none => exact .inl ⟨Slots.remove_eq_none_iff.mp removed, by simp [dropDraining, removed]⟩
  | some found =>
      have dropped := perm_cons_of_removed (pool.ready.ids ++ pool.inFlight.ids) [] removed
      exact .inr ⟨by simpa [dropDraining, removed, all] using dropped, by
        simp [dropDraining, removed]⟩

theorem all_cleanupOrphaned (id : Nat) :
    (id ∉ pool.all ∧ pool.cleanupOrphaned id = pool) ∨
      pool.all ~ id :: (pool.cleanupOrphaned id).all := by
  cases ready : pool.ready.remove id with
  | some found =>
      right
      have dropped := perm_cons_of_removed [] (pool.inFlight.ids ++ pool.draining.ids) ready
      simpa [cleanupOrphaned, ready, all] using dropped
  | none =>
      cases inFlight : pool.inFlight.remove id with
      | some found =>
          right
          have dropped := perm_cons_of_removed pool.ready.ids pool.draining.ids inFlight
          simpa [cleanupOrphaned, ready, inFlight, all] using dropped
      | none =>
          cases draining : pool.draining.remove id with
          | some found =>
              right
              have dropped :=
                perm_cons_of_removed (pool.ready.ids ++ pool.inFlight.ids) [] draining
              simpa [cleanupOrphaned, ready, inFlight, draining, all] using dropped
          | none =>
              left
              rw [Slots.remove_eq_none_iff] at ready inFlight draining
              constructor
              · rw [mem_all]
                rintro (listed | listed | listed)
                · exact ready listed
                · exact inFlight listed
                · exact draining listed
              · rw [← Slots.remove_eq_none_iff] at ready inFlight draining
                simp [cleanupOrphaned, ready, inFlight, draining]

/-! ## The slots that may be given a message -/

/-- The slots that are ready or in flight. -/
def undrained (pool : PoolState) : List Nat :=
  pool.ready.ids ++ pool.inFlight.ids

theorem mem_undrained {id : Nat} :
    id ∈ pool.undrained ↔ id ∈ pool.ready.ids ∨ id ∈ pool.inFlight.ids :=
  List.mem_append

/-- A slot becomes ready only from being in flight. -/
theorem onReady_cases (formed : pool.WellFormed) (id now : Nat) :
    (pool.onReady id now).1 = pool ∨
      id ∈ pool.inFlight.ids ∧
        (pool.onReady id now).1.ready.ids ~ id :: pool.ready.ids ∧
        ∀ other ∈ (pool.onReady id now).1.undrained, other ∈ pool.undrained := by
  unfold onReady
  split
  · exact .inl rfl
  · next peer rest removed =>
    have listed := mem_of_remove removed
    have absent : id ∉ pool.ready.ids := by
      intro ready
      have unique := (List.nodup_append.mp (List.nodup_append.mp formed.nodup).1).2.2
      exact unique id ready id listed rfl
    have inserted := Slots.insert_perm ⟨now⟩ absent
    refine .inr ⟨listed, inserted, ?_⟩
    intro other there
    rcases mem_undrained.mp there with ready | inFlight
    · rcases List.mem_cons.mp (inserted.mem_iff.mp ready) with rfl | ready
      · exact mem_undrained.mpr (.inr listed)
      · exact mem_undrained.mpr (.inl ready)
    · exact mem_undrained.mpr (.inr ((Slots.remove_perm removed).mem_iff.mpr
        (List.mem_cons_of_mem _ inFlight)))

/-- A slot that is popped is not ready any more, and in flight. -/
theorem undrained_tryPopReady {id : Nat} {next : PoolState}
    (popped : pool.tryPopReady = some (id, next)) :
    pool.ready.ids = id :: next.ready.ids ∧ ∀ other ∈ next.undrained, other ∈ pool.undrained := by
  unfold tryPopReady at popped
  split at popped
  · cases popped
  · next peer rest ready =>
    cases popped
    have split : pool.ready.ids = id :: Slots.ids rest := by
      rw [ready]
      rfl
    refine ⟨split, ?_⟩
    intro other there
    rw [mem_undrained, split, List.mem_cons]
    rcases mem_undrained.mp there with ready | inFlight
    · exact .inl (.inr ready)
    · exact (Slots.mem_of_insert inFlight).imp_left .inl

/-- A drain request takes a slot that is ready, or nothing. -/
theorem requestDrain_cases (id : Nat) :
    pool.requestDrain id = (pool, false) ∨
      (pool.requestDrain id).2 = true ∧
        pool.ready.ids ~ id :: (pool.requestDrain id).1.ready.ids ∧
        (pool.requestDrain id).1.inFlight = pool.inFlight := by
  unfold requestDrain
  split
  · exact .inl rfl
  · next removed => exact .inr ⟨rfl, Slots.remove_perm removed, rfl⟩

theorem undrained_dropDraining (id : Nat) :
    (pool.dropDraining id).1.ready = pool.ready ∧
      (pool.dropDraining id).1.inFlight = pool.inFlight := by
  unfold dropDraining
  split <;> exact ⟨rfl, rfl⟩

theorem subperm_of_removed {slots rest : Slots} {id : Nat} {peer : SlotPeer}
    (removed : slots.remove id = some (peer, rest)) : rest.ids <+~ slots.ids :=
  List.Subperm.cons_self.trans (Slots.remove_perm removed).symm.subperm

/-- The end of a reader takes a slot from one container at most. -/
theorem cleanupOrphaned_subperm (id : Nat) :
    (pool.cleanupOrphaned id).ready.ids <+~ pool.ready.ids ∧
      (pool.cleanupOrphaned id).inFlight.ids <+~ pool.inFlight.ids ∧
      (pool.cleanupOrphaned id).draining.ids <+~ pool.draining.ids := by
  unfold cleanupOrphaned
  split
  · next removed => exact ⟨subperm_of_removed removed, .refl _, .refl _⟩
  · split
    · next removed => exact ⟨.refl _, subperm_of_removed removed, .refl _⟩
    · split
      · next removed => exact ⟨.refl _, .refl _, subperm_of_removed removed⟩
      · exact ⟨.refl _, .refl _, .refl _⟩

/-- It lists no slot among those that may be given a message. -/
theorem undrained_cleanupOrphaned (id : Nat) :
    (pool.cleanupOrphaned id).undrained <+~ pool.undrained := by
  obtain ⟨ready, inFlight, _⟩ := @cleanupOrphaned_subperm pool id
  exact ready.append inFlight

/-! ## How many slots may be given a message -/

theorem length_undrained (pool : PoolState) :
    pool.undrained.length = pool.ready.length + pool.inFlight.length := by
  simp [undrained]

theorem undrained_accept (formed : pool.WellFormed) (now : Nat) :
    (pool.accept now).undrained ~ pool.slotIdCounter :: pool.undrained := by
  have absent : pool.slotIdCounter ∉ pool.inFlight.ids := fun listed =>
    formed.counter_not_mem (mem_all.mpr (.inr (.inl listed)))
  have inserted := Slots.insert_perm ⟨now⟩ absent
  exact (inserted.append_left _).trans List.perm_middle

/-- A slot that becomes ready, or is popped, is listed as before. -/
theorem undrained_of_all {next : PoolState} (same : next.all ~ pool.all)
    (draining : next.draining = pool.draining) : next.undrained ~ pool.undrained := by
  unfold all at same
  rw [draining] at same
  exact (List.perm_append_right_iff _).mp same

theorem draining_onReady (id now : Nat) : (pool.onReady id now).1.draining = pool.draining := by
  unfold onReady
  split <;> rfl

theorem undrained_onReady (formed : pool.WellFormed) (id now : Nat) :
    (pool.onReady id now).1.undrained ~ pool.undrained :=
  undrained_of_all (all_onReady formed id now) (draining_onReady id now)

theorem draining_of_popped {id : Nat} {next : PoolState}
    (popped : pool.tryPopReady = some (id, next)) : next.draining = pool.draining := by
  unfold tryPopReady at popped
  split at popped <;> cases popped
  rfl

theorem undrained_of_popped (formed : pool.WellFormed) {id : Nat} {next : PoolState}
    (popped : pool.tryPopReady = some (id, next)) : next.undrained ~ pool.undrained :=
  undrained_of_all (all_tryPopReady formed popped) (draining_of_popped popped)

/-- The end of a reader whose slot may not be given a message. -/
theorem undrained_of_orphaned {id : Nat} (absent : id ∉ pool.undrained) :
    (pool.cleanupOrphaned id).undrained = pool.undrained := by
  obtain ⟨notReady, notInFlight⟩ := not_or.mp (mem_undrained.not.mp absent)
  rw [← Slots.remove_eq_none_iff] at notReady notInFlight
  unfold cleanupOrphaned
  rw [notReady, notInFlight]
  simp only
  split <;> rfl

theorem undrained_dropped (id : Nat) : (pool.dropDraining id).1.undrained = pool.undrained := by
  obtain ⟨ready, inFlight⟩ := @undrained_dropDraining pool id
  rw [undrained, ready, inFlight, undrained]

end PoolState

end PgTransport.Pool
