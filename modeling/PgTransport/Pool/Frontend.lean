import PgTransport.Pool.Containers

/-!
# The frontend's tasks

The accept loop, the readers, the dispatcher, the reaper, the SIGHUP handler and
the watchdogs of one pool as a transition system.  The tasks share one thread, so
that what a task does between two of its suspension points is one step.  A slot
may send any byte at any time.
-/

open scoped List

namespace PgTransport.Pool

open PgTransport.Transition

/-- The pool with the readers that run and the watchdogs that are set. -/
structure Frontend where
  pool : PoolState
  readers : List Nat
  watchdogs : List Nat
  deriving DecidableEq, Repr

/-- What `slot_reader` receives: an opcode, or something it stops at (the end of
the stream, an error, an invalid opcode or a panic). -/
inductive Received where
  | ready
  | drainAck
  | stops
  deriving DecidableEq, Repr

/-- The steps of the frontend's tasks. -/
inductive FrontendEvent where
  | accept (now : Nat)
  | reads (id : Nat) (received : Received) (now : Nat)
  | dispatch
  | requestDrain (id : Nat)
  | reapOnce (now : Nat)
  | sighupReconcile (max : Nat)
  | watchdog (id : Nat)
  deriving DecidableEq, Repr

namespace Frontend

/-- The frontend at its start. -/
def start : Frontend :=
  ⟨.new, [], []⟩

/-- `request_drain`. -/
def requestDrain (frontend : Frontend) (id : Nat) : Frontend :=
  let drained := frontend.pool.requestDrain id
  { frontend with
    pool := drained.1
    watchdogs := if drained.2 then id :: frontend.watchdogs else frontend.watchdogs }

/-- `request_drain` for each of these slots. -/
def requestDrains (frontend : Frontend) (ids : List Nat) : Frontend :=
  ids.foldl requestDrain frontend

/-- The end of `slot_reader_wrapper`. -/
def readerExits (frontend : Frontend) (id : Nat) : Frontend :=
  { frontend with
    pool := frontend.pool.cleanupOrphaned id
    readers := frontend.readers.erase id }

/-- One step; `none` if its task does not run. -/
def step (frontend : Frontend) : FrontendEvent → Option Frontend
  | .accept now =>
      some { frontend with
        pool := frontend.pool.accept now
        readers := frontend.pool.slotIdCounter :: frontend.readers }
  | .reads id received now =>
      if id ∈ frontend.readers then
        match received with
        | .ready => some { frontend with pool := (frontend.pool.onReady id now).1 }
        | .drainAck =>
            some (readerExits { frontend with pool := frontend.pool.onDrainAck id } id)
        | .stops => some (frontend.readerExits id)
      else
        none
  | .dispatch =>
      match frontend.pool.tryPopReady with
      | none => some frontend
      | some (_, pool) => some { frontend with pool }
  | .requestDrain id => some (frontend.requestDrain id)
  | .reapOnce now => some (frontend.requestDrains (frontend.pool.reaped now))
  | .sighupReconcile max => some (frontend.requestDrains (frontend.pool.excess max))
  | .watchdog id =>
      if id ∈ frontend.watchdogs then
        some { frontend with
          pool := (frontend.pool.dropDraining id).1
          watchdogs := frontend.watchdogs.erase id }
      else
        none

end Frontend

/-- Frontends as a transition system. -/
def frontends : System Frontend FrontendEvent where
  initial frontend := frontend = .start
  step source event target := source.step event = some target

namespace FrontendEvent

/-- The steps that end a reader. -/
def endsReader : FrontendEvent → Bool
  | .reads _ .drainAck _ | .reads _ .stops _ => true
  | _ => false

/-- The steps that accept a slot. -/
def isAccept : FrontendEvent → Bool
  | .accept _ => true
  | _ => false

/-- The steps of a watchdog. -/
def isWatchdog : FrontendEvent → Bool
  | .watchdog _ => true
  | _ => false

end FrontendEvent

/-! ## What a step does to the containers -/

/-- The pool with the same slots listed, however it moved them. -/
structure SameSlots (before after : PoolState) : Prop where
  all : after.all ~ before.all
  counter : after.slotIdCounter = before.slotIdCounter

/-- The pool with the slots of `gone` dropped. -/
structure Drops (before after : PoolState) (gone : List Nat) : Prop where
  all : before.all ~ gone ++ after.all
  counter : after.slotIdCounter = before.slotIdCounter

namespace PoolState

variable {pool : PoolState}

theorem onReady_sameSlots (formed : pool.WellFormed) (id now : Nat) :
    SameSlots pool (pool.onReady id now).1 :=
  ⟨all_onReady formed id now, by unfold onReady; split <;> rfl⟩

theorem tryPopReady_sameSlots (formed : pool.WellFormed) {id : Nat} {next : PoolState}
    (popped : pool.tryPopReady = some (id, next)) : SameSlots pool next := by
  refine ⟨all_tryPopReady formed popped, ?_⟩
  unfold tryPopReady at popped
  split at popped
  · cases popped
  · cases popped
    rfl

theorem requestDrain_sameSlots (formed : pool.WellFormed) (id : Nat) :
    SameSlots pool (pool.requestDrain id).1 :=
  ⟨all_requestDrain formed id, by unfold requestDrain; split <;> rfl⟩

theorem dropDraining_drops (pool : PoolState) (id : Nat) :
    ∃ gone, (∀ other ∈ gone, other = id) ∧ Drops pool (pool.dropDraining id).1 gone := by
  have counter : (pool.dropDraining id).1.slotIdCounter = pool.slotIdCounter := by
    unfold dropDraining
    split <;> rfl
  rcases all_dropDraining id with ⟨_, unchanged⟩ | ⟨dropped, _⟩
  · exact ⟨[], by simp, by rw [unchanged]; exact .refl _, counter⟩
  · exact ⟨[id], by simp, dropped, counter⟩

theorem cleanupOrphaned_drops (pool : PoolState) (id : Nat) :
    ∃ gone, (∀ other ∈ gone, other = id) ∧ Drops pool (pool.cleanupOrphaned id) gone := by
  have counter : (pool.cleanupOrphaned id).slotIdCounter = pool.slotIdCounter := by
    unfold cleanupOrphaned
    split
    · rfl
    · split
      · rfl
      · split <;> rfl
  rcases all_cleanupOrphaned id with ⟨_, unchanged⟩ | dropped
  · exact ⟨[], by simp, by rw [unchanged]; exact .refl _, counter⟩
  · exact ⟨[id], by simp, dropped, counter⟩

/-- A slot whose reader has ended is listed nowhere. -/
theorem not_mem_cleanupOrphaned (formed : pool.WellFormed) (id : Nat) :
    id ∉ (pool.cleanupOrphaned id).all := by
  rcases all_cleanupOrphaned id with ⟨absent, unchanged⟩ | dropped
  · rwa [unchanged]
  · exact (List.nodup_cons.mp (dropped.nodup_iff.mp formed.nodup)).1

theorem WellFormed.of_sameSlots {after : PoolState} (formed : pool.WellFormed)
    (same : SameSlots pool after) : after.WellFormed where
  nodup := same.all.nodup_iff.mpr formed.nodup
  below id listed := by
    rw [same.counter]
    exact formed.below id (same.all.mem_iff.mp listed)

theorem WellFormed.of_drops {after : PoolState} {gone : List Nat} (formed : pool.WellFormed)
    (drops : Drops pool after gone) : after.WellFormed where
  nodup := (List.nodup_append.mp (drops.all.nodup_iff.mp formed.nodup)).2.1
  below id listed := by
    rw [drops.counter]
    exact formed.below id (drops.all.mem_iff.mpr (List.mem_append_right _ listed))

theorem WellFormed.accept (formed : pool.WellFormed) (now : Nat) :
    (pool.accept now).WellFormed where
  nodup := (all_accept formed now).nodup_iff.mpr
    (List.nodup_cons.mpr ⟨formed.counter_not_mem, formed.nodup⟩)
  below id listed := by
    rcases List.mem_cons.mp ((all_accept formed now).mem_iff.mp listed) with rfl | listed
    · exact Nat.lt_succ_self _
    · exact Nat.lt_succ_of_lt (formed.below id listed)

end PoolState

namespace Frontend

variable {frontend next : Frontend} {event : FrontendEvent}

theorem requestDrains_sameSlots (formed : frontend.pool.WellFormed) (ids : List Nat) :
    SameSlots frontend.pool (frontend.requestDrains ids).pool ∧
      (frontend.requestDrains ids).readers = frontend.readers := by
  induction ids generalizing frontend with
  | nil => exact ⟨⟨.refl _, rfl⟩, rfl⟩
  | cons id ids inductionHypothesis =>
      have first := PoolState.requestDrain_sameSlots formed id
      obtain ⟨rest, readers⟩ :=
        @inductionHypothesis (frontend.requestDrain id) (formed.of_sameSlots first)
      exact ⟨⟨rest.all.trans first.all, rest.counter.trans first.counter⟩, readers⟩

/-- Ready slots that are drained are those that are taken. -/
theorem ready_requestDrains {ids : List Nat} (nodup : ids.Nodup)
    (within : ∀ id ∈ ids, id ∈ frontend.pool.ready.ids) :
    frontend.pool.ready.ids ~ ids ++ (frontend.requestDrains ids).pool.ready.ids ∧
      (frontend.requestDrains ids).pool.inFlight = frontend.pool.inFlight := by
  induction ids generalizing frontend with
  | nil => exact ⟨.refl _, rfl⟩
  | cons id ids inductionHypothesis =>
      obtain ⟨new, rest⟩ := List.nodup_cons.mp nodup
      rcases @PoolState.requestDrain_cases frontend.pool id with unchanged | ⟨_, taken, inFlight⟩
      · have listed := within id List.mem_cons_self
        rw [PoolState.requestDrain] at unchanged
        split at unchanged
        · next none => exact absurd listed (Slots.remove_eq_none_iff.mp none)
        · cases congrArg Prod.snd unchanged
      · have later : ∀ other ∈ ids, other ∈ (frontend.requestDrain id).pool.ready.ids := by
          intro other member
          have listed := taken.mem_iff.mp (within other (List.mem_cons_of_mem _ member))
          rcases List.mem_cons.mp listed with rfl | listed
          · exact absurd member new
          · exact listed
        obtain ⟨others, same⟩ := inductionHypothesis rest later
        exact ⟨taken.trans (others.cons id), same.trans inFlight⟩

/-- A step accepts a slot, drops the slot of a reader or a watchdog, or keeps the
slots that are listed. -/
theorem step_cases (formed : frontend.pool.WellFormed) (step : frontend.step event = some next) :
    (∃ now, event = .accept now ∧ next.pool = frontend.pool.accept now ∧
      next.readers = frontend.pool.slotIdCounter :: frontend.readers) ∨
    (∃ id gone, event.endsReader = true ∧ id ∈ frontend.readers ∧
      Drops frontend.pool next.pool gone ∧ id ∉ next.pool.all ∧
      next.readers = frontend.readers.erase id) ∨
    (∃ gone, event.isWatchdog = true ∧ Drops frontend.pool next.pool gone ∧
      next.readers = frontend.readers) ∨
    (event.isAccept = false ∧ event.endsReader = false ∧ event.isWatchdog = false ∧
      SameSlots frontend.pool next.pool ∧ next.readers = frontend.readers) := by
  cases event with
  | accept now =>
      cases step
      exact .inl ⟨now, rfl, rfl, rfl⟩
  | reads id received now =>
      by_cases runs : id ∈ frontend.readers
      · cases received with
        | ready =>
            simp only [Frontend.step, runs, if_true, Option.some.injEq] at step
            subst step
            exact .inr (.inr (.inr ⟨rfl, rfl, rfl,
              PoolState.onReady_sameSlots formed id now, rfl⟩))
        | drainAck =>
            simp only [Frontend.step, runs, if_true, Option.some.injEq] at step
            subst step
            obtain ⟨first, _, acked⟩ := PoolState.dropDraining_drops frontend.pool id
            have formed' := formed.of_drops acked
            obtain ⟨second, _, cleaned⟩ :=
              PoolState.cleanupOrphaned_drops (frontend.pool.onDrainAck id) id
            refine .inr (.inl ⟨id, first ++ second, rfl, runs, ⟨?_, ?_⟩,
              PoolState.not_mem_cleanupOrphaned formed' id, rfl⟩)
            · rw [List.append_assoc]
              exact acked.all.trans (cleaned.all.append_left first)
            · exact cleaned.counter.trans acked.counter
        | stops =>
            simp only [Frontend.step, runs, if_true, Option.some.injEq] at step
            subst step
            obtain ⟨gone, _, cleaned⟩ :=
              PoolState.cleanupOrphaned_drops frontend.pool id
            exact .inr (.inl ⟨id, gone, rfl, runs, cleaned,
              PoolState.not_mem_cleanupOrphaned formed id, rfl⟩)
      · simp [Frontend.step, runs] at step
  | dispatch =>
      simp only [Frontend.step] at step
      split at step
      · cases step
        exact .inr (.inr (.inr ⟨rfl, rfl, rfl, ⟨.refl _, rfl⟩, rfl⟩))
      · next id pool popped =>
        cases step
        exact .inr (.inr (.inr ⟨rfl, rfl, rfl,
          PoolState.tryPopReady_sameSlots formed popped, rfl⟩))
  | requestDrain id =>
      cases step
      exact .inr (.inr (.inr ⟨rfl, rfl, rfl,
        PoolState.requestDrain_sameSlots formed id, rfl⟩))
  | reapOnce now =>
      cases step
      obtain ⟨same, readers⟩ := requestDrains_sameSlots formed (frontend.pool.reaped now)
      exact .inr (.inr (.inr ⟨rfl, rfl, rfl, same, readers⟩))
  | sighupReconcile max =>
      cases step
      obtain ⟨same, readers⟩ := requestDrains_sameSlots formed (frontend.pool.excess max)
      exact .inr (.inr (.inr ⟨rfl, rfl, rfl, same, readers⟩))
  | watchdog id =>
      by_cases set : id ∈ frontend.watchdogs
      · simp only [Frontend.step, set, if_true, Option.some.injEq] at step
        subst step
        obtain ⟨gone, _, dropped⟩ := PoolState.dropDraining_drops frontend.pool id
        exact .inr (.inr (.inl ⟨gone, rfl, dropped, rfl⟩))
      · simp [Frontend.step, set] at step

end Frontend

end PgTransport.Pool
