import PgTransport.Properties.HandoffProtocol

/-!
# Slots in flight that nobody owns

A slot in flight is moved on by its next byte, by the client it is given or serves, or
by the call that is about to send to it.  A call takes its slot before it sends, and
gives it back to nobody when the send fails or the call is dropped; the slots keep an
owner in exactly the runs in which that happens to no slot in flight whose process
runs.  A draining slot has its watchdog in every run.
-/

open scoped List

namespace PgTransport.Properties

open PgTransport.Pool
open PgTransport.Transition

/-- The process of a slot runs. -/
def lives (sockets : Sockets) (id : Nat) : Bool :=
  sockets.slots[id]?.any fun slot => slot.phase != .exited

/-- What will move a slot in flight on: its boot, its `ready` or a descriptor that is
queued, its client, or a call that is about to send to it. -/
inductive Owner (sockets : Sockets) (id : Nat) (slot : SlotProcess) : Prop where
  | boots (booting : slot.phase = .booting)
  | announced (queued : .ready ∈ slot.toFrontend)
  | handed (fd : Nat) (queued : .fdHandoff fd ∈ slot.toSlot)
  | serves (fd : Nat) (serving : slot.phase = .serving fd)
  | committed (call : Nat) (listed : (call, id) ∈ sockets.sending)

/-- Each slot in flight whose process runs has an owner, and each draining slot a
watchdog or an unread message of the drain. -/
structure Owned (sockets : Sockets) : Prop where
  inFlight : ∀ id ∈ sockets.pool.inFlight.ids, ∀ slot : SlotProcess,
    sockets.slots[id]? = some slot → slot.phase ≠ .exited → Owner sockets id slot
  draining : ∀ id ∈ sockets.pool.draining.ids,
    id ∈ sockets.dispatch.frontend.watchdogs ∨
      ∃ slot, sockets.slots[id]? = some slot ∧
        (.drainRequest ∈ slot.toSlot ∨ .drainAck ∈ slot.toFrontend)

/-- A send that fails, and a call that is dropped before its send, leave no slot in
flight behind whose process runs. -/
def NoneDropped (sockets : Sockets) : SocketEvent → Prop
  | .sends _ id false => id ∈ sockets.pool.inFlight.ids → lives sockets id = false
  | .cancel call => ∀ id, (call, id) ∈ sockets.sending → id ∈ sockets.pool.inFlight.ids →
      lives sockets id = false
  | _ => True

/-! ## The frontend's watchdogs and readers -/

/-- A draining slot has a watchdog, and a slot with a reader has been accepted. -/
structure Watched (frontend : Frontend) : Prop where
  armed : ∀ id ∈ frontend.pool.draining.ids, id ∈ frontend.watchdogs
  accepted : ∀ id ∈ frontend.readers, id < frontend.pool.slotIdCounter

section Watched

variable {pool : PoolState} {frontend next : Frontend} {event : FrontendEvent}

theorem draining_dropDraining {id other : Nat}
    (listed : other ∈ (pool.dropDraining id).1.draining.ids) : other ∈ pool.draining.ids := by
  unfold PoolState.dropDraining at listed
  split at listed
  · exact listed
  · next removed =>
    exact (Slots.remove_perm removed).mem_iff.mpr (List.mem_cons_of_mem _ listed)

theorem watched_requestDrain (watched : Watched frontend) (id : Nat) :
    Watched (frontend.requestDrain id) := by
  unfold Frontend.requestDrain PoolState.requestDrain
  split
  · exact watched
  · constructor
    · intro other listed
      rcases Slots.mem_of_insert listed with rfl | listed
      · exact List.mem_cons_self
      · exact List.mem_cons_of_mem _ (watched.armed other listed)
    · exact watched.accepted

theorem watched_requestDrains (watched : Watched frontend) (ids : List Nat) :
    Watched (frontend.requestDrains ids) := by
  induction ids generalizing frontend with
  | nil => exact watched
  | cons id ids inductionHypothesis =>
      exact inductionHypothesis (watched_requestDrain watched id)

/-- A reader that ends drops its slot. -/
theorem watched_readerExits (watched : Watched frontend) (id : Nat) :
    Watched (frontend.readerExits id) := by
  obtain ⟨_, _, cleaned⟩ := PoolState.cleanupOrphaned_drops frontend.pool id
  constructor
  · exact fun other listed => watched.armed other
      ((PoolState.cleanupOrphaned_subperm id).2.2.subset listed)
  · intro other reading
    change other < (frontend.pool.cleanupOrphaned id).slotIdCounter
    rw [cleaned.counter]
    exact watched.accepted other (List.mem_of_mem_erase reading)

/-- Every step keeps the watchdogs set. -/
theorem watched_step (sound : Sound frontend) (watched : Watched frontend)
    (step : frontend.step event = some next) : Watched next := by
  have formed := sound.formed
  cases event with
  | accept now =>
      cases step
      constructor
      · exact watched.armed
      · intro id reading
        rcases List.mem_cons.mp reading with rfl | reading
        · exact Nat.lt_succ_self _
        · exact Nat.lt_succ_of_lt (watched.accepted id reading)
  | reads id received now =>
      simp only [Frontend.step] at step
      split at step
      · cases received with
        | ready =>
            cases step
            constructor
            · intro other listed
              rw [PoolState.draining_onReady] at listed
              exact watched.armed other listed
            · intro other reading
              dsimp only
              rw [(PoolState.onReady_sameSlots formed id now).counter]
              exact watched.accepted other reading
        | drainAck =>
            obtain ⟨_, _, acked⟩ := PoolState.dropDraining_drops frontend.pool id
            cases step
            apply watched_readerExits
            constructor
            · exact fun other listed => watched.armed other (draining_dropDraining listed)
            · intro other reading
              change other < (frontend.pool.dropDraining id).1.slotIdCounter
              rw [acked.counter]
              exact watched.accepted other reading
        | stops =>
            cases step
            exact watched_readerExits watched id
      · cases step
  | dispatch =>
      simp only [Frontend.step] at step
      split at step
      · cases step
        exact watched
      · next id pool popped =>
        cases step
        have counter := (PoolState.tryPopReady_sameSlots formed popped).counter
        constructor
        · intro other listed
          dsimp only at listed
          rw [PoolState.draining_of_popped popped] at listed
          exact watched.armed other listed
        · intro other reading
          dsimp only
          rw [counter]
          exact watched.accepted other reading
  | requestDrain id =>
      cases step
      exact watched_requestDrain watched id
  | reapOnce now =>
      cases step
      exact watched_requestDrains watched _
  | sighupReconcile max =>
      cases step
      exact watched_requestDrains watched _
  | watchdog id =>
      simp only [Frontend.step] at step
      split at step
      · cases step
        obtain ⟨_, _, dropped⟩ := PoolState.dropDraining_drops frontend.pool id
        constructor
        · intro other listed
          have different : other ≠ id := by
            rintro rfl
            rcases @PoolState.all_dropDraining frontend.pool other with ⟨absent, _⟩ | ⟨all, _⟩
            · exact absent (draining_dropDraining listed)
            · exact (List.nodup_cons.mp (all.nodup_iff.mp formed.nodup)).1
                (PoolState.mem_all.mpr (.inr (.inr listed)))
          exact (List.mem_erase_of_ne different).mpr
            (watched.armed other (draining_dropDraining listed))
        · intro other reading
          dsimp only
          rw [dropped.counter]
          exact watched.accepted other reading
      · cases step

/-- In every reachable state the watchdogs are set. -/
theorem watched_invariant :
    Invariant frontends fun frontend => Sound frontend ∧ Watched frontend where
  initial := by
    rintro _ rfl
    refine ⟨sound_invariant.initial _ rfl, ?_, ?_⟩ <;> intro id listed <;> cases listed
  step _ _ _ here step := ⟨sound_step here.1 step, watched_step here.1 here.2 step⟩

end Watched

/-! ## The slots in flight -/

/-- A slot in flight, or one that is still to be accepted, has its token, unless its
process is gone or a call is about to send to it. -/
def Tended (sockets : Sockets) : Prop :=
  ∀ (id : Nat) (slot : SlotProcess), sockets.slots[id]? = some slot →
    id ∈ sockets.pool.inFlight.ids ∨ sockets.pool.slotIdCounter ≤ id →
    slot.phase ≠ .exited → 0 < slot.tokens ∨ id ∈ sockets.sending.map Prod.snd

section Tended

variable {before after : Sockets} {event : SocketEvent}

/-- A slot that has taken a step and whose process runs has kept its token. -/
theorem tokens_of_running {slot next : SlotProcess} {event : SlotEvent}
    (step : slot.step event = some next) (runs : next.phase ≠ .exited) :
    slot.phase ≠ .exited ∧ next.tokens = slot.tokens := by
  obtain ⟨phase, toFrontend, toSlot, shutWrite, shutRead, drainSent⟩ := slot
  cases event with
  | announces =>
      cases phase with
      | booting | serving =>
          cases shutRead <;> cases step
          · simp [SlotProcess.tokens]
            omega
          · exact absurd rfl runs
      | _ => cases step
  | receives =>
      cases phase with
      | waiting =>
          cases toSlot with
          | nil =>
              simp only [SlotProcess.step] at step
              split at step <;> cases step
              exact absurd rfl runs
          | cons message rest =>
              cases message with
              | fdHandoff fd =>
                  cases step
                  simp [SlotProcess.tokens]
                  omega
              | drainRequest =>
                  cases step
                  exact absurd rfl runs
      | _ => cases step
  | exits =>
      simp only [SlotProcess.step] at step
      split at step <;> cases step
      exact absurd rfl runs

/-- A step that takes no token and no call from a slot. -/
theorem Tended.carry (tended : Tended before)
    (kept : ∀ (id : Nat) (slot : SlotProcess), after.slots[id]? = some slot →
      id ∈ after.pool.inFlight.ids ∨ after.pool.slotIdCounter ≤ id → slot.phase ≠ .exited →
      (0 < slot.tokens ∨ id ∈ after.sending.map Prod.snd) ∨
        ∃ place earlier, before.slots[place]? = some earlier ∧
          (place ∈ before.pool.inFlight.ids ∨ before.pool.slotIdCounter ≤ place) ∧
          earlier.phase ≠ .exited ∧ earlier.tokens ≤ slot.tokens ∧
          (place ∈ before.sending.map Prod.snd → id ∈ after.sending.map Prod.snd)) :
    Tended after := by
  intro id slot there listed runs
  rcases kept id slot there listed runs with
    owned | ⟨place, earlier, was, before, ran, fewer, calls⟩
  · exact owned
  · rcases tended place earlier was before ran with token | call
    · exact .inl (Nat.lt_of_lt_of_le token fewer)
    · exact .inr (calls call)

theorem tended_connects (tended : Tended before) :
    Tended { before with slots := before.slots ++ [.connected] } := by
  apply tended.carry
  intro id slot there listed runs
  rcases SlotProcess.getElem?_concat_cases there with was | ⟨rfl, _⟩
  · exact .inr ⟨id, slot, was, listed, runs, Nat.le_refl _, fun call => call⟩
  · exact .inl (.inl Nat.one_pos)

/-- A call is about to send to no slot that is still to be accepted. -/
theorem accepted_of_sending (lockstep : Lockstep before) {id : Nat}
    (listed : id ∈ before.sending.map Prod.snd) : id < before.pool.slotIdCounter :=
  lockstep.below id (List.mem_append_right _ listed)

/-- The places behind the dropped connection are those of slots that are still to be
accepted. -/
theorem tended_refuses (lockstep : Lockstep before) (tended : Tended before)
    {dispatch : Dispatch} (frontend : dispatch.frontend = before.dispatch.frontend) :
    Tended { before with
      dispatch
      slots := before.slots.eraseIdx before.pool.slotIdCounter } := by
  apply tended.carry
  intro id slot there listed runs
  have pool : dispatch.pool = before.pool := congrArg Frontend.pool frontend
  simp only [Sockets.pool, pool] at listed
  rcases SlotProcess.getElem?_eraseIdx_cases there with ⟨was, _⟩ | ⟨was, late⟩
  · exact .inr ⟨id, slot, was, listed, runs, Nat.le_refl _, fun call => call⟩
  · have waiting : before.pool.slotIdCounter ≤ id + 1 := Nat.le_succ_of_le late
    refine .inr ⟨id + 1, slot, was, .inr waiting, runs, Nat.le_refl _, ?_⟩
    intro call
    exact absurd (accepted_of_sending lockstep call) (Nat.not_lt.mpr waiting)

/-- A step that leaves the slots alone, lists no slot as in flight that is neither in
flight nor the next to be accepted, and drops no call of a slot that is. -/
theorem tended_of_listed (tended : Tended before) (slots : after.slots = before.slots)
    (listed : ∀ id, id ∈ after.pool.inFlight.ids ∨ after.pool.slotIdCounter ≤ id →
      id ∈ after.sending.map Prod.snd ∨
        (id ∈ before.pool.inFlight.ids ∨ before.pool.slotIdCounter ≤ id) ∧
          (lives before id = true → id ∈ before.sending.map Prod.snd →
            id ∈ after.sending.map Prod.snd)) : Tended after := by
  apply tended.carry
  intro id slot there member runs
  rw [slots] at there
  rcases listed id member with call | ⟨was, calls⟩
  · exact .inl (.inr call)
  · refine .inr ⟨id, slot, there, was, runs, Nat.le_refl _, calls ?_⟩
    simpa [lives, there] using runs

/-- A step that changes one slot, and unlists it or leaves it its token. -/
theorem tended_of_place (tended : Tended before) (place : Nat)
    (listed : ∀ id, id ∈ after.pool.inFlight.ids ∨ after.pool.slotIdCounter ≤ id →
      id ∈ before.pool.inFlight.ids ∨ before.pool.slotIdCounter ≤ id)
    (calls : ∀ id, id ≠ place → id ∈ before.sending.map Prod.snd →
      id ∈ after.sending.map Prod.snd)
    (slots : ∀ (id : Nat) (slot : SlotProcess), after.slots[id]? = some slot →
      id ≠ place → before.slots[id]? = some slot)
    (changed : ∀ slot : SlotProcess, after.slots[place]? = some slot →
      place ∈ after.pool.inFlight.ids ∨ after.pool.slotIdCounter ≤ place →
      slot.phase ≠ .exited →
        0 < slot.tokens ∨ ∃ earlier, before.slots[place]? = some earlier ∧
          earlier.phase ≠ .exited ∧ earlier.tokens ≤ slot.tokens ∧
          (place ∈ before.sending.map Prod.snd → place ∈ after.sending.map Prod.snd)) :
    Tended after := by
  apply tended.carry
  intro id slot there member runs
  by_cases same : id = place
  · subst same
    rcases changed slot there member runs with token | ⟨earlier, was, ran, fewer, call⟩
    · exact .inl (.inl token)
    · exact .inr ⟨id, earlier, was, listed id member, ran, fewer, call⟩
  · exact .inr ⟨id, slot, slots id slot there same, listed id member, runs, Nat.le_refl _,
      calls id same⟩

theorem inFlight_of_popped {pool next : PoolState} {id other : Nat}
    (popped : pool.tryPopReady = some (id, next)) (listed : other ∈ next.inFlight.ids) :
    other = id ∨ other ∈ pool.inFlight.ids := by
  unfold PoolState.tryPopReady at popped
  split at popped <;> cases popped
  exact Slots.mem_of_insert listed

/-- What a reader receives takes its slot from those in flight, and lists no other. -/
theorem inFlight_onReceived {pool : PoolState} (formed : pool.WellFormed) (id now : Nat)
    (received : Received) :
    id ∉ (pool.onReceived id now received).inFlight.ids ∧
      ∀ other ∈ (pool.onReceived id now received).inFlight.ids, other ∈ pool.inFlight.ids := by
  cases received with
  | ready =>
      have unique : pool.inFlight.ids.Nodup :=
        (List.nodup_append.mp (List.nodup_append.mp formed.nodup).1).2.1
      simp only [PoolState.onReceived, PoolState.onReady]
      split
      · next none => exact ⟨Slots.remove_eq_none_iff.mp none, fun _ listed => listed⟩
      · next removed =>
        have taken := Slots.remove_perm removed
        exact ⟨(List.nodup_cons.mp (taken.nodup_iff.mp unique)).1,
          fun other listed => taken.mem_iff.mpr (List.mem_cons_of_mem _ listed)⟩
  | drainAck =>
      have gone := PoolState.not_mem_onReceived formed id now (by simp : Received.drainAck ≠ .ready)
      obtain ⟨_, inFlight⟩ := @PoolState.undrained_dropDraining pool id
      refine ⟨fun listed => gone (PoolState.mem_all.mpr (.inr (.inl listed))), ?_⟩
      intro other listed
      rw [← inFlight]
      exact (PoolState.cleanupOrphaned_subperm id).2.1.subset listed
  | stops =>
      have gone := PoolState.not_mem_onReceived formed id now (by simp : Received.stops ≠ .ready)
      exact ⟨fun listed => gone (PoolState.mem_all.mpr (.inr (.inl listed))),
        fun _ listed => (PoolState.cleanupOrphaned_subperm id).2.1.subset listed⟩

/-- A reader's slot is not in flight behind what it has received. -/
theorem tended_reads (lockstep : Lockstep before) (watched : Watched before.dispatch.frontend)
    (tended : Tended before) {id now : Nat} {received : Received} {dispatch : Dispatch}
    {dispatched : Option Nat} {slots : List SlotProcess}
    (moved : before.dispatch.step (.reads id received now) = some (dispatch, dispatched))
    (others : ∀ (other : Nat) (slot : SlotProcess), slots[other]? = some slot → other ≠ id →
      before.slots[other]? = some slot) :
    Tended { before with dispatch, slots } := by
  have formed : before.pool.WellFormed := lockstep.sound.formed
  have pool : dispatch.pool = before.pool.onReceived id now received :=
    (Dispatch.step_reads moved).1
  have counter := PoolState.counter_onReceived formed id now received
  obtain ⟨gone, within⟩ := inFlight_onReceived formed id now received
  have accepted : id < before.pool.slotIdCounter :=
    watched.accepted id (Dispatch.mem_readers_of_step moved)
  apply tended_of_place tended id
  · intro other listed
    change other ∈ dispatch.pool.inFlight.ids ∨ dispatch.pool.slotIdCounter ≤ other at listed
    rw [pool, counter] at listed
    exact listed.imp_left (within other)
  · exact fun _ _ call => call
  · exact others
  · intro slot there listed
    change id ∈ dispatch.pool.inFlight.ids ∨ dispatch.pool.slotIdCounter ≤ id at listed
    rw [pool, counter] at listed
    rcases listed with inFlight | waiting
    · exact absurd inFlight gone
    · exact absurd accepted (Nat.not_lt.mpr waiting)

theorem tended_requestDrain (tended : Tended before) (lost : List Nat) (id : Nat) :
    Tended (before.requestDrain lost id) := by
  have inFlight : (before.requestDrain lost id).pool.inFlight = before.pool.inFlight := by
    rcases @PoolState.requestDrain_cases before.pool id with unchanged | ⟨_, _, same⟩
    · exact congrArg (fun result => result.1.inFlight) unchanged
    · exact same
  apply tended_of_place tended id
  · intro other listed
    rw [inFlight, Sockets.slotIdCounter_requestDrain] at listed
    exact listed
  · exact fun _ _ call => call
  · intro other slot there different
    rwa [Sockets.getElem?_requestDrain_of_ne lost different] at there
  · intro slot there _ runs
    obtain ⟨earlier, was, rfl | sent⟩ := Sockets.sent_of_requestDrain lost there
    · exact .inr ⟨slot, was, runs, Nat.le_refl _, fun call => call⟩
    · left
      rw [(SlotProcess.tokens_send sent).1]
      exact Nat.succ_pos _

theorem tended_requestDrains (tended : Tended before) (lost ids : List Nat) :
    Tended (before.requestDrains lost ids) :=
  Sockets.requestDrains_preserves Tended (fun _ id here => tended_requestDrain here lost id) tended
    ids

theorem tended_accept (tended : Tended before) {dispatch : Dispatch} {dispatched : Option Nat}
    {now : Nat} (moved : before.dispatch.step (.accept now) = some (dispatch, dispatched)) :
    Tended { before with dispatch } := by
  have pool : dispatch.pool = _ := (Dispatch.step_accept moved).1
  apply tended_of_listed tended
  · rfl
  · intro id listed
    rw [Sockets.pool, pool] at listed
    refine .inr ⟨?_, fun _ call => call⟩
    rcases listed with inFlight | waiting
    · rcases Slots.mem_of_insert inFlight with rfl | inFlight
      · exact .inr (Nat.le_refl _)
      · exact .inl inFlight
    · exact .inr (Nat.le_of_succ_le waiting)

/-- The slot that a call pops is in flight and about to be sent to. -/
theorem tended_pops (lockstep : Lockstep before) (tended : Tended before) (call : Nat) {id : Nat}
    {dispatch : Dispatch} (popped : before.pool.tryPopReady = some (id, dispatch.pool)) :
    Tended { before with dispatch, sending := (call, id) :: before.sending } := by
  have counter := (PoolState.tryPopReady_sameSlots lockstep.sound.formed popped).counter
  apply tended_of_listed tended
  · rfl
  · rintro other (inFlight | waiting)
    · rcases inFlight_of_popped popped inFlight with rfl | inFlight
      · exact .inl List.mem_cons_self
      · exact .inr ⟨.inl inFlight, fun _ call => List.mem_cons_of_mem _ call⟩
    · change dispatch.pool.slotIdCounter ≤ other at waiting
      rw [counter] at waiting
      exact .inr ⟨.inr waiting, fun _ call => List.mem_cons_of_mem _ call⟩

/-- A slot that runs on keeps its token. -/
theorem tended_slot (tended : Tended before) {id : Nat} {event : SlotEvent}
    {slot next : SlotProcess} (there : before.slots[id]? = some slot)
    (moved : slot.step event = some next) :
    Tended { before with slots := before.slots.set id next } := by
  apply tended_of_place tended id
  · exact fun _ listed => listed
  · exact fun _ _ call => call
  · intro other found member different
    rwa [List.getElem?_set_ne (Ne.symm different)] at member
  · intro found member _ runs
    rcases SlotProcess.getElem?_set_cases member with ⟨_, rfl⟩ | ⟨different, _⟩
    · obtain ⟨ran, same⟩ := tokens_of_running moved runs
      exact .inr ⟨slot, there, ran, Nat.le_of_eq same.symm, fun call => call⟩
    · exact absurd rfl different

/-- A step that gives up no commitment to a slot in flight that lives. -/
theorem tended_uncommits (lockstep : Lockstep before) (tended : Tended before)
    {dispatch : Dispatch} {sending : List (Nat × Nat)} (pool : dispatch.pool = before.pool)
    (kept : ∀ commitment ∈ before.sending, commitment.2 ∈ before.pool.inFlight.ids →
      lives before commitment.2 = true → commitment ∈ sending) :
    Tended { before with dispatch, sending } := by
  apply tended_of_listed tended
  · rfl
  · intro id listed
    rw [Sockets.pool, pool] at listed
    refine .inr ⟨listed, ?_⟩
    intro runs member
    obtain ⟨commitment, committed, rfl⟩ := List.mem_map.mp member
    rcases listed with inFlight | waiting
    · exact List.mem_map_of_mem (kept commitment committed inFlight runs)
    · exact absurd (accepted_of_sending lockstep member) (Nat.not_lt.mpr waiting)

/-- The message that a call sends gives the slot its token. -/
theorem tended_sends (tended : Tended before) {call id : Nat} {slot next : SlotProcess}
    (sent : slot.send (.fdHandoff call) = some next) :
    Tended { before with
      slots := before.slots.set id next
      sending := before.sending.erase (call, id)
      sent := (call, id) :: before.sent } := by
  apply tended_of_place tended id
  · exact fun _ listed => listed
  · intro other different member
    obtain ⟨commitment, committed, rfl⟩ := List.mem_map.mp member
    have kept : commitment ≠ (call, id) := by
      rintro rfl
      exact different rfl
    exact List.mem_map_of_mem ((List.mem_erase_of_ne kept).mpr committed)
  · intro other found member different
    rwa [List.getElem?_set_ne (Ne.symm different)] at member
  · intro found member _ _
    rcases SlotProcess.getElem?_set_cases member with ⟨_, rfl⟩ | ⟨different, _⟩
    · left
      rw [(SlotProcess.tokens_send sent).1]
      exact Nat.succ_pos _
    · exact absurd rfl different

/-- The watchdog closes one direction of one slot and lists no other as in flight. -/
theorem tended_watchdog (tended : Tended before) {id : Nat} {running : Bool}
    {dispatch : Dispatch} {dispatched : Option Nat}
    (moved : before.dispatch.step (.watchdog id running) = some (dispatch, dispatched)) :
    Tended { before with
      dispatch
      slots :=
        if (before.pool.dropDraining id).2 then
          before.slots.modify id SlotProcess.shutdownWrite
        else
          before.slots } := by
  have pool : dispatch.pool = _ := (Dispatch.step_watchdog moved).1
  obtain ⟨_, inFlight⟩ := @PoolState.undrained_dropDraining before.pool id
  obtain ⟨_, _, dropped⟩ := PoolState.dropDraining_drops before.pool id
  apply tended_of_place tended id
  · intro other listed
    rw [Sockets.pool, pool] at listed
    change other ∈ (before.pool.dropDraining id).1.inFlight.ids ∨
      (before.pool.dropDraining id).1.slotIdCounter ≤ other at listed
    rw [inFlight, dropped.counter] at listed
    exact listed
  · exact fun _ _ call => call
  · intro other slot there different
    dsimp only at there
    split at there
    · rwa [List.getElem?_modify_ne _ _ (Ne.symm different)] at there
    · exact there
  · intro slot there _ runs
    dsimp only at there
    split at there
    · obtain ⟨earlier, was, ⟨_, rfl⟩ | ⟨different, _⟩⟩ :=
        SlotProcess.getElem?_modify_cases there
      · exact .inr ⟨earlier, was, runs, Nat.le_refl _, fun call => call⟩
      · exact absurd rfl different
    · exact .inr ⟨slot, there, runs, Nat.le_refl _, fun call => call⟩

/-- Every step that drops no slot in flight keeps the slots in flight tended. -/
theorem tended_step (lockstep : Lockstep before) (watched : Watched before.dispatch.frontend)
    (tended : Tended before) (step : before.step event = some after)
    (none : NoneDropped before event) : Tended after := by
  cases Sockets.effect_of_step step with
  | connects => exact tended_connects tended
  | refuses _ moved =>
      exact tended_refuses lockstep tended (by rw [Dispatch.step_workerFails moved])
  | workerFails moved =>
      cases Dispatch.step_workerFails moved
      exact tended_of_listed tended rfl fun _ listed => .inr ⟨listed, fun _ call => call⟩
  | gone moved =>
      cases Dispatch.step_exits moved
      exact tended_of_listed tended rfl fun _ listed => .inr ⟨listed, fun _ call => call⟩
  | @waits _ _ dispatch _ same =>
      have pool : dispatch.pool = before.pool := congrArg Frontend.pool same
      exact tended_uncommits lockstep tended pool fun _ committed _ _ => committed
  | accept _ moved => exact tended_accept tended moved
  | @pops event call id dispatch _ popped => exact tended_pops lockstep tended call popped
  | slot there moved => exact tended_slot tended there moved
  | reads there read moved =>
      apply tended_reads lockstep watched tended moved
      intro other found member different
      rwa [List.getElem?_set_ne (Ne.symm different)] at member
  | stops moved =>
      apply tended_reads lockstep watched tended moved
      intro other found member different
      rwa [List.getElem?_modify_ne _ _ (Ne.symm different)] at member
  | @cancel call =>
      have pool : (before.dispatch.leave call).pool = before.pool := rfl
      apply tended_uncommits lockstep tended pool
      intro commitment committed inFlight runs
      have kept : commitment.1 ≠ call := by
        rintro rfl
        have dead := none commitment.2 committed inFlight
        rw [runs] at dead
        cases dead
      exact List.mem_filter.mpr ⟨committed, bne_iff_ne.mpr kept⟩
  | @fails call id committed =>
      apply tended_uncommits lockstep tended rfl
      intro commitment there inFlight runs
      have kept : commitment ≠ (call, id) := by
        rintro rfl
        have dead := none inFlight
        rw [runs] at dead
        cases dead
      exact (List.mem_erase_of_ne kept).mpr there
  | sends _ _ sent => exact tended_sends tended sent
  | reapOnce => exact tended_requestDrains tended _ _
  | sighupReconcile => exact tended_requestDrains tended _ _
  | watchdog moved => exact tended_watchdog tended moved

end Tended

/-! ## Owners -/

section Owners

variable {before after : Sockets} {event : SocketEvent}

/-- A token of a slot in flight is its owner. -/
theorem owner_of_tokens (prompted : Prompted before) {id : Nat} {slot : SlotProcess}
    (there : before.slots[id]? = some slot) (inFlight : id ∈ before.pool.inFlight.ids)
    (runs : slot.phase ≠ .exited) (token : 0 < slot.tokens) : Owner before id slot := by
  have undrained : ¬(.drainRequest ∈ slot.toSlot ∨ .drainAck ∈ slot.toFrontend) := by
    intro queued
    have sent := prompted.asked slot (List.mem_of_getElem? there) queued
    exact (prompted.lockstep.drained id slot there sent).2.2 inFlight
  obtain ⟨phase, toFrontend, toSlot, shutWrite, shutRead, drainSent⟩ := slot
  cases phase with
  | booting => exact .boots rfl
  | serving fd => exact .serves fd rfl
  | exited => exact absurd rfl runs
  | waiting =>
      cases toFrontend with
      | cons opcode rest =>
          cases opcode with
          | ready => exact .announced List.mem_cons_self
          | drainAck => exact absurd (.inr List.mem_cons_self) undrained
      | nil =>
          cases toSlot with
          | cons message rest =>
              cases message with
              | fdHandoff fd => exact .handed fd List.mem_cons_self
              | drainRequest => exact absurd (.inl List.mem_cons_self) undrained
          | nil => cases token

/-- Without a token, and with no call about to send to it, a slot has no owner. -/
theorem Owner.not_idle {id : Nat} {slot : SlotProcess} (owner : Owner before id slot)
    (none : slot.tokens = 0) : ∃ call, (call, id) ∈ before.sending := by
  obtain ⟨unread, pending, idle⟩ := SlotProcess.idle_of_tokens none
  cases owner with
  | boots booting => rcases idle with waits | gone <;> simp_all
  | announced queued =>
      rw [unread] at queued
      cases queued
  | handed fd queued =>
      rw [pending] at queued
      cases queued
  | serves fd serving => rcases idle with waits | gone <;> simp_all
  | committed call listed => exact ⟨call, listed⟩

/-- Two calls never are about to send to one slot. -/
theorem call_unique (lockstep : Lockstep before) {id first second : Nat}
    (one : (first, id) ∈ before.sending) (other : (second, id) ∈ before.sending) :
    first = second := by
  have nodup : (before.sending.map Prod.snd).Nodup := (List.nodup_append.mp lockstep.nodup).2.1
  exact congrArg Prod.fst (List.inj_on_of_nodup_map nodup one other rfl)

/-- A slot in flight whose process runs has no owner once the call that is about to
send to it is gone. -/
theorem lives_of_dropped (lockstep : Lockstep before) (owned : Owned after) {call id : Nat}
    (listed : (call, id) ∈ before.sending) (inFlight : id ∈ after.pool.inFlight.ids)
    (slots : after.slots = before.slots)
    (dropped : ∀ other, (other, id) ∈ after.sending → (other, id) ∈ before.sending ∧ other ≠ call) :
    lives before id = false := by
  have heldBefore : id ∈ held before :=
    List.mem_append_right _ (List.mem_map.mpr ⟨(call, id), listed, rfl⟩)
  obtain ⟨slot, there⟩ := lockstep.exists_slot heldBefore
  have none := lockstep.idle id heldBefore slot there
  by_contra runs
  have alive : slot.phase ≠ .exited := by simpa [lives, there] using runs
  rw [← slots] at there
  obtain ⟨other, remains⟩ := (owned.inFlight id inFlight slot there alive).not_idle none
  obtain ⟨early, different⟩ := dropped other remains
  exact different (call_unique lockstep early listed)

/-- A step behind which every slot has its owner drops no slot in flight. -/
theorem noneDropped_of_owned (lockstep : Lockstep before) (owned : Owned after)
    (step : before.step event = some after) : NoneDropped before event := by
  cases event with
  | cancel call =>
      cases step
      intro id listed inFlight
      apply lives_of_dropped lockstep owned listed inFlight rfl
      intro other remains
      obtain ⟨early, different⟩ := List.mem_filter.mp remains
      exact ⟨early, by simpa using different⟩
  | sends call id works =>
      cases works with
      | true => trivial
      | false =>
          intro inFlight
          cases Sockets.effect_of_step step with
          | pops calling => cases calling
          | waits calling => cases calling
          | fails listed =>
              apply lives_of_dropped lockstep owned listed inFlight rfl
              intro other remains
              refine ⟨List.mem_of_mem_erase remains, ?_⟩
              rintro rfl
              have nodup : before.sending.Nodup :=
                .of_map Prod.snd (List.nodup_append.mp lockstep.nodup).2.1
              exact (nodup.mem_erase_iff.mp remains).1 rfl
  | _ => trivial

/-- Tended slots have their owners. -/
theorem owned_of_tended (prompted : Prompted before) (watched : Watched before.dispatch.frontend)
    (tended : Tended before) : Owned before where
  inFlight id inFlight slot there runs := by
    rcases tended id slot there (.inl inFlight) runs with token | call
    · exact owner_of_tokens prompted there inFlight runs token
    · obtain ⟨commitment, listed, rfl⟩ := List.mem_map.mp call
      exact .committed commitment.1 listed
  draining id listed := .inl (watched.armed id listed)

end Owners

/-- In exactly the runs in which no send to a slot in flight whose process runs fails,
and no call is dropped that is about to send to one, each slot in flight whose process
runs has an owner, and each draining slot a watchdog or a message of the drain, in
every state that is reached. -/
theorem no_slot_stranded_iff_none_dropped (events : List SocketEvent) (target : Sockets) :
    RunWith sockets (fun _ _ next => Owned next) .start events target ↔
      RunWith sockets (fun source event _ => NoneDropped source event) .start events target := by
  have watches := Sockets.invariant_of_frontends watched_invariant
  have prompted : Prompted .start := prompted_invariant.initial _ rfl
  constructor
  · intro run
    refine @RunWith.strengthen _ _ sockets _ _ Prompted _ _ _ ?_ ?_ run prompted
    · exact fun _ _ _ here step _ => prompted_step here step
    · exact fun _ _ _ here step owned => noneDropped_of_owned here.lockstep owned step
  · intro run
    have keeps : ∀ source label target,
        Prompted source ∧ (Sound source.dispatch.frontend ∧ Watched source.dispatch.frontend) ∧
          Tended source → source.step label = some target → NoneDropped source label →
        Prompted target ∧ (Sound target.dispatch.frontend ∧ Watched target.dispatch.frontend) ∧
          Tended target := by
      rintro source label target ⟨prompted, watched, tended⟩ step none
      exact ⟨prompted_step prompted step, watches.step _ _ _ watched step,
        tended_step prompted.lockstep watched.2 tended step none⟩
    apply run.strengthen keeps
    · intro source label target here step none
      obtain ⟨prompted, watched, tended⟩ := keeps source label target here step none
      exact owned_of_tended prompted watched.2 tended
    · refine ⟨prompted, watches.initial _ rfl, ?_⟩
      intro id slot there
      cases there

/-- The slot that the first call has popped, after its send has failed. -/
def failedSend : Sockets where
  dispatch := ⟨⟨⟨[], [(0, ⟨1⟩)], [], 1, false⟩, [0], []⟩, .idle, 1, 0, []⟩
  slots := [⟨.waiting, [], [], false, false, false⟩]
  sending := []
  sent := []

/-- A send that fails on a running slot leaves it in flight with nothing queued. -/
theorem failed_send_strands_slot : ¬∀ state, Reachable sockets state → Owned state := by
  intro claimed
  have reached : Reachable sockets failedSend :=
    ⟨.start, [.handoff 1 true, .connects, .accept 0, .slot 0 .announces, .reads 0 1,
      .poll 0 false, .sends 0 0 false], rfl,
      .cons rfl trivial (.cons rfl trivial (.cons rfl trivial (.cons rfl trivial
        (.cons rfl trivial (.cons rfl trivial (.cons rfl trivial (.nil _)))))))⟩
  have owner := (claimed failedSend reached).inFlight 0 (by decide) _ rfl (by decide)
  obtain ⟨_, listed⟩ := owner.not_idle rfl
  cases listed

end PgTransport.Properties
