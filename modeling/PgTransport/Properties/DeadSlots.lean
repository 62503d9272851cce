import PgTransport.Properties.CeilingReload
import PgTransport.Properties.StrandedSlots

/-!
# Dispatch to a slot whose process has died

A call sends to the slot that it has popped and returns the error of a send that
fails: it waits for no other slot and pops none.  Once its send has been tried, the
call has been delivered exactly if that one slot took its descriptor, whatever was
ready behind it.
-/

open scoped List

namespace PgTransport.Properties

open PgTransport.Pool
open PgTransport.Transition

/-- A call looks for a ready slot: it is new, or it has been notified. -/
inductive Dispatches (state : Sockets) : SocketEvent → Nat → Prop where
  | fast (max : Nat) (spawns : Bool) :
      Dispatches state (.handoff max spawns) state.dispatch.handoffs
  | slow {call : Nat} (notified : call ∈ state.dispatch.hasReady.notified) (expired : Bool) :
      Dispatches state (.poll call expired) call

/-- A send to the slot works: its process runs, and its socket has not been shut
down. -/
def sendable (state : Sockets) (id : Nat) : Bool :=
  state.slots[id]?.any fun slot => slot.phase != .exited && !slot.shutWrite

/-! ## The socket of a ready slot is open -/

/-- The socket of a slot that is not draining has not been shut down, nor that of one
which is still to be accepted. -/
def Opened (state : Sockets) : Prop :=
  ∀ (id : Nat) (slot : SlotProcess), state.slots[id]? = some slot →
    id ∈ state.pool.undrained ∨ state.pool.slotIdCounter ≤ id → slot.shutWrite = false

section Opened

variable {before after : Sockets} {event : SocketEvent}

theorem shutWrite_step {slot next : SlotProcess} {event : SlotEvent}
    (step : slot.step event = some next) : next.shutWrite = slot.shutWrite := by
  obtain ⟨phase, toFrontend, toSlot, shutWrite, shutRead, drainSent⟩ := slot
  cases event with
  | announces =>
      cases phase with
      | booting | serving => cases shutRead <;> cases step <;> rfl
      | _ => cases step
  | receives =>
      cases phase with
      | waiting =>
          cases toSlot with
          | nil =>
              simp only [SlotProcess.step] at step
              split at step <;> cases step
              rfl
          | cons message rest =>
              cases message with
              | fdHandoff fd =>
                  cases step
                  rfl
              | drainRequest => cases shutRead <;> cases step <;> rfl
      | _ => cases step
  | exits =>
      simp only [SlotProcess.step] at step
      split at step <;> cases step
      rfl

theorem shutWrite_send {slot next : SlotProcess} {message : CtrlMsg}
    (sent : slot.send message = some next) : next.shutWrite = slot.shutWrite := by
  simp only [SlotProcess.send] at sent
  split at sent <;> cases sent
  rfl

theorem shutWrite_read {slot next : SlotProcess} {opcode : Opcode}
    (read : slot.read = some (opcode, next)) : next.shutWrite = slot.shutWrite := by
  simp only [SlotProcess.read] at read
  split at read <;> cases read
  rfl

/-- A step that changes one slot, and unlists it or leaves its socket open. -/
theorem Opened.at_place (opened : Opened before) (place : Nat)
    (listed : ∀ id, id ∈ after.pool.undrained ∨ after.pool.slotIdCounter ≤ id →
      id ∈ before.pool.undrained ∨ before.pool.slotIdCounter ≤ id)
    (slots : ∀ (id : Nat) (slot : SlotProcess), after.slots[id]? = some slot →
      id ≠ place → before.slots[id]? = some slot)
    (changed : ∀ slot : SlotProcess, after.slots[place]? = some slot →
      place ∈ after.pool.undrained ∨ after.pool.slotIdCounter ≤ place →
        slot.shutWrite = false ∨ ∃ earlier, before.slots[place]? = some earlier ∧
          slot.shutWrite = earlier.shutWrite) : Opened after := by
  intro id slot there member
  by_cases same : id = place
  · subst same
    rcases changed slot there member with stays | ⟨earlier, was, unchanged⟩
    · exact stays
    · rw [unchanged]
      exact opened id earlier was (listed id member)
  · exact opened id slot (slots id slot there same) (listed id member)

/-- A step that leaves the slots alone. -/
theorem Opened.of_slots (opened : Opened before) (slots : after.slots = before.slots)
    (listed : ∀ id, id ∈ after.pool.undrained ∨ after.pool.slotIdCounter ≤ id →
      id ∈ before.pool.undrained ∨ before.pool.slotIdCounter ≤ id) : Opened after := by
  intro id slot there member
  rw [slots] at there
  exact opened id slot there (listed id member)

theorem mem_draining_of_dropped {pool : PoolState} {id : Nat}
    (dropped : (pool.dropDraining id).2 = true) : id ∈ pool.draining.ids := by
  unfold PoolState.dropDraining at dropped
  split at dropped
  · cases dropped
  · next removed => exact PoolState.mem_of_remove removed

/-- A reader leaves the sockets of the other slots alone, and unlists its own if it
shuts the socket down. -/
theorem opened_reads (lockstep : Lockstep before) (watched : Watched before.dispatch.frontend)
    (opened : Opened before) {id now : Nat} {received : Received} {dispatch : Dispatch}
    {dispatched : Option Nat} {slots : List SlotProcess}
    (moved : before.dispatch.step (.reads id received now) = some (dispatch, dispatched))
    (others : ∀ (other : Nat) (slot : SlotProcess), slots[other]? = some slot → other ≠ id →
      before.slots[other]? = some slot)
    (own : received = .ready → ∀ slot : SlotProcess, slots[id]? = some slot →
      ∃ earlier, before.slots[id]? = some earlier ∧ slot.shutWrite = earlier.shutWrite) :
    Opened { before with dispatch, slots } := by
  have formed : before.pool.WellFormed := lockstep.sound.formed
  have pool : dispatch.pool = before.pool.onReceived id now received :=
    (Dispatch.step_reads moved).1
  have counter := PoolState.counter_onReceived formed id now received
  have accepted := watched.accepted id (Dispatch.mem_readers_of_step moved)
  apply opened.at_place id
  · intro other listed
    change other ∈ dispatch.pool.undrained ∨ dispatch.pool.slotIdCounter ≤ other at listed
    rw [pool, counter] at listed
    exact listed.imp_left (PoolState.undrained_onReceived formed id now received other)
  · exact others
  · intro slot there listed
    by_cases ready : received = .ready
    · exact .inr (own ready slot there)
    · have gone := PoolState.not_mem_onReceived formed id now ready
      change id ∈ dispatch.pool.undrained ∨ dispatch.pool.slotIdCounter ≤ id at listed
      rw [pool, counter] at listed
      rcases listed with undrained | waiting
      · exact absurd (List.mem_append_left _ undrained) gone
      · exact absurd accepted (Nat.not_lt.mpr waiting)

theorem opened_requestDrain (opened : Opened before) (lost : List Nat) (id : Nat) :
    Opened (before.requestDrain lost id) := by
  apply opened.at_place id
  · intro other listed
    rw [Sockets.slotIdCounter_requestDrain] at listed
    apply listed.imp_left
    intro undrained
    rcases @PoolState.requestDrain_cases before.pool id with unchanged | ⟨_, taken, inFlight⟩
    · have pool : (before.requestDrain lost id).pool = before.pool := congrArg Prod.fst unchanged
      rwa [pool] at undrained
    · rw [PoolState.mem_undrained] at undrained ⊢
      change other ∈ (before.pool.requestDrain id).1.ready.ids ∨
        other ∈ (before.pool.requestDrain id).1.inFlight.ids at undrained
      rw [inFlight] at undrained
      exact undrained.imp_left fun ready =>
        taken.mem_iff.mpr (List.mem_cons_of_mem _ ready)
  · intro other slot there different
    rwa [Sockets.getElem?_requestDrain_of_ne lost different] at there
  · intro slot there _
    obtain ⟨earlier, was, rfl | sent⟩ := Sockets.sent_of_requestDrain lost there
    · exact .inr ⟨slot, was, rfl⟩
    · exact .inr ⟨earlier, was, shutWrite_send sent⟩

theorem opened_requestDrains (opened : Opened before) (lost ids : List Nat) :
    Opened (before.requestDrains lost ids) :=
  Sockets.requestDrains_preserves Opened (fun _ id here => opened_requestDrain here lost id) opened
    ids

theorem opened_set (opened : Opened before) {id : Nat} {slot next : SlotProcess}
    (there : before.slots[id]? = some slot) (same : next.shutWrite = slot.shutWrite)
    (slots : after.slots = before.slots.set id next) (pool : after.pool = before.pool) :
    Opened after := by
  apply opened.at_place id
  · rw [pool]
    exact fun _ listed => listed
  · intro other found member different
    rwa [slots, List.getElem?_set_ne (Ne.symm different)] at member
  · intro found member _
    rw [slots] at member
    rcases SlotProcess.getElem?_set_cases member with ⟨_, rfl⟩ | ⟨different, _⟩
    · exact .inr ⟨slot, there, same⟩
    · exact absurd rfl different

theorem opened_accept (formed : before.pool.WellFormed) (opened : Opened before)
    {dispatch : Dispatch} {dispatched : Option Nat} {now : Nat}
    (moved : before.dispatch.step (.accept now) = some (dispatch, dispatched)) :
    Opened { before with dispatch } := by
  have pool : dispatch.pool = _ := (Dispatch.step_accept moved).1
  apply opened.of_slots
  · rfl
  · intro id listed
    rw [Sockets.pool, pool] at listed
    rcases listed with undrained | waiting
    · have inserted := (PoolState.undrained_accept formed now).mem_iff.mp undrained
      rcases List.mem_cons.mp inserted with rfl | undrained
      · exact .inr (Nat.le_refl _)
      · exact .inl undrained
    · exact .inr (Nat.le_of_succ_le waiting)

theorem opened_pops (formed : before.pool.WellFormed) (opened : Opened before) {id : Nat}
    {dispatch : Dispatch} (popped : before.pool.tryPopReady = some (id, dispatch.pool))
    (sending : List (Nat × Nat)) : Opened { before with dispatch, sending } := by
  have counter := (PoolState.tryPopReady_sameSlots formed popped).counter
  apply opened.of_slots
  · rfl
  · intro other listed
    change other ∈ dispatch.pool.undrained ∨ dispatch.pool.slotIdCounter ≤ other at listed
    rw [counter] at listed
    exact listed.imp_left (PoolState.undrained_of_popped formed popped).mem_iff.mp

/-- The watchdog closes the socket of a slot that is draining. -/
theorem opened_watchdog (formed : before.pool.WellFormed) (opened : Opened before) {id : Nat}
    {running : Bool} {dispatch : Dispatch} {dispatched : Option Nat}
    (moved : before.dispatch.step (.watchdog id running) = some (dispatch, dispatched)) :
    Opened { before with
      dispatch
      slots :=
        if (before.pool.dropDraining id).2 then
          before.slots.modify id SlotProcess.shutdownWrite
        else
          before.slots } := by
  have pool : dispatch.pool = (before.pool.dropDraining id).1 :=
    (Dispatch.step_watchdog moved).1
  obtain ⟨_, _, dropped⟩ := PoolState.dropDraining_drops before.pool id
  have listed : ∀ other, other ∈ dispatch.pool.undrained ∨
      dispatch.pool.slotIdCounter ≤ other →
      other ∈ before.pool.undrained ∨ before.pool.slotIdCounter ≤ other := by
    intro other listed
    rw [pool, PoolState.undrained_dropped, dropped.counter] at listed
    exact listed
  cases drops : (before.pool.dropDraining id).2 with
  | false => exact opened.of_slots rfl listed
  | true =>
      apply opened.at_place id
      · exact listed
      · intro other slot there different
        dsimp only at there
        rwa [if_pos rfl, List.getElem?_modify_ne _ _ (Ne.symm different)] at there
      · intro slot there member
        have draining := mem_draining_of_dropped drops
        have apart := disjoint_of_wellFormed formed
        rcases listed id member with undrained | waiting
        · rcases PoolState.mem_undrained.mp undrained with ready | inFlight
          · exact absurd draining (apart.ready_draining id ready)
          · exact absurd draining (apart.inFlight_draining id inFlight)
        · have drawn := formed.below id (PoolState.mem_all.mpr (.inr (.inr draining)))
          exact absurd drawn (Nat.not_lt.mpr waiting)

/-- Every step leaves these sockets open. -/
theorem opened_step (lockstep : Lockstep before) (watched : Watched before.dispatch.frontend)
    (opened : Opened before) (step : before.step event = some after) : Opened after := by
  have formed : before.pool.WellFormed := lockstep.sound.formed
  cases Sockets.effect_of_step step with
  | cancel => exact opened
  | fails => exact opened
  | connects =>
      intro id slot there listed
      rcases SlotProcess.getElem?_concat_cases there with was | ⟨rfl, _⟩
      · exact opened id slot was listed
      · rfl
  | refuses _ moved =>
      cases Dispatch.step_workerFails moved
      intro id slot there listed
      rcases SlotProcess.getElem?_eraseIdx_cases there with ⟨was, _⟩ | ⟨was, late⟩
      · exact opened id slot was listed
      · exact opened (id + 1) slot was (.inr (Nat.le_succ_of_le late))
  | workerFails moved =>
      cases Dispatch.step_workerFails moved
      exact opened
  | gone moved =>
      cases Dispatch.step_exits moved
      exact opened
  | @waits _ _ dispatch _ same =>
      have pool : dispatch.pool = before.pool := congrArg Frontend.pool same
      apply opened.of_slots
      · rfl
      · intro id listed
        rwa [Sockets.pool, pool] at listed
  | accept _ moved => exact opened_accept formed opened moved
  | pops _ popped => exact opened_pops formed opened popped _
  | slot there moved => exact opened_set opened there (shutWrite_step moved) rfl rfl
  | sends _ there sent => exact opened_set opened there (shutWrite_send sent) rfl rfl
  | @reads id now opcode slot next dispatch _ there read moved =>
      apply opened_reads lockstep watched opened moved
      · intro other found member different
        rwa [List.getElem?_set_ne (Ne.symm different)] at member
      · intro ready found member
        rcases SlotProcess.getElem?_set_cases member with ⟨_, rfl⟩ | ⟨different, _⟩
        · refine ⟨slot, there, ?_⟩
          cases opcode with
          | ready => exact shutWrite_read read
          | drainAck => cases ready
        · exact absurd rfl different
  | stops moved =>
      apply opened_reads lockstep watched opened moved
      · intro other found member different
        rwa [List.getElem?_modify_ne _ _ (Ne.symm different)] at member
      · intro ready
        cases ready
  | reapOnce => exact opened_requestDrains opened _ _
  | sighupReconcile => exact opened_requestDrains opened _ _
  | watchdog moved => exact opened_watchdog formed opened moved

end Opened

/-! ## Calls that have a slot -/

/-- A call that will not wait again, and is about to send to none but these slots. -/
structure Committed (call : Nat) (slots : List Nat) (state : Sockets) : Prop where
  drawn : call < state.dispatch.handoffs
  absent : call ∉ state.dispatch.hasReady.tasks
  only : ∀ id, (call, id) ∈ state.sending → id ∈ slots

section Calls

variable {before after : Sockets} {event : SocketEvent} {call id : Nat} {slots : List Nat}

/-- It does not run again. -/
theorem Committed.not_caller (committed : Committed call slots before) :
    event.caller before ≠ some call := by
  intro calling
  rcases Sockets.mem_of_caller calling with rfl | waiting
  · exact Nat.lt_irrefl _ committed.drawn
  · exact committed.absent waiting

/-- Such a call stays so. -/
theorem committed_step (committed : Committed call slots before)
    (step : before.step event = some after) : Committed call slots after := by
  have effect := Sockets.effect_of_step step
  obtain ⟨handoffs, tasks⟩ := Sockets.tasks_of_effect effect
  constructor
  · exact Nat.lt_of_lt_of_le committed.drawn handoffs
  · intro waiting
    rcases List.mem_cons.mp (tasks waiting) with rfl | waiting
    · exact Nat.lt_irrefl _ committed.drawn
    · exact committed.absent waiting
  · intro id listed
    rcases Sockets.sending_of_effect effect listed with was | calling
    · exact committed.only id was
    · exact absurd calling committed.not_caller

theorem committed_run {events : List SocketEvent} (committed : Committed call slots before)
    (run : Run sockets before events after) : Committed call slots after := by
  refine @RunWith.preserves _ _ sockets _ (Committed call slots) _ _ _ ?_ run committed
  intro _ _ _ committed step _
  exact committed_step committed step

/-- What has been sent stays sent. -/
theorem sent_step (step : before.step event = some after)
    (sent : call ∈ before.sent.map Prod.fst) : call ∈ after.sent.map Prod.fst := by
  cases Sockets.effect_of_step step with
  | sends => exact List.mem_cons_of_mem _ sent
  | reapOnce | sighupReconcile =>
      rw [(Sockets.sending_requestDrains _ _ _).2]
      exact sent
  | _ => exact sent

/-- A call that has no slot left has been delivered by the end of a run exactly if it
had been at its start. -/
theorem sent_run_iff {events : List SocketEvent} (spent : Committed call [] before)
    (run : Run sockets before events after) :
    call ∈ after.sent.map Prod.fst ↔ call ∈ before.sent.map Prod.fst := by
  have both : Committed call [] after ∧
      (call ∈ after.sent.map Prod.fst ↔ call ∈ before.sent.map Prod.fst) := by
    refine @RunWith.preserves _ _ sockets _
      (fun state => Committed call [] state ∧
        (call ∈ state.sent.map Prod.fst ↔ call ∈ before.sent.map Prod.fst)) _ _ _ ?_ run
      ⟨spent, .rfl⟩
    rintro source event target ⟨spent, same⟩ step _
    refine ⟨committed_step spent step, ?_⟩
    constructor
    · intro listed
      rcases Sockets.sent_of_effect (Sockets.effect_of_step step) listed with
        was | ⟨id, _, _, sending, _⟩
      · exact same.mp was
      · cases spent.only id sending
    · intro sent
      exact sent_step step (same.mpr sent)
  exact both.2

theorem dealt_run {events : List SocketEvent} (dealt : Dealt before)
    (run : Run sockets before events after) : Dealt after := by
  refine @RunWith.preserves _ _ sockets _ Dealt _ _ _ ?_ run dealt
  intro _ _ _ dealt step _
  exact dealt_step dealt step

/-! ## The send -/

theorem sendable_of_slots (slots : after.slots = before.slots) :
    sendable after id = sendable before id := by
  rw [sendable, slots, sendable]

/-- A ready slot takes a descriptor while its process runs. -/
theorem sendable_of_ready (opened : Opened before) (ready : id ∈ before.pool.ready.ids) :
    sendable before id = lives before id := by
  unfold sendable lives
  cases there : before.slots[id]? with
  | none => rfl
  | some slot =>
      have unshut := opened id slot there (.inl (List.mem_append_left _ ready))
      simp [unshut]

theorem sendable_of_send {slot next : SlotProcess} {message : CtrlMsg}
    (there : before.slots[id]? = some slot) (sent : slot.send message = some next) :
    sendable before id = true := by
  simp only [SlotProcess.send] at sent
  split at sent
  · cases sent
  · next opened => simp [sendable, there, not_or.mp opened]

/-- A call that is about to send waits no more, and has sent nothing. -/
theorem Dealt.committed (dealt : Dealt before) (listed : (call, id) ∈ before.sending) :
    Committed call [id] before ∧ call ∉ before.sent.map Prod.fst := by
  have calling : call ∈ before.sending.map Prod.fst := List.mem_map_of_mem listed
  obtain ⟨_, placed, apart⟩ := List.nodup_append.mp dealt.nodup
  obtain ⟨nodup, _, unsent⟩ := List.nodup_append.mp placed
  refine ⟨⟨?_, ?_, ?_⟩, ?_⟩
  · exact dealt.below call (List.mem_append_right _ (List.mem_append_left _ calling))
  · exact fun waiting => apart call waiting call (List.mem_append_left _ calling) rfl
  · intro other listedToo
    rw [List.mem_singleton]
    exact congrArg Prod.snd (List.inj_on_of_nodup_map nodup listedToo listed rfl)
  · exact fun sent => unsent call calling call sent rfl

/-- Behind its send the call has no slot left, and it has been delivered exactly if
the slot took its descriptor. -/
theorem sends_iff {works : Bool} (dealt : Dealt before)
    (step : before.step (.sends call id works) = some after) :
    (call, id) ∈ before.sending ∧ Committed call [] after ∧
      (call ∈ after.sent.map Prod.fst ↔ sendable before id = true ∧ works = true) := by
  have erased : ∀ listed : (call, id) ∈ before.sending,
      after.sending = before.sending.erase (call, id) → Committed call [] after := by
    intro listed sending
    obtain ⟨committed, _⟩ := dealt.committed listed
    obtain ⟨drawn, absent, only⟩ := committed_step committed step
    refine ⟨drawn, absent, ?_⟩
    intro other listedToo
    obtain ⟨_, placed, _⟩ := List.nodup_append.mp dealt.nodup
    have nodup := List.Nodup.of_map Prod.fst (List.nodup_append.mp placed).1
    rw [List.mem_singleton.mp (only other listedToo), sending] at listedToo
    exact absurd listedToo nodup.not_mem_erase
  cases Sockets.effect_of_step step with
  | pops calling => cases calling
  | waits calling => cases calling
  | sends listed there sent =>
      refine ⟨listed, erased listed rfl, ?_⟩
      exact iff_of_true List.mem_cons_self ⟨sendable_of_send there sent, rfl⟩
  | fails listed =>
      refine ⟨listed, erased listed rfl, ?_⟩
      exact iff_of_false (dealt.committed listed).2 fun taken => Bool.false_ne_true taken.2

/-- A call that looks for a ready slot where there is one pops it. -/
theorem popped_of_dispatches (dispatches : Dispatches before event call)
    (filled : before.pool.ready ≠ []) (step : before.step event = some after) :
    ∃ first pool, before.pool.tryPopReady = some (first, pool) ∧
      after.slots = before.slots ∧ (call, first) ∈ after.sending := by
  obtain ⟨⟨first, pool⟩, popped⟩ := Option.ne_none_iff_exists'.mp fun none =>
    filled (PoolState.tryPopReady_eq_none_iff.mp none)
  refine ⟨first, pool, popped, ?_⟩
  change before.dispatch.pool.tryPopReady = some (first, pool) at popped
  cases dispatches with
  | fast max spawns =>
      cases step
      rw [Dispatch.handoff_of_some popped]
      exact ⟨rfl, List.mem_cons_self⟩
  | slow notified expired =>
      simp only [Sockets.step, Dispatch.step, notified, if_true, Option.map_some,
        Option.some.injEq] at step
      subst step
      rw [Dispatch.wake_of_some popped]
      exact ⟨rfl, List.mem_cons_self⟩

end Calls

theorem opened_invariant : Invariant sockets fun state =>
    Prompted state ∧ (Sound state.dispatch.frontend ∧ Watched state.dispatch.frontend) ∧
      Opened state where
  initial := by
    rintro _ rfl
    refine ⟨prompted_invariant.initial _ rfl, watched_invariant.initial _ rfl, ?_⟩
    intro id slot there
    cases there
  step before event after here step :=
    ⟨prompted_step here.1 step,
      (Sockets.invariant_of_frontends watched_invariant).step _ _ _ here.2.1 step,
      opened_step here.1.lockstep here.2.1.2 here.2.2 step⟩

/-- A call that looks for a ready slot where there is one pops the first, which takes
a descriptor exactly if its process runs.  In every run behind the call's send, the
call has been delivered exactly if that slot took its descriptor then; it waits no
more and is about to send to no other slot. -/
theorem handoff_delivered_iff_send_taken (state next before after target : Sockets)
    (event : SocketEvent) (call id : Nat) (works : Bool) (events rest : List SocketEvent)
    (reached : Reachable sockets state) (dispatches : Dispatches state event call)
    (filled : state.pool.ready ≠ []) (step : state.step event = some next)
    (run : Run sockets next events before)
    (tried : before.step (.sends call id works) = some after)
    (later : Run sockets after rest target) :
    state.pool.ready.ids.head? = some id ∧ sendable next id = lives state id ∧
      (call ∈ target.sent.map Prod.fst ↔ sendable before id = true ∧ works = true) ∧
      call ∉ target.dispatch.hasReady.tasks ∧ ∀ other, (call, other) ∉ target.sending := by
  obtain ⟨_, _, opened⟩ := opened_invariant.reachable reached
  have dealt := dealt_step (dealt_invariant.reachable reached) step
  obtain ⟨first, pool, popped, slots, listed⟩ := popped_of_dispatches dispatches filled step
  have head := (PoolState.undrained_tryPopReady popped).1
  have ready : first ∈ state.pool.ready.ids := head ▸ List.mem_cons_self
  have committed := committed_run (dealt.committed listed).1 run
  obtain ⟨sending, spent, sent⟩ := sends_iff (dealt_run dealt run) tried
  have same : id = first := List.mem_singleton.mp (committed.only id sending)
  subst same
  refine ⟨by rw [head]; rfl, ?_, (sent_run_iff spent later).trans sent, ?_⟩
  · rw [sendable_of_slots slots, sendable_of_ready opened ready]
  · obtain ⟨_, absent, unlisted⟩ := committed_run spent later
    exact ⟨absent, fun other listed => List.not_mem_nil (unlisted other listed)⟩

/-- The call behind two that have been notified takes the first of two ready slots. -/
def thirdDispatched : Sockets where
  dispatch :=
    ⟨⟨⟨[(1, ⟨1⟩)], [(0, ⟨1⟩)], [], 2, false⟩, [1, 0], []⟩, ⟨false, [], [0, 1]⟩, 3, 0, []⟩
  slots :=
    [⟨.waiting, [], [], false, false, false⟩, ⟨.waiting, [], [], false, false, false⟩]
  sending := [(2, 0)]
  sent := []

/-- The slot has taken its descriptor. -/
def thirdSent : Sockets :=
  { thirdDispatched with
    slots :=
      [⟨.waiting, [], [.fdHandoff 2], false, false, false⟩,
        ⟨.waiting, [], [], false, false, false⟩]
    sending := []
    sent := [(2, 0)] }

theorem thirdDispatched_delivered : 2 ∈ thirdSent.sent.map Prod.fst :=
  (handoff_delivered_iff_send_taken twoReady thirdDispatched thirdDispatched thirdSent thirdSent
    (.handoff 2 true) 2 0 true [] [] twoReady_reached (.fast 2 true) (by decide) rfl (.nil _) rfl
    (.nil _)).2.2.1.mpr ⟨rfl, rfl⟩

/-- The first of two ready slots has died, and the frontend has not noticed. -/
def firstDead : Sockets :=
  { twoReady with
    slots :=
      [⟨.exited, [], [], false, false, false⟩, ⟨.waiting, [], [], false, false, false⟩] }

/-- The third call has popped the dead slot. -/
def deadDispatched : Sockets :=
  { thirdDispatched with slots := firstDead.slots }

/-- A call that pops a dead slot is lost with its send, although a live slot is ready:
it has not been delivered, and neither waits nor has another slot. -/
theorem dead_slot_loses_call :
    ¬∀ (state next before after : Sockets) (event : SocketEvent) (call id : Nat) (works : Bool)
      (events : List SocketEvent), Reachable sockets state → Dispatches state event call →
        (∃ slot ∈ state.pool.ready.ids, lives state slot = true) →
          state.step event = some next → Run sockets next events before →
            before.step (.sends call id works) = some after →
              (works = true ↔ sendable before id = true) →
                call ∈ after.sent.map Prod.fst ∨ call ∈ after.dispatch.hasReady.tasks ∨
                  ∃ slot, (call, slot) ∈ after.sending := by
  intro claimed
  have died : Run sockets twoReady [.slot 0 .exits] firstDead := .cons rfl trivial (.nil _)
  have tried : deadDispatched.step (.sends 2 0 false) =
      some { deadDispatched with sending := [] } := rfl
  have kept := claimed firstDead deadDispatched deadDispatched _ (.handoff 2 true) 2 0 false []
    (twoReady_reached.run died) (.fast 2 true) ⟨1, by decide, rfl⟩ rfl (.nil _) tried (by decide)
  rcases kept with sent | waiting | ⟨slot, listed⟩
  · cases sent
  · revert waiting
    decide
  · cases listed

end PgTransport.Properties
