import Mathlib.Data.List.Perm.Subperm
import PgTransport.Pool.Effects
import PgTransport.Properties.PoolContainers

/-!
# The handoff protocol

Each slot has one token.  The frontend holds it while the slot is ready or a call
is about to send to it; otherwise it is a byte in the socket, or the boot or the
session that runs.  No step makes a second one, in whatever order the tasks and
the slots run.
-/

open scoped List

namespace PgTransport.Properties

open PgTransport.Concurrency
open PgTransport.Pool
open PgTransport.Transition

/-- The slots whose token the frontend holds. -/
def held (sockets : Sockets) : List Nat :=
  sockets.pool.ready.ids ++ sockets.sending.map Prod.snd

/-- The calls that wait, are about to send or have sent. -/
def calls (sockets : Sockets) : List Nat :=
  sockets.dispatch.hasReady.tasks ++
    (sockets.sending.map Prod.fst ++ sockets.sent.map Prod.fst)

/-- One token a slot at most, wherever it is; and a slot that was sent a drain
request is sent nothing more. -/
structure Lockstep (sockets : Sockets) : Prop where
  sound : Sound sockets.dispatch.frontend
  accepted : sockets.pool.slotIdCounter ≤ sockets.slots.length
  single : ∀ (id : Nat) (slot : SlotProcess), sockets.slots[id]? = some slot → slot.tokens ≤ 1
  nodup : (held sockets).Nodup
  below : ∀ id ∈ held sockets, id < sockets.pool.slotIdCounter
  idle : ∀ id ∈ held sockets, ∀ slot : SlotProcess, sockets.slots[id]? = some slot → slot.tokens = 0
  drained : ∀ (id : Nat) (slot : SlotProcess), sockets.slots[id]? = some slot →
    slot.drainSent = true →
    id < sockets.pool.slotIdCounter ∧ id ∉ held sockets ∧ id ∉ sockets.pool.inFlight.ids

/-- No call is in two places, or twice in one. -/
structure Dealt (sockets : Sockets) : Prop where
  nodup : (calls sockets).Nodup
  below : ∀ call ∈ calls sockets, call < sockets.dispatch.handoffs

/-! ## Lists of slots -/

/-- The same slots, with no token more. -/
def Quieter (before after : List SlotProcess) : Prop :=
  after.length = before.length ∧
    ∀ (id : Nat) (slot : SlotProcess), after[id]? = some slot →
      ∃ earlier : SlotProcess, before[id]? = some earlier ∧
        slot.tokens ≤ earlier.tokens ∧ slot.drainSent = earlier.drainSent

theorem nodup_of_subperm {α : Type} {smaller larger : List α} (within : smaller <+~ larger)
    (nodup : larger.Nodup) : smaller.Nodup := by
  obtain ⟨_, same, sublist⟩ := within
  exact same.nodup_iff.mp (nodup.sublist sublist)

theorem Quieter.refl (slots : List SlotProcess) : Quieter slots slots :=
  ⟨rfl, fun _ slot there => ⟨slot, there, Nat.le_refl _, rfl⟩⟩

theorem Quieter.set {slots : List SlotProcess} {id : Nat} {slot next : SlotProcess}
    (there : slots[id]? = some slot) (fewer : next.tokens ≤ slot.tokens)
    (same : next.drainSent = slot.drainSent) : Quieter slots (slots.set id next) := by
  constructor
  · exact List.length_set
  · intro other found member
    rcases SlotProcess.getElem?_set_cases member with ⟨rfl, rfl⟩ | ⟨_, was⟩
    · exact ⟨slot, there, fewer, same⟩
    · exact ⟨found, was, Nat.le_refl _, rfl⟩

theorem Quieter.modify (slots : List SlotProcess) (id : Nat) {change : SlotProcess → SlotProcess}
    (fewer : ∀ slot, (change slot).tokens ≤ slot.tokens)
    (same : ∀ slot, (change slot).drainSent = slot.drainSent) :
    Quieter slots (slots.modify id change) := by
  constructor
  · exact List.length_modify ..
  · intro other found member
    obtain ⟨earlier, was, ⟨_, rfl⟩ | ⟨_, rfl⟩⟩ := SlotProcess.getElem?_modify_cases member
    · exact ⟨earlier, was, fewer earlier, same earlier⟩
    · exact ⟨found, was, Nat.le_refl _, rfl⟩

theorem modify_eq_set {slots : List SlotProcess} {id : Nat} {slot : SlotProcess}
    (there : slots[id]? = some slot) (change : SlotProcess → SlotProcess) :
    slots.modify id change = slots.set id (change slot) := by
  apply List.ext_getElem?
  intro other
  rw [List.getElem?_modify, List.getElem?_set]
  by_cases same : id = other
  · subst same
    obtain ⟨inside, value⟩ := List.getElem?_eq_some_iff.mp there
    simp [inside, value]
  · simp [same]

/-! ## What keeps the tokens -/

section Keeps

variable {before after : Sockets}

/-- Fewer tokens at most: in the sockets, with the frontend, and to be had from
the slots in flight. -/
structure Calms (before after : Sockets) : Prop where
  counter : after.pool.slotIdCounter = before.pool.slotIdCounter
  slots : Quieter before.slots after.slots
  fewer : held after <+~ held before
  inFlight : ∀ id ∈ after.pool.inFlight.ids, id ∈ held before ∨ id ∈ before.pool.inFlight.ids

theorem Lockstep.calms (lockstep : Lockstep before) (sound : Sound after.dispatch.frontend)
    (calms : Calms before after) : Lockstep after where
  sound := sound
  accepted := by
    rw [calms.counter, calms.slots.1]
    exact lockstep.accepted
  single id slot there := by
    obtain ⟨earlier, was, fewer, _⟩ := calms.slots.2 id slot there
    exact Nat.le_trans fewer (lockstep.single id earlier was)
  nodup := nodup_of_subperm calms.fewer lockstep.nodup
  below id listed := by
    rw [calms.counter]
    exact lockstep.below id (calms.fewer.subset listed)
  idle id listed slot there := by
    obtain ⟨earlier, was, fewer, _⟩ := calms.slots.2 id slot there
    have none := lockstep.idle id (calms.fewer.subset listed) earlier was
    exact Nat.le_zero.mp (none ▸ fewer)
  drained id slot there sent := by
    obtain ⟨earlier, was, _, same⟩ := calms.slots.2 id slot there
    obtain ⟨early, absent, apart⟩ := lockstep.drained id earlier was (same ▸ sent)
    rw [calms.counter]
    refine ⟨early, fun listed => absent (calms.fewer.subset listed), ?_⟩
    intro listed
    exact (calms.inFlight id listed).elim absent apart

/-- The frontend sends a message to a slot whose token it holds. -/
theorem Lockstep.sends {id : Nat} {message : CtrlMsg} {slot next : SlotProcess}
    (lockstep : Lockstep before) (sound : Sound after.dispatch.frontend)
    (counter : after.pool.slotIdCounter = before.pool.slotIdCounter)
    (there : before.slots[id]? = some slot) (sent : slot.send message = some next)
    (slots : after.slots = before.slots.set id next)
    (taken : held before ~ id :: held after)
    (inFlight : ∀ other ∈ after.pool.inFlight.ids, other ∈ before.pool.inFlight.ids)
    (drains : message = .drainRequest → id ∉ after.pool.inFlight.ids) : Lockstep after := by
  obtain ⟨one, drainSent, _⟩ := SlotProcess.tokens_send sent
  have listed : id ∈ held before := taken.mem_iff.mpr List.mem_cons_self
  have fresh : id ∉ held after ∧ (held after).Nodup :=
    List.nodup_cons.mp (taken.nodup_iff.mp lockstep.nodup)
  have within : ∀ other ∈ held after, other ∈ held before := fun other member =>
    taken.mem_iff.mpr (List.mem_cons_of_mem id member)
  have placed : ∀ other found, after.slots[other]? = some found →
      other = id ∧ found = next ∨ other ≠ id ∧ before.slots[other]? = some found := by
    intro other found member
    rw [slots] at member
    exact SlotProcess.getElem?_set_cases member
  constructor
  · exact sound
  · rw [counter, slots, List.length_set]
    exact lockstep.accepted
  · intro other found member
    rcases placed other found member with ⟨rfl, rfl⟩ | ⟨_, was⟩
    · have none := lockstep.idle other listed slot there
      rw [none] at one
      exact Nat.le_of_eq one
    · exact lockstep.single other found was
  · exact fresh.2
  · intro other member
    rw [counter]
    exact lockstep.below other (within other member)
  · intro other member found at_other
    rcases placed other found at_other with ⟨rfl, rfl⟩ | ⟨_, was⟩
    · exact absurd member fresh.1
    · exact lockstep.idle other (within other member) found was
  · intro other found member drained
    rw [counter]
    rcases placed other found member with ⟨rfl, rfl⟩ | ⟨_, was⟩
    · refine ⟨lockstep.below other listed, fresh.1, ?_⟩
      rw [drainSent, Bool.or_eq_true, decide_eq_true_eq] at drained
      rcases drained with early | asks
      · exact fun there' => absurd listed (lockstep.drained other slot there early).2.1
      · exact drains asks
    · obtain ⟨early, absent, apart⟩ := lockstep.drained other found was drained
      exact ⟨early, fun there' => absent (within other there'),
        fun there' => apart (inFlight other there')⟩

/-- The frontend reads the token of a slot in flight, and lists it as ready. -/
theorem Lockstep.gains {id : Nat} {opcode : Opcode} {slot next : SlotProcess}
    (lockstep : Lockstep before) (sound : Sound after.dispatch.frontend)
    (counter : after.pool.slotIdCounter = before.pool.slotIdCounter)
    (there : before.slots[id]? = some slot) (read : slot.read = some (opcode, next))
    (slots : after.slots = before.slots.set id next)
    (listed : id ∈ before.pool.inFlight.ids)
    (taken : held after ~ id :: held before)
    (undrained : ∀ other ∈ after.pool.undrained, other ∈ before.pool.undrained) :
    Lockstep after := by
  obtain ⟨one, drainSent⟩ := SlotProcess.tokens_read read
  have none : next.tokens = 0 := by
    have single := lockstep.single id slot there
    rw [one] at single
    exact Nat.le_zero.mp (Nat.le_of_succ_le_succ single)
  have fresh : id ∉ held before := by
    intro member
    rw [lockstep.idle id member slot there] at one
    cases one
  have drawn : id < before.pool.slotIdCounter :=
    lockstep.sound.formed.below id (PoolState.mem_all.mpr (.inr (.inl listed)))
  have quieter : Quieter before.slots after.slots := by
    rw [slots]
    exact .set there (Nat.le_of_lt (one ▸ Nat.lt_succ_self _)) drainSent
  constructor
  · exact sound
  · rw [counter, quieter.1]
    exact lockstep.accepted
  · intro other found member
    obtain ⟨earlier, was, fewer, _⟩ := quieter.2 other found member
    exact Nat.le_trans fewer (lockstep.single other earlier was)
  · exact taken.nodup_iff.mpr (List.nodup_cons.mpr ⟨fresh, lockstep.nodup⟩)
  · intro other member
    rw [counter]
    rcases List.mem_cons.mp (taken.mem_iff.mp member) with rfl | member
    · exact drawn
    · exact lockstep.below other member
  · intro other member found at_other
    rcases List.mem_cons.mp (taken.mem_iff.mp member) with rfl | member
    · rw [slots, List.getElem?_set_self (List.getElem?_eq_some_iff.mp there).1] at at_other
      cases at_other
      exact none
    · obtain ⟨earlier, was, fewer, _⟩ := quieter.2 other found at_other
      exact Nat.le_zero.mp (lockstep.idle other member earlier was ▸ fewer)
  · intro other found member drained
    obtain ⟨earlier, was, _, same⟩ := quieter.2 other found member
    obtain ⟨early, absent, apart⟩ := lockstep.drained other earlier was (same ▸ drained)
    rw [counter]
    refine ⟨early, ?_, ?_⟩
    · intro here
      rcases List.mem_cons.mp (taken.mem_iff.mp here) with rfl | here
      · exact apart listed
      · exact absent here
    · intro here
      rcases PoolState.mem_undrained.mp (undrained other (PoolState.mem_undrained.mpr (.inr here)))
        with ready | inFlight
      · exact absent (List.mem_append_left _ ready)
      · exact apart inFlight

/-- A step that lists no slot, and begins no send. -/
theorem calms_of_pool (counter : after.pool.slotIdCounter = before.pool.slotIdCounter)
    (slots : Quieter before.slots after.slots)
    (ready : after.pool.ready.ids <+~ before.pool.ready.ids)
    (sending : after.sending.map Prod.snd <+~ before.sending.map Prod.snd)
    (undrained : ∀ id ∈ after.pool.undrained, id ∈ before.pool.undrained) :
    Calms before after where
  counter := counter
  slots := slots
  fewer := ready.append sending
  inFlight id listed := by
    rcases PoolState.mem_undrained.mp
      (undrained id (PoolState.mem_undrained.mpr (.inr listed))) with there | there
    · exact .inl (List.mem_append_left _ there)
    · exact .inr there

/-- A step that leaves the pool alone. -/
theorem calms_of_same (pool : after.pool = before.pool) (slots : Quieter before.slots after.slots)
    (sending : after.sending.map Prod.snd <+~ before.sending.map Prod.snd) :
    Calms before after := by
  apply calms_of_pool _ slots _ sending
  · rw [pool]
    exact fun _ there => there
  · rw [pool]
  · rw [pool]

/-- A call that is dispatched to a slot holds its token, as the pool has done. -/
theorem calms_pops {call id : Nat} {dispatch : Dispatch} (formed : before.pool.WellFormed)
    (popped : before.pool.tryPopReady = some (id, dispatch.pool)) :
    Calms before { before with dispatch, sending := (call, id) :: before.sending } := by
  obtain ⟨split, undrained⟩ := PoolState.undrained_tryPopReady popped
  constructor
  · exact (PoolState.tryPopReady_sameSlots formed popped).counter
  · exact .refl _
  · have moved : held before ~
        held { before with dispatch, sending := (call, id) :: before.sending } := by
      change before.pool.ready.ids ++ _ ~ dispatch.pool.ready.ids ++ (id :: _)
      rw [split]
      exact List.perm_middle.symm
    exact moved.symm.subperm
  · intro other listed
    rcases PoolState.mem_undrained.mp
      (undrained other (PoolState.mem_undrained.mpr (.inr listed))) with there | there
    · exact .inl (List.mem_append_left _ there)
    · exact .inr there

end Keeps

/-! ## Every step keeps the tokens -/

section Steps

variable {before after : Sockets}

theorem sound_of_effect {event : SocketEvent} (sound : Sound before.dispatch.frontend)
    (effect : before.Effect event after) : Sound after.dispatch.frontend := by
  rcases Sockets.frontend_of_effect effect with same | ⟨moved, taken⟩
  · rw [same]
    exact sound
  · exact sound_step sound taken

/-- A slot whose token the frontend holds is connected. -/
theorem Lockstep.exists_slot (lockstep : Lockstep before) {id : Nat} (listed : id ∈ held before) :
    ∃ slot, before.slots[id]? = some slot :=
  ⟨_, List.getElem?_eq_getElem
    (Nat.lt_of_lt_of_le (lockstep.below id listed) lockstep.accepted)⟩

theorem lockstep_connects (lockstep : Lockstep before) :
    Lockstep { before with slots := before.slots ++ [.connected] } := by
  constructor
  · exact lockstep.sound
  · exact Nat.le_trans lockstep.accepted (by simp)
  · intro id slot there
    rcases SlotProcess.getElem?_concat_cases there with was | ⟨rfl, _⟩
    · exact lockstep.single id slot was
    · exact Nat.le_refl 1
  · exact lockstep.nodup
  · exact lockstep.below
  · intro id listed slot there
    rcases SlotProcess.getElem?_concat_cases there with was | ⟨_, beyond⟩
    · exact lockstep.idle id listed slot was
    · exact absurd (Nat.lt_of_lt_of_le (lockstep.below id listed) lockstep.accepted)
        (Nat.not_lt.mpr beyond)
  · intro id slot there sent
    rcases SlotProcess.getElem?_concat_cases there with was | ⟨rfl, _⟩
    · exact lockstep.drained id slot was sent
    · cases sent

/-- A connection that the accept loop drops was given no message. -/
theorem lockstep_refuses (lockstep : Lockstep before) {dispatch : Dispatch}
    (frontend : dispatch.frontend = before.dispatch.frontend)
    (waiting : before.pool.slotIdCounter < before.slots.length) :
    Lockstep { before with
      dispatch := dispatch
      slots := before.slots.eraseIdx before.pool.slotIdCounter } := by
  have pool : dispatch.pool = before.pool := congrArg Frontend.pool frontend
  have same : held { before with
      dispatch := dispatch
      slots := before.slots.eraseIdx before.pool.slotIdCounter } = held before := by
    rw [held, held, Sockets.pool, pool]
  constructor
  · rw [frontend]
    exact lockstep.sound
  · rw [Sockets.pool, pool, List.length_eraseIdx_of_lt waiting]
    exact Nat.le_sub_one_of_lt waiting
  · intro id slot there
    rcases SlotProcess.getElem?_eraseIdx_cases there with ⟨was, _⟩ | ⟨was, _⟩
    · exact lockstep.single id slot was
    · exact lockstep.single (id + 1) slot was
  · rw [same]
    exact lockstep.nodup
  · rw [same, Sockets.pool, pool]
    exact lockstep.below
  · intro id listed slot there
    rw [same] at listed
    rcases SlotProcess.getElem?_eraseIdx_cases there with ⟨was, _⟩ | ⟨_, late⟩
    · exact lockstep.idle id listed slot was
    · exact absurd (lockstep.below id listed) (Nat.not_lt.mpr late)
  · intro id slot there sent
    rw [same, Sockets.pool, pool]
    -- The places behind the dropped one are those of slots that have not been accepted.
    rcases SlotProcess.getElem?_eraseIdx_cases there with ⟨was, _⟩ | ⟨was, late⟩
    · exact lockstep.drained id slot was sent
    · have early := (lockstep.drained (id + 1) slot was sent).1
      exact absurd (Nat.lt_of_succ_lt early) (Nat.not_lt.mpr late)

/-- The next connection gets its identifier. -/
theorem lockstep_accept (lockstep : Lockstep before) {dispatch : Dispatch} {now : Nat}
    (sound : Sound dispatch.frontend) (accepted : dispatch.pool = before.pool.accept now)
    (waiting : before.pool.slotIdCounter < before.slots.length) :
    Lockstep { before with dispatch := dispatch } := by
  have same : held { before with dispatch := dispatch } = held before := by
    rw [held, held, Sockets.pool, accepted]
    rfl
  constructor
  · exact sound
  · rw [Sockets.pool, accepted]
    exact waiting
  · exact lockstep.single
  · rw [same]
    exact lockstep.nodup
  · intro id listed
    rw [same] at listed
    rw [Sockets.pool, accepted]
    exact Nat.lt_succ_of_lt (lockstep.below id listed)
  · rw [same]
    exact lockstep.idle
  · intro id slot there sent
    obtain ⟨early, absent, apart⟩ := lockstep.drained id slot there sent
    rw [same, Sockets.pool, accepted]
    refine ⟨Nat.lt_succ_of_lt early, absent, ?_⟩
    intro listed
    rcases Slots.mem_of_insert listed with rfl | listed
    · exact Nat.lt_irrefl _ early
    · exact apart listed

/-- A drain request goes to a slot whose token the frontend holds. -/
theorem lockstep_requestDrain (lockstep : Lockstep before) (lost : List Nat) (id : Nat) :
    Lockstep (before.requestDrain lost id) := by
  have formed : before.pool.WellFormed := lockstep.sound.formed
  have sound : Sound (before.requestDrain lost id).dispatch.frontend :=
    @sound_step _ _ (.requestDrain id) lockstep.sound rfl
  have counter := @Sockets.slotIdCounter_requestDrain before lost id
  rcases @PoolState.requestDrain_cases before.pool id with unchanged | ⟨asks, taken, inFlight⟩
  · have pool : (before.requestDrain lost id).pool = before.pool := congrArg Prod.fst unchanged
    have slots : Quieter before.slots (before.requestDrain lost id).slots := by
      simp only [Sockets.requestDrain, unchanged, Bool.false_and, Bool.false_eq_true, if_false]
      exact .refl _
    exact lockstep.calms sound (calms_of_same pool slots (.refl _))
  · have listed : id ∈ held before :=
      List.mem_append_left _ (taken.mem_iff.mpr List.mem_cons_self)
    have released : held before ~ id :: held (before.requestDrain lost id) :=
      taken.append_right _
    have fewer : held (before.requestDrain lost id) <+~ held before :=
      List.Subperm.cons_self.trans released.symm.subperm
    have within : ∀ other ∈ (before.requestDrain lost id).pool.inFlight.ids,
        other ∈ before.pool.inFlight.ids := by
      intro other there
      rw [← inFlight]
      exact there
    have quiet : Quieter before.slots (before.requestDrain lost id).slots →
        Lockstep (before.requestDrain lost id) := fun slots =>
      lockstep.calms sound ⟨counter, slots, fewer, fun other there => .inr (within other there)⟩
    obtain ⟨slot, there⟩ := lockstep.exists_slot listed
    cases drops : lost.contains id with
    | true =>
        apply quiet
        simp only [Sockets.requestDrain, drops, Bool.not_true, Bool.and_false,
          Bool.false_eq_true, if_false]
        exact .refl _
    | false =>
        have slots : (before.requestDrain lost id).slots =
            before.slots.set id ((slot.send .drainRequest).getD slot) := by
          simp only [Sockets.requestDrain, asks, drops, Bool.not_false, Bool.and_true, if_true]
          exact modify_eq_set there _
        cases sent : slot.send .drainRequest with
        | none =>
            apply quiet
            rw [slots, sent]
            exact .set there (Nat.le_refl _) rfl
        | some next =>
            rw [sent] at slots
            apply lockstep.sends sound counter there sent slots released within
            intro _ flying
            have apart := disjoint_of_wellFormed formed
            exact apart.ready_inFlight id (taken.mem_iff.mpr List.mem_cons_self)
              (within id flying)

theorem lockstep_requestDrains (lockstep : Lockstep before) (lost ids : List Nat) :
    Lockstep (before.requestDrains lost ids) :=
  Sockets.requestDrains_preserves Lockstep (fun _ id here => lockstep_requestDrain here lost id)
    lockstep ids

/-- A reader that ends, at an acknowledgement or at the end of the stream, unlists
its slot. -/
theorem lockstep_readerEnds (lockstep : Lockstep before) {id now : Nat} {received : Received}
    {dispatch : Dispatch} {slots : List SlotProcess} (ends : received ≠ .ready)
    (sound : Sound dispatch.frontend)
    (pool : dispatch.pool = before.pool.onReceived id now received)
    (quieter : Quieter before.slots slots) :
    Lockstep { before with dispatch := dispatch, slots := slots } := by
  have formed : before.pool.WellFormed := lockstep.sound.formed
  refine lockstep.calms sound (calms_of_pool ?_ quieter ?_ (.refl _) ?_)
  · rw [Sockets.pool, pool]
    exact PoolState.counter_onReceived formed id now received
  · rw [Sockets.pool, pool]
    exact PoolState.ready_onReceived id now ends
  · rw [Sockets.pool, pool]
    exact PoolState.undrained_onReceived formed id now received

/-- A reader that reads a byte. -/
theorem lockstep_reads (lockstep : Lockstep before) {id now : Nat} {opcode : Opcode}
    {slot next : SlotProcess} {dispatch : Dispatch}
    (there : before.slots[id]? = some slot) (read : slot.read = some (opcode, next))
    (sound : Sound dispatch.frontend)
    (pool : dispatch.pool = before.pool.onReceived id now opcode.received) :
    Lockstep { before with
      dispatch := dispatch
      slots := before.slots.set id (if opcode = .drainAck then next.shutdown else next) } := by
  have formed : before.pool.WellFormed := lockstep.sound.formed
  obtain ⟨one, same⟩ := SlotProcess.tokens_read read
  have fewer : next.tokens ≤ slot.tokens := Nat.le_of_lt (one ▸ Nat.lt_succ_self _)
  cases opcode with
  | ready =>
      have became : dispatch.pool = (before.pool.onReady id now).1 := pool
      have counter : dispatch.pool.slotIdCounter = before.pool.slotIdCounter := by
        rw [pool]
        exact PoolState.counter_onReceived formed id now .ready
      rcases PoolState.onReady_cases formed id now with unchanged | ⟨listed, gained, undrained⟩
      · exact lockstep.calms sound
          (calms_of_same (became.trans unchanged) (.set there fewer same) (.refl _))
      · refine lockstep.gains sound counter there read rfl listed ?_ ?_
        · rw [held, held, Sockets.pool, became]
          exact gained.append_right _
        · rw [Sockets.pool, became]
          exact undrained
  | drainAck =>
      exact lockstep_readerEnds lockstep (by simp [Opcode.received]) sound pool
        (.set there fewer same)

theorem lockstep_watchdog (lockstep : Lockstep before) {id : Nat} {dispatch : Dispatch}
    (sound : Sound dispatch.frontend)
    (pool : dispatch.pool = (before.pool.dropDraining id).1) (slots : List SlotProcess)
    (quieter : Quieter before.slots slots) :
    Lockstep { before with dispatch := dispatch, slots := slots } := by
  obtain ⟨_, _, dropped⟩ := PoolState.dropDraining_drops before.pool id
  refine lockstep.calms sound (calms_of_pool ?_ quieter ?_ (.refl _) ?_)
  · rw [Sockets.pool, pool]
    exact dropped.counter
  · rw [Sockets.pool, pool, (@PoolState.undrained_dropDraining before.pool id).1]
  · rw [Sockets.pool, pool, PoolState.undrained_dropped]
    exact fun _ there => there

/-- A call sends its descriptor. -/
theorem lockstep_sends (lockstep : Lockstep before) {call id : Nat} {slot next : SlotProcess}
    (listed : (call, id) ∈ before.sending) (there : before.slots[id]? = some slot)
    (sent : slot.send (.fdHandoff call) = some next) :
    Lockstep { before with
      slots := before.slots.set id next
      sending := before.sending.erase (call, id)
      sent := (call, id) :: before.sent } := by
  have taken : before.sending.map Prod.snd ~ id :: (before.sending.erase (call, id)).map Prod.snd :=
    (List.perm_cons_erase listed).map Prod.snd
  refine lockstep.sends lockstep.sound rfl there sent rfl ?_ ?_ ?_
  · exact (taken.append_left _).trans List.perm_middle
  · exact fun _ flying => flying
  · intro asks
    cases asks

/-- Every step keeps the tokens. -/
theorem lockstep_step {event : SocketEvent} (lockstep : Lockstep before)
    (step : before.step event = some after) : Lockstep after := by
  have effect := Sockets.effect_of_step step
  have sound := sound_of_effect lockstep.sound effect
  have quiet := Quieter.refl before.slots
  cases effect with
  | connects => exact lockstep_connects lockstep
  | refuses waiting moved =>
      exact lockstep_refuses lockstep (by rw [Dispatch.step_workerFails moved]) waiting
  | @workerFails dispatch _ moved =>
      have same : dispatch.frontend = before.dispatch.frontend := by
        rw [Dispatch.step_workerFails moved]
      exact lockstep.calms sound (calms_of_same (congrArg Frontend.pool same) quiet (.refl _))
  | accept waiting moved =>
      exact lockstep_accept lockstep sound (Dispatch.step_accept moved).1 waiting
  | slot there moved =>
      obtain ⟨fewer, same⟩ := SlotProcess.tokens_step moved
      exact lockstep.calms sound (calms_of_same rfl (.set there fewer same) (.refl _))
  | reads there read moved =>
      exact lockstep_reads lockstep there read sound (Dispatch.step_reads moved).1
  | stops moved =>
      exact lockstep_readerEnds lockstep (by simp) sound (Dispatch.step_reads moved).1
        (.modify _ _ (fun _ => Nat.le_refl _) fun _ => rfl)
  | pops _ popped => exact lockstep.calms sound (calms_pops lockstep.sound.formed popped)
  | waits _ same =>
      exact lockstep.calms sound (calms_of_same (congrArg Frontend.pool same) quiet (.refl _))
  | cancel =>
      exact lockstep.calms sound
        (calms_of_same rfl quiet (List.filter_sublist.map _).subperm)
  | sends listed there sent => exact lockstep_sends lockstep listed there sent
  | fails =>
      exact lockstep.calms sound
        (calms_of_same rfl quiet (List.erase_sublist.map _).subperm)
  | reapOnce => exact lockstep_requestDrains lockstep _ _
  | sighupReconcile => exact lockstep_requestDrains lockstep _ _
  | watchdog moved =>
      apply lockstep_watchdog lockstep sound (Dispatch.step_watchdog moved).1
      split
      · exact .modify _ _ (fun _ => Nat.le_refl _) fun _ => rfl
      · exact quiet
  | @gone _ dispatch _ moved =>
      have same : dispatch.frontend = before.dispatch.frontend := by
        rw [Dispatch.step_exits moved]
      exact lockstep.calms sound (calms_of_same (congrArg Frontend.pool same) quiet (.refl _))

theorem lockstep_invariant : Invariant sockets Lockstep where
  initial := by
    rintro _ rfl
    constructor
    · exact sound_invariant.initial _ rfl
    · exact Nat.le_refl 0
    · intro id slot there
      cases there
    · exact List.nodup_nil
    · intro id listed
      cases listed
    · intro id listed
      cases listed
    · intro id slot there
      cases there
  step _ _ _ lockstep step := lockstep_step lockstep step

/-- Lockstep, in which no slot acknowledges a drain that it was not asked for. -/
structure Prompted (sockets : Sockets) : Prop where
  lockstep : Lockstep sockets
  asked : ∀ slot ∈ sockets.slots, slot.Asked

theorem prompted_step {event : SocketEvent} (prompted : Prompted before)
    (step : before.step event = some after) : Prompted after where
  lockstep := lockstep_step prompted.lockstep step
  asked := Sockets.forall_of_effect SlotProcess.lasting_asked SlotProcess.asked_connected
    (Sockets.effect_of_step step) prompted.asked

theorem prompted_invariant : Invariant sockets Prompted where
  initial := by
    rintro _ rfl
    refine ⟨lockstep_invariant.initial _ rfl, ?_⟩
    intro slot member
    cases member
  step _ _ _ prompted step := prompted_step prompted step

/-- A slot that acknowledges a drain is neither ready nor in flight. -/
theorem Prompted.not_mem_undrained (prompted : Prompted before) {id : Nat} {slot next : SlotProcess}
    (there : before.slots[id]? = some slot) (read : slot.read = some (.drainAck, next)) :
    id ∉ before.pool.undrained := by
  have asked := prompted.asked slot (List.mem_of_getElem? there)
  have sent := SlotProcess.drainSent_of_read asked read
  obtain ⟨_, absent, apart⟩ := prompted.lockstep.drained id slot there sent
  intro listed
  rcases PoolState.mem_undrained.mp listed with ready | inFlight
  · exact absent (List.mem_append_left _ ready)
  · exact apart inFlight

/-! ## No descriptor is sent twice -/

/-- A step that moves no call to another place. -/
theorem Dealt.fewer (dealt : Dealt before)
    (tasks : after.dispatch.hasReady.tasks <+~ before.dispatch.hasReady.tasks)
    (sending : after.sending.map Prod.fst <+~ before.sending.map Prod.fst)
    (sent : after.sent = before.sent)
    (handoffs : after.dispatch.handoffs = before.dispatch.handoffs) : Dealt after := by
  have within : calls after <+~ calls before := by
    rw [calls, calls, sent]
    exact tasks.append (sending.append (.refl _))
  constructor
  · exact nodup_of_subperm within dealt.nodup
  · intro call listed
    rw [handoffs]
    exact dealt.below call (within.subset listed)

/-- A step that moves calls from one place to another. -/
theorem Dealt.moves (dealt : Dealt before) (moved : calls after ~ calls before)
    (handoffs : after.dispatch.handoffs = before.dispatch.handoffs) : Dealt after where
  nodup := moved.nodup_iff.mpr dealt.nodup
  below call listed := by
    rw [handoffs]
    exact dealt.below call (moved.mem_iff.mp listed)

/-- A new call. -/
theorem Dealt.calls (dealt : Dealt before)
    (called : calls after ~ before.dispatch.handoffs :: calls before)
    (handoffs : after.dispatch.handoffs = before.dispatch.handoffs + 1) : Dealt after where
  nodup := by
    refine called.nodup_iff.mpr (List.nodup_cons.mpr ⟨?_, dealt.nodup⟩)
    exact fun listed => Nat.lt_irrefl _ (dealt.below _ listed)
  below call listed := by
    rw [handoffs]
    rcases List.mem_cons.mp (called.mem_iff.mp listed) with rfl | listed
    · exact Nat.lt_succ_self _
    · exact Nat.lt_succ_of_lt (dealt.below call listed)

theorem dealt_handoff (dealt : Dealt before) (max : Nat) (spawns : Bool) :
    Dealt (before.dispatched before.dispatch.handoffs (before.dispatch.handoff max spawns)) := by
  obtain ⟨handoffs, taken⟩ := Dispatch.handoff_cases before.dispatch max spawns
  refine dealt.calls ?_ handoffs
  rcases taken with ⟨none, _, tasks⟩ | ⟨id, some, _, same⟩
  · rw [calls, calls, Sockets.dispatched, none]
    exact tasks.append_right _
  · rw [calls, calls, Sockets.dispatched, some, same]
    exact List.perm_middle

theorem dealt_wake (dealt : Dealt before) {call : Nat}
    (notified : call ∈ before.dispatch.hasReady.notified) :
    Dealt (before.dispatched call (before.dispatch.wake call)) := by
  obtain ⟨handoffs, taken⟩ := Dispatch.wake_cases notified
  refine dealt.moves ?_ handoffs
  rcases taken with ⟨none, _, tasks⟩ | ⟨id, some, _, tasks⟩
  · rw [calls, calls, Sockets.dispatched, none]
    exact tasks.append_right _
  · rw [calls, calls, Sockets.dispatched, some]
    exact List.perm_middle.trans (tasks.symm.append_right _)

theorem dealt_requestDrains (dealt : Dealt before) (lost ids : List Nat) :
    Dealt (before.requestDrains lost ids) :=
  Sockets.requestDrains_preserves Dealt (fun _ _ here => here.moves (.refl _) rfl) dealt ids

/-- A call that waits no more, because it is dropped or its deadline has passed. -/
theorem Dealt.forgets (dealt : Dealt before) (call : Nat)
    (tasks : after.dispatch.hasReady = before.dispatch.hasReady.forget call)
    (sending : after.sending.map Prod.fst <+~ before.sending.map Prod.fst)
    (sent : after.sent = before.sent)
    (handoffs : after.dispatch.handoffs = before.dispatch.handoffs) : Dealt after := by
  obtain ⟨gone, split⟩ := Notify.tasks_forget before.dispatch.hasReady call
  apply dealt.fewer _ sending sent handoffs
  rw [tasks]
  exact (List.sublist_append_right gone _).subperm.trans split.symm.subperm

/-- A call that runs. -/
theorem dealt_of_caller {event : SocketEvent} (dealt : Dealt before) {call : Nat}
    (calling : event.caller before = some call) (step : before.step event = some after) :
    Dealt after := by
  cases event with
  | handoff max spawns =>
      cases step
      exact dealt_handoff dealt max spawns
  | poll other expired =>
      obtain ⟨⟨dispatch, dispatched⟩, moved, made⟩ := Option.map_eq_some_iff.mp step
      cases made
      rcases Dispatch.step_poll moved with ⟨notified, woken⟩ | ⟨rfl, rfl | rfl⟩
      · rw [woken]
        exact dealt_wake dealt notified
      · exact dealt.moves (.refl _) rfl
      · exact dealt.forgets other rfl (.refl _) rfl rfl
  | _ => cases calling

/-- Every step leaves each call in one place at most. -/
theorem dealt_step {event : SocketEvent} (dealt : Dealt before)
    (step : before.step event = some after) : Dealt after := by
  cases Sockets.effect_of_step step with
  | connects => exact dealt.moves (.refl _) rfl
  | refuses _ moved | workerFails moved =>
      cases Dispatch.step_workerFails moved
      exact dealt.moves (.refl _) rfl
  | accept _ moved =>
      obtain ⟨_, tasks, handoffs, _⟩ := Dispatch.step_accept moved
      refine dealt.fewer ?_ (.refl _) rfl handoffs
      rw [tasks]
  | slot => exact dealt.moves (.refl _) rfl
  | reads _ _ moved =>
      obtain ⟨_, tasks, handoffs, _⟩ := Dispatch.step_reads moved
      refine dealt.fewer ?_ (.refl _) rfl handoffs
      rw [tasks]
      split
      · exact (Notify.tasks_notifyOne _).subperm
      · exact .refl _
  | stops moved =>
      obtain ⟨_, tasks, handoffs, _⟩ := Dispatch.step_reads moved
      refine dealt.fewer ?_ (.refl _) rfl handoffs
      rw [tasks]
      exact .refl _
  | pops calling => exact dealt_of_caller dealt calling step
  | waits calling => exact dealt_of_caller dealt calling step
  | @cancel call => exact dealt.forgets call rfl (List.filter_sublist.map _).subperm rfl rfl
  | @sends call id _ _ listed =>
      have taken : before.sending.map Prod.fst ~
          call :: (before.sending.erase (call, id)).map Prod.fst :=
        (List.perm_cons_erase listed).map Prod.fst
      refine dealt.moves ?_ rfl
      exact (List.perm_middle.trans (taken.symm.append_right _)).append_left _
  | fails => exact dealt.fewer (.refl _) (List.erase_sublist.map _).subperm rfl rfl
  | reapOnce => exact dealt_requestDrains dealt _ _
  | sighupReconcile => exact dealt_requestDrains dealt _ _
  | watchdog moved =>
      obtain ⟨_, tasks, handoffs, _⟩ := Dispatch.step_watchdog moved
      refine dealt.fewer ?_ (.refl _) rfl handoffs
      rw [tasks]
  | gone moved =>
      cases Dispatch.step_exits moved
      exact dealt.moves (.refl _) rfl

theorem dealt_invariant : Invariant sockets Dealt where
  initial := by
    rintro _ rfl
    constructor
    · exact List.nodup_nil
    · intro call listed
      cases listed
  step _ _ _ dealt step := dealt_step dealt step

end Steps

/-- In every reachable state: of each slot one `ready` and one message of the
frontend at most are unread; a ready slot waits for a message with none queued, or
is gone; a descriptor that is sent goes to a slot that waits, with no message
queued, and that was sent no drain request; and no descriptor was sent twice. -/
theorem handoff_protocol_safe (state : Sockets) (reached : Reachable sockets state) :
    (∀ (id : Nat) (slot : SlotProcess), state.slots[id]? = some slot →
      slot.toFrontend.count .ready ≤ 1 ∧ slot.toSlot.length ≤ 1) ∧
    (∀ id ∈ state.pool.ready.ids, ∃ slot, state.slots[id]? = some slot ∧
      (slot.phase = .waiting ∧ slot.toSlot = [] ∨ slot.phase = .exited)) ∧
    (∀ call id next, state.step (.sends call id true) = some next →
      ∃ slot, state.slots[id]? = some slot ∧
        slot.phase = .waiting ∧ slot.toSlot = [] ∧ slot.drainSent = false) ∧
    (state.sent.map Prod.fst).Nodup := by
  have lockstep := lockstep_invariant.reachable reached
  have dealt := dealt_invariant.reachable reached
  refine ⟨fun id slot there => slot.single_of_tokens (lockstep.single id slot there), ?_, ?_, ?_⟩
  · intro id ready
    have listed : id ∈ held state := List.mem_append_left _ ready
    obtain ⟨slot, there⟩ := lockstep.exists_slot listed
    obtain ⟨_, empty, idle⟩ := slot.idle_of_tokens (lockstep.idle id listed slot there)
    exact ⟨slot, there, idle.imp_left fun waiting => ⟨waiting, empty⟩⟩
  · intro call id next step
    simp only [Sockets.step, if_true] at step
    split at step
    · next committed =>
      obtain ⟨_, found, _⟩ := Option.map_eq_some_iff.mp step
      obtain ⟨slot, there, sent⟩ := Option.bind_eq_some_iff.mp found
      have listed : id ∈ held state :=
        List.mem_append_right _ (List.mem_map.mpr ⟨(call, id), committed, rfl⟩)
      obtain ⟨_, empty, idle⟩ := slot.idle_of_tokens (lockstep.idle id listed slot there)
      have runs := (SlotProcess.tokens_send sent).2.2
      refine ⟨slot, there, idle.resolve_right runs, empty, ?_⟩
      apply Bool.eq_false_iff.mpr
      exact fun drained => (lockstep.drained id slot there drained).2.1 listed
    · cases step
  · exact (List.nodup_append.mp (List.nodup_append.mp dealt.nodup).2.1).2.1

/-- The first slot has become ready for the first call, which is about to send. -/
def firstHandoff : Sockets where
  dispatch := ⟨⟨⟨[], [(0, ⟨1⟩)], [], 1, false⟩, [0], []⟩, .idle, 1, 0, []⟩
  slots := [⟨.waiting, [], [], false, false, false⟩]
  sending := [(0, 0)]
  sent := []

theorem first_slot_waits :
    ∃ slot, firstHandoff.slots[0]? = some slot ∧
      slot.phase = .waiting ∧ slot.toSlot = [] ∧ slot.drainSent = false :=
  have reached : Reachable sockets firstHandoff :=
    ⟨.start, [.handoff 1 true, .connects, .accept 0, .slot 0 .announces, .reads 0 1,
      .poll 0 false], rfl,
      .cons rfl trivial (.cons rfl trivial (.cons rfl trivial (.cons rfl trivial
        (.cons rfl trivial (.cons rfl trivial (.nil _))))))⟩
  (handoff_protocol_safe firstHandoff reached).2.2.1 0 0 _ rfl

end PgTransport.Properties
