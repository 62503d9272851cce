import PgTransport.Properties.HandoffProtocol
import PgTransport.Properties.SlotJournal
import PgTransport.Properties.SlotRefinement

/-!
# What is sent to a slot

The packets that reach a slot are the descriptors that the frontend has sent there, in
that order, and behind them at most one drain request.  A slot that was asked to drain
is retired: it is not ready or in flight, no call is about to send to it, and in no run
from there is any of that so again.
-/

open scoped List

namespace PgTransport.Properties

open PgTransport.Backend
open PgTransport.Pool
open PgTransport.Transition

/-! ## Retired slots -/

/-- A slot that was accepted and is given no descriptor any more. -/
def Retired (pool : PoolState) (sending : List (Nat × Nat)) (id : Nat) : Prop :=
  id < pool.slotIdCounter ∧ id ∉ pool.undrained ∧ id ∉ sending.map Prod.snd

section Retired

variable {frontend : Frontend} {id : Nat}

/-- A drain request lists no slot. -/
theorem undrained_requestDrain (pool : PoolState) (other : Nat)
    (listed : id ∈ (pool.requestDrain other).1.undrained) : id ∈ pool.undrained := by
  rcases @PoolState.requestDrain_cases pool other with unchanged | ⟨_, ready, inFlight⟩
  · rw [unchanged] at listed
    exact listed
  · rw [PoolState.mem_undrained] at listed ⊢
    rw [inFlight] at listed
    exact listed.imp_left fun there => ready.mem_iff.mpr (List.mem_cons_of_mem other there)

theorem undrained_requestDrains (ids : List Nat)
    (listed : id ∈ (frontend.requestDrains ids).pool.undrained) :
    id ∈ frontend.pool.undrained := by
  induction ids generalizing frontend with
  | nil => exact listed
  | cons other ids inductionHypothesis =>
      exact undrained_requestDrain frontend.pool other (inductionHypothesis listed)

/-- Only an accept lists a slot, the next one. -/
theorem undrained_step {next : Frontend} {event : FrontendEvent}
    (formed : frontend.pool.WellFormed) (step : frontend.step event = some next)
    (drawn : id < frontend.pool.slotIdCounter) (listed : id ∈ next.pool.undrained) :
    id ∈ frontend.pool.undrained := by
  cases event with
  | accept now =>
      cases step
      rcases List.mem_cons.mp ((PoolState.undrained_accept formed now).mem_iff.mp listed) with
        rfl | there
      · exact absurd drawn (Nat.lt_irrefl _)
      · exact there
  | reads other received now =>
      rw [Frontend.pool_of_reads step] at listed
      exact PoolState.undrained_onReceived formed other now received id listed
  | dispatch =>
      simp only [Frontend.step] at step
      split at step
      · cases step
        exact listed
      · next popped =>
        cases step
        exact (PoolState.undrained_tryPopReady popped).2 id listed
  | requestDrain other =>
      cases step
      exact undrained_requestDrain frontend.pool other listed
  | reapOnce | sighupReconcile =>
      cases step
      exact undrained_requestDrains _ listed
  | watchdog other =>
      rw [Frontend.pool_of_watchdog step, PoolState.undrained_dropped] at listed
      exact listed

/-- A retired slot stays retired. -/
theorem Retired.step {before after : Sockets} {event : SocketEvent} (lockstep : Lockstep before)
    (step : before.step event = some after) (retired : Retired before.pool before.sending id) :
    Retired after.pool after.sending id := by
  obtain ⟨drawn, absent, unsent⟩ := retired
  have effect := Sockets.effect_of_step step
  have kept : id < after.pool.slotIdCounter ∧ id ∉ after.pool.undrained := by
    rcases Sockets.frontend_of_effect effect with same | ⟨_, moved⟩
    · rw [Sockets.pool, Dispatch.pool, same]
      exact ⟨drawn, absent⟩
    · exact ⟨Nat.lt_of_lt_of_le drawn (unlisted_step lockstep.sound moved).1,
        fun listed => absent (undrained_step lockstep.sound.formed moved drawn listed)⟩
  refine ⟨kept.1, kept.2, ?_⟩
  cases effect with
  | pops _ popped =>
      intro listed
      rcases List.mem_cons.mp listed with rfl | there
      · apply absent
        rw [PoolState.mem_undrained, (PoolState.undrained_tryPopReady popped).1]
        exact .inl List.mem_cons_self
      · exact unsent there
  | cancel => exact fun listed => unsent ((List.filter_sublist.map _).subset listed)
  | sends | fails => exact fun listed => unsent ((List.erase_sublist.map _).subset listed)
  | reapOnce | sighupReconcile =>
      rw [(Sockets.sending_requestDrains _ _ _).1]
      exact unsent
  | _ => exact unsent

/-- A slot that is ready is retired by a drain request. -/
theorem retired_requestDrain {image : Sockets} (lockstep : Lockstep image)
    (ready : id ∈ image.pool.ready.ids) :
    Retired (image.pool.requestDrain id).1 image.sending id := by
  have formed : image.pool.WellFormed := lockstep.sound.formed
  have listed : id ∈ held image := List.mem_append_left _ ready
  have apart := disjoint_of_wellFormed formed
  have nodup := List.nodup_append.mp lockstep.nodup
  rcases @PoolState.requestDrain_cases image.pool id with unchanged | ⟨_, taken, inFlight⟩
  · have kept := congrArg Prod.snd unchanged
    unfold PoolState.requestDrain at kept
    split at kept
    · next absent => exact absurd ready (Slots.remove_eq_none_iff.mp absent)
    · cases kept
  · refine ⟨?_, ?_, fun sending => nodup.2.2 id ready id sending rfl⟩
    · rw [(PoolState.requestDrain_sameSlots formed id).counter]
      exact lockstep.below id listed
    · rw [PoolState.mem_undrained, inFlight, not_or]
      exact ⟨(List.nodup_cons.mp (taken.nodup_iff.mp nodup.1)).1, apart.ready_inFlight id ready⟩

end Retired

/-! ## The packets of one slot -/

/-- The descriptors that were sent to a slot, in order. -/
def sentTo (sent : List (Nat × Nat)) (id : Nat) : List Nat :=
  ((sent.filter fun pair => pair.2 == id).map Prod.fst).reverse

/-- A loop that has come this far, when these packets were sent to it. -/
def Took (slot : SlotLoop) (packets : List Packet) : Prop :=
  ∃ events, Run (runSlot fun _ => True) .connected events slot ∧
    events.filterMap deliveredPacket = packets

section Took

variable {slot next : SlotLoop} {packets : List Packet}

/-- A step of a loop, or of the frontend at its socket. -/
theorem Took.step (took : Took slot packets) {event : LoopEvent}
    (step : slot.step event = some next) :
    Took next (packets ++ (deliveredPacket event).toList) := by
  obtain ⟨events, run, rfl⟩ := took
  refine ⟨events ++ [event], run.append (.single ⟨fun _ _ => trivial, step⟩), ?_⟩
  rw [List.filterMap_append]
  cases event <;> rfl

/-- A step that sends nothing. -/
theorem Took.still (took : Took slot packets) {event : LoopEvent}
    (step : slot.step event = some next) (none : deliveredPacket event = none) :
    Took next packets := by
  have moved := took.step step
  rw [none] at moved
  exact (List.append_nil packets) ▸ moved

theorem Took.own (took : Took slot packets) {event : LoopEvent} (own : event.own = true)
    (step : slot.step event = some next) : Took next packets := by
  apply took.still step
  cases event <;> first | rfl | cases own

theorem Took.read (took : Took slot packets) {byte : UInt8}
    (read : slot.read = some (byte, next)) : Took next packets := by
  have step : slot.step (.reads byte) = some next := by
    simp [SlotLoop.step, read]
  exact took.still step rfl

theorem Took.shutdownWrite (took : Took slot packets) : Took slot.shutdownWrite packets := by
  have step : slot.step .shutsWrite = some slot.shutdownWrite := by simp [SlotLoop.step]
  exact took.still step rfl

theorem Took.shutdown (took : Took slot packets) : Took slot.shutdown packets := by
  have step : slot.step .shutsDown = some slot.shutdown := by simp [SlotLoop.step]
  exact took.still step rfl

theorem Took.deliver (took : Took slot packets) {packet : Packet}
    (handed : slot.deliver packet = some next) : Took next (packets ++ [packet]) := by
  have step : slot.step (.delivers packet) = some next := by
    simpa [SlotLoop.step] using handed
  exact took.step step

end Took

/-! ## The packets of all slots -/

/-- The packets of a slot are what the frontend has sent to it, with a drain request
behind that only if the slot is retired. -/
def PostedTo (loops : SocketLoops) (id : Nat) (packets : List Packet) : Prop :=
  packets = (sentTo loops.sent id).map sendFd ∨
    Retired loops.pool loops.sending id ∧
      packets = (sentTo loops.sent id).map sendFd ++ [sendDrainRequest]

/-- Each loop was sent what the frontend has sent to it. -/
def Posted (loops : SocketLoops) : Prop :=
  ∀ (id : Nat) (slot : SlotLoop), loops.slots[id]? = some slot →
    ∃ packets, Took slot packets ∧ PostedTo loops id packets

section Frontend

variable {loops next : SocketLoops}

/-- The retired slots of one state are retired in the next. -/
def StayRetired (loops next : SocketLoops) : Prop :=
  ∀ id, Retired loops.pool loops.sending id → Retired next.pool next.sending id

theorem PostedTo.still {id : Nat} {packets : List Packet} (posted : PostedTo loops id packets)
    (retire : StayRetired loops next) (sent : sentTo next.sent id = sentTo loops.sent id) :
    PostedTo next id packets := by
  rw [PostedTo, sent]
  exact posted.imp_right fun ⟨retired, there⟩ => ⟨retire id retired, there⟩

/-- Every loop is the same, or has taken steps that send nothing. -/
theorem Posted.still (posted : Posted loops) (retire : StayRetired loops next)
    (sent : next.sent = loops.sent)
    (slots : ∀ (id : Nat) (found : SlotLoop), next.slots[id]? = some found →
      ∃ slot, loops.slots[id]? = some slot ∧
        ∀ packets, Took slot packets → Took found packets) : Posted next := by
  intro id found there
  obtain ⟨slot, was, moved⟩ := slots id found there
  obtain ⟨packets, took, here⟩ := posted id slot was
  exact ⟨packets, moved packets took, here.still retire (congrArg (sentTo · id) sent)⟩

theorem Posted.modify (posted : Posted loops) (retire : StayRetired loops next)
    (sent : next.sent = loops.sent) (id : Nat) {change : SlotLoop → SlotLoop}
    (moves : ∀ slot packets, Took slot packets → Took (change slot) packets)
    (slots : next.slots = loops.slots.modify id change) : Posted next := by
  apply posted.still retire sent
  intro other found there
  rw [slots] at there
  obtain ⟨earlier, was, rfl | rfl⟩ := modify_place there
  · exact ⟨earlier, was, moves earlier⟩
  · exact ⟨found, was, fun _ here => here⟩

theorem Posted.set (posted : Posted loops) (retire : StayRetired loops next)
    (sent : next.sent = loops.sent) {id : Nat} {slot after : SlotLoop}
    (was : loops.slots[id]? = some slot)
    (moves : ∀ packets, Took slot packets → Took after packets)
    (slots : next.slots = loops.slots.set id after) : Posted next := by
  apply posted.still retire sent
  intro other found there
  rw [slots] at there
  rcases set_place there with ⟨rfl, rfl⟩ | ⟨_, same⟩
  · exact ⟨slot, was, moves⟩
  · exact ⟨found, same, fun _ here => here⟩

/-- What a slot was sent hands over the descriptors ahead of anything else. -/
theorem PostedTo.handedOver {id : Nat} {packets : List Packet}
    (posted : PostedTo loops id packets) :
    (Properties.handedOver packets).1 = sentTo loops.sent id := by
  have read (fds : List Nat) : (fds.map sendFd).map readPacket =
      fds.map fun fd => .ok (.fdHandoff fd) := by
    rw [List.map_map]
    exact List.map_congr_left fun fd _ => readPacket_packet (.fdHandoff fd)
  rcases posted with rfl | ⟨_, rfl⟩
  · have whole := handedOver_append (read (sentTo loops.sent id)) []
    rw [List.append_nil] at whole
    rw [whole]
    exact List.append_nil _
  · rw [handedOver_append (read _)]
    exact List.append_nil _

/-- A slot that may be given a descriptor was sent no drain request. -/
theorem PostedTo.active {id : Nat} {packets : List Packet} (posted : PostedTo loops id packets)
    (active : id ∈ loops.pool.ready.ids ∨ id ∈ loops.sending.map Prod.snd) :
    packets = (sentTo loops.sent id).map sendFd := by
  rcases posted with same | ⟨⟨_, absent, unsent⟩, _⟩
  · exact same
  · rcases active with ready | sending
    · exact absurd (PoolState.mem_undrained.mpr (.inl ready)) absent
    · exact absurd sending unsent

theorem stayRetired_requestDrain {image : Sockets} (lockstep : Lockstep image)
    (mirrors : Mirrors loops image) (lost : List Nat) (id : Nat) :
    StayRetired loops (loops.requestDrain lost id) := by
  obtain ⟨_, _, rfl⟩ := mirrors
  rintro other ⟨drawn, absent, unsent⟩
  refine ⟨?_, fun listed => absent (undrained_requestDrain _ id listed), unsent⟩
  exact (PoolState.requestDrain_sameSlots lockstep.sound.formed id).counter ▸ drawn

/-- A drain request is the last packet of a slot. -/
theorem Posted.requestDrain {image : Sockets} (posted : Posted loops) (lockstep : Lockstep image)
    (mirrors : Mirrors loops image) (lost : List Nat) (id : Nat) :
    Posted (loops.requestDrain lost id) := by
  have retire := stayRetired_requestDrain lockstep mirrors lost id
  by_cases asks : ((loops.pool.requestDrain id).2 && !lost.contains id) = true
  · have ready : id ∈ loops.pool.ready.ids := by
      rcases @PoolState.requestDrain_cases loops.pool id with unchanged | ⟨_, taken, _⟩
      · rw [unchanged] at asks
        cases asks
      · exact taken.mem_iff.mpr List.mem_cons_self
    have retired : Retired (loops.requestDrain lost id).pool loops.sending id := by
      obtain ⟨_, _, rfl⟩ := mirrors
      exact retired_requestDrain lockstep ready
    intro other found there
    rw [show (loops.requestDrain lost id).slots = _ from if_pos asks,
      List.getElem?_modify] at there
    obtain ⟨slot, was, made⟩ := Option.map_eq_some_iff.mp there
    obtain ⟨packets, took, here⟩ := posted other slot was
    split at made
    · next same =>
      subst same
      cases asked : slot.deliver sendDrainRequest with
      | none =>
          rw [asked] at made
          exact ⟨packets, made ▸ took, here.still retire rfl⟩
      | some after =>
          rw [asked] at made
          refine ⟨packets ++ [sendDrainRequest], made ▸ took.deliver asked, .inr ⟨retired, ?_⟩⟩
          rw [here.active (.inl ready)]
          rfl
    · exact ⟨packets, made ▸ took, here.still retire rfl⟩
  · apply posted.still retire rfl
    intro other found there
    rw [show (loops.requestDrain lost id).slots = _ from if_neg asks] at there
    exact ⟨found, there, fun _ here => here⟩

theorem Posted.requestDrains {image : Sockets} (posted : Posted loops) (lockstep : Lockstep image)
    (mirrors : Mirrors loops image) (lost ids : List Nat) :
    Posted (loops.requestDrains lost ids) := by
  induction ids generalizing loops image with
  | nil => exact posted
  | cons id ids inductionHypothesis =>
      apply inductionHypothesis (posted.requestDrain lockstep mirrors lost id)
      · exact lockstep_requestDrain lockstep lost id
      · exact mirrors.requestDrains lost [id]

/-! ## Steps of the frontend -/

/-- Nothing was sent to a slot that has not been accepted. -/
theorem sentTo_eq_nil {sent : List (Nat × Nat)} {id counter : Nat}
    (below : ∀ pair ∈ sent, pair.2 < counter) (late : counter ≤ id) : sentTo sent id = [] := by
  rw [sentTo, List.reverse_eq_nil_iff, List.map_eq_nil_iff, List.filter_eq_nil_iff]
  intro pair member
  rw [beq_iff_eq]
  exact Nat.ne_of_lt (Nat.lt_of_lt_of_le (below pair member) late)

theorem sentTo_cons_self (call id : Nat) (sent : List (Nat × Nat)) :
    sentTo ((call, id) :: sent) id = sentTo sent id ++ [call] := by
  simp [sentTo]

theorem sentTo_cons_of_ne (call : Nat) (sent : List (Nat × Nat)) {id other : Nat}
    (different : other ≠ id) : sentTo ((call, id) :: sent) other = sentTo sent other := by
  simp [sentTo, Ne.symm different]

/-- A slot that has not been accepted was sent nothing at all. -/
theorem PostedTo.unaccepted {id : Nat} {packets : List Packet}
    (posted : PostedTo loops id packets)
    (below : ∀ pair ∈ loops.sent, pair.2 < loops.pool.slotIdCounter)
    (late : loops.pool.slotIdCounter ≤ id) : packets = [] := by
  rcases posted with same | ⟨⟨drawn, _⟩, _⟩
  · rw [same, sentTo_eq_nil below late]
    rfl
  · exact absurd drawn (Nat.not_lt.mpr late)

/-- A descriptor goes to a slot that was sent no drain request. -/
theorem Posted.sends (posted : Posted loops) {call id : Nat} {slot after : SlotLoop}
    (retire : StayRetired loops next) (listed : (call, id) ∈ loops.sending)
    (was : loops.slots[id]? = some slot) (handed : slot.deliver (sendFd call) = some after)
    (slots : next.slots = loops.slots.set id after) (sent : next.sent = (call, id) :: loops.sent) :
    Posted next := by
  intro other found there
  rw [slots] at there
  rcases set_place there with ⟨rfl, rfl⟩ | ⟨different, same⟩
  · obtain ⟨packets, took, here⟩ := posted other slot was
    refine ⟨packets ++ [sendFd call], took.deliver handed, .inl ?_⟩
    rw [here.active (.inr (List.mem_map_of_mem (f := Prod.snd) listed)), sent, sentTo_cons_self,
      List.map_append]
    rfl
  · obtain ⟨packets, took, here⟩ := posted other found same
    exact ⟨packets, took, here.still retire (by rw [sent, sentTo_cons_of_ne _ _ different])⟩

/-- A step of the frontend. -/
theorem Posted.frontend {image : Sockets} (posted : Posted loops) (lockstep : Lockstep image)
    (mirrors : Mirrors loops image) (retire : StayRetired loops next)
    (below : ∀ pair ∈ loops.sent, pair.2 < loops.pool.slotIdCounter) {event : SocketEvent}
    (step : loops.stepFrontend event = some next) : Posted next := by
  have stays (sent : next.sent = loops.sent) (slots : next.slots = loops.slots) : Posted next :=
    posted.still retire sent fun _ found there => ⟨found, slots ▸ there, fun _ here => here⟩
  have accepted : loops.pool.slotIdCounter ≤ loops.slots.length := by
    obtain ⟨_, related, rfl⟩ := mirrors
    exact related.length_eq ▸ lockstep.accepted
  cases event with
  | connects =>
      simp only [SocketLoops.stepFrontend] at step
      split at step
      · cases step
        intro id found there
        rcases concat_place there with was | ⟨rfl, late⟩
        · exact posted id found was
        · refine ⟨[], ⟨[], .nil _, rfl⟩, .inl ?_⟩
          rw [sentTo_eq_nil below (Nat.le_trans accepted late)]
          rfl
      · cases step
  | refuses =>
      simp only [SocketLoops.stepFrontend] at step
      split at step
      · obtain ⟨result, taken, rfl⟩ := Option.map_eq_some_iff.mp step
        intro id found there
        rcases eraseIdx_place there with was | ⟨was, late⟩
        · obtain ⟨packets, took, here⟩ := posted id found was
          exact ⟨packets, took, here.still retire rfl⟩
        · obtain ⟨packets, took, here⟩ := posted (id + 1) found was
          refine ⟨packets, took, .inl ?_⟩
          rw [here.unaccepted below (Nat.le_succ_of_le late), sentTo_eq_nil below late]
          rfl
      · cases step
  | workerFails | accept =>
      simp only [SocketLoops.stepFrontend] at step
      split at step
      · obtain ⟨result, _, rfl⟩ := Option.map_eq_some_iff.mp step
        exact stays rfl rfl
      · cases step
  | slot => cases step
  | reads id now =>
      simp only [SocketLoops.stepFrontend] at step
      obtain ⟨⟨byte, after⟩, found, rest⟩ := Option.bind_eq_some_iff.mp step
      obtain ⟨result, _, rfl⟩ := Option.map_eq_some_iff.mp rest
      obtain ⟨slot, was, read⟩ := Option.bind_eq_some_iff.mp found
      refine posted.set retire rfl was (fun packets took => ?_) rfl
      split
      · exact took.read read
      · exact (took.read read).shutdown
  | stops id now =>
      obtain ⟨result, _, rfl⟩ := Option.map_eq_some_iff.mp step
      exact posted.modify retire rfl id (fun _ _ => Took.shutdown) rfl
  | handoff | cancel =>
      cases step
      exact stays rfl rfl
  | poll =>
      obtain ⟨result, _, rfl⟩ := Option.map_eq_some_iff.mp step
      exact stays rfl rfl
  | sends call id works =>
      simp only [SocketLoops.stepFrontend] at step
      split at step
      · next listed =>
        cases works with
        | true =>
            obtain ⟨after, found, rfl⟩ := Option.map_eq_some_iff.mp step
            obtain ⟨slot, was, handed⟩ := Option.bind_eq_some_iff.mp found
            exact posted.sends retire (by simpa using listed) was handed rfl rfl
        | false =>
            cases step
            exact stays rfl rfl
      · cases step
  | reapOnce | sighupReconcile =>
      cases step
      exact posted.requestDrains lockstep mirrors _ _
  | watchdog id =>
      obtain ⟨result, _, rfl⟩ := Option.map_eq_some_iff.mp step
      by_cases drops : (loops.pool.dropDraining id).2 = true
      · exact posted.modify retire rfl id (fun _ _ => Took.shutdownWrite) (if_pos drops)
      · exact stays rfl (if_neg drops)
  | gone =>
      simp only [SocketLoops.stepFrontend] at step
      split at step
      · obtain ⟨result, _, rfl⟩ := Option.map_eq_some_iff.mp step
        exact stays rfl rfl
      · cases step

theorem Posted.slot (posted : Posted loops) {id : Nat} {event : LoopEvent}
    (step : loops.step (.slot id event) = some next) : Posted next := by
  simp only [SocketLoops.step] at step
  split at step
  · next own =>
    obtain ⟨after, found, rfl⟩ := Option.map_eq_some_iff.mp step
    obtain ⟨slot, was, moved⟩ := Option.bind_eq_some_iff.mp found
    exact posted.set (fun _ retired => retired) rfl was (fun _ took => took.own own moved) rfl
  · cases step

end Frontend

/-! ## Runs -/

/-- A descriptor that was sent was about to be sent before. -/
theorem sending_of_sent {before after : Sockets} {event : SocketEvent}
    (step : before.step event = some after) {pair : Nat × Nat} (sent : pair ∈ after.sent) :
    pair ∈ before.sent ∨ pair ∈ before.sending := by
  cases Sockets.effect_of_step step with
  | sends listed =>
      rcases List.mem_cons.mp sent with rfl | earlier
      · exact .inr listed
      · exact .inl earlier
  | reapOnce | sighupReconcile =>
      rw [(Sockets.sending_requestDrains _ _ _).2] at sent
      exact .inl sent
  | _ => exact .inl sent

/-- Only slots that were accepted were sent a descriptor. -/
structure Addressed (sockets : Sockets) : Prop where
  lockstep : Lockstep sockets
  dealt : Dealt sockets
  below : ∀ pair ∈ sockets.sent, pair.2 < sockets.pool.slotIdCounter

theorem addressed_invariant : Invariant sockets Addressed where
  initial := by
    rintro _ rfl
    refine ⟨lockstep_invariant.initial _ rfl, dealt_invariant.initial _ rfl, ?_⟩
    intro pair member
    cases member
  step := by
    intro source event target addressed step
    obtain ⟨lockstep, dealt, below⟩ := addressed
    refine ⟨lockstep_step lockstep step, dealt_step dealt step, ?_⟩
    have grows : source.pool.slotIdCounter ≤ target.pool.slotIdCounter := by
      rcases Sockets.frontend_of_effect (Sockets.effect_of_step step) with same | ⟨_, moved⟩
      · exact Nat.le_of_eq (congrArg (·.pool.slotIdCounter) same.symm)
      · exact (unlisted_step lockstep.sound moved).1
    intro pair sent
    apply Nat.lt_of_lt_of_le _ grows
    rcases sending_of_sent step sent with earlier | sending
    · exact below pair earlier
    · exact lockstep.below pair.2
        (List.mem_append_right _ (List.mem_map_of_mem sending))

/-- The loops stand for slot processes that keep the protocol, and each was sent what
the frontend has sent to it. -/
theorem posted_invariant : Invariant socketLoops fun loops =>
    (∃ image, Addressed image ∧ Mirrors loops image) ∧ Posted loops where
  initial := by
    rintro _ rfl
    refine ⟨⟨.start, addressed_invariant.initial _ rfl, [], .nil, rfl⟩, ?_⟩
    intro id slot there
    cases there
  step := by
    rintro source event target ⟨⟨image, addressed, mirrors⟩, posted⟩ step
    obtain ⟨labels, after, run, _, shows⟩ :=
      socketLoops_simulation.step source event target image mirrors step
    have kept : Addressed after :=
      run.preserves (fun _ _ _ here taken _ => addressed_invariant.step _ _ _ here taken) addressed
    have retire : StayRetired source target := by
      intro id retired
      have started : Addressed image ∧ Retired image.pool image.sending id := by
        obtain ⟨_, _, rfl⟩ := mirrors
        exact ⟨addressed, retired⟩
      have keeps : ∀ first event second,
          Addressed first ∧ Retired first.pool first.sending id →
          sockets.step first event second → True →
            Addressed second ∧ Retired second.pool second.sending id :=
        fun _ _ _ here taken _ => ⟨addressed_invariant.step _ _ _ here.1 taken,
          here.2.step here.1.lockstep taken⟩
      have later := run.preserves keeps started
      obtain ⟨_, _, rfl⟩ := shows
      exact later.2
    refine ⟨⟨after, kept, shows⟩, ?_⟩
    cases event with
    | slot id event => exact posted.slot step
    | frontend event =>
        have below : ∀ pair ∈ source.sent, pair.2 < source.pool.slotIdCounter := by
          obtain ⟨_, _, rfl⟩ := mirrors
          exact addressed.below
        exact posted.frontend addressed.lockstep mirrors retire below step

end PgTransport.Properties
