import PgTransport.Pool.SocketLoops
import PgTransport.Transition.Components
import PgTransport.Transition.Simulation

/-!
# The loops of the slots refine the slot processes

The protocol between the frontend and its slots is stated about `SlotProcess`, with
messages for packets and one step where `run_slot` takes several.  What is proved of
it holds of the frontend with the loops of `run_slot` at its sockets: whatever the
frontend does there, it can do with slot processes that the loops stand for.
-/

namespace PgTransport.Pool.LoopPoint

/-- The phase that a point of the loop belongs to. -/
def phase : LoopPoint → Phase
  | .building | .announcing none => .booting
  | .announcing (some fd) | .serving fd | .resetting fd => .serving fd
  | .polling | .receiving | .acking => .waiting
  | .ended _ => .exited

/-- What the loop has read of a message that a slot process has not yet taken up. -/
def taken : LoopPoint → List Packet
  | .acking => [sendDrainRequest]
  | _ => []

end PgTransport.Pool.LoopPoint

namespace PgTransport.Pool

/-- The event of the frontend that a step is. -/
def PoolEvent.seen : PoolEvent → Option SocketEvent
  | .slot _ _ => none
  | .frontend event => some event

/-- The event of the frontend that a step is, with slot processes. -/
def SocketEvent.shown : SocketEvent → Option SocketEvent
  | .slot _ _ => none
  | event => some event

end PgTransport.Pool

namespace PgTransport.Properties

open PgTransport.Backend
open PgTransport.Pool
open PgTransport.Transition

/-- A slot process that a slot in its loop stands for. -/
structure Depicts (slot : SlotLoop) (image : SlotProcess) : Prop where
  phase : image.phase = slot.point.phase
  unread : slot.toPeer = image.toFrontend.map Opcode.byte
  queued : slot.point.taken ++ slot.toSlot = image.toSlot.map CtrlMsg.packet
  shutWrite : slot.shutWrite = image.shutWrite
  shutRead : slot.shutRead = image.shutRead

/-- A slot process depicts a slot, at once or behind a step of its own. -/
def Matched (image : SlotProcess) (slot : SlotLoop) : Prop :=
  Depicts slot image ∨ ∃ event after, image.step event = some after ∧ Depicts slot after

section Slots

variable {slot next : SlotLoop} {image after : SlotProcess}

theorem running_iff : slot.running = true ↔ slot.point.phase ≠ .exited := by
  cases point : slot.point with
  | announcing served => cases served <;> simp [SlotLoop.running, LoopPoint.phase, point]
  | _ => simp [SlotLoop.running, LoopPoint.phase, point]

theorem Depicts.running_iff (depicts : Depicts slot image) :
    slot.running = true ↔ image.phase ≠ .exited := by
  rw [Properties.running_iff, depicts.phase]

/-! ## What a slot does on its own -/

theorem Matched.moves (event : SlotEvent) (after : SlotProcess)
    (step : image.step event = some after) (depicts : Depicts next after) : Matched image next :=
  .inr ⟨event, after, step, depicts⟩

/-- A loop that is left is a process that exits. -/
theorem Depicts.leaves (depicts : Depicts slot image) (running : slot.running = true)
    (ending : SlotEnding) : Matched image (slot.leave ending) := by
  apply Matched.moves .exits image.exit
  · simp only [SlotProcess.step, depicts.running_iff.mp running, if_false]
  · exact ⟨rfl, depicts.unread, rfl, depicts.shutWrite, depicts.shutRead⟩

theorem Depicts.points (depicts : Depicts slot image) {point : LoopPoint}
    (phase : point.phase = slot.point.phase) (taken : point.taken = slot.point.taken) :
    Depicts { slot with point } image :=
  ⟨depicts.phase.trans phase.symm, depicts.unread, taken ▸ depicts.queued, depicts.shutWrite,
    depicts.shutRead⟩

/-- A ready byte is an announcement of the process. -/
theorem Depicts.announces (depicts : Depicts slot image) {served : Option Nat}
    (point : slot.point = .announcing served) (opened : slot.shutRead = false) :
    Matched image
      { slot with
        point := .polling
        toPeer := slot.toPeer ++ [opReady]
        journal := slot.journal ++ [.ready] } := by
  have phase : image.phase = .booting ∨ ∃ fd, image.phase = .serving fd := by
    rw [depicts.phase, point]
    cases served with
    | none => exact .inl rfl
    | some fd => exact .inr ⟨fd, rfl⟩
  have queued := depicts.queued
  rw [point] at queued
  rw [depicts.shutRead] at opened
  apply Matched.moves .announces
    { image with
      phase := .waiting
      toFrontend := image.toFrontend ++ [.ready] }
  · rcases phase with phase | ⟨fd, phase⟩ <;>
      simp [SlotProcess.step, SlotProcess.write, phase, opened]
  · refine ⟨rfl, ?_, queued, depicts.shutWrite, depicts.shutRead⟩
    simp [depicts.unread, Opcode.byte]

/-- The packet that the loop receives is the next message of the process. -/
theorem Depicts.next_message (depicts : Depicts slot image) {packet : Packet}
    {rest : List Packet} {message : CtrlMsg}
    (queued : slot.point.taken ++ slot.toSlot = packet :: rest)
    (read : readPacket packet = .ok message) :
    ∃ later, image.toSlot = message :: later ∧ rest = later.map CtrlMsg.packet := by
  have same := depicts.queued
  rw [queued] at same
  cases messages : image.toSlot with
  | nil => simp [messages] at same
  | cons first later =>
      rw [messages, List.map_cons, List.cons.injEq] at same
      obtain ⟨rfl, rfl⟩ := same
      rw [readPacket_packet, Except.ok.injEq] at read
      exact ⟨later, by rw [read], rfl⟩

/-- A handoff is taken up by both. -/
theorem Depicts.receives (depicts : Depicts slot image) {packet : Packet}
    {rest : List Packet} {fd : Nat} (point : slot.point = .receiving)
    (unread : slot.toSlot = packet :: rest) (read : readPacket packet = .ok (.fdHandoff fd)) :
    Matched image
      { slot with
        point := .serving fd
        handoffs := slot.handoffs + 1
        toSlot := rest
        journal := slot.journal ++ [.serves fd] } := by
  have phase : image.phase = .waiting := by rw [depicts.phase, point]; rfl
  have queued : slot.point.taken ++ slot.toSlot = packet :: rest := by rw [point, unread]; rfl
  obtain ⟨later, messages, rfl⟩ := depicts.next_message queued read
  apply Matched.moves .receives { image with phase := .serving fd, toSlot := later }
  · simp [SlotProcess.step, phase, messages]
  · exact ⟨rfl, depicts.unread, rfl, depicts.shutWrite, depicts.shutRead⟩

/-- The drain request that the loop has read is still the next message of the
process. -/
theorem Depicts.asks (depicts : Depicts slot image) {packet : Packet} {rest : List Packet}
    (point : slot.point = .receiving) (unread : slot.toSlot = packet :: rest)
    (read : readPacket packet = .ok .drainRequest) :
    Depicts { slot with point := .acking, toSlot := rest } image := by
  have phase : image.phase = .waiting := by rw [depicts.phase, point]; rfl
  have queued : slot.point.taken ++ slot.toSlot = packet :: rest := by rw [point, unread]; rfl
  obtain ⟨later, messages, rfl⟩ := depicts.next_message queued read
  refine ⟨phase, depicts.unread, ?_, depicts.shutWrite, depicts.shutRead⟩
  rw [messages]
  rfl

/-- The acknowledgement takes up the drain request. -/
theorem Depicts.acknowledges (depicts : Depicts slot image) (point : slot.point = .acking)
    (opened : slot.shutRead = false) :
    Matched image
      ({ slot with
        toPeer := slot.toPeer ++ [opDrainAck]
        journal := slot.journal ++ [LoopAction.drainAck] }.leave (.returned (.ok ()))) := by
  have phase : image.phase = .waiting := by rw [depicts.phase, point]; rfl
  have queued : slot.point.taken ++ slot.toSlot = sendDrainRequest :: slot.toSlot := by
    rw [point]
    rfl
  have drains : readPacket sendDrainRequest = .ok .drainRequest := rfl
  obtain ⟨later, messages, _⟩ := depicts.next_message queued drains
  rw [depicts.shutRead] at opened
  apply Matched.moves .receives
    ({ image with toFrontend := image.toFrontend ++ [Opcode.drainAck] }.exit)
  · simp [SlotProcess.step, SlotProcess.write, phase, messages, opened]
  · refine ⟨rfl, ?_, rfl, depicts.shutWrite, depicts.shutRead⟩
    simp [SlotLoop.leave, SlotProcess.exit, depicts.unread, Opcode.byte]

/-- One step of the loop. -/
theorem Depicts.step (depicts : Depicts slot image) {event : LoopEvent}
    (own : event.own = true) (step : slot.step event = some next) : Matched image next := by
  cases SlotLoop.takes_of_step step with
  | built point | polled point | timedOut point | ran point =>
      exact .inl (depicts.points (point ▸ rfl) (point ▸ rfl))
  | announced point opened => exact depicts.announces point opened
  | waited => exact .inl depicts
  | received point unread read => exact depicts.receives point unread read
  | asked point unread read => exact .inl (depicts.asks point unread read)
  | @reset fd point =>
      have phase : (LoopPoint.announcing (some fd)).phase = slot.point.phase := point ▸ rfl
      have taken : (LoopPoint.announcing (some fd)).taken = slot.point.taken := point ▸ rfl
      obtain ⟨moved, unread, queued, shutWrite, shutRead⟩ := depicts.points phase taken
      exact .inl ⟨moved, unread, queued, shutWrite, shutRead⟩
  | acked point opened => exact depicts.acknowledges point opened
  | left ending _ running => exact depicts.leaves running ending
  | signalled =>
      exact .inl ⟨depicts.phase, depicts.unread, depicts.queued, depicts.shutWrite,
        depicts.shutRead⟩
  | delivered | read | shutWrite | shutDown => cases own

/-! ## What the frontend does at a socket -/

theorem Depicts.connected : Depicts .connected .connected :=
  ⟨rfl, rfl, rfl, rfl, rfl⟩

theorem Depicts.shutdownWrite (depicts : Depicts slot image) :
    Depicts slot.shutdownWrite image.shutdownWrite :=
  ⟨depicts.phase, depicts.unread, depicts.queued, rfl, depicts.shutRead⟩

theorem Depicts.shutdown (depicts : Depicts slot image) :
    Depicts slot.shutdown image.shutdown :=
  ⟨depicts.phase, depicts.unread, depicts.queued, rfl, rfl⟩

/-- A message of the frontend reaches both. -/
theorem Depicts.delivers (depicts : Depicts slot image) (message : CtrlMsg)
    (sent : slot.deliver message.packet = some next) :
    ∃ after, image.send message = some after ∧ Depicts next after := by
  obtain ⟨running, opened, rfl⟩ := SlotLoop.deliver_eq_some_iff.mp sent
  have runs := depicts.running_iff.mp running
  rw [depicts.shutWrite] at opened
  refine ⟨{ image with
    toSlot := image.toSlot ++ [message]
    drainSent := image.drainSent || message = .drainRequest }, ?_, ?_⟩
  · simp [SlotProcess.send, runs, opened]
  · refine ⟨depicts.phase, depicts.unread, ?_, depicts.shutWrite, depicts.shutRead⟩
    rw [← List.append_assoc, depicts.queued]
    simp

/-- A message that cannot be sent reaches neither. -/
theorem Depicts.delivers_getD (depicts : Depicts slot image) (message : CtrlMsg) :
    Depicts ((slot.deliver message.packet).getD slot) ((image.send message).getD image) := by
  cases sent : slot.deliver message.packet with
  | some next =>
      obtain ⟨after, reached, shows⟩ := depicts.delivers message sent
      rw [reached]
      exact shows
  | none =>
      have refused : image.send message = none := by
        simp only [SlotLoop.deliver, ite_eq_right_iff, reduceCtorEq, imp_false, not_and,
          Bool.not_eq_false] at sent
        rw [SlotProcess.send, if_pos]
        by_cases runs : image.phase = .exited
        · exact .inl runs
        · have shut := sent (depicts.running_iff.mpr runs)
          exact .inr (depicts.shutWrite ▸ shut)
      rw [refused]
      exact depicts

/-- A byte that the frontend reads is an opcode of the process. -/
theorem Depicts.reads (depicts : Depicts slot image) {byte : UInt8}
    (read : slot.read = some (byte, next)) :
    ∃ opcode after, byte = opcode.byte ∧ image.read = some (opcode, after) ∧
      Depicts next after := by
  obtain ⟨rest, unread, rfl⟩ := SlotLoop.read_eq_some_iff.mp read
  have opcodes := depicts.unread
  rw [unread] at opcodes
  cases queued : image.toFrontend with
  | nil => simp [queued] at opcodes
  | cons opcode later =>
      rw [queued, List.map_cons, List.cons.injEq] at opcodes
      refine ⟨opcode, { image with toFrontend := later }, opcodes.1, ?_, ?_⟩
      · simp only [SlotProcess.read, queued]
      · exact ⟨depicts.phase, opcodes.2, depicts.queued, depicts.shutWrite, depicts.shutRead⟩

@[simp]
theorem receivedByte_byte (opcode : Opcode) : receivedByte opcode.byte = opcode.received := by
  rw [receivedByte, readOpcode_byte]

end Slots

/-! ## The frontend -/

/-- Slot processes for the loops, at the sockets of the same frontend. -/
def Mirrors (loops : SocketLoops) (sockets : Sockets) : Prop :=
  ∃ images, List.Forall₂ Depicts loops.slots images ∧
    sockets = ⟨loops.dispatch, images, loops.sending, loops.sent⟩

section Frontend

variable {loops next : SocketLoops} {images : List SlotProcess}

/-- The reader takes the byte for the opcode that the process has sent. -/
theorem frontend_reads (related : List.Forall₂ Depicts loops.slots images) {id now : Nat}
    (step : loops.stepFrontend (.reads id now) = some next) :
    ∃ after, Sockets.step ⟨loops.dispatch, images, loops.sending, loops.sent⟩ (.reads id now) =
      some after ∧ Mirrors next after := by
  simp only [SocketLoops.stepFrontend] at step
  obtain ⟨⟨byte, slot⟩, found, rest⟩ := Option.bind_eq_some_iff.mp step
  obtain ⟨result, taken, rfl⟩ := Option.map_eq_some_iff.mp rest
  obtain ⟨before, listed, read⟩ := Option.bind_eq_some_iff.mp found
  obtain ⟨missing, _⟩ | ⟨component, image, here, there, depicts⟩ :=
    forall₂_getElem? related id
  · rw [missing] at listed
    cases listed
  · obtain rfl : component = before := Option.some.inj (here.symm.trans listed)
    obtain ⟨opcode, after, rfl, reads, shows⟩ := depicts.reads read
    rw [receivedByte_byte] at taken ⊢
    refine ⟨_, ?_, images.set id (if opcode = .drainAck then after.shutdown else after), ?_, rfl⟩
    · simp [Sockets.step, there, reads, taken]
    · apply forall₂_set related
      cases opcode with
      | ready => exact shows
      | drainAck => exact shows.shutdown

/-- A call sends its descriptor to both. -/
theorem frontend_sends (related : List.Forall₂ Depicts loops.slots images) {call id : Nat}
    {works : Bool} (step : loops.stepFrontend (.sends call id works) = some next) :
    ∃ after, Sockets.step ⟨loops.dispatch, images, loops.sending, loops.sent⟩
      (.sends call id works) = some after ∧ Mirrors next after := by
  simp only [SocketLoops.stepFrontend] at step
  split at step
  · next commits =>
    have committed : (call, id) ∈ loops.sending := by simpa using commits
    cases works with
    | true =>
        obtain ⟨slot, found, rfl⟩ := Option.map_eq_some_iff.mp step
        obtain ⟨before, listed, sent⟩ := Option.bind_eq_some_iff.mp found
        obtain ⟨missing, _⟩ | ⟨component, image, here, there, depicts⟩ :=
          forall₂_getElem? related id
        · rw [missing] at listed
          cases listed
        · obtain rfl : component = before := Option.some.inj (here.symm.trans listed)
          obtain ⟨after, reached, shows⟩ := depicts.delivers (.fdHandoff call) sent
          refine ⟨_, ?_, images.set id after, forall₂_set related id shows, rfl⟩
          simp [Sockets.step, committed, there, reached]
    | false =>
        cases step
        refine ⟨_, ?_, images, related, rfl⟩
        simp [Sockets.step, committed]
  · cases step

/-- A drain request is sent to both, or lost for both. -/
theorem frontend_requestDrain (related : List.Forall₂ Depicts loops.slots images)
    (lost : List Nat) (id : Nat) :
    Mirrors (loops.requestDrain lost id)
      (Sockets.requestDrain lost ⟨loops.dispatch, images, loops.sending, loops.sent⟩ id) := by
  refine ⟨_, ?_, rfl⟩
  apply forall₂_modify_ite related
  exact fun _ _ depicts => depicts.delivers_getD .drainRequest

theorem Mirrors.requestDrains {sockets : Sockets} (lost ids : List Nat)
    (mirrors : Mirrors loops sockets) :
    Mirrors (loops.requestDrains lost ids) (sockets.requestDrains lost ids) := by
  induction ids generalizing loops sockets with
  | nil => exact mirrors
  | cons id ids inductionHypothesis =>
      obtain ⟨images, related, rfl⟩ := mirrors
      exact inductionHypothesis (frontend_requestDrain related lost id)

/-- The watchdog finds both running, or neither. -/
theorem any_running (related : List.Forall₂ Depicts loops.slots images) (id : Nat) :
    loops.slots[id]?.any SlotLoop.running =
      images[id]?.any fun slot => slot.phase != .exited := by
  obtain ⟨missing, absent⟩ | ⟨slot, image, here, there, depicts⟩ := forall₂_getElem? related id
  · rw [missing, absent]
    rfl
  · rw [here, there, Option.any_some, Option.any_some, Bool.eq_iff_iff, depicts.running_iff,
      bne_iff_ne]

theorem all_exited (related : List.Forall₂ Depicts loops.slots images) (id : Nat) :
    (loops.slots[id]?.all fun slot => !slot.running) =
      images[id]?.all fun slot => slot.phase == .exited := by
  obtain ⟨missing, absent⟩ | ⟨slot, image, here, there, depicts⟩ := forall₂_getElem? related id
  · rw [missing, absent]
    rfl
  · rw [here, there, Option.all_some, Option.all_some, Bool.eq_iff_iff, Bool.not_eq_true',
      ← Bool.not_eq_true, depicts.running_iff, not_not, beq_iff_eq]

end Frontend

/-- A step of the frontend is the same at the sockets of the slot processes. -/
theorem Mirrors.frontend {loops next : SocketLoops} {sockets : Sockets}
    (mirrors : Mirrors loops sockets) {event : SocketEvent}
    (step : loops.stepFrontend event = some next) :
    ∃ after, sockets.step event = some after ∧ Mirrors next after := by
  obtain ⟨images, related, rfl⟩ := mirrors
  have length := related.length_eq
  cases event with
  | connects =>
      simp only [SocketLoops.stepFrontend] at step
      split at step
      · next room =>
        cases step
        refine ⟨_, if_pos (length ▸ room), _, forall₂_concat related .connected, rfl⟩
      · cases step
  | refuses =>
      simp only [SocketLoops.stepFrontend] at step
      split at step
      · next queued =>
        obtain ⟨result, taken, rfl⟩ := Option.map_eq_some_iff.mp step
        refine ⟨_, ?_, _, forall₂_eraseIdx related _, rfl⟩
        exact (if_pos (length ▸ queued)).trans (Option.map_eq_some_iff.mpr ⟨result, taken, rfl⟩)
      · cases step
  | workerFails =>
      simp only [SocketLoops.stepFrontend] at step
      split at step
      · next room =>
        obtain ⟨result, taken, rfl⟩ := Option.map_eq_some_iff.mp step
        refine ⟨_, ?_, _, related, rfl⟩
        exact (if_pos (length ▸ room)).trans (Option.map_eq_some_iff.mpr ⟨result, taken, rfl⟩)
      · cases step
  | accept now =>
      simp only [SocketLoops.stepFrontend] at step
      split at step
      · next queued =>
        obtain ⟨result, taken, rfl⟩ := Option.map_eq_some_iff.mp step
        refine ⟨_, ?_, _, related, rfl⟩
        exact (if_pos (length ▸ queued)).trans (Option.map_eq_some_iff.mpr ⟨result, taken, rfl⟩)
      · cases step
  | slot id event => cases step
  | reads id now => exact frontend_reads related step
  | stops id now =>
      obtain ⟨result, taken, rfl⟩ := Option.map_eq_some_iff.mp step
      refine ⟨_, Option.map_eq_some_iff.mpr ⟨result, taken, rfl⟩, _, ?_, rfl⟩
      exact forall₂_modify related id fun _ _ depicts => depicts.shutdown
  | handoff max spawns =>
      cases step
      exact ⟨_, rfl, images, related, rfl⟩
  | poll call expired =>
      obtain ⟨result, taken, rfl⟩ := Option.map_eq_some_iff.mp step
      exact ⟨_, Option.map_eq_some_iff.mpr ⟨result, taken, rfl⟩, images, related, rfl⟩
  | cancel call =>
      cases step
      exact ⟨_, rfl, images, related, rfl⟩
  | sends call id works => exact frontend_sends related step
  | reapOnce now lost =>
      cases step
      exact ⟨_, rfl, Mirrors.requestDrains lost _ ⟨images, related, rfl⟩⟩
  | sighupReconcile max lost =>
      cases step
      exact ⟨_, rfl, Mirrors.requestDrains lost _ ⟨images, related, rfl⟩⟩
  | watchdog id =>
      obtain ⟨result, taken, rfl⟩ := Option.map_eq_some_iff.mp step
      rw [any_running related id] at taken
      refine ⟨_, Option.map_eq_some_iff.mpr ⟨result, taken, rfl⟩, _, ?_, rfl⟩
      apply forall₂_modify_ite related
      exact fun _ _ depicts => depicts.shutdownWrite
  | gone id =>
      simp only [SocketLoops.stepFrontend, all_exited related id] at step
      split at step
      · next past =>
        obtain ⟨result, taken, rfl⟩ := Option.map_eq_some_iff.mp step
        refine ⟨_, ?_, images, related, rfl⟩
        exact (if_pos past).trans (Option.map_eq_some_iff.mpr ⟨result, taken, rfl⟩)
      · cases step

/-- A step of a loop is a step of its process, or none. -/
theorem Mirrors.slot {loops next : SocketLoops} {sockets : Sockets}
    (mirrors : Mirrors loops sockets) {id : Nat} {event : LoopEvent}
    (step : loops.step (.slot id event) = some next) :
    Mirrors next sockets ∨
      ∃ taken after, sockets.step (.slot id taken) = some after ∧ Mirrors next after := by
  obtain ⟨images, related, rfl⟩ := mirrors
  simp only [SocketLoops.step] at step
  split at step
  · next own =>
    obtain ⟨slot, found, rfl⟩ := Option.map_eq_some_iff.mp step
    obtain ⟨before, listed, moved⟩ := Option.bind_eq_some_iff.mp found
    obtain ⟨missing, _⟩ | ⟨component, image, here, there, depicts⟩ :=
      forall₂_getElem? related id
    · rw [missing] at listed
      cases listed
    · obtain rfl : component = before := Option.some.inj (here.symm.trans listed)
      rcases depicts.step own moved with shows | ⟨taken, after, took, shows⟩
      · left
        have replaced := forall₂_set related id shows
        obtain ⟨inside, same⟩ := List.getElem?_eq_some_iff.mp there
        rw [← same, List.set_getElem_self] at replaced
        exact ⟨images, replaced, rfl⟩
      · right
        refine ⟨taken, _, ?_, images.set id after, forall₂_set related id shows, rfl⟩
        simp [Sockets.step, there, took]
  · cases step

/-- The frontend with slot processes simulates the one with loops. -/
theorem socketLoops_simulation :
    Simulation socketLoops sockets PoolEvent.seen SocketEvent.shown Mirrors where
  initial := by
    rintro _ rfl
    exact ⟨.start, rfl, [], .nil, rfl⟩
  step := by
    intro source event target image mirrors step
    cases event with
    | slot id event =>
        rcases mirrors.slot step with still | ⟨taken, after, took, shows⟩
        · exact ⟨[], image, .nil image, rfl, still⟩
        · exact ⟨[.slot id taken], after, .single took, rfl, shows⟩
    | frontend event =>
        obtain ⟨after, took, shows⟩ := mirrors.frontend step
        refine ⟨[event], after, .single took, ?_, shows⟩
        cases event <;> first | rfl | cases step

/-- Whatever the frontend does at the sockets of slots in their loops, in any order of
steps, it can do with slot processes, which are then in the states that the loops
stand for. -/
theorem socketLoops_refine_sockets {loops : SocketLoops} {events : List PoolEvent}
    (run : Run socketLoops .start events loops) :
    ∃ labels image, Run sockets .start labels image ∧
      labels.filterMap SocketEvent.shown = events.filterMap PoolEvent.seen ∧
      Mirrors loops image := by
  obtain ⟨image, rfl, mirrors⟩ := socketLoops_simulation.initial _ rfl
  exact socketLoops_simulation.run mirrors run

/-- A client comes, a slot is started for it and serves it. -/
def firstClient : List PoolEvent :=
  [.frontend (.handoff 1 true), .frontend .connects, .slot 0 (.builds none), .slot 0 .announces,
    .frontend (.accept 1), .frontend (.reads 0 2), .frontend (.poll 0 false),
    .frontend (.sends 0 0 true), .slot 0 .polls, .slot 0 .receives, .slot 0 (.runEnds .ok),
    .slot 0 (.resets true), .slot 0 .announces]

/-- The frontend and the slot behind it. -/
def firstServed : SocketLoops where
  dispatch :=
    { frontend := ⟨⟨[], [(0, ⟨2⟩)], [], 1, false⟩, [0], []⟩
      hasReady := ⟨false, [], []⟩
      handoffs := 1
      unconnected := 0
      lingering := [] }
  slots :=
    [⟨.polling, 1, false, [], [opReady], false, false, [.ready, .serves 0, .resets, .ready]⟩]
  sending := []
  sent := [(0, 0)]

theorem firstServed_refined :
    ∃ labels image, Run sockets .start labels image ∧
      labels.filterMap SocketEvent.shown = firstClient.filterMap PoolEvent.seen ∧
      Mirrors firstServed image :=
  socketLoops_refine_sockets (run_of_foldlM (fun _ _ _ _ step => step)
    (rfl : firstClient.foldlM SocketLoops.step .start = some firstServed))

end PgTransport.Properties
