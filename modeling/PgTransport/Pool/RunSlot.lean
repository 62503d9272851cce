import PgTransport.Backend.Slot
import PgTransport.Pool.FdPass
import PgTransport.Transition.Run

/-!
# The loop of a slot

`run_slot` from the point where it is connected, step by step, with its end of the
socket and a journal of what it does.  The peer may send any packets; it is the
frontend's part to send well-formed ones.  A signal arrives at any time and is only
looked at on top of the loop, and a process may be killed at any time.
-/

namespace PgTransport.Pool

open PgTransport.Backend
open PgTransport.Transition

/-- How `run_slot` is left: it returns, or its process is gone without that. -/
inductive SlotEnding where
  | returned (result : Except String Unit)
  | gone
  deriving Repr

/-- The points of `run_slot` between which others take steps. -/
inductive LoopPoint where
  | building
  | announcing (served : Option Nat)
  | polling
  | receiving
  | serving (fd : Nat)
  | resetting (fd : Nat)
  | acking
  | ended (ending : SlotEnding)
  deriving Repr

/-- What a slot does, as far as its peer and its clients can tell. -/
inductive LoopAction where
  | ready
  | serves (fd : Nat)
  | resets
  | drainAck
  deriving DecidableEq, Repr

namespace LoopAction

/-- The descriptor that an entry says is served. -/
def client : LoopAction → Option Nat
  | .serves fd => some fd
  | _ => none

/-- The byte that an entry says was sent. -/
def byte : LoopAction → Option UInt8
  | .ready => some opReady
  | .drainAck => some opDrainAck
  | _ => none

end LoopAction

/-- A slot in its loop, with the unread bytes in both directions, the directions that
the peer has shut down and the journal. -/
structure SlotLoop where
  point : LoopPoint
  handoffs : Nat
  sigtermReceived : Bool
  toSlot : List Packet
  toPeer : List UInt8
  shutWrite : Bool
  shutRead : Bool
  journal : List LoopAction
  deriving Repr

/-- The steps of a slot and of its peer.  How the runtime is built, how a receive
fails otherwise, how `PgwireV3::run` ends and whether the reset gets through are
inputs. -/
inductive LoopEvent where
  | builds (failure : Option String)
  | announces
  | polls
  | timesOut
  | receives
  | receiveFails (error : String)
  | runEnds (outcome : WireOutcome)
  | resets (works : Bool)
  | acks
  | sigterm
  | killed
  | delivers (packet : Packet)
  | reads (byte : UInt8)
  | shutsWrite
  | shutsDown
  deriving Repr

namespace LoopEvent

/-- The step is one of the process, not of its peer. -/
def own : LoopEvent → Bool
  | .delivers _ | .reads _ | .shutsWrite | .shutsDown => false
  | _ => true

/-- The step gets the process on: its receive is not just tried again, and no signal
just noted. -/
def progress : LoopEvent → Bool
  | .timesOut | .sigterm => false
  | event => event.own

end LoopEvent

namespace SlotLoop

/-- A slot that has just connected. -/
def connected : SlotLoop :=
  ⟨.building, 0, false, [], [], false, false, []⟩

/-- The process runs. -/
def running (slot : SlotLoop) : Bool :=
  match slot.point with
  | .ended _ => false
  | _ => true

/-- The loop is left, and with it the socket with what is unread. -/
def leave (slot : SlotLoop) (ending : SlotEnding) : SlotLoop :=
  { slot with point := .ended ending, toSlot := [] }

/-- `Err` of `run_slot`. -/
def fail (slot : SlotLoop) (error : String) : SlotLoop :=
  slot.leave (.returned (.error error))

/-- The next entry of the journal. -/
def enter (slot : SlotLoop) (action : LoopAction) : SlotLoop :=
  { slot with journal := slot.journal ++ [action] }

/-- `write_opcode`, when the socket is writable. -/
def writeOpcode (slot : SlotLoop) (opcode : UInt8) : Except IoError SlotLoop :=
  if slot.shutRead then
    .error .brokenPipe
  else
    .ok { slot with toPeer := slot.toPeer ++ [opcode] }

/-- `send_ready_byte_async`, and the top of the loop behind it. -/
def announce (slot : SlotLoop) : SlotLoop :=
  match slot.writeOpcode opReady with
  | .ok told => { told with point := .polling }.enter .ready
  | .error error => slot.fail ("send_ready_byte: " ++ error.text)

/-- `recv_ctrl_async` when it is woken, and the match on its result: a receive that
would block goes on waiting. -/
def receive (slot : SlotLoop) : SlotLoop :=
  match recvCtrlNonblocking slot.shutWrite slot.toSlot with
  | (.error .wouldBlock, _) => slot
  | (.error error, _) => slot.fail ("recv_ctrl: " ++ error.text)
  | (.ok none, _) => slot.leave (.returned (.ok ()))
  | (.ok (some (.fdHandoff fd)), rest) =>
      { slot with
        point := .serving fd
        handoffs := slot.handoffs + 1
        toSlot := rest }.enter (.serves fd)
  | (.ok (some .drainRequest), rest) => { slot with point := .acking, toSlot := rest }

/-- `send_drain_ack_async` behind `cleanup_per_slot_state`, which does nothing: a slot
that cannot send it exits all the same. -/
def acknowledge (slot : SlotLoop) : SlotLoop :=
  match slot.writeOpcode opDrainAck with
  | .ok told => (told.enter .drainAck).leave (.returned (.ok ()))
  | .error _ => slot.leave (.returned (.ok ()))

/-- A packet of the peer; `none` if it cannot send it. -/
def deliver (slot : SlotLoop) (packet : Packet) : Option SlotLoop :=
  if slot.running ∧ slot.shutWrite = false then
    some { slot with toSlot := slot.toSlot ++ [packet] }
  else
    none

/-- The first byte that the peer has not read, and the slot behind it. -/
def read (slot : SlotLoop) : Option (UInt8 × SlotLoop) :=
  match slot.toPeer with
  | [] => none
  | byte :: rest => some (byte, { slot with toPeer := rest })

/-- `shutdown` with `SHUT_WR` at the peer's end. -/
def shutdownWrite (slot : SlotLoop) : SlotLoop :=
  { slot with shutWrite := true }

/-- `shutdown` with `SHUT_RDWR` at the peer's end. -/
def shutdown (slot : SlotLoop) : SlotLoop :=
  { slot with shutWrite := true, shutRead := true }

/-- One step; `none` if it cannot be taken. -/
def step (slot : SlotLoop) (event : LoopEvent) : Option SlotLoop :=
  match event, slot.point with
  | .builds none, .building => some { slot with point := .announcing none }
  | .builds (some error), .building => some (slot.fail error)
  | .announces, .announcing _ => some slot.announce
  | .polls, .polling =>
      if slot.sigtermReceived then
        some (slot.leave (.returned (.ok ())))
      else
        some { slot with point := .receiving }
  | .timesOut, .receiving => some { slot with point := .polling }
  | .receives, .receiving => some slot.receive
  | .receiveFails error, .receiving => some (slot.fail ("recv_ctrl: " ++ error))
  | .runEnds .unwinds, .serving _ => some (slot.leave .gone)
  | .runEnds _, .serving fd => some { slot with point := .resetting fd }
  | .resets true, .resetting fd =>
      some ({ slot with point := .announcing (some fd) }.enter .resets)
  | .resets false, .resetting _ => some (slot.leave .gone)
  | .acks, .acking => some slot.acknowledge
  | .sigterm, _ => some { slot with sigtermReceived := true }
  | .killed, _ => if slot.running then some (slot.leave .gone) else none
  | .delivers packet, _ => slot.deliver packet
  | .reads byte, _ =>
      slot.read.bind fun (first, rest) => if byte = first then some rest else none
  | .shutsWrite, _ => some slot.shutdownWrite
  | .shutsDown, _ => some slot.shutdown
  | _, _ => none

variable {slot : SlotLoop}

/-- What one step can do.  The ways in which the loop is left are one case, but for
the acknowledgement of a drain. -/
inductive Takes (slot : SlotLoop) : LoopEvent → SlotLoop → Prop where
  | built (point : slot.point = .building) :
      Takes slot (.builds none) { slot with point := .announcing none }
  | announced {served : Option Nat} (point : slot.point = .announcing served)
      (opened : slot.shutRead = false) :
      Takes slot .announces
        { slot with
          point := .polling
          toPeer := slot.toPeer ++ [opReady]
          journal := slot.journal ++ [.ready] }
  | polled (point : slot.point = .polling) (unsignalled : slot.sigtermReceived = false) :
      Takes slot .polls { slot with point := .receiving }
  | timedOut (point : slot.point = .receiving) :
      Takes slot .timesOut { slot with point := .polling }
  | waited (unread : slot.toSlot = []) (opened : slot.shutWrite = false) :
      Takes slot .receives slot
  | received {packet : Packet} {rest : List Packet} {fd : Nat} (point : slot.point = .receiving)
      (unread : slot.toSlot = packet :: rest) (read : readPacket packet = .ok (.fdHandoff fd)) :
      Takes slot .receives
        { slot with
          point := .serving fd
          handoffs := slot.handoffs + 1
          toSlot := rest
          journal := slot.journal ++ [.serves fd] }
  | asked {packet : Packet} {rest : List Packet} (point : slot.point = .receiving)
      (unread : slot.toSlot = packet :: rest) (read : readPacket packet = .ok .drainRequest) :
      Takes slot .receives { slot with point := .acking, toSlot := rest }
  | ran {fd : Nat} {outcome : WireOutcome} (point : slot.point = .serving fd) :
      Takes slot (.runEnds outcome) { slot with point := .resetting fd }
  | reset {fd : Nat} (point : slot.point = .resetting fd) :
      Takes slot (.resets true)
        { slot with
          point := .announcing (some fd)
          journal := slot.journal ++ [.resets] }
  | acked (point : slot.point = .acking) (opened : slot.shutRead = false) :
      Takes slot .acks
        ({ slot with
          toPeer := slot.toPeer ++ [opDrainAck]
          journal := slot.journal ++ [LoopAction.drainAck] }.leave (.returned (.ok ())))
  | left {event : LoopEvent} (ending : SlotEnding) (own : event.own = true)
      (running : slot.running = true) : Takes slot event (slot.leave ending)
  | signalled : Takes slot .sigterm { slot with sigtermReceived := true }
  | delivered (packet : Packet) (running : slot.running = true)
      (opened : slot.shutWrite = false) :
      Takes slot (.delivers packet) { slot with toSlot := slot.toSlot ++ [packet] }
  | read {byte : UInt8} {rest : List UInt8} (unread : slot.toPeer = byte :: rest) :
      Takes slot (.reads byte) { slot with toPeer := rest }
  | shutWrite : Takes slot .shutsWrite slot.shutdownWrite
  | shutDown : Takes slot .shutsDown slot.shutdown

theorem deliver_eq_some_iff {packet : Packet} {next : SlotLoop} :
    slot.deliver packet = some next ↔ slot.running = true ∧ slot.shutWrite = false ∧
      next = { slot with toSlot := slot.toSlot ++ [packet] } := by
  unfold deliver
  split
  · next opened => simp [opened, eq_comm]
  · next closed =>
    simp only [reduceCtorEq, false_iff, not_and]
    exact fun running opened => absurd ⟨running, opened⟩ closed

theorem read_eq_some_iff {byte : UInt8} {next : SlotLoop} :
    slot.read = some (byte, next) ↔
      ∃ rest, slot.toPeer = byte :: rest ∧ next = { slot with toPeer := rest } := by
  unfold read
  cases slot.toPeer with
  | nil => simp
  | cons first rest => simp [and_assoc, eq_comm]

theorem takes_announce {served : Option Nat} (point : slot.point = .announcing served) :
    slot.Takes .announces slot.announce := by
  unfold announce writeOpcode
  by_cases shut : slot.shutRead = true
  · rw [if_pos shut]
    exact .left _ rfl (by simp [running, point])
  · rw [if_neg shut]
    exact .announced point (Bool.eq_false_iff.mpr shut)

theorem takes_acknowledge (point : slot.point = .acking) : slot.Takes .acks slot.acknowledge := by
  unfold acknowledge writeOpcode
  by_cases shut : slot.shutRead = true
  · rw [if_pos shut]
    exact .left _ rfl (by simp [running, point])
  · rw [if_neg shut]
    exact .acked point (Bool.eq_false_iff.mpr shut)

theorem takes_receive (point : slot.point = .receiving) : slot.Takes .receives slot.receive := by
  have runs : slot.running = true := by simp [running, point]
  unfold receive
  cases unread : slot.toSlot with
  | nil =>
      rw [recvCtrlNonblocking]
      by_cases shut : slot.shutWrite = true
      · rw [if_pos shut]
        exact .left _ rfl runs
      · rw [if_neg shut]
        exact .waited unread (Bool.eq_false_iff.mpr shut)
  | cons packet rest =>
      rw [recvCtrlNonblocking]
      cases decoded : readPacket packet with
      | error error =>
          obtain ⟨text, rfl⟩ := invalidData_of_readPacket decoded
          exact .left _ rfl runs
      | ok message =>
          cases message with
          | fdHandoff fd => exact .received point unread decoded
          | drainRequest => exact .asked point unread decoded

theorem takes_of_step {event : LoopEvent} {next : SlotLoop}
    (step : slot.step event = some next) : slot.Takes event next := by
  have here {point : LoopPoint} (same : slot.point = point)
      (active : ∀ ending, point ≠ .ended ending) : slot.running = true := by
    subst same
    unfold running
    split
    · next ending past => exact absurd past (active ending)
    · rfl
  unfold SlotLoop.step at step
  split at step
  case h_1 point => cases step; exact .built point
  case h_3 point => cases step; exact takes_announce point
  case h_4 point =>
      split at step
      · cases step
        exact .left _ rfl (here point (by simp))
      · next unsignalled =>
        cases step
        exact .polled point (Bool.eq_false_iff.mpr unsignalled)
  case h_5 point => cases step; exact .timedOut point
  case h_6 point => cases step; exact takes_receive point
  case h_9 _ point => cases step; exact .ran point
  case h_10 point => cases step; exact .reset point
  case h_12 point => cases step; exact takes_acknowledge point
  case h_13 => cases step; exact .signalled
  case h_14 =>
      split at step
      · next running => cases step; exact .left _ rfl running
      · cases step
  case h_15 packet =>
      obtain ⟨running, opened, rfl⟩ := deliver_eq_some_iff.mp step
      exact .delivered packet running opened
  case h_16 byte =>
      obtain ⟨⟨first, rest⟩, read, same⟩ := Option.bind_eq_some_iff.mp step
      obtain ⟨rfl, rfl⟩ : byte = first ∧ rest = next := by simpa using same
      obtain ⟨unread, queued, rfl⟩ := read_eq_some_iff.mp read
      exact .read queued
  case h_17 => cases step; exact .shutWrite
  case h_18 => cases step; exact .shutDown
  case h_19 => cases step
  all_goals
    next point =>
      cases step
      exact .left _ rfl (here point (by simp))

end SlotLoop

/-- A slot with a peer that sends these packets only. -/
def runSlot (sends : Packet → Prop) : System SlotLoop LoopEvent where
  initial slot := slot = .connected
  step source event target :=
    (∀ packet, event = .delivers packet → sends packet) ∧ source.step event = some target

end PgTransport.Pool
