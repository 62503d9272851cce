import PgTransport.Pool.RunSlot
import PgTransport.Pool.Sockets

/-!
# The frontend and the loops of its slots

The frontend as in `Sockets`, with `run_slot` itself at the other end of each socket:
it sends packets and reads bytes.
-/

namespace PgTransport.Pool

open PgTransport.Transition

/-- Dispatch, the connected slots in their loops, the calls that are about to send
their descriptor to a slot, and the descriptors that were sent. -/
structure SocketLoops where
  dispatch : Dispatch
  slots : List SlotLoop
  sending : List (Nat × Nat)
  sent : List (Nat × Nat)
  deriving Repr

/-- A step of the process of a slot, or of the frontend. -/
inductive PoolEvent where
  | slot (id : Nat) (event : LoopEvent)
  | frontend (event : SocketEvent)
  deriving Repr

/-- What `slot_reader` does with a byte: it stops at one that is no opcode. -/
def receivedByte (byte : UInt8) : Received :=
  match readOpcode byte with
  | some opcode => opcode.received
  | none => .stops

namespace SocketLoops

/-- The frontend at its start. -/
def start : SocketLoops :=
  ⟨.start, [], [], []⟩

/-- The pool of the frontend. -/
def pool (loops : SocketLoops) : PoolState :=
  loops.dispatch.pool

/-- What a call does at dispatch; the slot it is given, it is about to send to. -/
def dispatched (loops : SocketLoops) (call : Nat) (result : Dispatch × Option Nat) :
    SocketLoops :=
  { loops with
    dispatch := result.1
    sending :=
      match result.2 with
      | some id => (call, id) :: loops.sending
      | none => loops.sending }

/-- `request_drain` with `send_drain_request_nonblocking`. -/
def requestDrain (lost : List Nat) (loops : SocketLoops) (id : Nat) : SocketLoops :=
  { loops with
    dispatch := { loops.dispatch with frontend := loops.dispatch.frontend.requestDrain id }
    slots :=
      if (loops.pool.requestDrain id).2 && !lost.contains id then
        loops.slots.modify id fun slot => (slot.deliver sendDrainRequest).getD slot
      else
        loops.slots }

/-- `request_drain` for each of these slots. -/
def requestDrains (loops : SocketLoops) (lost ids : List Nat) : SocketLoops :=
  ids.foldl (requestDrain lost) loops

/-- One step of the frontend, or of the workers that it starts; `none` if it cannot be
taken. -/
def stepFrontend (loops : SocketLoops) : SocketEvent → Option SocketLoops
  | .connects =>
      if loops.slots.length < loops.pool.slotIdCounter + loops.dispatch.unconnected then
        some { loops with slots := loops.slots ++ [.connected] }
      else
        none
  | .refuses =>
      if loops.pool.slotIdCounter < loops.slots.length then
        (loops.dispatch.step .workerFails).map fun result =>
          { loops with
            dispatch := result.1
            slots := loops.slots.eraseIdx loops.pool.slotIdCounter }
      else
        none
  | .workerFails =>
      if loops.slots.length < loops.pool.slotIdCounter + loops.dispatch.unconnected then
        (loops.dispatch.step .workerFails).map fun result => { loops with dispatch := result.1 }
      else
        none
  | .accept now =>
      if loops.pool.slotIdCounter < loops.slots.length then
        (loops.dispatch.step (.accept now)).map fun result => { loops with dispatch := result.1 }
      else
        none
  | .slot _ _ => none
  | .reads id now =>
      (loops.slots[id]?.bind SlotLoop.read).bind fun (byte, slot) =>
        (loops.dispatch.step (.reads id (receivedByte byte) now)).map fun result =>
          { loops with
            dispatch := result.1
            slots :=
              loops.slots.set id (if receivedByte byte = .ready then slot else slot.shutdown) }
  | .stops id now =>
      (loops.dispatch.step (.reads id .stops now)).map fun result =>
        { loops with
          dispatch := result.1
          slots := loops.slots.modify id SlotLoop.shutdown }
  | .handoff max spawns =>
      some (loops.dispatched loops.dispatch.handoffs (loops.dispatch.handoff max spawns))
  | .poll call expired =>
      (loops.dispatch.step (.poll call expired)).map (loops.dispatched call)
  | .cancel call =>
      some { loops with
        dispatch := loops.dispatch.leave call
        sending := loops.sending.filter fun commitment => commitment.1 != call }
  | .sends call id works =>
      if loops.sending.contains (call, id) then
        if works then
          (loops.slots[id]?.bind fun slot => slot.deliver (sendFd call)).map fun slot =>
            { loops with
              slots := loops.slots.set id slot
              sending := loops.sending.erase (call, id)
              sent := (call, id) :: loops.sent }
        else
          some { loops with sending := loops.sending.erase (call, id) }
      else
        none
  | .reapOnce now lost => some (loops.requestDrains lost (loops.pool.reaped now))
  | .sighupReconcile max lost => some (loops.requestDrains lost (loops.pool.excess max))
  | .watchdog id =>
      let running := loops.slots[id]?.any SlotLoop.running
      (loops.dispatch.step (.watchdog id running)).map fun result =>
        { loops with
          dispatch := result.1
          slots :=
            if (loops.pool.dropDraining id).2 then
              loops.slots.modify id SlotLoop.shutdownWrite
            else
              loops.slots }
  | .gone id =>
      if loops.slots[id]?.all fun slot => !slot.running then
        (loops.dispatch.step (.exits id)).map fun result => { loops with dispatch := result.1 }
      else
        none

/-- One step; `none` if it cannot be taken. -/
def step (loops : SocketLoops) : PoolEvent → Option SocketLoops
  | .slot id event =>
      if event.own then
        (loops.slots[id]?.bind fun slot => slot.step event).map fun slot =>
          { loops with slots := loops.slots.set id slot }
      else
        none
  | .frontend event => loops.stepFrontend event

end SocketLoops

/-- The frontend and the loops of its slots as a transition system. -/
def socketLoops : System SocketLoops PoolEvent where
  initial state := state = .start
  step source event target := source.step event = some target

end PgTransport.Pool
