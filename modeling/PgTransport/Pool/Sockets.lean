import PgTransport.Pool.Dispatch
import PgTransport.Pool.SlotProcess

/-!
# The frontend and its slots

Dispatch and the slot processes with the sockets between them.  The frontend
accepts connections in the order in which they come, so that a slot's place is
its identifier once it has been accepted.  A `handoff` call that has taken a slot
suspends before it sends, and may then fail, be dropped or find the slot gone; a
reader may stop at any time.
-/

namespace PgTransport.Pool

open PgTransport.Transition

/-- Dispatch, the connected slots, the calls that are about to send their
descriptor to a slot, and the descriptors that were sent. -/
structure Sockets where
  dispatch : Dispatch
  slots : List SlotProcess
  sending : List (Nat × Nat)
  sent : List (Nat × Nat)
  deriving DecidableEq, Repr

/-- The steps of the frontend and of the slots.  A drain request is lost for the
slots that are named. -/
inductive SocketEvent where
  | connects
  | refuses
  | workerFails
  | accept (now : Nat)
  | slot (id : Nat) (event : SlotEvent)
  | reads (id : Nat) (now : Nat)
  | stops (id : Nat) (now : Nat)
  | handoff (max : Nat) (spawns : Bool)
  | poll (call : Nat) (expired : Bool)
  | cancel (call : Nat)
  | sends (call : Nat) (id : Nat) (works : Bool)
  | reapOnce (now : Nat) (lost : List Nat)
  | sighupReconcile (max : Nat) (lost : List Nat)
  | watchdog (id : Nat)
  | gone (id : Nat)
  deriving DecidableEq, Repr

namespace Opcode

/-- What the reader does with an opcode. -/
def received : Opcode → Received
  | .ready => .ready
  | .drainAck => .drainAck

end Opcode

namespace Sockets

/-- The frontend at its start. -/
def start : Sockets :=
  ⟨.start, [], [], []⟩

/-- The pool of the frontend. -/
def pool (sockets : Sockets) : PoolState :=
  sockets.dispatch.pool

/-- What a call does at dispatch; the slot it is given, it is about to send to. -/
def dispatched (sockets : Sockets) (call : Nat) (result : Dispatch × Option Nat) : Sockets :=
  { sockets with
    dispatch := result.1
    sending :=
      match result.2 with
      | some id => (call, id) :: sockets.sending
      | none => sockets.sending }

/-- `request_drain` with the drain request that it sends. -/
def requestDrain (lost : List Nat) (sockets : Sockets) (id : Nat) : Sockets :=
  { sockets with
    dispatch :=
      { sockets.dispatch with frontend := sockets.dispatch.frontend.requestDrain id }
    slots :=
      if (sockets.pool.requestDrain id).2 && !lost.contains id then
        sockets.slots.modify id fun slot => (slot.send .drainRequest).getD slot
      else
        sockets.slots }

/-- `request_drain` for each of these slots. -/
def requestDrains (sockets : Sockets) (lost ids : List Nat) : Sockets :=
  ids.foldl (requestDrain lost) sockets

/-- One step; `none` if it cannot be taken. -/
def step (sockets : Sockets) : SocketEvent → Option Sockets
  | .connects =>
      if sockets.slots.length < sockets.pool.slotIdCounter + sockets.dispatch.unconnected then
        some { sockets with slots := sockets.slots ++ [.connected] }
      else
        none
  | .refuses =>
      if sockets.pool.slotIdCounter < sockets.slots.length then
        (sockets.dispatch.step .workerFails).map fun result =>
          { sockets with
            dispatch := result.1
            slots := sockets.slots.eraseIdx sockets.pool.slotIdCounter }
      else
        none
  | .workerFails =>
      if sockets.slots.length < sockets.pool.slotIdCounter + sockets.dispatch.unconnected then
        (sockets.dispatch.step .workerFails).map fun result =>
          { sockets with dispatch := result.1 }
      else
        none
  | .accept now =>
      if sockets.pool.slotIdCounter < sockets.slots.length then
        (sockets.dispatch.step (.accept now)).map fun result =>
          { sockets with dispatch := result.1 }
      else
        none
  | .slot id event =>
      (sockets.slots[id]?.bind fun slot => slot.step event).map fun slot =>
        { sockets with slots := sockets.slots.set id slot }
  | .reads id now =>
      (sockets.slots[id]?.bind SlotProcess.read).bind fun (opcode, slot) =>
        (sockets.dispatch.step (.reads id opcode.received now)).map fun result =>
          { sockets with
            dispatch := result.1
            slots := sockets.slots.set id (if opcode = .drainAck then slot.shutdown else slot) }
  | .stops id now =>
      (sockets.dispatch.step (.reads id .stops now)).map fun result =>
        { sockets with
          dispatch := result.1
          slots := sockets.slots.modify id SlotProcess.shutdown }
  | .handoff max spawns =>
      some (sockets.dispatched sockets.dispatch.handoffs (sockets.dispatch.handoff max spawns))
  | .poll call expired =>
      (sockets.dispatch.step (.poll call expired)).map (sockets.dispatched call)
  | .cancel call =>
      some { sockets with
        dispatch := sockets.dispatch.leave call
        sending := sockets.sending.filter fun commitment => commitment.1 != call }
  | .sends call id works =>
      if (call, id) ∈ sockets.sending then
        if works then
          (sockets.slots[id]?.bind fun slot => slot.send (.fdHandoff call)).map fun slot =>
            { sockets with
              slots := sockets.slots.set id slot
              sending := sockets.sending.erase (call, id)
              sent := (call, id) :: sockets.sent }
        else
          some { sockets with sending := sockets.sending.erase (call, id) }
      else
        none
  | .reapOnce now lost => some (sockets.requestDrains lost (sockets.pool.reaped now))
  | .sighupReconcile max lost => some (sockets.requestDrains lost (sockets.pool.excess max))
  | .watchdog id =>
      let running := sockets.slots[id]?.any fun slot => slot.phase != .exited
      (sockets.dispatch.step (.watchdog id running)).map fun result =>
        { sockets with
          dispatch := result.1
          slots :=
            if (sockets.pool.dropDraining id).2 then
              sockets.slots.modify id SlotProcess.shutdownWrite
            else
              sockets.slots }
  | .gone id =>
      if sockets.slots[id]?.all fun slot => slot.phase == .exited then
        (sockets.dispatch.step (.exits id)).map fun result =>
          { sockets with dispatch := result.1 }
      else
        none

end Sockets

/-- The frontend and its slots as a transition system. -/
def sockets : System Sockets SocketEvent where
  initial state := state = .start
  step source event target := source.step event = some target

end PgTransport.Pool
