import PgTransport.Pool.SlotProcess

/-!
# The control channel

The bytes of `fd_pass`, as a slot and the frontend read them.  A packet is what one
`recvmsg` with a buffer of one byte returns: a byte and the control messages with
it.  The kernel hands a descriptor on under a number of the receiver's; here it
keeps the one it was sent under.
-/

namespace PgTransport.Pool

/-- The `io::Error`s of the channel. -/
inductive IoError where
  | wouldBlock
  | brokenPipe
  | invalidData (text : String)
  deriving DecidableEq, Repr

/-- How an error is displayed. -/
def IoError.text : IoError → String
  | .wouldBlock => "Resource temporarily unavailable (os error 11)"
  | .brokenPipe => "Broken pipe (os error 32)"
  | .invalidData text => text

/-- `OP_FD_HANDOFF`. -/
def opFdHandoff : UInt8 :=
  0

/-- `OP_DRAIN_REQUEST`, an `X`. -/
def opDrainRequest : UInt8 :=
  88

/-- `OP_READY`, an `R`. -/
def opReady : UInt8 :=
  82

/-- `OP_DRAIN_ACK`, an `A`. -/
def opDrainAck : UInt8 :=
  65

/-- `SOL_SOCKET`. -/
def solSocket : Int :=
  1

/-- `SCM_RIGHTS`. -/
def scmRights : Int :=
  1

/-- An entry of a control message list, with the first number of its data. -/
structure ControlMessage where
  cmsgLevel : Int
  cmsgType : Int
  data : Int
  deriving DecidableEq, Repr

/-- A byte with the control messages that came with it. -/
structure Packet where
  byte : UInt8
  control : List ControlMessage
  deriving DecidableEq, Repr

/-! ## What the frontend sends -/

/-- What `send_fd_nonblocking` sends. -/
def sendFd (fd : Nat) : Packet :=
  ⟨opFdHandoff, [⟨solSocket, scmRights, fd⟩]⟩

/-- What `send_drain_request_nonblocking` sends. -/
def sendDrainRequest : Packet :=
  ⟨opDrainRequest, []⟩

/-- The message as the frontend sends it. -/
def CtrlMsg.packet : CtrlMsg → Packet
  | .fdHandoff fd => sendFd fd
  | .drainRequest => sendDrainRequest

/-! ## What a slot receives -/

/-- `from_raw_fd_checked`. -/
def fromRawFdChecked (fd : Int) : Except IoError Nat :=
  if fd < 0 then
    .error (.invalidData "SCM_RIGHTS cmsg carried a negative fd")
  else
    .ok fd.toNat

/-- The walk along the control messages behind `OP_FD_HANDOFF`. -/
def findRights : List ControlMessage → Except IoError CtrlMsg
  | [] => .error (.invalidData "OP_FD_HANDOFF without SCM_RIGHTS cmsg")
  | message :: rest =>
      if message.cmsgLevel = solSocket ∧ message.cmsgType = scmRights then
        (fromRawFdChecked message.data).map .fdHandoff
      else
        findRights rest

/-- A byte in the format `#04x`. -/
def hexByte (byte : UInt8) : String :=
  String.ofList ['0', 'x', Nat.digitChar (byte.toNat / 16), Nat.digitChar (byte.toNat % 16)]

/-- What `recv_ctrl_nonblocking` makes of a packet. -/
def readPacket (packet : Packet) : Except IoError CtrlMsg :=
  if packet.byte = opFdHandoff then
    findRights packet.control
  else if packet.byte = opDrainRequest then
    .ok .drainRequest
  else
    .error (.invalidData ("unknown control opcode " ++ hexByte packet.byte))

/-- `recv_ctrl_nonblocking` on the unread packets, with what it leaves unread; the
end of the stream is `none`. -/
def recvCtrlNonblocking (closed : Bool) :
    List Packet → Except IoError (Option CtrlMsg) × List Packet
  | [] => (if closed then .ok none else .error .wouldBlock, [])
  | packet :: rest => ((readPacket packet).map some, rest)

/-- What a slot sends for an opcode. -/
def Opcode.byte : Opcode → UInt8
  | .ready => opReady
  | .drainAck => opDrainAck

/-- The opcode that `slot_reader` takes a byte for. -/
def readOpcode (byte : UInt8) : Option Opcode :=
  if byte = opReady then
    some .ready
  else if byte = opDrainAck then
    some .drainAck
  else
    none

/-! ## Round trips -/

/-- A slot receives the message that the frontend sent. -/
@[simp]
theorem readPacket_packet (message : CtrlMsg) : readPacket message.packet = .ok message := by
  cases message with
  | fdHandoff fd =>
      have positive : ¬(fd : Int) < 0 := Int.not_lt.mpr (Int.natCast_nonneg fd)
      simp [CtrlMsg.packet, sendFd, readPacket, findRights, fromRawFdChecked, positive, Except.map]
  | drainRequest => rfl

/-- The frontend reads the opcode that a slot sent. -/
@[simp]
theorem readOpcode_byte (opcode : Opcode) : readOpcode opcode.byte = some opcode := by
  cases opcode <;> rfl

/-- A packet that is no message violates the format. -/
theorem invalidData_of_readPacket {packet : Packet} {error : IoError}
    (read : readPacket packet = .error error) : ∃ text, error = .invalidData text := by
  have walk (control : List ControlMessage) (found : findRights control = .error error) :
      ∃ text, error = .invalidData text := by
    induction control with
    | nil =>
        cases found
        exact ⟨_, rfl⟩
    | cons message rest inductionHypothesis =>
        rw [findRights, fromRawFdChecked] at found
        split at found
        · split at found
          · cases found
            exact ⟨_, rfl⟩
          · cases found
        · exact inductionHypothesis found
  unfold readPacket at read
  split at read
  · exact walk packet.control read
  · split at read
    · cases read
    · cases read
      exact ⟨_, rfl⟩

end PgTransport.Pool
