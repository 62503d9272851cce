import Mathlib.Data.List.Basic

/-!
# A slot process and its socket

The loop of `run_slot` as a transition function, with the bytes that are queued in
both directions of its socket.  A descriptor is named by the `handoff` call that it
was passed to.  What is counted below is the token of the exchange: one message at
most is queued or being worked on.
-/

namespace PgTransport.Pool

/-- The opcodes that a slot sends. -/
inductive Opcode where
  | ready
  | drainAck
  deriving DecidableEq, Repr

/-- `CtrlMsg`, without the end of the stream. -/
inductive CtrlMsg where
  | fdHandoff (fd : Nat)
  | drainRequest
  deriving DecidableEq, Repr

/-- Where a slot is in `run_slot`: before its first opcode, in `recv_ctrl_async`,
in a session or past its end. -/
inductive Phase where
  | booting
  | waiting
  | serving (fd : Nat)
  | exited
  deriving DecidableEq, Repr

/-- A slot with its socket: the unread bytes, the directions that the frontend has
shut down, and whether a drain request was ever sent. -/
structure SlotProcess where
  phase : Phase
  toFrontend : List Opcode
  toSlot : List CtrlMsg
  shutWrite : Bool
  shutRead : Bool
  drainSent : Bool
  deriving DecidableEq, Repr

/-- The steps of a slot: it announces that it is ready, when it has booted or a
session is over; it takes up the next message; it exits at any point. -/
inductive SlotEvent where
  | announces
  | receives
  | exits
  deriving DecidableEq, Repr

namespace SlotProcess

/-- A slot that has just connected. -/
def connected : SlotProcess :=
  ⟨.booting, [], [], false, false, false⟩

/-- The process is gone, with what it has not read. -/
def exit (slot : SlotProcess) : SlotProcess :=
  { slot with phase := .exited, toSlot := [] }

/-- `write_opcode`; `none` if the frontend does not read any more. -/
def write (slot : SlotProcess) (opcode : Opcode) : Option SlotProcess :=
  if slot.shutRead then
    none
  else
    some { slot with toFrontend := slot.toFrontend ++ [opcode] }

/-- One step of the slot; `none` if it cannot take it. -/
def step (slot : SlotProcess) : SlotEvent → Option SlotProcess
  | .announces =>
      match slot.phase with
      | .booting | .serving _ =>
          match slot.write .ready with
          | some told => some { told with phase := .waiting }
          | none => some slot.exit
      | .waiting | .exited => none
  | .receives =>
      match slot.phase, slot.toSlot with
      | .waiting, .fdHandoff fd :: rest => some { slot with phase := .serving fd, toSlot := rest }
      | .waiting, .drainRequest :: _ => some ((slot.write .drainAck).getD slot).exit
      | .waiting, [] => if slot.shutWrite then some slot.exit else none
      | _, _ => none
  | .exits => if slot.phase = .exited then none else some slot.exit

/-- A message of the frontend; `none` if it fails. -/
def send (slot : SlotProcess) (message : CtrlMsg) : Option SlotProcess :=
  if slot.phase = .exited ∨ slot.shutWrite = true then
    none
  else
    some { slot with
      toSlot := slot.toSlot ++ [message]
      drainSent := slot.drainSent || message = .drainRequest }

/-- The first unread byte, and the socket behind it. -/
def read (slot : SlotProcess) : Option (Opcode × SlotProcess) :=
  match slot.toFrontend with
  | [] => none
  | opcode :: rest => some (opcode, { slot with toFrontend := rest })

/-- `shutdown` with `SHUT_WR`, by the watchdog. -/
def shutdownWrite (slot : SlotProcess) : SlotProcess :=
  { slot with shutWrite := true }

/-- `shutdown` with `SHUT_RDWR`, by `cleanup_orphaned`. -/
def shutdown (slot : SlotProcess) : SlotProcess :=
  { slot with shutWrite := true, shutRead := true }

/-! ## The token -/

/-- What is queued in either direction, and the boot or session that runs. -/
def tokens (slot : SlotProcess) : Nat :=
  (match slot.phase with
    | .booting | .serving _ => 1
    | .waiting | .exited => 0) +
    slot.toFrontend.length + slot.toSlot.length

variable {slot next : SlotProcess}

@[simp]
theorem tokens_connected : connected.tokens = 1 :=
  rfl

@[simp]
theorem tokens_shutdownWrite (slot : SlotProcess) : slot.shutdownWrite.tokens = slot.tokens :=
  rfl

@[simp]
theorem tokens_shutdown (slot : SlotProcess) : slot.shutdown.tokens = slot.tokens :=
  rfl

theorem tokens_exit_le (slot : SlotProcess) : slot.exit.tokens ≤ slot.tokens := by
  simp only [exit, tokens, List.length_nil]
  omega

/-- The slot makes no token: it turns one into the next. -/
theorem tokens_step {event : SlotEvent} (step : slot.step event = some next) :
    next.tokens ≤ slot.tokens ∧ next.drainSent = slot.drainSent := by
  obtain ⟨phase, toFrontend, toSlot, shutWrite, shutRead, drainSent⟩ := slot
  cases event with
  | announces =>
      cases phase <;> cases shutRead <;>
        simp only [SlotProcess.step, write, Bool.false_eq_true, if_false, if_true, reduceCtorEq,
          Option.some.injEq] at step <;>
        subst step <;>
        simp [tokens, exit] <;>
        omega
  | receives =>
      cases phase with
      | waiting =>
          cases toSlot with
          | nil =>
              simp only [SlotProcess.step] at step
              split at step
              · cases step
                exact ⟨tokens_exit_le _, rfl⟩
              · cases step
          | cons message rest =>
              cases message with
              | fdHandoff fd =>
                  cases step
                  simp [tokens]
                  omega
              | drainRequest =>
                  cases shutRead <;> cases step <;> simp [tokens, exit, write]
      | _ => cases step
  | exits =>
      simp only [SlotProcess.step] at step
      split at step
      · cases step
      · cases step
        exact ⟨tokens_exit_le _, rfl⟩

/-- A message of the frontend is a token of its own. -/
theorem tokens_send {message : CtrlMsg} (sent : slot.send message = some next) :
    next.tokens = slot.tokens + 1 ∧
      next.drainSent = (slot.drainSent || decide (message = .drainRequest)) ∧
      slot.phase ≠ .exited := by
  simp only [send] at sent
  split at sent
  · cases sent
  · next runs =>
    cases sent
    refine ⟨?_, rfl, fun exited => runs (.inl exited)⟩
    simp [tokens, Nat.add_assoc]

/-- A byte that the frontend reads was a token. -/
theorem tokens_read {opcode : Opcode} (read : slot.read = some (opcode, next)) :
    slot.tokens = next.tokens + 1 ∧ next.drainSent = slot.drainSent := by
  obtain ⟨phase, toFrontend, toSlot, shutWrite, shutRead, drainSent⟩ := slot
  cases toFrontend with
  | nil => cases read
  | cons first rest =>
      cases read
      refine ⟨?_, rfl⟩
      simp only [tokens, List.length_cons]
      omega

/-- Without a token the slot waits for a message or is gone, and nothing is
queued. -/
theorem idle_of_tokens (none : slot.tokens = 0) :
    slot.toFrontend = [] ∧ slot.toSlot = [] ∧ (slot.phase = .waiting ∨ slot.phase = .exited) := by
  obtain ⟨phase, toFrontend, toSlot, shutWrite, shutRead, drainSent⟩ := slot
  simp only [tokens, Nat.add_eq_zero_iff, List.length_eq_zero_iff] at none
  obtain ⟨⟨idle, unread⟩, pending⟩ := none
  refine ⟨unread, pending, ?_⟩
  cases phase with
  | waiting => exact .inl rfl
  | exited => exact .inr rfl
  | _ => cases idle

/-- With one token, one opcode at most is unread, and one message. -/
theorem single_of_tokens (single : slot.tokens ≤ 1) :
    slot.toFrontend.count .ready ≤ 1 ∧ slot.toSlot.length ≤ 1 := by
  have unread := @List.count_le_length _ _ Opcode.ready slot.toFrontend
  simp only [tokens] at single
  omega

end SlotProcess

end PgTransport.Pool
