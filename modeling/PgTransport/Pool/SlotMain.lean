import PgTransport.Pool.RunSlot
import PgTransport.Wire.Tls

/-!
# The start of a slot

`pg_transport_slot_main`: the process attaches to the database, tries to connect to the
frontend, reads its certificate once and enters its loop.  The settings are those that
the server was started with, the same for each of its slots; what the files hold may
be different each time they are read.
-/

namespace PgTransport.Pool

open PgTransport.Transition
open PgTransport.Wire

/-- `SLOT_DIR`. -/
def slotDir : String :=
  "/tmp/pg_transport_sockets"

/-- `frontend_socket_path`. -/
def frontendSocketPath : String :=
  slotDir ++ "/frontend.sock"

/-- `MAX_RETRIES` of `connect_with_retry`. -/
def maxRetries : Nat :=
  100

/-- How far a process is on the way to its loop. -/
inductive Boot where
  | attaching
  | connecting (attempt : Nat)
  | inside
  | ended (ending : SlotEnding)
  deriving Repr

/-- A call of `PgwireV3::run`. -/
structure WireRun (Acceptor : Type) where
  fd : Nat
  tlsAcceptor : Option Acceptor
  deriving DecidableEq, Repr

/-- A slot process with its loop, the acceptor of its `WireCtx`s and the calls of
`PgwireV3::run` so far. -/
structure SlotMain (Acceptor : Type) where
  boot : Boot
  loop : SlotLoop
  tlsAcceptor : Option Acceptor
  runs : List (WireRun Acceptor)
  deriving Repr

/-- What happens around a slot while it sets itself up. -/
structure Setup (File : Type) where
  setNonblocking : Except IoFailure Unit
  runtime : Except IoFailure Unit
  opens : String → Except IoFailure File
  wrapForAsync : Except IoFailure Unit

/-- The steps of a slot process and of its peer. -/
inductive SlotMainEvent (File : Type) where
  | attaches (works : Bool)
  | connects (result : Except IoFailure Unit)
  | builds (setup : Setup File)
  | loops (event : LoopEvent)

/-- A server starts another slot, or one of them takes a step. -/
inductive ServerEvent (File : Type) where
  | spawns
  | slot (index : Nat) (event : SlotMainEvent File)

variable {File Certificate Key Acceptor : Type}
  (library : TlsLibrary File Certificate Key Acceptor) (settings : TlsSettings)

/-- `run_slot` from the connected socket to the first ready byte. -/
def setUp (setup : Setup File) : Except IoFailure (Option Acceptor) := do
  setup.setNonblocking
  setup.runtime.mapError fun error => ⟨.other, "tokio runtime: " ++ error.text⟩
  let tlsAcceptor ← build library settings setup.opens
  setup.wrapForAsync
  .ok tlsAcceptor

namespace SlotMain

/-- A process that was just started. -/
def start : SlotMain Acceptor :=
  ⟨.attaching, .connected, none, []⟩

/-- `connect_with_retry` behind a failed attempt. -/
def retry (attempt : Nat) (error : IoFailure) : Boot :=
  if error.kind = .notFound ∨ error.kind = .connectionRefused then
    if attempt + 1 < maxRetries then
      .connecting (attempt + 1)
    else
      .ended (.returned (.error ("pg_transport slot: FE listener at " ++ frontendSocketPath ++
        " never appeared")))
  else
    .ended (.returned (.error error.text))

/-- The call of `PgwireV3::run` that a step of the loop begins. -/
def begun (slot : SlotMain Acceptor) (next : SlotLoop) : List (WireRun Acceptor) :=
  match slot.loop.point, next.point with
  | .receiving, .serving fd => [⟨fd, slot.tlsAcceptor⟩]
  | _, _ => []

/-- The slot behind a step of its loop. -/
def follow (slot : SlotMain Acceptor) (next : SlotLoop) : SlotMain Acceptor :=
  { slot with loop := next, runs := slot.runs ++ slot.begun next }

/-- One step; `none` if it cannot be taken.  A signal is only noted until the loop looks
at it. -/
def step (slot : SlotMain Acceptor) : SlotMainEvent File → Option (SlotMain Acceptor)
  | .attaches works =>
      match slot.boot with
      | .attaching =>
          some { slot with boot := if works then .connecting 0 else .ended .gone }
      | _ => none
  | .connects result =>
      match slot.boot, result with
      | .connecting _, .ok _ => some { slot with boot := .inside }
      | .connecting attempt, .error error => some { slot with boot := retry attempt error }
      | _, _ => none
  | .builds setup =>
      match slot.boot, setUp library settings setup with
      | .inside, .ok tlsAcceptor =>
          (slot.loop.step (.builds none)).map fun next =>
            { slot with loop := next, tlsAcceptor }
      | .inside, .error error =>
          (slot.loop.step (.builds (some error.text))).map fun next => { slot with loop := next }
      | _, _ => none
  | .loops (.builds _) => none
  | .loops event =>
      match slot.boot, event with
      | .inside, event => (slot.loop.step event).map slot.follow
      | .ended _, _ => none
      | _, .sigterm => some { slot with loop := { slot.loop with sigtermReceived := true } }
      | _, .killed => some { slot with boot := .ended .gone }
      | _, _ => none

variable {library settings} {slot next : SlotMain Acceptor}

/-- What one step can do. -/
inductive Moves (library : TlsLibrary File Certificate Key Acceptor) (settings : TlsSettings)
    (slot : SlotMain Acceptor) : SlotMain Acceptor → Prop where
  | boots {boot : Boot} (outside : slot.boot ≠ .inside)
      (tries : ∀ attempt, boot = .connecting attempt → attempt < maxRetries) :
      Moves library settings slot { slot with boot }
  | signalled (outside : slot.boot ≠ .inside) :
      Moves library settings slot { slot with loop := { slot.loop with sigtermReceived := true } }
  | built {setup : Setup File} {tlsAcceptor : Option Acceptor} {loop : SlotLoop}
      (inside : slot.boot = .inside)
      (ready : setUp library settings setup = .ok tlsAcceptor)
      (moved : slot.loop.step (.builds none) = some loop) :
      Moves library settings slot { slot with loop, tlsAcceptor }
  | refused {text : String} {loop : SlotLoop} (inside : slot.boot = .inside)
      (moved : slot.loop.step (.builds (some text)) = some loop) :
      Moves library settings slot { slot with loop }
  | follows {event : LoopEvent} {loop : SlotLoop} (inside : slot.boot = .inside)
      (looping : ∀ failure, event ≠ .builds failure)
      (moved : slot.loop.step event = some loop) :
      Moves library settings slot (slot.follow loop)

theorem tries_retry {attempt other : Nat} {error : IoFailure}
    (again : retry attempt error = .connecting other) : other < maxRetries := by
  unfold retry at again
  split at again
  · split at again
    · next below =>
      cases again
      exact below
    · cases again
  · cases again

theorem moves_of_step {event : SlotMainEvent File}
    (step : slot.step library settings event = some next) :
    slot.Moves library settings next := by
  unfold SlotMain.step at step
  split at step
  case h_1 works =>
      split at step
      · next boot =>
        cases step
        apply Moves.boots (by simp [boot])
        intro attempt connecting
        cases works <;> cases connecting
        decide
      · cases step
  case h_2 result =>
      split at step
      · next boot =>
        cases step
        exact .boots (by simp [boot]) (by simp)
      · next boot =>
        cases step
        exact .boots (by simp [boot]) fun _ again => tries_retry again
      · cases step
  case h_3 setup =>
      split at step
      · next inside ready =>
        obtain ⟨loop, moved, rfl⟩ := Option.map_eq_some_iff.mp step
        exact .built inside ready moved
      · next inside _ =>
        obtain ⟨loop, moved, rfl⟩ := Option.map_eq_some_iff.mp step
        exact .refused inside moved
      · cases step
  case h_4 => cases step
  case h_5 event looping =>
      split at step
      · next inside =>
        obtain ⟨loop, moved, rfl⟩ := Option.map_eq_some_iff.mp step
        exact .follows inside looping moved
      · cases step
      · next outside _ =>
        cases step
        exact .signalled outside
      · next outside _ =>
        cases step
        exact .boots outside (by simp)
      · cases step

/-- The loop of a process takes a step of its own, or none. -/
theorem Moves.loop (moves : slot.Moves library settings next) :
    next.loop = slot.loop ∨ ∃ event, slot.loop.step event = some next.loop := by
  cases moves with
  | boots => exact .inl rfl
  | signalled => exact .inr ⟨.sigterm, rfl⟩
  | built _ _ moved => exact .inr ⟨_, moved⟩
  | refused _ moved => exact .inr ⟨_, moved⟩
  | follows _ _ moved => exact .inr ⟨_, moved⟩

end SlotMain

/-- The slots of a server, each with a place of its own. -/
def serverStep (slots : List (SlotMain Acceptor)) :
    ServerEvent File → Option (List (SlotMain Acceptor))
  | .spawns => some (slots ++ [.start])
  | .slot index event => do
      let slot ← slots[index]?
      let next ← slot.step library settings event
      some (slots.set index next)

/-- Servers that were started with these settings. -/
def servers : System (List (SlotMain Acceptor)) (ServerEvent File) where
  initial slots := slots = []
  step source event target := serverStep library settings source event = some target

end PgTransport.Pool
