import PgTransport.Pool.SlotMain
import PgTransport.Properties.SlotJournal

/-!
# No client is downgraded

Whether a client is offered encryption depends on the settings of the server alone: a
slot that cannot be set up as they say never says that it is ready, and so no client
ends at a slot that would speak in the clear where others do not.
-/

namespace PgTransport.Properties

open PgTransport.Pool
open PgTransport.Transition
open PgTransport.Wire

variable {File Certificate Key Acceptor : Type}
  {library : TlsLibrary File Certificate Key Acceptor} {settings : TlsSettings}

/-- A loop that has not been set up: it has said nothing, and it does not end well. -/
def NotSetUp (loop : SlotLoop) : Prop :=
  loop.journal = [] ∧
    (loop.point = .building ∨
      ∃ ending, loop.point = .ended ending ∧ ∀ value, ending ≠ .returned (.ok value))

/-- Only setting it up gets a loop past its start. -/
theorem NotSetUp.step {loop next : SlotLoop} {event : LoopEvent} (out : NotSetUp loop)
    (step : loop.step event = some next) (failing : event ≠ .builds none) : NotSetUp next := by
  obtain ⟨silent, point | ⟨ending, point, bad⟩⟩ := out
  · cases event with
    | builds failure =>
        cases failure with
        | none => exact absurd rfl failing
        | some text =>
            simp only [SlotLoop.step, point, Option.some.injEq] at step
            subst step
            exact ⟨silent, .inr ⟨_, rfl, by simp⟩⟩
    | killed =>
        simp only [SlotLoop.step, point, SlotLoop.running, ↓reduceIte, Option.some.injEq] at step
        subst step
        exact ⟨silent, .inr ⟨_, rfl, by simp⟩⟩
    | delivers packet =>
        obtain ⟨_, _, rfl⟩ := SlotLoop.deliver_eq_some_iff.mp step
        exact ⟨silent, .inl point⟩
    | reads byte =>
        obtain ⟨⟨first, rest⟩, read, same⟩ := Option.bind_eq_some_iff.mp step
        obtain ⟨rfl, rfl⟩ : byte = first ∧ rest = next := by simpa using same
        obtain ⟨_, _, rfl⟩ := SlotLoop.read_eq_some_iff.mp read
        exact ⟨silent, .inl point⟩
    | sigterm | shutsWrite | shutsDown =>
        cases step
        exact ⟨silent, .inl point⟩
    | _ => simp [SlotLoop.step, point] at step
  · cases SlotLoop.takes_of_step step with
    | left _ _ running => simp [SlotLoop.running, point] at running
    | signalled | delivered | read | shutWrite | shutDown | waited =>
        exact ⟨silent, .inr ⟨ending, point, bad⟩⟩
    | _ => simp_all

theorem configured_of_setUp {setup : Setup File} {tlsAcceptor : Option Acceptor}
    (ready : setUp library settings setup = .ok tlsAcceptor) :
    Configured library settings setup.opens tlsAcceptor := by
  obtain ⟨_, _, ready⟩ := bind_eq_ok_iff.mp ready
  obtain ⟨_, _, ready⟩ := bind_eq_ok_iff.mp ready
  obtain ⟨acceptor, built, ready⟩ := bind_eq_ok_iff.mp ready
  obtain ⟨_, _, ready⟩ := bind_eq_ok_iff.mp ready
  cases ready
  exact configured_of_build built

section Steps

variable {slot next : SlotMain Acceptor} {loop : SlotLoop}

/-- The journal says whom the wire was run for. -/
theorem clients_of_step {event : LoopEvent} (moved : slot.loop.step event = some loop) :
    loop.journal.filterMap LoopAction.client =
      slot.loop.journal.filterMap LoopAction.client ++ (slot.begun loop).map WireRun.fd := by
  have still {after : SlotLoop}
      (point : after.point = slot.loop.point ∨ ∀ fd, after.point ≠ .serving fd)
      (same : after.journal.filterMap LoopAction.client =
        slot.loop.journal.filterMap LoopAction.client) :
      after.journal.filterMap LoopAction.client =
        slot.loop.journal.filterMap LoopAction.client ++ (slot.begun after).map WireRun.fd := by
    have none : slot.begun after = [] := by
      unfold SlotMain.begun
      split
      · next fd receiving serving =>
        rcases point with same | other
        · rw [receiving, serving] at same
          cases same
        · exact absurd serving (other fd)
      · rfl
    rw [none, same]
    exact (List.append_nil _).symm
  cases SlotLoop.takes_of_step moved with
  | received point => simp [SlotMain.begun, point, LoopAction.client]
  | waited | signalled | delivered | read | shutWrite | shutDown => exact still (.inl rfl) rfl
  | announced | reset | acked =>
      exact still (.inr (by simp [SlotLoop.leave])) (by simp [SlotLoop.leave, LoopAction.client])
  | built | polled | timedOut | asked | ran | left =>
      exact still (.inr (by simp [SlotLoop.leave])) rfl

/-- The setup of a slot comes first. -/
theorem building_of_builds {failure : Option String}
    (moved : slot.loop.step (.builds failure) = some loop) : slot.loop.point = .building := by
  cases point : slot.loop.point with
  | building => rfl
  | _ => cases failure <;> simp [SlotLoop.step, point] at moved

/-- A loop that some run of a slot reaches. -/
abbrev Looped (loop : SlotLoop) : Prop :=
  Reachable (runSlot fun _ => True) loop

theorem Looped.step {event : LoopEvent} (looped : Looped slot.loop)
    (moved : slot.loop.step event = some loop) : Looped loop :=
  looped.run (.cons ⟨fun _ _ => trivial, moved⟩ trivial (.nil _))

/-- A loop at its start has done nothing. -/
theorem Looped.silent (looped : Looped loop) (point : loop.point = .building) :
    loop.journal = [] := by
  obtain ⟨_, _, rfl, run⟩ := looped
  obtain ⟨_, _, _, _, _, _, written, _⟩ := (tallies_of_run run).1.exists_served
  rw [point] at written
  exact written.2

/-- What holds of every slot of a server. -/
structure Secured (library : TlsLibrary File Certificate Key Acceptor) (settings : TlsSettings)
    (slot : SlotMain Acceptor) : Prop where
  looped : Looped slot.loop
  tries : ∀ attempt, slot.boot = .connecting attempt → attempt < maxRetries
  configured : NotSetUp slot.loop ∨ ∃ opens, Configured library settings opens slot.tlsAcceptor
  given : ∀ run ∈ slot.runs, run.tlsAcceptor = slot.tlsAcceptor
  clients : slot.runs.map WireRun.fd = slot.loop.journal.filterMap LoopAction.client

theorem Secured.start : Secured library settings .start where
  looped := ⟨_, [], rfl, .nil _⟩
  tries _ connecting := nomatch connecting
  configured := .inl ⟨rfl, .inl rfl⟩
  given _ absurd := nomatch absurd
  clients := rfl

theorem Secured.step (secured : Secured library settings slot)
    (moves : slot.Moves library settings next) : Secured library settings next := by
  obtain ⟨looped, tries, configured, given, clients⟩ := secured
  have inside {attempt : Nat} (inside : slot.boot = .inside)
      (connecting : slot.boot = .connecting attempt) : attempt < maxRetries := by
    rw [inside] at connecting
    cases connecting
  cases moves with
  | boots _ tries => exact ⟨looped, tries, configured, given, clients⟩
  | signalled outside =>
      have moved : slot.loop.step .sigterm =
        some { slot.loop with sigtermReceived := true } := rfl
      exact ⟨looped.step moved, tries, configured.imp_left (·.step moved nofun), given, clients⟩
  | @built setup tlsAcceptor loop here ready moved =>
      have point := building_of_builds moved
      have none : slot.runs = [] := by
        rw [looped.silent point] at clients
        exact List.map_eq_nil_iff.mp clients
      have later := looped.step moved
      simp only [SlotLoop.step, point, Option.some.injEq] at moved
      subst moved
      refine ⟨later, fun _ => inside here, .inr ⟨_, configured_of_setUp ready⟩, ?_, clients⟩
      rw [none]
      simp
  | refused here moved =>
      have point := building_of_builds moved
      have later := looped.step moved
      have out := configured.imp_left (·.step moved (by simp))
      simp only [SlotLoop.step, point, Option.some.injEq] at moved
      subst moved
      exact ⟨later, fun _ => inside here, out, given, clients⟩
  | follows here looping moved =>
      refine ⟨looped.step moved, fun _ => inside here, ?_, ?_, ?_⟩
      · exact configured.imp_left (·.step moved (looping _))
      · intro run member
        rcases List.mem_append.mp member with earlier | begun
        · exact given run earlier
        · unfold SlotMain.begun at begun
          split at begun
          · cases List.mem_singleton.mp begun
            rfl
          · cases begun
      · rw [SlotMain.follow, List.map_append, clients, clients_of_step moved]

end Steps

theorem secured : Invariant (servers library settings) fun slots =>
    ∀ slot ∈ slots, Secured library settings slot where
  initial slots start slot listed := by
    rw [show slots = [] from start] at listed
    cases listed
  step slots event target holds step slot listed := by
    cases event with
    | spawns =>
        cases step
        rcases List.mem_append.mp listed with earlier | new
        · exact holds slot earlier
        · cases List.mem_singleton.mp new
          exact .start
    | slot index event =>
        obtain ⟨before, there, step⟩ := Option.bind_eq_some_iff.mp step
        obtain ⟨next, moved, same⟩ := Option.bind_eq_some_iff.mp step
        cases same
        rcases List.mem_or_eq_of_mem_set listed with earlier | rfl
        · exact holds slot earlier
        · exact (holds before (List.mem_of_getElem? there)).step (SlotMain.moves_of_step moved)

/-- A slot says that it is ready, or serves, only when it was set up as the settings of
the server say; all its clients get the acceptor that it made then, so that a client
gets one exactly if the settings name the files, whichever slot it ends at; and slots
whose settings name one file only say and serve nothing and do not end well. -/
theorem no_client_downgraded {slots : List (SlotMain Acceptor)}
    (reached : Reachable (servers library settings) slots) {slot : SlotMain Acceptor}
    (listed : slot ∈ slots) :
    (slot.loop.journal ≠ [] → ∃ opens, Configured library settings opens slot.tlsAcceptor) ∧
      (∀ run ∈ slot.runs, run.tlsAcceptor = slot.tlsAcceptor ∧
        (run.tlsAcceptor = none ↔ tlsFiles settings = .ok none)) ∧
      slot.loop.journal <+: journalOf (slot.runs.map WireRun.fd) ++ [.drainAck] ∧
      ((∃ text, tlsFiles settings = .error text) → slot.loop.journal = [] ∧
        ∀ value, slot.loop.point ≠ .ended (.returned (.ok value))) := by
  obtain ⟨looped, _, configured, given, clients⟩ := secured.reachable reached slot listed
  have ready (spoke : slot.loop.journal ≠ []) :
      ∃ opens, Configured library settings opens slot.tlsAcceptor := by
    rcases configured with out | configured
    · exact absurd out.1 spoke
    · exact configured
  refine ⟨ready, ?_, ?_, ?_⟩
  · intro run member
    have served : run.fd ∈ slot.loop.journal.filterMap LoopAction.client := by
      rw [← clients]
      exact List.mem_map_of_mem member
    have spoke : slot.loop.journal ≠ [] := by
      intro silent
      rw [silent] at served
      cases served
    obtain ⟨_, configured⟩ := ready spoke
    refine ⟨given run member, ?_⟩
    rw [given run member]
    exact configured.none_iff
  · obtain ⟨_, _, rfl, run⟩ := looped
    rw [clients]
    exact (tallies_of_run run).1.tells.1
  · rintro ⟨text, refused⟩
    rcases configured with ⟨silent, point | ⟨ending, point, bad⟩⟩ | ⟨_, configured⟩
    · exact ⟨silent, by simp [point]⟩
    · refine ⟨silent, fun value ended => bad value ?_⟩
      rw [point] at ended
      cases ended
      rfl
    · exact absurd refused (configured.tlsFiles_ne_error text)

/-- Files of numbers, and servers that take any of them. -/
def numbered : TlsLibrary (List Nat) Nat Nat Nat :=
  ⟨List.map .ok, List.map .ok, fun _ key => .ok key⟩

/-- Settings that name both files. -/
def bothNamed : TlsSettings :=
  ⟨some "server.crt", some "server.key"⟩

/-- The setup of a slot that can open these files. -/
def opening (files : List (String × List Nat)) : Setup (List Nat) where
  setNonblocking := .ok ()
  runtime := .ok ()
  opens path := match files.lookup path with
    | some file => .ok file
    | none => .error ⟨.notFound, "No such file or directory (os error 2)"⟩
  wrapForAsync := .ok ()

/-- Two slots, the second of which finds no key. -/
def keyRemoved : List (ServerEvent (List Nat)) :=
  [.spawns, .slot 0 (.attaches true),
    .slot 0 (.connects (.error ⟨.notFound, "No such file or directory (os error 2)"⟩)),
    .slot 0 (.connects (.ok ())),
    .slot 0 (.builds (opening [("server.crt", [1]), ("server.key", [2])])),
    .slot 0 (.loops .announces), .slot 0 (.loops .polls), .slot 0 (.loops (.delivers (sendFd 7))),
    .slot 0 (.loops .receives), .spawns, .slot 1 (.attaches true), .slot 1 (.connects (.ok ())),
    .slot 1 (.builds (opening [("server.crt", [1])]))]

/-- The first slot behind it. -/
def servingOne : SlotMain Nat :=
  ⟨.inside, ⟨.serving 7, 1, false, [], [opReady], false, false, [.ready, .serves 7]⟩,
    some 2, [⟨7, some 2⟩]⟩

/-- The second slot. -/
def withoutKey : SlotMain Nat :=
  ⟨.inside, ⟨.ended (.returned (.error
    "opening server.key: No such file or directory (os error 2)")), 0, false, [], [], false,
    false, []⟩, none, []⟩

theorem servingOne_encrypted :
    (servingOne.loop.journal ≠ [] →
        ∃ opens, Configured numbered bothNamed opens servingOne.tlsAcceptor) ∧
      (∀ run ∈ servingOne.runs, run.tlsAcceptor = servingOne.tlsAcceptor ∧
        (run.tlsAcceptor = none ↔ tlsFiles bothNamed = .ok none)) ∧
      servingOne.loop.journal <+: journalOf (servingOne.runs.map WireRun.fd) ++ [.drainAck] ∧
      ((∃ text, tlsFiles bothNamed = .error text) → servingOne.loop.journal = [] ∧
        ∀ value, servingOne.loop.point ≠ .ended (.returned (.ok value))) :=
  no_client_downgraded
    ⟨[], keyRemoved, rfl, run_of_foldlM (fun _ _ _ _ step => step)
      (rfl : keyRemoved.foldlM (serverStep numbered bothNamed) [] =
        some [servingOne, withoutKey])⟩
    List.mem_cons_self

end PgTransport.Properties
