import PgTransport.Auth.Startup
import PgTransport.Postgres.Settings
import PgTransport.Transition.Run

/-!
# A slot and its clients

One backend process serves one client after the other.  A client's run is its
startup messages and, once it has been let in, its commands; how the run ends
and whether the reset behind it gets through are inputs.  A slot that unwinds
exits and serves nobody else.
-/

namespace PgTransport.Backend

open PgTransport.Auth
open PgTransport.Postgres
open PgTransport.Transition

/-- How `PgwireV3::run` ends. -/
inductive WireOutcome where
  | ok
  | err
  | unwinds
  deriving DecidableEq, Repr

/-- A client as a slot meets it. -/
structure Client where
  deliveries : List Delivery
  commands : List Command
  outcome : WireOutcome
  resets : Bool

section Slot

variable [SettingTable]

/-- The session when a client's command of that index is run.  Its handlers and
the statements prepared on the wire are those of the connection; letting a client
in changes nothing in the backend. -/
def sessionAt (session : SessionState) (commands : List Command) (index : Nat) :
    SessionState :=
  SessionState.executeAll { session with wireStatements := fun _ => none } (commands.take index)

/-- `PgwireV3::run`. -/
def wireRun (library : Library) (session : SessionState) (client : Client) : SessionState :=
  let served := match admitted library .fresh client.deliveries with
    | none => sessionAt session [] 0
    | some _ => sessionAt session client.commands client.commands.length
  { served with wireStatements := fun _ => none }

/-- `AbortOutOfAnyTransaction`. -/
def abortOutOfAnyTransaction (session : SessionState) : SessionState :=
  session.rollback

/-- `DropAllPreparedStatements`. -/
def dropAllPreparedStatements (session : SessionState) : SessionState :=
  { session with preparedQueries := fun _ => none }

/-- `ResetAllOptions`. -/
def resetAllOptions (session : SessionState) : SessionState :=
  session.setBoth Settings.resetAllOptions

/-- `reset_per_handoff_state`. -/
def resetPerHandoffState (session : SessionState) : SessionState :=
  resetAllOptions (dropAllPreparedStatements (abortOutOfAnyTransaction session))

/-- The `FdHandoff` arm of `run_slot`: the session the next client finds, if
there is a next client. -/
def fdHandoff (library : Library) (session : SessionState) (client : Client) :
    Option SessionState :=
  match client.outcome with
  | .unwinds => none
  | .ok | .err =>
      if client.resets then
        some (resetPerHandoffState (wireRun library session client))
      else
        none

/-- A slot as a transition system: any clients in any order. -/
def slots (library : Library) : System SessionState Client where
  initial session := session = .atBoot
  step session client next := fdHandoff library session client = some next

/-- The session behind a reset. -/
theorem resetPerHandoffState_eq (session : SessionState) :
    resetPerHandoffState session =
      ⟨session.settings.resetAllOptions, none, fun _ => none, session.wireStatements⟩ :=
  rfl

/-- What the next client finds. -/
theorem fdHandoff_eq_some_iff {library : Library} {session next : SessionState}
    {client : Client} :
    fdHandoff library session client = some next ↔
      client.outcome ≠ .unwinds ∧ client.resets = true ∧
        next = ⟨(wireRun library session client).settings.resetAllOptions, none,
          fun _ => none, fun _ => none⟩ := by
  unfold fdHandoff
  rw [resetPerHandoffState_eq]
  cases client.outcome <;> cases client.resets <;> simp [wireRun, eq_comm]

/-- Every client of a slot finds it outside of a transaction block and without
prepared statements. -/
theorem clean_invariant (library : Library) :
    Invariant (slots library) fun session =>
      session.block = none ∧ session.preparedQueries = (fun _ => none) ∧
        session.wireStatements = fun _ => none where
  initial := by
    rintro _ rfl
    exact ⟨rfl, rfl, rfl⟩
  step := by
    intro source client target _ step
    obtain ⟨_, _, rfl⟩ := fdHandoff_eq_some_iff.mp step
    exact ⟨rfl, rfl, rfl⟩

end Slot

end PgTransport.Backend
