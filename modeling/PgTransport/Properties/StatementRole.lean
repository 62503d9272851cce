import PgTransport.Properties.SlotIsolation

/-!
# The role of a statement

The role that a client authenticates as is compared with its credential and then
forgotten.  Its statements run as the role that the slot's session has: at the
start the superuser that the slot is connected as, later whatever the clients
before it have left.
-/

namespace PgTransport.Properties

open PgTransport.Auth
open PgTransport.Backend
open PgTransport.Postgres
open PgTransport.Transition

/-- A sequence that has left its first value arrived at its present one by a
change. -/
theorem exists_change {α : Type} {values : Nat → α} {index : Nat}
    (moved : values index ≠ values 0) :
    ∃ earlier, earlier < index ∧ values earlier ≠ values (earlier + 1) ∧
      values (earlier + 1) = values index := by
  induction index with
  | zero => exact absurd rfl moved
  | succ index inductionHypothesis =>
      by_cases same : values index = values (index + 1)
      · obtain ⟨earlier, before, change, arrived⟩ := inductionHypothesis (same ▸ moved)
        exact ⟨earlier, Nat.lt_succ_of_lt before, change, arrived.trans same⟩
      · exact ⟨index, Nat.lt_succ_self index, same, rfl⟩

section Role

variable [RoleTable]

/-- The role that the command of that index starts as. -/
def roleAt (session : SessionState) (commands : List Command) (index : Nat) : Text :=
  (sessionAt session commands index).values.effectiveRole

/-- If the name is a role, then `user` may switch to it. -/
def Entitled (user role : Text) : Prop :=
  isRole role = true → mayBecome user role = true

/-- Every command starts as `user`, or as a role that this client has switched to
and that `user` may switch to. -/
def RunsAs (user : Text) (session : SessionState) (commands : List Command) : Prop :=
  ∀ index, index < commands.length →
    roleAt session commands index = user ∨
      (∃ earlier, earlier < index ∧
        roleAt session commands earlier ≠ roleAt session commands (earlier + 1) ∧
        roleAt session commands (earlier + 1) = roleAt session commands index) ∧
      Entitled user (roleAt session commands index)

/-- The session already has the role of `user`, who may switch to any role. -/
def HasRoleOf (user : Text) (session : SessionState) : Prop :=
  session.values.effectiveRole = user ∧ ∀ role, role = user ∨ Entitled user role

/-- On a session between two clients, all commands run as `user` exactly if the
session has that role already and the user may switch to any. -/
theorem runsAs_iff_hasRoleOf (user : Text) {session : SessionState}
    (outside : session.block = none) :
    (∀ commands, RunsAs user session commands) ↔ HasRoleOf user session := by
  constructor
  · intro always
    constructor
    · rcases always [.statement false] 0 (by simp) with same | ⟨⟨_, before, _⟩, _⟩
      · exact same
      · exact absurd before (Nat.not_lt_zero _)
    · intro role
      by_cases known : isRole role = true
      · have switched : roleAt session
            [.set "session_authorization" role, .statement false] 1 = role := by
          have accepted : checkHook session.settings "session_authorization" role = true :=
            (RoleTable.checkHook_session_authorization _ _).trans known
          simp [roleAt, sessionAt, SessionState.executeAll, SessionState.execute,
            SessionState.isAborted, SessionState.run, SessionState.setBoth, SessionState.values,
            outside, accepted, Settings.effectiveRole_assign_session_authorization]
        rcases always [.set "session_authorization" role, .statement false] 1 (by simp) with
          same | ⟨_, entitled⟩
        · exact .inl (switched.symm.trans same)
        · rw [switched] at entitled
          exact .inr entitled
      · exact .inr fun here => absurd here known
  · rintro ⟨started, any⟩ commands index _
    have first : roleAt session commands 0 = user := started
    rcases any (roleAt session commands index) with same | entitled
    · exact .inl same
    · by_cases same : roleAt session commands index = user
      · exact .inl same
      · exact .inr ⟨exists_change (by rw [first]; exact same), entitled⟩

/-- If the client is let in, its commands start as the user it was let in as. -/
def ServesAsUser (library : Library) (session : SessionState) (client : Client) : Prop :=
  ∀ connection, admitted library .fresh client.deliveries = some connection →
    RunsAs (connection.metadata.user.getD []) session client.commands

/-- After any clients of a slot, the commands of a client that was let in as some
user run as that user, whatever they are, exactly if the session that the earlier
clients left has the user's role and the user may switch to any role. -/
theorem commands_run_as_user_iff_role_inherited (library : Library) (clients : List Client)
    (session : SessionState) (run : Run (slots library) .atBoot clients session)
    (deliveries : List Delivery) (connection : Connection)
    (accepted : admitted library .fresh deliveries = some connection) :
    (∀ client : Client, client.deliveries = deliveries →
        ServesAsUser library session client) ↔
      HasRoleOf (connection.metadata.user.getD []) session := by
  have clean := (clean_invariant library).reachable ⟨_, clients, rfl, run⟩
  rw [← runsAs_iff_hasRoleOf _ clean.1]
  constructor
  · intro serves commands
    exact serves ⟨deliveries, commands, .ok, true⟩ rfl connection accepted
  · rintro always client rfl other here
    cases accepted.symm.trans here
    exact always client.commands

end Role

/-- A server with the superuser `postgres`, who may switch to any role. -/
@[reducible]
def superuserRoles : RoleTable where
  toSettingTable := roleSettings
  isRole _ := true
  mayBecome user role := user = "postgres".toList || user = role
  checkHook_session_authorization _ _ := rfl

/-- The superuser's own commands, where the theorem says that they run as it. -/
theorem superuser_served :
    @ServesAsUser superuserRoles plainLibrary (@SessionState.atBoot roleSettings)
      ⟨[startupFor "postgres" "postgres"], [.set "role" "bob".toList, .statement false], .ok,
        true⟩ := by
  let _ : RoleTable := superuserRoles
  apply (commands_run_as_user_iff_role_inherited plainLibrary [] .atBoot (.nil _)
    [startupFor "postgres" "postgres"] _ rfl).mpr _ _ rfl
  exact ⟨rfl, fun _ => .inr fun _ => rfl⟩

/-- Another user's commands run as the superuser. -/
theorem user_served_as_superuser :
    ¬∀ [RoleTable] (library : Library) (client : Client),
      ServesAsUser library .atBoot client := by
  intro claim
  let _ : RoleTable := superuserRoles
  rcases claim plainLibrary
    ⟨[startupFor "alice" "postgres"], [.statement false], .ok, true⟩ _ rfl 0 (by decide) with
    same | ⟨⟨_, before, _⟩, _⟩
  · exact absurd same (by decide +kernel)
  · exact absurd before (Nat.not_lt_zero _)

end PgTransport.Properties
