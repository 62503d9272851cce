import PgTransport.Backend.Slot

/-!
# Isolation of a slot's clients

The reset between two clients ends the transaction block, drops the prepared
statements and resets the settings that `RESET ALL` resets.  The settings that
it skips, among them the ones that say which role statements run as, are handed
on to the next client.
-/

namespace PgTransport.Properties

open PgTransport.Auth
open PgTransport.Backend
open PgTransport.Postgres
open PgTransport.Transition

section Isolation

variable [SettingTable]

/-- A client leaves every setting that `RESET ALL` skips at its value of the
start, outside of the block that it leaves open. -/
def LeavesSkipped (library : Library) (session : SessionState) (client : Client) : Prop :=
  client.outcome ≠ .unwinds → client.resets = true →
    ∀ name, noResetAll name = true → (wireRun library session client).settings name = boot name

/-- The next client, if there is one, finds the slot as it was at its start. -/
def FindsBoot (library : Library) (session : SessionState) (client : Client) : Prop :=
  ∀ next, fdHandoff library session client = some next → next = .atBoot

theorem resetAllOptions_eq_boot_iff (settings : Settings) :
    settings.resetAllOptions = boot ↔
      ∀ name, noResetAll name = true → settings name = boot name := by
  constructor
  · intro same name skipped
    rw [← same]
    simp [Settings.resetAllOptions, skipped]
  · intro left
    funext name
    cases skipped : noResetAll name with
    | false => simp [Settings.resetAllOptions, skipped]
    | true => simp [Settings.resetAllOptions, skipped, left name skipped]

/-- One reset restores the slot exactly if the settings that it skips were left
alone. -/
theorem findsBoot_iff (library : Library) (session : SessionState) (client : Client) :
    FindsBoot library session client ↔ LeavesSkipped library session client := by
  constructor
  · intro finds returned resets
    have same := finds _ (fdHandoff_eq_some_iff.mpr ⟨returned, resets, rfl⟩)
    exact (resetAllOptions_eq_boot_iff _).mp (congrArg SessionState.settings same)
  · intro leaves next handed
    obtain ⟨returned, resets, rfl⟩ := fdHandoff_eq_some_iff.mp handed
    rw [(resetAllOptions_eq_boot_iff _).mpr (leaves returned resets)]
    rfl

/-- In a run of clients that leave the skipped settings alone, every client finds
the slot as it was at its start. -/
theorem atBoot_of_run {library : Library} {clients : List Client} {session : SessionState}
    (run : RunWith (slots library) (fun source client _ => LeavesSkipped library source client)
      .atBoot clients session) : session = .atBoot := by
  have keeps : ∀ source client target, source = SessionState.atBoot →
      (slots library).step source client target → LeavesSkipped library source client →
        target = SessionState.atBoot := by
    intro source client target _ step leaves
    exact (findsBoot_iff library source client).mpr leaves target step
  exact @RunWith.preserves _ _ (slots library) _ (· = SessionState.atBoot) _ _ _ keeps run rfl

end Isolation

/-- A server with no settings but those that say which role statements run as. -/
@[reducible]
def roleSettings : SettingTable where
  boot name :=
    if name = "role" then "none".toList
    else if name = "session_authorization" then "postgres".toList
    else []
  noResetAll name := name = "role" || name = "session_authorization"
  checkHook _ _ _ := true
  role_noResetAll := rfl
  session_authorization_noResetAll := rfl
  boot_role := rfl

end PgTransport.Properties
