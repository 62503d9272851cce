import Mathlib.Logic.Function.Basic

/-!
# What a session keeps between statements

The settings of a backend, with the transactional behaviour of `SET`, and its
prepared statements.  An open transaction block carries the settings of its own
that its end keeps or drops, so that the settings outside of it are those that
an abort returns to.

The catalogue of settings is a parameter: their values at the start of a
backend, which of them `RESET ALL` skips, and which values a check hook accepts.
-/

namespace PgTransport.Postgres

/-- The values of all settings; a setting that is not defined has the value of
the start. -/
abbrev Settings : Type :=
  String → List Char

/-- The settings of a server. -/
class SettingTable where
  boot : Settings
  noResetAll : String → Bool
  checkHook : Settings → String → List Char → Bool
  role_noResetAll : noResetAll "role" = true
  session_authorization_noResetAll : noResetAll "session_authorization" = true
  boot_role : boot "role" = "none".toList

export SettingTable (boot noResetAll checkHook)

/-- The settings of a server with its roles: which names are roles, and which of
them a role may switch to.  A check hook lets a superuser's session change its
user to any role. -/
class RoleTable extends SettingTable where
  isRole : List Char → Bool
  mayBecome : List Char → List Char → Bool
  checkHook_session_authorization : ∀ values role,
    checkHook values "session_authorization" role = isRole role

export RoleTable (isRole mayBecome)

namespace Settings

/-- The role that statements run as. -/
def effectiveRole (values : Settings) : List Char :=
  if values "role" = "none".toList then values "session_authorization" else values "role"

/-- A setting takes a value; a change of the session's user ends `SET ROLE`. -/
def assign (values : Settings) (name : String) (value : List Char) : Settings :=
  if name = "session_authorization" then
    Function.update (Function.update values name value) "role" "none".toList
  else
    Function.update values name value

/-- `ResetAllOptions`. -/
def resetAllOptions [SettingTable] (values : Settings) : Settings :=
  fun name => if noResetAll name then values name else boot name

theorem effectiveRole_assign_session_authorization (values : Settings) (role : List Char) :
    (values.assign "session_authorization" role).effectiveRole = role := by
  simp [effectiveRole, assign, Function.update]

end Settings

/-- The settings within a transaction block: the values in force, and those that
a commit keeps. -/
structure Scope where
  current : Settings
  lasting : Settings

/-- An open transaction block. -/
structure OpenBlock where
  aborted : Bool
  scope : Scope
  savepoints : List (String × Scope)

/-- The statements that were prepared under a name. -/
abbrev Prepared : Type :=
  String → Option (List Char)

/-- A session between two statements: the settings outside of the open block,
the block, and the statements prepared by SQL and on the wire. -/
structure SessionState where
  settings : Settings
  block : Option OpenBlock
  preparedQueries : Prepared
  wireStatements : Prepared

/-- Client commands, by what they do to the session. -/
inductive Command where
  | begin
  | commit
  | rollback
  | savepoint (name : String)
  | rollbackTo (name : String)
  | release (name : String)
  | set (name : String) (value : List Char)
  | setLocal (name : String) (value : List Char)
  | reset (name : String)
  | resetAll
  | discardAll
  | prepare (name : String) (statement : List Char)
  | deallocate (name : String)
  | deallocateAll
  | parse (name : String) (statement : List Char)
  | close (name : String)
  | statement (fails : Bool)
  deriving DecidableEq, Repr

namespace SessionState

/-- The values in force. -/
def values (session : SessionState) : Settings :=
  match session.block with
  | none => session.settings
  | some block => block.scope.current

/-- A backend at its start. -/
def atBoot [SettingTable] : SessionState :=
  ⟨boot, none, fun _ => none, fun _ => none⟩

/-- A statement fails: the innermost level of an open block is undone. -/
def fail (session : SessionState) : SessionState :=
  match session.block with
  | none => session
  | some block =>
      let restored := match block.savepoints with
        | [] => ⟨session.settings, session.settings⟩
        | (_, scope) :: _ => scope
      { session with block := some { block with aborted := true, scope := restored } }

/-- Update the values in force and the values to keep. -/
def setBoth (update : Settings → Settings) (session : SessionState) : SessionState :=
  match session.block with
  | none => { session with settings := update session.settings }
  | some block =>
      { session with block := some { block with
          scope := ⟨update block.scope.current, update block.scope.lasting⟩ } }

/-- `BEGIN`. -/
def begin (session : SessionState) : SessionState :=
  match session.block with
  | none =>
      { session with block := some ⟨false, ⟨session.settings, session.settings⟩, []⟩ }
  | some _ => session

/-- `COMMIT`; an aborted block is rolled back. -/
def commit (session : SessionState) : SessionState :=
  match session.block with
  | none => session
  | some block =>
      { session with
        settings := if block.aborted then session.settings else block.scope.lasting
        block := none }

/-- `ROLLBACK`, and the abort of a transaction from outside. -/
def rollback (session : SessionState) : SessionState :=
  { session with block := none }

/-- The savepoints from the innermost one of that name. -/
def downTo (name : String) (savepoints : List (String × Scope)) : List (String × Scope) :=
  savepoints.dropWhile fun savepoint => savepoint.1 ≠ name

/-- Run a command in a session without a failed block. -/
def run [SettingTable] (session : SessionState) : Command → SessionState
  | .begin => session.begin
  | .commit => session.commit
  | .rollback => session.rollback
  | .savepoint name =>
      match session.block with
      | none => session
      | some block =>
          { session with block := some { block with
              savepoints := (name, block.scope) :: block.savepoints } }
  | .rollbackTo name =>
      match session.block with
      | none => session
      | some block =>
          match downTo name block.savepoints with
          | [] => session.fail
          | (name, scope) :: rest =>
              { session with block := some ⟨false, scope, (name, scope) :: rest⟩ }
  | .release name =>
      match session.block with
      | none => session
      | some block =>
          match downTo name block.savepoints with
          | [] => session.fail
          | _ :: rest => { session with block := some { block with savepoints := rest } }
  | .set name value =>
      if checkHook session.values name value then
        session.setBoth fun values => values.assign name value
      else
        session.fail
  | .setLocal name value =>
      if checkHook session.values name value then
        match session.block with
        | none => session
        | some block =>
            { session with block := some { block with
                scope := { block.scope with current := block.scope.current.assign name value } } }
      else
        session.fail
  | .reset name => session.setBoth fun values => values.assign name (boot name)
  | .resetAll => session.setBoth Settings.resetAllOptions
  | .discardAll =>
      match session.block with
      | none =>
          { session with
            settings := (session.settings.assign "session_authorization"
              (boot "session_authorization")).resetAllOptions
            preparedQueries := fun _ => none }
      | some _ => session.fail
  | .prepare name statement =>
      match session.preparedQueries name with
      | none =>
          { session with
            preparedQueries := Function.update session.preparedQueries name (some statement) }
      | some _ => session.fail
  | .deallocate name =>
      { session with preparedQueries := Function.update session.preparedQueries name none }
  | .deallocateAll => { session with preparedQueries := fun _ => none }
  | .parse name statement =>
      { session with
        wireStatements := Function.update session.wireStatements name (some statement) }
  | .close name =>
      { session with wireStatements := Function.update session.wireStatements name none }
  | .statement fails => if fails then session.fail else session

/-- The block of the session has failed. -/
def isAborted (session : SessionState) : Bool :=
  match session.block with
  | none => false
  | some block => block.aborted

/-- A failed block takes the commands that end it, and those of the wire that
close a statement. -/
def execute [SettingTable] (session : SessionState) (command : Command) : SessionState :=
  if session.isAborted then
    match command with
    | .commit | .rollback | .rollbackTo _ | .close _ => session.run command
    | _ => session
  else
    session.run command

/-- Run a list of commands. -/
def executeAll [SettingTable] (session : SessionState) (commands : List Command) :
    SessionState :=
  commands.foldl execute session

end SessionState

end PgTransport.Postgres
