import Mathlib.Data.List.Basic
import PgTransport.Transition.Run

/-!
# Observability guards

Two guards act on what the rest of the backend observes of a query: one on
`debug_query_string` and the activity that `pg_stat_activity` shows, the other on the
statement timer.  They are installed and dropped like a stack, whatever way the scopes
are left; in between `statement_timeout` may change and the timer may expire.
-/

namespace PgTransport.Backend

open PgTransport.Transition

/-! ## What the guards act on -/

/-- `BackendState`. -/
inductive BackendState where
  | undefined
  | starting
  | idle
  | running
  | idleInTransaction
  | fastpath
  | idleInTransactionAborted
  | disabled
  deriving DecidableEq, Repr

/-- The globals of a backend.  A timer that runs is known by the number of its arming. -/
structure Globals where
  debugQueryString : Option String
  stState : BackendState
  stActivity : String
  statementTimeout : Int
  timer : Option Nat
  armings : Nat
  deriving DecidableEq, Repr

namespace Globals

/-- `pgstat_report_activity`, which leaves the query text alone without a new one. -/
def reportActivity (globals : Globals) (state : BackendState) (cmdStr : Option String) :
    Globals :=
  { globals with stState := state, stActivity := cmdStr.getD globals.stActivity }

/-- `get_timeout_active(STATEMENT_TIMEOUT)`. -/
def getTimeoutActive (globals : Globals) : Bool :=
  globals.timer.isSome

/-- `enable_timeout_after(STATEMENT_TIMEOUT, _)`: a timer that runs is restarted. -/
def enableTimeoutAfter (globals : Globals) : Globals :=
  { globals with timer := some globals.armings, armings := globals.armings + 1 }

/-- `disable_timeout(STATEMENT_TIMEOUT, _)`. -/
def disableTimeout (globals : Globals) : Globals :=
  { globals with timer := none }

end Globals

/-! ## The guards -/

/-- `DebugQueryGuard`. -/
structure DebugQueryGuard where
  prevDebugQueryString : Option String
  deriving DecidableEq, Repr

/-- `DebugQueryGuard::install`. -/
def DebugQueryGuard.install (sql : String) (globals : Globals) : DebugQueryGuard × Globals :=
  (⟨globals.debugQueryString⟩,
    { globals with debugQueryString := some sql }.reportActivity .running (some sql))

/-- `DebugQueryGuard::drop`. -/
def DebugQueryGuard.drop (guard : DebugQueryGuard) (globals : Globals) : Globals :=
  { globals with debugQueryString := guard.prevDebugQueryString }.reportActivity .idle none

/-- `StatementTimeoutGuard`. -/
structure StatementTimeoutGuard where
  armedByUs : Bool
  deriving DecidableEq, Repr

/-- `StatementTimeoutGuard::install`. -/
def StatementTimeoutGuard.install (globals : Globals) : StatementTimeoutGuard × Globals :=
  if globals.statementTimeout ≤ 0 then
    (⟨false⟩, globals)
  else if globals.getTimeoutActive then
    (⟨false⟩, globals)
  else
    (⟨true⟩, globals.enableTimeoutAfter)

/-- `StatementTimeoutGuard::drop`. -/
def StatementTimeoutGuard.drop (guard : StatementTimeoutGuard) (globals : Globals) : Globals :=
  if guard.armedByUs then globals.disableTimeout else globals

/-! ## Scopes -/

/-- A guard of either kind. -/
inductive Guard where
  | debugQuery (guard : DebugQueryGuard)
  | statementTimeout (guard : StatementTimeoutGuard)
  deriving DecidableEq, Repr

/-- The guard reports an activity when it is dropped. -/
def Guard.reports : Guard → Bool
  | .debugQuery _ => true
  | .statementTimeout _ => false

/-- `drop`. -/
def Guard.drop : Guard → Globals → Globals
  | .debugQuery guard => guard.drop
  | .statementTimeout guard => guard.drop

/-- A guard that is installed, with the globals it found and the number of reports
that drops had made before. -/
structure OpenScope where
  guard : Guard
  found : Globals
  reportsFound : Nat
  deriving DecidableEq, Repr

/-- The globals, the scopes that are open, the timers that have expired and the number
of reports that drops have made.  The last two are only there to be talked about. -/
structure Scopes where
  globals : Globals
  installed : List OpenScope
  expired : List Nat
  reports : Nat
  deriving DecidableEq, Repr

/-- What happens between two guards. -/
inductive ScopeEvent where
  | installDebugQuery (sql : String)
  | installStatementTimeout
  | dropLast
  | setStatementTimeout (value : Int)
  | timerExpires
  deriving DecidableEq, Repr

namespace Scopes

/-- One step; `none` if there is no guard to drop or no timer to expire. -/
def step (scopes : Scopes) : ScopeEvent → Option Scopes
  | .installDebugQuery sql =>
      let (guard, globals) := DebugQueryGuard.install sql scopes.globals
      some { scopes with
        globals
        installed := ⟨.debugQuery guard, scopes.globals, scopes.reports⟩ :: scopes.installed }
  | .installStatementTimeout =>
      let (guard, globals) := StatementTimeoutGuard.install scopes.globals
      some { scopes with
        globals
        installed :=
          ⟨.statementTimeout guard, scopes.globals, scopes.reports⟩ :: scopes.installed }
  | .dropLast =>
      match scopes.installed with
      | [] => none
      | last :: installed =>
          some { scopes with
            globals := last.guard.drop scopes.globals
            installed
            reports := scopes.reports + last.guard.reports.toNat }
  | .setStatementTimeout value =>
      some { scopes with globals := { scopes.globals with statementTimeout := value } }
  | .timerExpires =>
      match scopes.globals.timer with
      | none => none
      | some arming =>
          some { scopes with
            globals := scopes.globals.disableTimeout
            expired := arming :: scopes.expired }

end Scopes

/-- Scopes as a transition system.  It starts with any globals; the armings to come
have new numbers. -/
def scopes : System Scopes ScopeEvent where
  initial scopes := scopes.installed = [] ∧ scopes.expired = [] ∧
    ∀ arming, scopes.globals.timer = some arming → arming < scopes.globals.armings
  step source event target := source.step event = some target

end PgTransport.Backend
