import PgTransport.Backend.Observability

/-!
# What the observability guards restore

One relation says how globals may differ from earlier ones where only whole scopes, changes
of `statement_timeout` and the expiry of the timer lie between.  While a guard is
installed, dropping it at once would lead to globals that are so related to those it
found; every step keeps this true of every open scope.
-/

namespace PgTransport.Properties

open PgTransport.Backend
open PgTransport.Transition

/-! ## Globals that were kept -/

/-- The timer is the one that ran earlier, unless that one has expired. -/
def TimerKept (expired : List Nat) (earlier now : Option Nat) : Prop :=
  now = earlier ∨ now = none ∧ ∃ arming ∈ expired, earlier = some arming

/-- The globals are as they were earlier, except that a timer that ran may have expired
and that the activity is idle if a drop has reported one since. -/
structure GlobalsKept (expired : List Nat) (earlier : Globals) (reportsEarlier : Nat)
    (now : Globals) (reports : Nat) : Prop where
  debugQueryString : now.debugQueryString = earlier.debugQueryString
  timer : TimerKept expired earlier.timer now.timer
  later : reportsEarlier ≤ reports
  activity : now.stState = if reports = reportsEarlier then earlier.stState else .idle

variable {expired : List Nat} {earlier between now : Globals}
  {reportsEarlier reportsBetween reports : Nat}

theorem TimerKept.trans {first second third : Option Nat}
    (before : TimerKept expired first second) (after : TimerKept expired second third) :
    TimerKept expired first third := by
  rcases before with rfl | ⟨rfl, stopped⟩
  · exact after
  · rcases after with rfl | ⟨_, arming, _, impossible⟩
    · exact .inr ⟨rfl, stopped⟩
    · cases impossible

theorem TimerKept.mono {first second : Option Nat} (kept : TimerKept expired first second)
    (arming : Nat) : TimerKept (arming :: expired) first second := by
  rcases kept with same | ⟨stopped, other, member, ran⟩
  · exact .inl same
  · exact .inr ⟨stopped, other, List.mem_cons_of_mem _ member, ran⟩

/-- A timer that ran earlier and does not run any more has expired. -/
theorem TimerKept.runs {first second : Option Nat} (kept : TimerKept expired first second)
    {arming : Nat} (ran : first = some arming) : second = some arming ∨ arming ∈ expired := by
  rcases kept with same | ⟨_, other, member, same⟩
  · exact .inl (same.trans ran)
  · cases same.symm.trans ran
    exact .inr member

theorem GlobalsKept.refl (expired : List Nat) (globals : Globals) (reports : Nat) :
    GlobalsKept expired globals reports globals reports where
  debugQueryString := rfl
  timer := .inl rfl
  later := Nat.le_refl _
  activity := by rw [if_pos rfl]

theorem GlobalsKept.trans
    (before : GlobalsKept expired earlier reportsEarlier between reportsBetween)
    (after : GlobalsKept expired between reportsBetween now reports) :
    GlobalsKept expired earlier reportsEarlier now reports where
  debugQueryString := after.debugQueryString.trans before.debugQueryString
  timer := before.timer.trans after.timer
  later := Nat.le_trans before.later after.later
  activity := by
    have less := before.later
    have more := after.later
    rw [after.activity, before.activity]
    by_cases same : reports = reportsBetween
    · rw [if_pos same, same]
    · rw [if_neg same, if_neg (by omega)]

theorem GlobalsKept.mono (kept : GlobalsKept expired earlier reportsEarlier now reports)
    (arming : Nat) :
    GlobalsKept (arming :: expired) earlier reportsEarlier now reports :=
  { kept with timer := kept.timer.mono arming }

/-- A change of `statement_timeout` keeps the globals. -/
theorem GlobalsKept.setStatementTimeout (expired : List Nat) (globals : Globals) (reports : Nat)
    (value : Int) :
    GlobalsKept expired globals reports { globals with statementTimeout := value } reports :=
  { GlobalsKept.refl expired globals reports with }

/-- So does the expiry of the timer. -/
theorem GlobalsKept.timerExpires (expired : List Nat) {globals : Globals} (reports : Nat)
    {arming : Nat} (runs : globals.timer = some arming) :
    GlobalsKept (arming :: expired) globals reports globals.disableTimeout reports :=
  { GlobalsKept.refl (arming :: expired) globals reports with
    timer := .inr ⟨rfl, arming, List.mem_cons_self, runs⟩ }

/-- A drop keeps what was kept before. -/
theorem GlobalsKept.drop (kept : GlobalsKept expired earlier reportsEarlier now reports)
    (guard : Guard) :
    GlobalsKept expired (guard.drop earlier) (reportsEarlier + guard.reports.toNat)
      (guard.drop now) (reports + guard.reports.toNat) := by
  cases guard with
  | debugQuery guard =>
      constructor
      · rfl
      · exact kept.timer
      · exact Nat.succ_le_succ kept.later
      · exact (ite_self _).symm
  | statementTimeout guard =>
      simp only [Guard.drop, StatementTimeoutGuard.drop]
      split
      · exact { kept with timer := .inl rfl }
      · exact kept

/-! ## Open scopes -/

/-- Dropping the guard of a scope at once would restore what it found. -/
def Restores (scope : OpenScope) (expired : List Nat) (globals : Globals) (reports : Nat) : Prop :=
  GlobalsKept expired scope.found scope.reportsFound (scope.guard.drop globals)
    (reports + scope.guard.reports.toNat)

/-- Every open scope restores what it found, once the scope inside of it is closed. -/
def Chain (expired : List Nat) : List OpenScope → Globals → Nat → Prop
  | [], _, _ => True
  | scope :: installed, globals, reports =>
      Restores scope expired globals reports ∧
        Chain expired installed scope.found scope.reportsFound

theorem Chain.mono {installed : List OpenScope} (chain : Chain expired installed now reports)
    (arming : Nat) : Chain (arming :: expired) installed now reports := by
  induction installed generalizing now reports with
  | nil => trivial
  | cons scope installed inductionHypothesis =>
      exact ⟨chain.1.mono arming, inductionHypothesis chain.2⟩

/-- What keeps the globals keeps the chain. -/
theorem Chain.kept {installed : List OpenScope}
    (chain : Chain expired installed earlier reportsEarlier)
    (kept : GlobalsKept expired earlier reportsEarlier now reports) :
    Chain expired installed now reports := by
  cases installed with
  | nil => trivial
  | cons scope installed => exact ⟨chain.1.trans (kept.drop scope.guard), chain.2⟩

/-- A guard that has just been installed would restore what it found. -/
theorem restores_installDebugQuery (sql : String) (expired : List Nat) (globals : Globals)
    (reports : Nat) :
    Restores ⟨.debugQuery (DebugQueryGuard.install sql globals).1, globals, reports⟩ expired
      (DebugQueryGuard.install sql globals).2 reports := by
  constructor
  · rfl
  · exact .inl rfl
  · exact Nat.le_succ reports
  · exact (if_neg (Nat.succ_ne_self reports)).symm

theorem restores_installStatementTimeout (expired : List Nat) (globals : Globals)
    (reports : Nat) :
    Restores ⟨.statementTimeout (StatementTimeoutGuard.install globals).1, globals, reports⟩
      expired (StatementTimeoutGuard.install globals).2 reports := by
  have same := GlobalsKept.refl expired globals reports
  unfold StatementTimeoutGuard.install
  split
  · exact same
  · split
    · exact same
    · next stopped =>
      have none : globals.timer = none := by simpa [Globals.getTimeoutActive] using stopped
      exact { same with timer := .inl none.symm }

/-- Every step keeps the chain. -/
theorem chain_step {before after : Scopes} {event : ScopeEvent}
    (chain : Chain before.expired before.installed before.globals before.reports)
    (step : before.step event = some after) :
    Chain after.expired after.installed after.globals after.reports := by
  cases event with
  | installDebugQuery sql =>
      cases step
      exact ⟨restores_installDebugQuery sql _ _ _, chain⟩
  | installStatementTimeout =>
      cases step
      exact ⟨restores_installStatementTimeout _ _ _, chain⟩
  | dropLast =>
      simp only [Scopes.step] at step
      split at step
      · cases step
      · next last installed opened =>
        cases step
        rw [opened] at chain
        exact chain.2.kept chain.1
  | setStatementTimeout value =>
      cases step
      exact chain.kept (.setStatementTimeout _ _ _ value)
  | timerExpires =>
      simp only [Scopes.step] at step
      split at step
      · cases step
      · next arming runs =>
        cases step
        exact (chain.mono arming).kept (.timerExpires _ _ runs)

theorem chain_invariant :
    Invariant scopes fun state =>
      Chain state.expired state.installed state.globals state.reports where
  initial state start := by
    rw [start.1]
    trivial
  step _ _ _ chain step := chain_step chain step

/-- A drop starts no timer. -/
theorem timer_of_drop {guard : Guard} {globals : Globals} {arming : Nat}
    (runs : (guard.drop globals).timer = some arming) : globals.timer = some arming := by
  cases guard with
  | debugQuery guard => exact runs
  | statementTimeout guard =>
      simp only [Guard.drop, StatementTimeoutGuard.drop] at runs
      split at runs
      · cases runs
      · exact runs

/-- The timer that a guard of the chain found still runs, or it has expired. -/
theorem Chain.timer_runs {installed : List OpenScope} (chain : Chain expired installed now reports)
    {scope : OpenScope} (listed : scope ∈ installed) {arming : Nat}
    (ran : scope.found.timer = some arming) : now.timer = some arming ∨ arming ∈ expired := by
  induction installed generalizing now reports with
  | nil => cases listed
  | cons last installed inductionHypothesis =>
      have found : last.found.timer = some arming ∨ arming ∈ expired := by
        rcases List.mem_cons.mp listed with rfl | deeper
        · exact .inl ran
        · exact inductionHypothesis chain.2 deeper
      rcases found with runs | gone
      · exact (chain.1.timer.runs runs).imp_left timer_of_drop
      · exact .inr gone

/-! ## What the guards restore -/

/-- The activity behind the drop of a scope: idle behind a `DebugQueryGuard`, and
behind a `StatementTimeoutGuard` what it found, unless a `DebugQueryGuard` has been
dropped since. -/
def ReportsActivity (scope : OpenScope) (after : Scopes) : Prop :=
  match scope.guard with
  | .debugQuery _ => after.globals.stState = .idle
  | .statementTimeout _ =>
      after.globals.stState =
        if after.reports = scope.reportsFound then scope.found.stState else .idle

/-- Whatever happens between installs and drops, the drop of the innermost guard puts
back the `debug_query_string` and the timer that it found, unless this timer has
expired, and reports an activity.  While guards are installed, a timer that one of
them found runs on until it expires. -/
theorem guards_restore {state : Scopes} (reached : Reachable scopes state) :
    (∀ scope installed after, state.installed = scope :: installed →
      scopes.step state .dropLast after →
      after.globals.debugQueryString = scope.found.debugQueryString ∧
        TimerKept after.expired scope.found.timer after.globals.timer ∧
        ReportsActivity scope after) ∧
      ∀ scope ∈ state.installed, ∀ arming, scope.found.timer = some arming →
        state.globals.timer = some arming ∨ arming ∈ state.expired := by
  have chain := chain_invariant.reachable reached
  constructor
  · intro scope installed after opened step
    rw [opened] at chain
    simp only [scopes, Scopes.step, opened, Option.some.injEq] at step
    subst step
    have restored := chain.1
    refine ⟨restored.debugQueryString, restored.timer, ?_⟩
    unfold ReportsActivity
    split
    · next guard same => rw [same]; rfl
    · exact restored.activity
  · exact fun scope listed arming ran => chain.timer_runs listed ran

/-- A backend that waits for a query. -/
def quietBackend : Globals :=
  ⟨none, .idle, "", 1000, none, 0⟩

/-- The backend in the middle of a query. -/
def querying : Globals :=
  ⟨some "SELECT f()", .running, "SELECT f()", 1000, some 0, 1⟩

/-- The query runs another one. -/
def nested : Scopes :=
  ⟨⟨some "SELECT 1", .running, "SELECT 1", 1000, some 0, 1⟩,
    [⟨.debugQuery ⟨some "SELECT f()"⟩, querying, 0⟩,
      ⟨.statementTimeout ⟨true⟩, { querying with timer := none, armings := 0 }, 0⟩,
      ⟨.debugQuery ⟨none⟩, quietBackend, 0⟩], [], 0⟩

theorem nested_reached : Reachable scopes nested :=
  ⟨⟨quietBackend, [], [], 0⟩,
    [.installDebugQuery "SELECT f()", .installStatementTimeout, .installDebugQuery "SELECT 1"],
    ⟨rfl, rfl, by rintro _ ⟨⟩⟩,
    .cons rfl trivial (.cons rfl trivial (.cons rfl trivial (.nil _)))⟩

/-- The inner query's guard puts the text of the outer one back and leaves its timer
alone. -/
theorem nested_restores :
    (DebugQueryGuard.drop ⟨some "SELECT f()"⟩ nested.globals).debugQueryString =
        some "SELECT f()" ∧
      (nested.globals.timer = some 0 ∨ 0 ∈ nested.expired) :=
  ⟨((guards_restore nested_reached).1 _ _ _ rfl rfl).1,
    (guards_restore nested_reached).2 _ List.mem_cons_self 0 rfl⟩

/-- But the outer query does not look as if it ran any more. -/
theorem nested_query_reported_idle :
    ¬∀ state scope installed after, Reachable scopes state →
      state.installed = scope :: installed → scopes.step state .dropLast after →
        after.globals.stState = scope.found.stState := by
  intro claim
  have same := claim nested _ _ _ nested_reached rfl rfl
  cases same

end PgTransport.Properties
