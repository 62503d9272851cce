import PgTransport.Backend.Batch

/-!
# The outcome of a statement

The body of a bracket ends in one of three ways: it succeeds, it raises, or it
is refused with an error value and without raising.  Which of them happens is
decided by the server's answers.  The difference between the last two matters,
since a bracket rolls back what raises and commits what is refused.
-/

namespace PgTransport.Backend

open PgTransport.Computation
open PgTransport.Postgres
open PgTransport.Wire

variable {E : Type} {α β : Type}

/-- How the body of a bracket ends. -/
inductive Verdict where
  | succeeds
  | raises
  | refuses
  deriving DecidableEq, Repr

/-- From every state the body does its work and then ends by its verdict: it
returns an answer, it unwinds, or it returns an error. -/
def EndsAs (body : PgM E (PgWireResult α)) (verdict : Verdict) (effects : List E)
    (answers : α → Prop) : Prop :=
  ∀ pg, match verdict with
    | .succeeds => ∃ value, answers value ∧ body pg = (.ret (.ok value), pg.work effects)
    | .raises => ∃ payload depth,
        body pg = (.unwind payload, (pg.work effects).atSpiDepth depth)
    | .refuses => ∃ err, body pg = (.ret (.error err), pg.work effects)

namespace EndsAs

variable {body : PgM E (PgWireResult α)} {effects : List E} {answers : α → Prop}

theorem succeeds {value : α} (answer : answers value)
    (run : ∀ pg, body pg = (.ret (.ok value), pg.work effects)) :
    EndsAs body .succeeds effects answers :=
  fun pg => ⟨value, answer, run pg⟩

theorem raises (payload : Payload)
    (run : ∀ pg, body pg = (.unwind payload, pg.work effects)) :
    EndsAs body .raises effects answers :=
  fun pg => ⟨payload, (pg.work effects).spiDepth, run pg⟩

theorem refuses (err : PgWireError)
    (run : ∀ pg, body pg = (.ret (.error err), pg.work effects)) :
    EndsAs body .refuses effects answers :=
  fun pg => ⟨err, run pg⟩

/-- A body that just returns a value. -/
theorem value {value : α} (answer : answers value) :
    EndsAs (pure (.ok value) : PgM E (PgWireResult α)) .succeeds [] answers :=
  .succeeds answer fun pg => by simp

/-- A body that just returns an error. -/
theorem error (err : PgWireError) :
    EndsAs (pure (.error err) : PgM E (PgWireResult α)) .refuses [] answers :=
  .refuses err fun pg => by simp

/-- A server call that raises ends the body. -/
theorem raised (work : β → List E) (report : ErrorReport)
    (next : β → PgM E (PgWireResult α)) :
    EndsAs (callPg work (.error report) >>= next) .raises [] answers :=
  .raises (.caughtError report) fun pg => by simp

/-- A server call that returns does its work before what follows. -/
theorem called {verdict : Verdict} (work : β → List E) (value : β)
    {next : β → PgM E (PgWireResult α)} (ends : EndsAs (next value) verdict effects answers) :
    EndsAs (callPg work (.ok value) >>= next) verdict (work value ++ effects) answers := by
  intro pg
  have rest := ends (pg.work (work value))
  cases verdict with
  | succeeds =>
      obtain ⟨result, answer, run⟩ := rest
      exact ⟨result, answer, by simp [run, Pg.work_work]⟩
  | raises =>
      obtain ⟨payload, depth, run⟩ := rest
      exact ⟨payload, depth, by simp [run, Pg.work_work]⟩
  | refuses =>
      obtain ⟨err, run⟩ := rest
      exact ⟨err, by simp [run, Pg.work_work]⟩

/-- Change the value of an answer of which nothing is known. -/
theorem map {verdict : Verdict} (ends : EndsAs body verdict effects fun _ => True)
    (change : α → β) :
    EndsAs (do let result ← body; pure (result.map change)) verdict effects
      fun _ => True := by
  intro pg
  have here := ends pg
  cases verdict with
  | succeeds =>
      obtain ⟨value, _, run⟩ := here
      exact ⟨change value, trivial, by simp [run, Except.map]⟩
  | raises =>
      obtain ⟨payload, depth, run⟩ := here
      exact ⟨payload, depth, by simp [run]⟩
  | refuses =>
      obtain ⟨err, run⟩ := here
      exact ⟨err, by simp [run, Except.map]⟩

/-- Weaken what the answer is known to satisfy. -/
theorem imp {verdict : Verdict} {weaker : α → Prop}
    (ends : EndsAs body verdict effects answers)
    (implies : ∀ value, answers value → weaker value) :
    EndsAs body verdict effects weaker := by
  intro pg
  have here := ends pg
  cases verdict with
  | succeeds =>
      obtain ⟨value, answer, run⟩ := here
      exact ⟨value, implies value answer, run⟩
  | raises => exact here
  | refuses => exact here

/-- What a body returns satisfies what its answers are known to satisfy. -/
theorem returns {verdict : Verdict} (ends : EndsAs body verdict effects answers) :
    Returns body fun result => ∀ value, result = .ok value → answers value := by
  intro pg result final run value same
  subst same
  cases verdict with
  | succeeds =>
      obtain ⟨other, answer, returned⟩ := ends pg
      cases run.symm.trans returned
      exact answer
  | raises =>
      obtain ⟨payload, depth, raised⟩ := ends pg
      cases run.symm.trans raised
  | refuses =>
      obtain ⟨err, refused⟩ := ends pg
      cases run.symm.trans refused

end EndsAs

/-- How an SPI session ends around a body that ends by `body`. -/
def SpiRcs.settle (rcs : SpiRcs) (body : Verdict) : Verdict :=
  if rcs.connect ≠ SPI_OK_CONNECT then
    .refuses
  else if body = .succeeds ∧ rcs.finish ≠ SPI_OK_FINISH then
    .refuses
  else
    body

/-- The work of an SPI session around a body: none where it does not connect. -/
def SpiRcs.performed (rcs : SpiRcs) (effects : List E) : List E :=
  if rcs.connect = SPI_OK_CONNECT then effects else []

/-- An SPI session passes the ending of its body on unless it fails itself. -/
theorem EndsAs.spiSession {body : PgM E (PgWireResult α)} {verdict : Verdict}
    {effects : List E} {answers : α → Prop} (rcs : SpiRcs)
    (ends : EndsAs body verdict effects answers) :
    EndsAs (spiSession rcs body) (rcs.settle verdict) (rcs.performed effects)
      answers := by
  intro pg
  by_cases connected : rcs.connect = SPI_OK_CONNECT
  · rw [show rcs.performed effects = effects from if_pos connected]
    have inside := ends { pg with spiDepth := pg.spiDepth + 1 }
    cases verdict with
    | succeeds =>
        obtain ⟨value, answer, run⟩ := inside
        by_cases finished : rcs.finish = SPI_OK_FINISH
        · simp only [SpiRcs.settle, connected, finished, ne_eq, not_true_eq_false,
            and_false, if_false]
          exact ⟨value, answer, by
            simp [Backend.spiSession, spiConnect, spiFinish, Pg.closeSession, connected, run,
              finished, Pg.work, Pg.mapXact]⟩
        · simp only [SpiRcs.settle, connected, finished, ne_eq, not_true_eq_false,
            not_false_eq_true, and_self, if_false, if_true]
          exact ⟨spiRcError "SPI_finish" rcs.finish, by
            simp [Backend.spiSession, spiConnect, spiFinish, Pg.closeSession, connected, run,
              finished, Pg.work, Pg.mapXact, PgWireResult.andError]⟩
    | raises =>
        obtain ⟨payload, depth, run⟩ := inside
        simp only [SpiRcs.settle, connected, ne_eq, not_true_eq_false, reduceCtorEq,
          false_and, if_false]
        exact ⟨payload, depth, by
          simp [Backend.spiSession, spiConnect, connected, run, Pg.work, Pg.mapXact,
            Pg.atSpiDepth]⟩
    | refuses =>
        obtain ⟨err, run⟩ := inside
        simp only [SpiRcs.settle, connected, ne_eq, not_true_eq_false, reduceCtorEq,
          false_and, if_false]
        exact ⟨err, by
          by_cases finished : rcs.finish = SPI_OK_FINISH <;>
            simp [Backend.spiSession, spiConnect, spiFinish, Pg.closeSession, connected, run,
              finished, Pg.work, Pg.mapXact, PgWireResult.andError]⟩
  · rw [show rcs.performed effects = [] from if_neg connected]
    simp only [SpiRcs.settle, ne_eq, connected, not_false_eq_true, if_true]
    exact ⟨spiRcError "SPI_connect" rcs.connect, by
      simp [Backend.spiSession, spiConnect, connected]⟩

/-! ## When a bracket answers -/

/-- The block states from which a bracket with a snapshot reaches its body. -/
def Serves (blockState : TBlockState) : Prop :=
  blockState = .default ∨ blockState = .inprogress ∨ blockState = .implicitInprogress

section Bracket

variable {body : PgM E (PgWireResult α)} {verdict : Verdict} {effects : List E}
  {answers : α → Prop} {finish : Option ErrorReport} {pg : Pg E}

/-- Where the bracket reaches its body, the commit at its end raises what
`finish` says and nothing else. -/
theorem enter_serves (serves : Serves pg.xact.blockState) :
    ∃ inside : Pg E, (do startTransactionCommand; pushIfNeeded true) pg =
        (.ret (), inside.hold true) ∧
      ∀ effects, ∃ raised after, ∀ finish,
        commitTransactionCommand finish (inside.work effects) =
          match finish with
          | none => (.ret (), after)
          | some report => (.unwind (.caughtError report), raised) := by
  rcases serves with state | state | state
  · refine ⟨pg.begun true, enter_default state, fun effects =>
      ⟨(pg.begun true).work effects,
        ((pg.begun true).work effects).mapXact Xact.commitTransaction, fun finish => ?_⟩⟩
    cases finish <;> simp [commitTransactionCommand]
  · refine ⟨pg.joined true, enter_inprogress state, fun effects =>
      ⟨(pg.joined true).work effects, (pg.joined true).work effects, fun finish => ?_⟩⟩
    cases finish <;> simp [commitTransactionCommand, commandCounterIncrement, state]
  · refine ⟨pg.joined true, ?_, fun effects =>
      ⟨(pg.joined true).work effects, (pg.joined true).work effects, fun finish => ?_⟩⟩
    · simp [startTransactionCommand, state, pushIfNeeded, pushTransactionSnapshot,
        Xact.isAbortedTransactionBlockState, Pg.joined, Pg.hold, Pg.mapXact]
    · cases finish <;> simp [commitTransactionCommand, commandCounterIncrement, state]

/-- From every other state it does not return at all. -/
theorem withXact_not_serves (stuck : ¬Serves pg.xact.blockState)
    (body : PgM E (PgWireResult α)) (result : PgWireResult α) (after : Pg E) :
    withXact true finish body pg ≠ (.ret result, after) := by
  by_cases aborted : pg.xact.blockState = .abort
  · simp [withXact_abort aborted]
  · cases state : pg.xact.blockState <;> simp [Serves, state] at stuck aborted <;>
      simp [withXact, startTransactionCommand, state]

/-- A bracket with a snapshot returns a value exactly if it reaches its body,
the body succeeds and the commit does not raise. -/
theorem withXact_answers_iff (ends : EndsAs body verdict effects answers) :
    (∃ value after, withXact true finish body pg = (.ret (.ok value), after)) ↔
      verdict = .succeeds ∧ finish = none ∧ Serves pg.xact.blockState := by
  by_cases serves : Serves pg.xact.blockState
  · obtain ⟨inside, enter, commit⟩ := enter_serves serves
    obtain ⟨raised, after, committed⟩ := commit effects
    have inner := ends (inside.hold true)
    rw [withXact_of_enter enter]
    cases verdict with
    | succeeds =>
        obtain ⟨value, _, run⟩ := inner
        rw [run, hold_work]
        cases finish <;> simp [leaveBracket, committed, serves]
    | raises =>
        obtain ⟨payload, depth, run⟩ := inner
        rw [run]
        simp [leaveBracket]
    | refuses =>
        obtain ⟨err, run⟩ := inner
        rw [run, hold_work]
        cases finish <;> simp [leaveBracket, committed]
  · constructor
    · rintro ⟨value, after, run⟩
      exact absurd run (withXact_not_serves serves body _ _)
    · rintro ⟨_, _, impossible⟩
      exact absurd impossible serves

/-- A bracket that reaches a body that succeeds, and whose commit does not raise,
returns the answer of the body. -/
theorem withXact_of_succeeds (ends : EndsAs body .succeeds effects answers)
    (serves : Serves pg.xact.blockState) :
    ∃ value after, answers value ∧ withXact true none body pg = (.ret (.ok value), after) := by
  obtain ⟨inside, enter, commit⟩ := enter_serves serves
  obtain ⟨raised, after, committed⟩ := commit effects
  obtain ⟨value, answer, run⟩ := ends (inside.hold true)
  refine ⟨value, after, answer, ?_⟩
  rw [withXact_of_enter enter, run, hold_work]
  simp [leaveBracket, committed]

/-- If the body fails, it returns an error. -/
theorem withXact_of_fails (ends : EndsAs body verdict effects answers)
    (fails : verdict ≠ .succeeds) (serves : Serves pg.xact.blockState) :
    ∃ err after, withXact true none body pg = (.ret (.error err), after) := by
  obtain ⟨inside, enter, commit⟩ := enter_serves serves
  obtain ⟨raised, after, committed⟩ := commit effects
  have inner := ends (inside.hold true)
  rw [withXact_of_enter enter]
  cases verdict with
  | succeeds => exact absurd rfl fails
  | raises =>
      obtain ⟨payload, depth, run⟩ := inner
      rw [run]
      exact ⟨panicToPgwire payload, _, rfl⟩
  | refuses =>
      obtain ⟨err, run⟩ := inner
      rw [run, hold_work]
      exact ⟨err, after, by simp [leaveBracket, committed]⟩

/-- What a bracket that is a transaction of its own commits of the work of its
body: all of it, unless the body or the commit raises. -/
def Verdict.committed (verdict : Verdict) (finish : Option ErrorReport) (effects : List E) :
    List E :=
  if verdict = .raises ∨ finish ≠ none then [] else effects

/-- Outside a block a bracket commits the work of its body, and it returns a
value exactly if the body succeeds and the commit does not raise. -/
theorem withXact_default_committed (finish : Option ErrorReport)
    (ends : EndsAs body verdict effects answers)
    (outside : pg.xact.blockState = .default) :
    ∃ outcome after, withXact true finish body pg = (outcome, after) ∧
      after.xact.committed = pg.xact.committed ++ verdict.committed finish effects ∧
      (∀ result, outcome = .ret result → after.xact.blockState = .default) ∧
      ((∃ value, outcome = .ret (.ok value)) ↔ verdict = .succeeds ∧ finish = none) := by
  have inner := ends ((pg.begun true).hold true)
  cases verdict with
  | succeeds =>
      obtain ⟨value, _, run⟩ := inner
      refine ⟨_, _, withXact_default_ret outside run, ?_⟩
      cases finish with
      | none => exact ⟨rfl, fun _ _ => rfl, by simp⟩
      | some report =>
          refine ⟨(List.append_nil _).symm, ?_, by simp⟩
          rintro result ⟨⟩
  | raises =>
      obtain ⟨payload, depth, run⟩ := inner
      exact ⟨_, _, withXact_default_unwind outside run, (List.append_nil _).symm,
        fun _ _ => rfl, by simp⟩
  | refuses =>
      obtain ⟨err, run⟩ := inner
      refine ⟨_, _, withXact_default_ret outside run, ?_⟩
      cases finish with
      | none => exact ⟨rfl, fun _ _ => rfl, by simp⟩
      | some report =>
          refine ⟨(List.append_nil _).symm, ?_, by simp⟩
          rintro result ⟨⟩

/-- The block states that `StartTransactionCommand` expects. -/
def Starts (blockState : TBlockState) : Prop :=
  Serves blockState ∨ blockState = .abort

/-- A bracket that does not reach its body unwinds only if it cannot start. -/
theorem withXact_unwinds_of_stuck (stuck : ¬Serves pg.xact.blockState)
    (body : PgM E (PgWireResult α)) :
    (∃ payload after, withXact true finish body pg = (.unwind payload, after)) ↔
      ¬Starts pg.xact.blockState := by
  by_cases aborted : pg.xact.blockState = .abort
  · simp [withXact_abort aborted, Starts, aborted]
  · cases state : pg.xact.blockState <;> simp [Serves, state] at stuck aborted <;>
      simp [withXact, startTransactionCommand, state, Starts, Serves]

/-- A bracket with a snapshot unwinds exactly if it cannot start, or if it
reaches its commit and the commit raises. -/
theorem withXact_unwinds_iff (ends : EndsAs body verdict effects answers) :
    (∃ payload after, withXact true finish body pg = (.unwind payload, after)) ↔
      ¬Starts pg.xact.blockState ∨
        Serves pg.xact.blockState ∧ verdict ≠ .raises ∧ finish ≠ none := by
  by_cases serves : Serves pg.xact.blockState
  · have starts : Starts pg.xact.blockState := .inl serves
    obtain ⟨inside, enter, commit⟩ := enter_serves serves
    obtain ⟨raised, after, committed⟩ := commit effects
    have inner := ends (inside.hold true)
    rw [withXact_of_enter enter]
    cases verdict with
    | succeeds =>
        obtain ⟨value, _, run⟩ := inner
        rw [run, hold_work]
        cases finish <;> simp [leaveBracket, committed, serves, starts]
    | raises =>
        obtain ⟨payload, depth, run⟩ := inner
        rw [run]
        simp [leaveBracket, starts]
    | refuses =>
        obtain ⟨err, run⟩ := inner
        rw [run, hold_work]
        cases finish <;> simp [leaveBracket, committed, serves, starts]
  · rw [withXact_unwinds_of_stuck serves]
    simp [serves]

end Bracket

/-! ## Encoding never fails on its own descriptor -/

theorem TupTable.encodeRow_total (table : TupTable) (rowIdx : Nat) (row : Row)
    (encoders : List ColumnEncoder) :
    ∀ col, col + encoders.length ≤ table.tupdesc.length →
      ∃ dataRow, table.encodeRow rowIdx row col encoders = .ok dataRow := by
  induction encoders with
  | nil => exact fun _ _ => ⟨[], rfl⟩
  | cons encoder encoders inductionHypothesis =>
      intro col fits
      rw [List.length_cons] at fits
      have inside : col < table.tupdesc.length := by omega
      obtain ⟨rest, run⟩ := inductionHypothesis (col + 1) (by omega)
      refine ⟨encodeCell encoder row[col]?.join :: rest, ?_⟩
      simp only [TupTable.encodeRow, TupTable.cell, inside, if_true, run]
      rfl

theorem TupTable.encodeRows_total (table : TupTable) {encoders : List ColumnEncoder}
    (fits : encoders.length ≤ table.tupdesc.length) (rows : List Row) :
    ∀ rowIdx, ∃ dataRows, table.encodeRows encoders rowIdx rows = .ok dataRows := by
  induction rows with
  | nil => exact fun _ => ⟨[], rfl⟩
  | cons row rows inductionHypothesis =>
      intro rowIdx
      obtain ⟨dataRow, first⟩ := table.encodeRow_total rowIdx row encoders 0 (by omega)
      obtain ⟨rest, run⟩ := inductionHypothesis (rowIdx + 1)
      refine ⟨dataRow :: rest, ?_⟩
      simp only [TupTable.encodeRows, first, run]
      rfl

/-! ## Statements of a simple query -/

/-- What `SPI_execute` answers to a statement: the refusal of a transaction
statement, or the server's answer. -/
def RawStmt.spiAnswer (stmt : RawStmt E) : Except ErrorReport (SpiResult E) :=
  match stmt.node with
  | .transactionStmt _ => .ok (.withoutTable SPI_ERROR_TRANSACTION [])
  | _ => stmt.spi

/-- How a statement that the bridge does not intercept ends on a backend. -/
def RawStmt.verdict (stmt : RawStmt E) : ExecutionBackend → Verdict
  | .spi =>
      stmt.spiRcs.settle <|
        match stmt.spiAnswer with
        | .error _ => .raises
        | .ok result => if result.rc < 0 then .refuses else .succeeds
  | .direct =>
      match stmt.portal with
      | .error _ => .raises
      | .ok _ => .succeeds

/-- The work a statement that is no transaction statement does on a backend. -/
def RawStmt.effects (stmt : RawStmt E) : ExecutionBackend → List E
  | .spi =>
      stmt.spiRcs.performed <|
        match stmt.spiAnswer with
        | .error _ => []
        | .ok result => result.effects
  | .direct =>
      match stmt.portal with
      | .error _ => []
      | .ok run => run.effects

theorem spiExecute_eq_callPg (stmt : RawStmt E) :
    spiExecute stmt = callPg SpiResult.effects stmt.spiAnswer := by
  cases node : stmt.node with
  | transactionStmt command =>
      funext pg
      simp [spiExecute, RawStmt.spiAnswer, node, callPg, perform, SpiResult.withoutTable]
  | fetchStmt ismove portalname => simp [spiExecute, RawStmt.spiAnswer, node]
  | other requiresAnalysis => simp [spiExecute, RawStmt.spiAnswer, node]

theorem runPortal_ordinary {node : Node} (ordinary : isTransactionStmt node = false)
    (portal : Except ErrorReport (PortalRun E)) :
    runPortal node portal = callPg PortalRun.effects portal := by
  cases node with
  | transactionStmt command => cases ordinary
  | fetchStmt ismove portalname => rfl
  | other requiresAnalysis => rfl

section Rows

variable [TypeTable]

/-- The response is the one the backend shapes from the server's answer to the
statement. -/
def RawStmt.Answers (stmt : RawStmt E) (backend : ExecutionBackend)
    (response : Response) : Prop :=
  match backend with
  | .spi => ∃ result, stmt.spiAnswer = .ok result ∧
      spiResponse (fetchFormat stmt.stmtMeta.fetchPortalname stmt.cursorIsBinary) result =
        .ok [response]
  | .direct => ∃ run, stmt.portal = .ok run ∧
      response = directResponse (fetchResultFormat stmt.node stmt.cursorIsBinary) run

theorem spiResponse_total (format : FieldFormat) (result : SpiResult E) :
    ∃ response, spiResponse format result = .ok [response] := by
  unfold spiResponse
  split
  · next table _ =>
    split
    · have fits : (table.tupdesc.map fun attr =>
          ColumnEncoder.forColumn attr.atttypid format).length ≤ table.tupdesc.length := by
        simp
      obtain ⟨dataRows, run⟩ := table.encodeRows_total fits table.vals 0
      simp only [run]
      exact ⟨_, rfl⟩
    · exact ⟨_, rfl⟩
  · exact ⟨_, rfl⟩

/-- The single response of a statement on a backend. -/
def RawStmt.AnswersAlone (stmt : RawStmt E) (backend : ExecutionBackend)
    (responses : List Response) : Prop :=
  ∃ response, stmt.Answers backend response ∧ responses = [response]

theorem endsAs_runViaSpi {stmt : RawStmt E} (clean : containsNul stmt.text = false) :
    EndsAs (spiSession stmt.spiRcs (runViaSpi stmt stmt.stmtMeta.fetchPortalname))
      (stmt.verdict .spi) (stmt.effects .spi) (stmt.AnswersAlone .spi) := by
  apply EndsAs.spiSession
  unfold runViaSpi
  rw [spiExecute_eq_callPg]
  cases answer : stmt.spiAnswer with
  | error report => exact .raises (.caughtError report) fun pg => by simp [clean, callPg]
  | ok result =>
      by_cases failed : result.rc < 0
      · simp only [failed, if_true]
        exact .refuses (spiRcError "SPI_execute" result.rc) fun pg => by
          simp [clean, callPg, perform, failed]
      · obtain ⟨response, shaped⟩ := spiResponse_total
          (fetchFormat stmt.stmtMeta.fetchPortalname stmt.cursorIsBinary) result
        simp only [failed, if_false]
        exact .succeeds ⟨response, ⟨result, answer, shaped⟩, rfl⟩ fun pg => by
          simp [clean, callPg, perform, failed, shaped, liftPanic]

theorem endsAs_runOneDirect {stmt : RawStmt E}
    (ordinary : isTransactionStmt stmt.node = false) :
    EndsAs (runOneDirect stmt) (stmt.verdict .direct) (stmt.effects .direct)
      (stmt.Answers .direct) := by
  unfold runOneDirect RawStmt.verdict RawStmt.effects
  rw [runPortal_ordinary ordinary]
  cases answer : stmt.portal with
  | error report => exact .raises (.caughtError report) fun pg => by simp [callPg]
  | ok run => exact .succeeds ⟨run, answer, rfl⟩ fun pg => by simp [callPg, perform]

end Rows

end PgTransport.Backend
