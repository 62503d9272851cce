import PgTransport.Backend.Shows

/-!
# One statement of an implicit block

The implicit-block loops of the two backends differ in what they run between
the brackets of a statement, and agree in the brackets.
-/

namespace PgTransport.Backend

open PgTransport.Computation
open PgTransport.Postgres
open PgTransport.Transaction
open PgTransport.Wire

variable {E : Type} {α : Type}

/-- Neither a value nor the end of the process: a failure that the enclosing
`catch_unwind` turns into an error. -/
def Fails : Outcome Payload (PgWireResult α) → Prop
  | .ret (.error _) | .unwind _ => True
  | _ => False

/-- What follows a statement that is no transaction statement: the end of the
implicit block and the commit, or the next command identifier. -/
def closeStatement (last : Bool) (finish : Option ErrorReport) : PgM E Unit :=
  if last then do
    endImplicitTransactionBlock
    commitTransactionCommand finish
  else
    commandCounterIncrement finish

/-- The end of a statement whose body returned. -/
def finishStep (needsSnapshot last : Bool) (finish : Option ErrorReport)
    (result : PgWireResult α) : PgM E (PgWireResult α) := do
  popIfNeeded needsSnapshot
  match result with
  | .error err => pure (.error err)
  | .ok value => do
      closeStatement last finish
      pure (.ok value)

/-- A statement of an implicit block in its brackets. -/
def implicitStep (needsSnapshot last : Bool) (finish : Option ErrorReport)
    (body : PgM E (PgWireResult α)) : PgM E (PgWireResult α) := do
  startTransactionCommand
  beginImplicitTransactionBlock
  pushIfNeeded needsSnapshot
  let result ← body
  finishStep needsSnapshot last finish result

section Step

variable {needsSnapshot last : Bool} {finish : Option ErrorReport}
  {body : PgM E (PgWireResult α)} {verdict : Verdict} {effects : List E}
  {answers : α → Prop} {pg : Pg E} {books : Books E}

theorem enter_implicitBlock (shown : Shows pg.xact books) :
    ∃ started, startTransactionCommand pg = (.ret (), started) ∧
      beginImplicitTransactionBlock started = (.ret (), enterImplicit pg) := by
  have state := shown.phase_eq
  cases here : books.phase <;> rw [here] at state <;>
    simp [startTransactionCommand, beginImplicitTransactionBlock, state, blockStateOf,
      enterImplicit, Pg.mapXact, Xact.startTransaction]

theorem pushIfNeeded_apply (active : pg.xact.blockState ≠ .abort) :
    pushIfNeeded needsSnapshot pg =
      (.ret (), (pg.joined needsSnapshot).hold needsSnapshot) := by
  cases needsSnapshot <;>
    simp [pushIfNeeded, pushTransactionSnapshot, Xact.isAbortedTransactionBlockState,
      active, Pg.joined, Pg.hold, Pg.mapXact]

/-- The end of a statement closes the books when it is the last one. -/
theorem closeStatement_none (last : Bool) (shown : Shows pg.xact books)
    (running : books.phase = .implicit ∨ books.phase = .explicit) :
    ∃ after, closeStatement last none pg = (.ret (), after) ∧
      Shows after.xact (books.closeIf last) := by
  have state := shown.phase_eq
  cases last with
  | false => exact ⟨pg, by simp [closeStatement, commandCounterIncrement], shown⟩
  | true =>
      rcases running with here | here <;> rw [here] at state
      · refine ⟨pg.mapXact Xact.commitTransaction, ?_, ?_⟩
        · simp [closeStatement, endImplicitTransactionBlock, state, blockStateOf,
            commitTransactionCommand, Pg.mapXact, Xact.commitTransaction]
        · simp only [Books.closeIf_true, Books.close, here]
          exact shown.commit (by simp [here])
      · refine ⟨pg, ?_, ?_⟩
        · simp [closeStatement, endImplicitTransactionBlock, state, blockStateOf,
            commitTransactionCommand, commandCounterIncrement]
        · simpa only [Books.closeIf_true, Books.close, here] using shown

/-- An error raised at the end of a statement leaves the transaction to be
aborted. -/
theorem closeStatement_some (last : Bool) (shown : Shows pg.xact books)
    (running : books.phase = .implicit ∨ books.phase = .explicit)
    (report : ErrorReport) :
    ∃ after, closeStatement last (some report) pg =
        (.unwind (.caughtError report), after) ∧
      Shows after.abortCurrent.xact books.abandon := by
  have state := shown.phase_eq
  cases last with
  | false =>
      exact ⟨pg, by simp [closeStatement, commandCounterIncrement], shown.abortCurrent⟩
  | true =>
      rcases running with here | here <;> rw [here] at state
      · refine ⟨pg.mapXact fun xact => { xact with blockState := .started }, ?_, ?_⟩
        · simp [closeStatement, endImplicitTransactionBlock, state, blockStateOf,
            commitTransactionCommand, Pg.mapXact]
        · simp only [Books.abandon, here]
          exact shown.rollback (by simp [here])
      · refine ⟨pg, ?_, shown.abortCurrent⟩
        simp [closeStatement, endImplicitTransactionBlock, state, blockStateOf,
          commitTransactionCommand, commandCounterIncrement]

/-- The state in which the body of a statement runs. -/
def insideStep (needsSnapshot : Bool) (pg : Pg E) : Pg E :=
  (enterImplicit pg).joined needsSnapshot

theorem insideStep_shows (shown : Shows pg.xact books) :
    Shows (insideStep needsSnapshot pg).xact books.enter :=
  shown.enter.congr rfl rfl rfl rfl rfl

theorem implicitStep_enter (shown : Shows pg.xact books) (active : books.phase ≠ .failed) :
    implicitStep needsSnapshot last finish body pg =
      resume (body ((insideStep needsSnapshot pg).hold needsSnapshot))
        (finishStep needsSnapshot last finish) := by
  have running : (enterImplicit pg).xact.blockState ≠ .abort := by
    rw [ne_eq, shown.enter.blockState_eq_abort_iff]
    rcases Books.running_cases active with phase | phase <;> simp [phase]
  obtain ⟨started, start, enter⟩ := enter_implicitBlock shown
  simp only [implicitStep, Comp.bind_apply, start, resume_ret, enter,
    pushIfNeeded_apply running, insideStep]

/-- The books behind the work of a statement. -/
theorem insideStep_perform (needsSnapshot : Bool) (shown : Shows pg.xact books)
    (active : books.phase ≠ .failed) (effects : List E) :
    Shows ((insideStep needsSnapshot pg).work effects).xact
      (books.enter.perform effects) := by
  refine (insideStep_shows shown).perform ?_ effects
  rcases Books.running_cases active with phase | phase <;> simp [phase]

/-- A statement that succeeds does its work and closes the books if it is the
last one. -/
theorem implicitStep_succeeds (needsSnapshot last : Bool)
    (ends : EndsAs body .succeeds effects answers)
    (shown : Shows pg.xact books) (active : books.phase ≠ .failed) :
    ∃ value after, answers value ∧
      implicitStep needsSnapshot last none body pg = (.ret (.ok value), after) ∧
      Shows after.xact ((books.enter.perform effects).closeIf last) := by
  obtain ⟨value, answer, run⟩ := ends ((insideStep needsSnapshot pg).hold needsSnapshot)
  obtain ⟨after, closed, shows⟩ := closeStatement_none last
    (insideStep_perform needsSnapshot shown active effects) (Books.running_cases active)
  refine ⟨value, after, answer, ?_, shows⟩
  rw [implicitStep_enter shown active, run, hold_work]
  simp [finishStep, closed]

/-- A statement that does not succeed, or whose end raises, leaves the
transaction to be aborted. -/
theorem implicitStep_fails (needsSnapshot last : Bool)
    (ends : EndsAs body verdict effects answers)
    (failing : ¬(verdict = .succeeds ∧ finish = none))
    (shown : Shows pg.xact books) (active : books.phase ≠ .failed) :
    ∃ outcome after,
      implicitStep needsSnapshot last finish body pg = (outcome, after) ∧ Fails outcome ∧
      Shows after.abortCurrent.xact (books.enter.perform effects).abandon := by
  have done := insideStep_perform needsSnapshot shown active effects
  have inside := ends ((insideStep needsSnapshot pg).hold needsSnapshot)
  rw [implicitStep_enter shown active]
  cases verdict with
  | succeeds =>
      cases finish with
      | none => exact absurd ⟨rfl, rfl⟩ failing
      | some report =>
          obtain ⟨value, _, run⟩ := inside
          obtain ⟨after, raised, shows⟩ :=
            closeStatement_some last done (Books.running_cases active) report
          refine ⟨.unwind (.caughtError report), after, ?_, trivial, shows⟩
          rw [run, hold_work]
          simp [finishStep, raised]
  | raises =>
      obtain ⟨payload, depth, run⟩ := inside
      have unwound : Shows ((((insideStep needsSnapshot pg).hold needsSnapshot).work
          effects).atSpiDepth depth).xact (books.enter.perform effects) :=
        done.congr rfl rfl rfl rfl rfl
      rw [run]
      exact ⟨.unwind payload, _, rfl, trivial, unwound.abortCurrent⟩
  | refuses =>
      obtain ⟨err, run⟩ := inside
      refine ⟨.ret (.error err), (insideStep needsSnapshot pg).work effects, ?_, trivial,
        done.abortCurrent⟩
      rw [run, hold_work]
      simp [finishStep]

end Step

/-! ## The loops -/

section Rows

variable [TypeTable]

/-- A statement takes a snapshot on a backend. -/
def RawStmt.needsSnapshot (stmt : RawStmt E) : ExecutionBackend → Bool
  | .spi => true
  | .direct => stmt.node.analyzeRequiresSnapshot

/-- What a backend runs between the brackets of a statement. -/
def RawStmt.body (stmt : RawStmt E) : ExecutionBackend →
    PgM E (PgWireResult (List Response))
  | .spi => spiSession stmt.spiRcs (runViaSpi stmt stmt.stmtMeta.fetchPortalname)
  | .direct => do
      let response ← runOneDirect stmt
      pure (response.map fun response => [response])

/-- The loop of an implicit block. -/
def implicitBlockLoop (backend : ExecutionBackend) (stmts : List (RawStmt E)) :
    PgM E (PgWireResult (List Response)) :=
  match backend with
  | .spi => implicitBlockLoopSpi (stmts.map RawStmt.withPortalname)
  | .direct => implicitBlockLoopDirect stmts

/-- A failed block refuses every statement that is no transaction statement. -/
theorem implicitBlockLoop_refuses (backend : ExecutionBackend) {stmt : RawStmt E}
    (rest : List (RawStmt E)) {pg : Pg E}
    (ordinary : isTransactionStmt stmt.node = false)
    (aborted : pg.xact.blockState = .abort) :
    implicitBlockLoop backend (stmt :: rest) pg =
      (.ret (.error abortedTransactionBlockError), pg) := by
  cases backend with
  | spi =>
      simp [implicitBlockLoop, RawStmt.withPortalname.eq_1 stmt, implicitBlockLoopSpi,
        aborted]
  | direct =>
      have exit : isTransactionExitStmt stmt.node = false := by
        cases node : stmt.node <;> simp_all [isTransactionStmt, isTransactionExitStmt]
      simp [implicitBlockLoop, implicitBlockLoopDirect, aborted, exit]

/-- Otherwise SPI executes the statement between its brackets. -/
theorem implicitBlockLoopSpi_cons (stmt : RawStmt E) (fetchPortalname : Option String)
    (rest : List (RawStmt E × Option String)) {pg : Pg E}
    (active : pg.xact.blockState ≠ .abort) :
    implicitBlockLoopSpi ((stmt, fetchPortalname) :: rest) pg =
      resume (implicitStep true rest.isEmpty stmt.finish
        (spiSession stmt.spiRcs (runViaSpi stmt fetchPortalname)) pg)
        (continueWith (implicitBlockLoopSpi rest)) := by
  have going : pg.xact.isAbortedTransactionBlockState = false := by
    simp [Xact.isAbortedTransactionBlockState, active]
  simp only [implicitBlockLoopSpi, Comp.bind_apply, Comp.read_apply, resume_ret, going,
    Bool.false_eq_true, if_false, implicitStep, Comp.resume_resume, bind_assoc, pushIfNeeded,
    if_true]
  refine resume_congr fun _ started => ?_
  refine congrFun (bind_congr fun _ => bind_congr fun _ => funext fun pushed => ?_) _
  by_cases connected : stmt.spiRcs.connect = SPI_OK_CONNECT
  · simp only [spiConnect, spiSession, connected, Comp.bind_apply, resume_ret, if_true,
      ne_eq, not_true_eq_false, if_false]
    rcases runViaSpi stmt fetchPortalname { pushed with spiDepth := pushed.spiDepth + 1 } with
      ⟨(_ | _) | _ | _, ran⟩
    case ret.error =>
      by_cases finished : stmt.spiRcs.finish = SPI_OK_FINISH <;>
        simp [spiFinish, finished, finishStep, popIfNeeded, continueWith,
          PgWireResult.andError]
    case ret.ok =>
      by_cases finished : stmt.spiRcs.finish = SPI_OK_FINISH
      · cases last : rest.isEmpty <;>
          simp [spiFinish, finished, finishStep, popIfNeeded, continueWith,
            closeStatement, bind_assoc]
      · simp [spiFinish, finished, finishStep, popIfNeeded, continueWith,
          PgWireResult.andError]
    case unwind => rfl
    case halt => rfl
  · simp [spiConnect, spiSession, connected, finishStep, popIfNeeded, continueWith]

/-- Either backend executes a statement that is no transaction statement between
its brackets. -/
theorem implicitBlockLoop_cons (backend : ExecutionBackend) {stmt : RawStmt E}
    (rest : List (RawStmt E)) {pg : Pg E}
    (ordinary : isTransactionStmt stmt.node = false)
    (active : pg.xact.blockState ≠ .abort) :
    implicitBlockLoop backend (stmt :: rest) pg =
      resume (implicitStep (stmt.needsSnapshot backend) rest.isEmpty stmt.finish
        (stmt.body backend) pg) (continueWith (implicitBlockLoop backend rest)) := by
  have going : pg.xact.isAbortedTransactionBlockState = false := by
    simp [Xact.isAbortedTransactionBlockState, active]
  cases backend with
  | spi =>
      have head := implicitBlockLoopSpi_cons stmt stmt.stmtMeta.fetchPortalname
        (rest.map RawStmt.withPortalname) active
      rwa [List.isEmpty_map] at head
  | direct =>
      simp only [implicitBlockLoop, implicitBlockLoopDirect, Comp.bind_apply,
        Comp.read_apply, resume_ret, going, Bool.false_and, ordinary,
        Bool.false_eq_true, if_false, implicitStep, Comp.resume_resume, bind_assoc,
        pure_bind, finishStep, RawStmt.needsSnapshot, RawStmt.body]
      refine resume_congr fun _ started => ?_
      refine congrFun (bind_congr fun _ => bind_congr fun _ => bind_congr fun result =>
        bind_congr fun _ => ?_) _
      cases result with
      | error err => rfl
      | ok response =>
          cases last : rest.isEmpty <;>
            simp [continueWith, Except.map, closeStatement, bind_assoc]

end Rows

end PgTransport.Backend
