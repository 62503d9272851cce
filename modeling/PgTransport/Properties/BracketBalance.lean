import PgTransport.Backend.Balance
import PgTransport.Backend.ImplicitBlock

/-!
# Brackets are balanced

Whatever a message makes the bridge execute, the snapshot stack and the SPI
stack are where they were when it returns.  The loops over the statements of a
batch pass through block states in which the next statement can start.
-/

namespace PgTransport.Properties

open PgTransport.Backend
open PgTransport.Computation
open PgTransport.Postgres
open PgTransport.Transition
open PgTransport.Wire

variable {E : Type} {α : Type}

/-! ## Intercepted transaction control -/

theorem balanced_xactControlBody (cmd : XactCmd) (finish : Option ErrorReport) (inBlock : Bool) :
    Balanced (fun pg : Pg E => At 0 0 Xact.Waits pg ∧ pg.xact.isTransactionBlock = inBlock)
      (xactControlBody cmd inBlock finish) fun _ => At 0 0 Xact.Waits := by
  have close {tag : Tag} : Balanced (At 0 0 fun xact : Xact E =>
        xact.Concludes ∧ xact.blockState ≠ .implicitInprogress)
      (do commitTransactionCommand finish; pure tag) fun _ => At 0 0 Xact.Waits :=
    (balanced_commit finish).bind fun _ => .pure fun _ here => here
  cases inBlock with
  | false =>
      have started : Balanced
          (fun pg : Pg E => At 0 0 Xact.Waits pg ∧ pg.xact.isTransactionBlock = false)
          startTransactionCommand
          fun _ => At 0 0 fun xact : Xact E => xact.blockState = .started := by
        rintro pg ⟨here, outside⟩
        rcases here.xact with state | state | state <;>
          simp only [Xact.isTransactionBlock, state, reduceCtorEq] at outside
        simp only [startTransactionCommand, state]
        exact here.mapXact rfl
      cases cmd with
      | begin => exact started.bind fun _ => balanced_beginBlock.bind fun _ => close
      | commit => exact .pure fun _ here => here.1
      | rollback => exact .pure fun _ here => here.1
  | true =>
      have started : Balanced
          (fun pg : Pg E => At 0 0 Xact.Waits pg ∧ pg.xact.isTransactionBlock = true)
          startTransactionCommand fun _ => At 0 0 fun xact : Xact E =>
            xact.blockState = .inprogress ∨ xact.blockState = .abort := by
        rintro pg ⟨here, inside⟩
        rcases here.xact with state | state | state
        · simp [Xact.isTransactionBlock, state] at inside
        · simp only [startTransactionCommand, state]
          exact here.also (.inl state)
        · simp only [startTransactionCommand, state]
          exact here.also (.inr state)
      cases cmd with
      | begin => exact .pure fun _ here => here.1
      | commit => exact started.bind fun _ => balanced_endBlock.bind fun _ => close
      | rollback => exact started.bind fun _ => balanced_userAbort.bind fun _ => close

theorem balanced_handleXactControlOne (cmd : XactCmd) (finish : Option ErrorReport) :
    Balanced (At 0 0 (Xact.Waits (E := E))) (handleXactControlOne cmd finish)
      fun _ => At 0 0 Xact.Waits := by
  refine (Triple.read _).bind fun inBlock => ?_
  apply (balanced_xactControlBody cmd finish inBlock).catchUnwind.bind
  rintro (payload | tag)
  · exact balanced_abort.surely.bind fun _ => .pure fun _ here => here
  · exact .pure fun _ here => here

/-! ## Batches -/

/-- A batch ends, or its next statement can start. -/
def Proceeds : Bool → Xact E → Prop
  | true, xact => xact.Waits
  | false, xact => xact.Continues

theorem Proceeds.continues {last : Bool} {xact : Xact E} (proceeds : Proceeds last xact) :
    xact.Continues := by
  cases last with
  | true => exact .inl proceeds
  | false => exact proceeds

/-- Outside an aborted block the next statement starts. -/
theorem Proceeds.serves {last : Bool} {xact : Xact E} (proceeds : Proceeds last xact)
    (active : xact.blockState ≠ .abort) : Serves xact.blockState := by
  rcases proceeds.continues with (state | state | state) | state
  · exact .inl state
  · exact .inr (.inl state)
  · exact absurd state active
  · exact .inr (.inr state)

/-- What a part of an implicit block leaves: a state behind its statements, or
one for the abort. -/
def Leaves (holds : Xact E → Prop) (result : PgWireResult α) (pg : Pg E) : Prop :=
  match result with
  | .ok _ => At 0 0 holds pg
  | .error _ => Abortable pg

/-- A body under the `catch_unwind` of an implicit block, which aborts where the
body fails. -/
theorem balanced_catchImplicitBlock {pre : Pg E → Prop}
    {body : PgM E (PgWireResult (List Response))}
    (balanced : Balanced pre body (Leaves Xact.Waits)) :
    Balanced pre (catchImplicitBlock body) fun _ => At 0 0 Xact.Waits := by
  apply balanced.catchUnwind.bind
  rintro (payload | err | responses)
  · exact balanced_abort.surely.bind fun _ => .pure fun _ here => here
  · exact balanced_abort.surely.bind fun _ => .pure fun _ here => here
  · exact .pure fun _ here => here

/-- A statement of an implicit block up to the end of its body. -/
theorem balanced_inImplicitBlock {β : Type} (needsSnapshot : Bool) (middle : Xact E → Prop)
    {body : PgM E α} {next : α → PgM E β} {post : β → Pg E → Prop}
    (inside : ∀ state, (state = .inprogress ∨ state = .implicitInprogress) →
      Balanced (At needsSnapshot.toNat 0 fun xact => xact.Running ∧ xact.blockState = state)
        body fun _ => At needsSnapshot.toNat 0 middle)
    (rest : ∀ value, Balanced (At needsSnapshot.toNat 0 middle) (next value) post) :
    Balanced (At 0 0 fun xact => Serves xact.blockState)
      (do
        startTransactionCommand
        beginImplicitTransactionBlock
        pushIfNeeded needsSnapshot
        let value ← body
        next value) post := by
  apply balanced_start.bind
  intro _
  apply balanced_beginImplicit.bind
  intro _
  apply Triple.observing fun pg => pg.xact.blockState
  intro state
  apply Triple.knowing (state = .inprogress ∨ state = .implicitInprogress)
  · rintro pg ⟨here, rfl⟩
    exact here.xact
  · intro joined
    apply ((balanced_pushIfNeeded needsSnapshot).assuming ?_).bind
    · exact fun _ => (inside state joined).bind rest
    · rintro pg ⟨here, seen⟩
      exact here.also ⟨here.xact.running, seen⟩

/-- The end of the implicit block and the commit behind it. -/
theorem balanced_endCommit (finish : Option ErrorReport) :
    Balanced (At 0 0 (Xact.Concludes (E := E)))
      (do endImplicitTransactionBlock; commitTransactionCommand finish)
      fun _ => At 0 0 Xact.Waits :=
  balanced_endImplicit.bind fun _ => balanced_commit finish

theorem balanced_closeStatement (last : Bool) (finish : Option ErrorReport) :
    Balanced (At 0 0 (Xact.Joined (E := E))) (closeStatement last finish)
      fun _ => At 0 0 (Proceeds last) := by
  cases last with
  | false =>
      exact (balanced_raiseIf finish).concluding fun _ _ after =>
        after.imp fun _ joined => joined.continues
  | true =>
      exact (balanced_endCommit finish).assuming fun _ here =>
        here.imp fun _ joined => joined.running.concludes

/-- A statement whose body only adds work. -/
theorem balanced_implicitStep (needsSnapshot last : Bool) (finish : Option ErrorReport)
    {body : PgM E (PgWireResult α)} (works : WorksOnly body) :
    Balanced (At 0 0 fun xact : Xact E => Serves xact.blockState)
      (implicitStep needsSnapshot last finish body) (Leaves (Proceeds last)) := by
  apply balanced_inImplicitBlock needsSnapshot Xact.Joined
  · intro state joined
    apply (balanced_worksOnly works).concluding
    rintro _ pg after
    exact after.imp fun _ known => by rwa [Xact.Joined, known.2]
  · intro result
    apply (balanced_popIfNeeded needsSnapshot).bind
    rintro _
    cases result with
    | error err => exact .pure fun _ here => At.abortable here
    | ok value => exact (balanced_closeStatement last finish).bind fun _ => .pure fun _ here => here

/-- Go on behind a statement with the rest of the batch. -/
theorem balanced_continueWith {holds : Xact E → Prop}
    {rest : PgM E (PgWireResult (List Response))}
    (balanced : Balanced (At 0 0 holds) rest (Leaves Xact.Waits))
    (result : PgWireResult (List Response)) :
    Balanced (Leaves holds result) (continueWith rest result) (Leaves Xact.Waits) := by
  cases result with
  | error err => exact .pure fun _ here => here
  | ok responses =>
      apply balanced.bind
      rintro (err | later)
      · exact .pure fun _ here => here
      · exact .pure fun _ here => here

section Rows

variable [TypeTable]

theorem balanced_executeOneStatement (stmt : RawStmt E) (stmtMeta : StmtMeta) :
    Balanced (At 0 0 (Xact.Waits (E := E))) (executeOneStatement stmt stmtMeta)
      fun _ => At 0 0 Xact.Waits := by
  apply (Triple.read _).bind
  intro aborted
  apply Triple.ite
  · exact fun _ => .pure fun _ here => here.1
  · intro _
    cases stmtMeta.xact with
    | some cmd =>
        exact ((balanced_handleXactControlOne cmd stmt.finish).assuming fun _ here => here.1).bind
          fun _ => .pure fun _ here => here
    | none =>
        exact (balanced_withSpi (contract_of_worksOnly
          (worksOnly_runViaSpi stmt stmtMeta.fetchPortalname))).assuming fun _ here => here.1

/-- The loop over the statements, each in its own bracket. -/
theorem balanced_executeStatements (entries : List (RawStmt E × StmtMeta)) :
    Balanced (At 0 0 (Xact.Waits (E := E))) (executeStatements entries)
      fun _ => At 0 0 Xact.Waits := by
  induction entries with
  | nil => exact .pure fun _ here => here
  | cons entry rest inductionHypothesis =>
      apply Triple.ite
      · exact fun _ => inductionHypothesis
      · intro _
        apply (balanced_executeOneStatement entry.1 entry.2).bind
        rintro (err | responses)
        · exact .pure fun _ here => here
        · exact inductionHypothesis.bind fun _ => .pure fun _ here => here

/-- The loop of an implicit block over SPI. -/
theorem balanced_implicitBlockLoopSpi (entries : List (RawStmt E × Option String)) :
    Balanced (At 0 0 (Proceeds (E := E) entries.isEmpty)) (implicitBlockLoopSpi entries)
      (Leaves Xact.Waits) := by
  induction entries with
  | nil => exact .pure fun _ here => here
  | cons entry rest inductionHypothesis =>
      intro pg here
      by_cases aborted : pg.xact.blockState = .abort
      · have refused : implicitBlockLoopSpi (entry :: rest) pg =
            (.ret (.error abortedTransactionBlockError), pg) := by
          simp [implicitBlockLoopSpi, aborted]
        rw [refused]
        exact here.abortable
      · rw [implicitBlockLoopSpi_cons entry.1 entry.2 rest aborted]
        have step := balanced_implicitStep true rest.isEmpty entry.1.finish
          (worksOnly_spiSession entry.1.spiRcs (worksOnly_runViaSpi entry.1 entry.2))
        exact (step.bind (balanced_continueWith inductionHypothesis)) pg
          (here.also (here.xact.serves aborted))

theorem contract_runOneDirect (needsSnapshot : Bool) (stmt : RawStmt E) :
    Contract needsSnapshot (runOneDirect stmt) :=
  (contract_runPortal needsSnapshot stmt.node stmt.portal).map _

omit [TypeTable] in
/-- A statement without a snapshot may be executed in an aborted block too. -/
theorem balanced_inBatch {β : Type} {body : PgM E α} {next : α → PgM E β}
    {post : β → Pg E → Prop} (contract : Contract false body)
    (rest : ∀ value, Balanced (At 0 0 Xact.Concludes) (next value) post) :
    Balanced (At 0 0 Xact.Continues)
      (do
        startTransactionCommand
        beginImplicitTransactionBlock
        pushIfNeeded false
        let value ← body
        next value) post := by
  intro pg here
  by_cases aborted : pg.xact.blockState = .abort
  · have run : Balanced (At 0 0 (Xact.Aborted (E := E))) (do let value ← body; next value) post :=
      ((contract.aborted rfl).concluding fun _ _ after => after.imp fun _ known => known.1).bind
        rest
    have entered := balanced_start_aborted.bind fun _ =>
      balanced_beginImplicit_aborted.bind fun _ => run
    exact entered pg (here.also aborted)
  · have inside := balanced_inImplicitBlock false Xact.Concludes
      (fun state _ => (contract.running 0 0 state).concluding fun _ _ after =>
        after.imp fun _ known => known.1) rest
    have proceeds : Proceeds false pg.xact := here.xact
    exact inside pg (here.also (proceeds.serves aborted))

/-- The loop of an implicit block on the direct path, transaction statements
included. -/
theorem balanced_implicitBlockLoopDirect (stmts : List (RawStmt E)) :
    Balanced (At 0 0 (Proceeds (E := E) stmts.isEmpty)) (implicitBlockLoopDirect stmts)
      (Leaves Xact.Waits) := by
  induction stmts with
  | nil => exact .pure fun _ here => here
  | cons stmt rest inductionHypothesis =>
      cases ordinary : isTransactionStmt stmt.node with
      | false =>
          intro pg here
          by_cases aborted : pg.xact.blockState = .abort
          · have refused := implicitBlockLoop_refuses .direct rest ordinary aborted
            rw [implicitBlockLoop] at refused
            rw [refused]
            exact here.abortable
          · have head := implicitBlockLoop_cons .direct rest ordinary aborted
            simp only [implicitBlockLoop] at head
            have works : WorksOnly (stmt.body .direct) :=
              (worksOnly_runOneDirect ordinary).bind fun _ => .pure _
            have step := balanced_implicitStep (stmt.needsSnapshot .direct) rest.isEmpty
              stmt.finish works
            rw [head]
            exact (step.bind (balanced_continueWith inductionHypothesis)) pg
              (here.also (here.xact.serves aborted))
      | true =>
          have noSnapshot : stmt.node.analyzeRequiresSnapshot = false := by
            cases node : stmt.node <;> simp [node, isTransactionStmt] at ordinary ⊢
            rfl
          have later (response : Response) :
              Balanced (At 0 0 (Proceeds (E := E) rest.isEmpty))
                (do let more ← implicitBlockLoopDirect rest
                    pure (more.map fun later => response :: later))
                (Leaves Xact.Waits) := by
            apply inductionHypothesis.bind
            rintro (err | later)
            · exact .pure fun _ here => here
            · exact .pure fun _ here => here
          apply (Triple.read _).bind
          intro aborted
          apply Triple.ite
          · exact fun _ => .pure fun _ here => here.1.abortable
          · intro _
            rw [noSnapshot, ordinary]
            apply (balanced_inBatch (contract_runOneDirect false stmt) ?_).assuming
            · exact fun _ here => here.1.imp fun _ proceeds => proceeds.continues
            · rintro (err | response)
              · exact .pure fun _ here => At.abortable here
              · apply Triple.ite
                · intro last
                  rw [last] at later
                  exact balanced_endImplicit.bind fun _ => (balanced_commit _).bind fun _ =>
                    later response
                · intro more
                  rw [Bool.not_eq_true] at more
                  rw [more] at later
                  exact (balanced_commit_joined _).bind fun _ => later response

theorem balanced_executeSingleDirect (stmts : List (RawStmt E)) :
    Balanced (At 0 0 (Xact.Waits (E := E))) (executeSingleDirect stmts)
      fun _ => At 0 0 Xact.Waits := by
  induction stmts with
  | nil => exact .pure fun _ here => here
  | cons stmt rest inductionHypothesis =>
      apply Triple.ite
      · exact fun _ => inductionHypothesis
      · intro _
        apply (Triple.read _).bind
        intro aborted
        apply Triple.ite
        · exact fun _ => .pure fun _ here => here.1
        · intro _
          apply ((balanced_withXact (contract_runOneDirect _ stmt)).assuming ?_).bind
          · rintro (err | response)
            · exact .pure fun _ here => here
            · exact inductionHypothesis.bind fun _ => .pure fun _ here => here
          · exact fun _ here => here.1

/-! ## Messages -/

/-- A simple query on either backend, whatever its text and its statements. -/
theorem balanced_simpleQuery (backend : ExecutionBackend) (query : SimpleQuery E) :
    Balanced (At 0 0 (Xact.Waits (E := E))) (simpleQuery backend query)
      fun _ => At 0 0 Xact.Waits := by
  have several {entries : List (RawStmt E)} (more : 1 < (nonEmpty entries).length) :
      (nonEmpty entries).isEmpty = false := by
    cases filtered : nonEmpty entries with
    | nil => simp [filtered] at more
    | cons stmt rest => rfl
  by_cases unparsed : containsNul query.text = true ∨ ∃ report, query.parsed = .error report
  · intro pg here
    obtain ⟨err, refused⟩ := simpleQuery_unparsed backend pg unparsed
    rw [refused]
    exact here
  · rw [not_or, Bool.not_eq_true] at unparsed
    obtain ⟨clean, parses⟩ := unparsed
    rcases parsed : query.parsed with report | stmts
    · exact absurd ⟨report, parsed⟩ parses
    · rw [simpleQuery_eq_batchLoop backend clean parsed]
      cases backend with
      | spi =>
          apply Triple.ite
          · rintro ⟨more, _⟩
            apply balanced_catchImplicitBlock
            apply (balanced_implicitBlockLoopSpi _).assuming
            rw [List.isEmpty_map, several more]
            exact fun _ here => here.imp fun _ waits => .inl waits
          · exact fun _ => balanced_executeStatements _
      | direct =>
          apply Triple.ite
          · intro more
            apply balanced_catchImplicitBlock
            apply (balanced_implicitBlockLoopDirect _).assuming
            rw [several more]
            exact fun _ here => here.imp fun _ waits => .inl waits
          · exact fun _ => balanced_executeSingleDirect _

theorem balanced_prepare (backend : ExecutionBackend) (request : ParseRequest) :
    Balanced (At 0 0 (Xact.Waits (E := E))) (prepare backend request)
      fun _ => At 0 0 Xact.Waits := by
  apply Triple.ite
  · exact fun _ => .pure fun _ here => here
  · intro text
    have clean : containsNul request.sql = false := by simpa using text
    cases backend with
    | spi =>
        simp only [spiPrepare, clean, dite_true]
        exact balanced_withSpi (contract_of_worksOnly (worksOnly_spiPrepareBody request clean))
    | direct =>
        simp only [directPrepare, clean, dite_true]
        exact balanced_withXact (contract_of_worksOnly (worksOnly_directPrepareBody request clean))

omit [TypeTable] in
theorem contract_directExecuteBody (plan : DirectBackendPlan) (request : ExecuteRequest E)
    (formats : BoundFormats) : Contract true (directExecuteBody plan request formats) := by
  apply Contract.after (worksOnly_decodeParameters _)
  rintro (err | datums)
  · exact contract_of_worksOnly (.pure _)
  · apply Contract.after (worksOnly_getPlan _ _)
    exact fun _ => (contract_runPortal true plan.source.node _).map _

omit [TypeTable] in
/-- An `Execute`, whatever its statement and its binding. -/
theorem balanced_execute (statement : PreparedStatement) (request : ExecuteRequest E) :
    Balanced (At 0 0 (Xact.Waits (E := E))) (statement.execute request)
      fun _ => At 0 0 Xact.Waits := by
  by_cases binds : request.Binds statement.plan
  · cases choice : statement.plan with
    | spi plan =>
        rw [statement.execute_spi choice binds]
        exact balanced_withSpi (contract_of_worksOnly (worksOnly_spiExecuteBody plan request _))
    | direct plan =>
        rw [statement.execute_direct choice binds]
        exact balanced_withXact (contract_directExecuteBody plan request _)
    | xactControl cmd =>
        rw [statement.execute_xactControl choice binds]
        exact balanced_handleXactControlOne cmd request.finish
  · intro pg here
    by_cases counted : request.parameters.length = statement.plan.paramCount
    · have uncovered : request.formatsCover statement.plan.columnCount = false := by
        simpa [ExecuteRequest.Binds, counted] using binds
      obtain ⟨len, index, panics⟩ := statement.execute_of_uncovered pg counted uncovered
      rw [panics]
      exact here.abortable
    · obtain ⟨err, refused⟩ := statement.execute_of_miscounted pg counted
      rw [refused]
      exact here

/-! ## Sessions -/

/-- The session waits for a message, and no call of it was ever out of
balance. -/
abbrev Idle (pg : Pg E) : Prop :=
  At 0 0 Xact.Waits pg

/-- A message leaves a session idle or over. -/
theorem receive_idle (session : Session E) (message : Message E)
    (idle : session.alive = true → Idle session.pg) :
    (session.receive message).2.alive = true → Idle (session.receive message).2.pg := by
  have concluded {β : Type} {step : PgM E (PgWireResult β)} (reply : β → Reply)
      (prepared : β → List PreparedStatement)
      (balanced : Balanced Idle step fun _ => Idle) (alive : session.alive = true) :
      (session.conclude (step session.pg) reply prepared).2.alive = true →
        Idle (session.conclude (step session.pg) reply prepared).2.pg := by
    have ending := balanced session.pg (idle alive)
    rcases ended : step session.pg with ⟨(err | value) | payload | _, after⟩ <;>
      rw [ended] at ending <;> simp only [Session.conclude]
    · exact fun _ => ending
    · exact fun _ => ending
    · exact fun impossible => by cases impossible
    · exact fun impossible => by cases impossible
  cases alive : session.alive with
  | false => simp [Session.receive, alive]
  | true =>
      cases message with
      | query backend query =>
          simp only [Session.receive, alive, if_true]
          exact concluded _ _ (balanced_simpleQuery backend query) alive
      | parse backend request =>
          simp only [Session.receive, alive, if_true]
          exact concluded _ _ (balanced_prepare backend request) alive
      | execute index request =>
          cases named : session.statements[index]? with
          | none => simpa only [Session.receive, alive, if_true, named] using idle
          | some statement =>
              simp only [Session.receive, alive, if_true, named]
              exact concluded _ _ (balanced_execute statement request) alive

/-- Every session waits idle between its messages. -/
theorem invariant_idle : Invariant (sessions E) fun session =>
    session.alive = true → Idle session.pg where
  initial := by
    rintro session ⟨defaults, rfl⟩ _
    exact ⟨rfl, rfl, .inl rfl, by simp [Orderly, Session.fresh, Pg.fresh]⟩
  step := by
    rintro source message target idle rfl
    exact receive_idle source message idle

/-! ## Calls -/

omit [TypeTable] in
/-- The call leaves both stacks as deep as it found them if it returns, and
however it ends, it has popped no empty stack and started no transaction where
none can start. -/
structure Balances (call : PgM E α) (pg : Pg E) : Prop where
  snapshots : ∀ value after, call pg = (.ret value, after) →
    after.activeSnapshots = pg.activeSnapshots
  spiDepth : ∀ value after, call pg = (.ret value, after) → after.spiDepth = pg.spiDepth
  orderly : Orderly (call pg).2

omit [TypeTable] in
theorem balances_of_balanced {call : PgM E α} (balanced : Balanced Idle call fun _ => Idle)
    {pg : Pg E} (idle : Idle pg) : Balances call pg where
  snapshots value after run := (balanced.returned idle run).snapshots.trans idle.snapshots.symm
  spiDepth value after run := (balanced.returned idle run).spiDepth.trans idle.spiDepth.symm
  orderly := by
    have ending := balanced pg idle
    rcases ended : call pg with ⟨value | payload | _, after⟩ <;> rw [ended] at ending
    · exact ending.orderly
    · exact ending.orderly
    · exact ending

/-- Simple queries on both paths, brackets around every body that keeps the
contract of a statement, and the messages of the extended protocol, in every
session there is. -/
theorem brackets_balanced {session : Session E} (reached : Reachable (sessions E) session)
    (alive : session.alive = true) :
    (∀ query, Balances (executeSimpleQuery query) session.pg) ∧
      (∀ query, Balances (executeSimpleQueryDirect query) session.pg) ∧
      (∀ (α : Type) rcs finish (body : PgM E (PgWireResult α)), Contract true body →
        Balances (withSpi rcs finish body) session.pg) ∧
      (∀ (α : Type) needsSnapshot finish (body : PgM E (PgWireResult α)),
        Contract needsSnapshot body →
        Balances (withXact needsSnapshot finish body) session.pg) ∧
      (∀ backend request, Balances (prepare backend request) session.pg) ∧
      ∀ (statement : PreparedStatement) request,
        Balances (statement.execute request) session.pg := by
  have idle := invariant_idle.reachable reached alive
  refine ⟨fun query => ?_, fun query => ?_, fun α rcs finish body contract => ?_,
    fun α needsSnapshot finish body contract => ?_, fun backend request => ?_,
    fun statement request => ?_⟩
  · exact balances_of_balanced (balanced_simpleQuery .spi query) idle
  · exact balances_of_balanced (balanced_simpleQuery .direct query) idle
  · exact balances_of_balanced (balanced_withSpi contract) idle
  · exact balances_of_balanced (balanced_withXact contract) idle
  · exact balances_of_balanced (balanced_prepare backend request) idle
  · exact balances_of_balanced (balanced_execute statement request) idle

end Rows

/-- The error of `SELECT 1/0`. -/
def divisionByZero : ErrorReport :=
  ⟨"ERROR", "ERRCODE_DIVISION_BY_ZERO", "division by zero"⟩

/-- A batch whose second statement raises, on a fresh session of either
backend. -/
theorem failingBatch_balanced :
    Balances (@executeSimpleQuery Nat (.knowing [TEXTOID]) (.batch
        [.command "INSERT 1;" (.other true) (.ok [1]),
          .command "SELECT 1/0" (.other true) (.error divisionByZero)])) (Pg.fresh .standard) ∧
      Balances (@executeSimpleQueryDirect Nat (.knowing [TEXTOID]) (.batch
        [.command "INSERT 1;" (.other true) (.ok [1]),
          .command "SELECT 1/0" (.other true) (.error divisionByZero)])) (Pg.fresh .standard) := by
  let _ : TypeTable := .knowing [TEXTOID]
  have reached : Reachable (sessions Nat) (Session.fresh .standard) :=
    ⟨_, [], ⟨.standard, rfl⟩, .nil _⟩
  obtain ⟨spi, direct, _⟩ := brackets_balanced reached rfl
  exact ⟨spi _, direct _⟩

end PgTransport.Properties
