import PgTransport.Backend.Extended.Outcome
import PgTransport.Backend.Extended.Rows

/-!
# Panics that leave a message

`Parse` and `Execute` answer an error that their bracket catches, and an index
past a tuple's columns is caught there.  Three things are not caught: the format
lookups that `execute_impl` makes before its bracket, an error of the bracket's
own first and last step, and the precondition of `pg_ident_to_string`, which a
release build does not check.
-/

namespace PgTransport.Properties

open PgTransport.Backend
open PgTransport.Computation
open PgTransport.Postgres
open PgTransport.Transition
open PgTransport.Wire

variable {E : Type} {α : Type}

/-! ## Brackets that unwind -/

/-- The computation unwinds from this state. -/
def Unwinds (step : PgM E α) (pg : Pg E) : Prop :=
  ∃ payload after, step pg = (.unwind payload, after)

/-- The block states in which `CommitTransactionCommand` does work that may
raise. -/
def commitMayRaise : TBlockState → Bool
  | .started | .inprogress | .implicitInprogress | .endBlock | .prepare _ => true
  | _ => false

theorem commit_unwinds_iff (finish : Option ErrorReport) (pg : Pg E) :
    Unwinds (commitTransactionCommand finish) pg ↔
      commitMayRaise pg.xact.blockState = true ∧ finish ≠ none := by
  cases state : pg.xact.blockState <;> cases finish <;>
    simp [Unwinds, commitTransactionCommand, commandCounterIncrement, state,
      commitMayRaise]

/-- The interception catches whatever its steps raise. -/
theorem handleXactControlOne_contained (cmd : XactCmd) (finish : Option ErrorReport)
    (pg : Pg E) : ¬Unwinds (handleXactControlOne cmd finish) pg := by
  rintro ⟨payload, after, run⟩
  simp only [handleXactControlOne, Comp.bind_apply, Comp.read_apply, resume_ret] at run
  rcases ended : xactControlBody cmd pg.xact.isTransactionBlock finish pg with
      ⟨tag | raised | _, middle⟩
  · rw [Comp.catchUnwind_of_ret ended] at run
    cases run
  · rw [Comp.catchUnwind_of_unwind ended] at run
    cases run
  · rw [Comp.catchUnwind_of_halt ended] at run
    cases run

/-- PG executes the transaction statement inside the bracket and leaves a block
whose commit does work that may raise. -/
def CommandReachesCommit (command : TransactionStmt) (pg : Pg E) : Prop :=
  ∃ inside tag after closed,
    (do startTransactionCommand; pushIfNeeded true) pg = (.ret (), inside) ∧
      processUtility command inside = (.ret tag, after) ∧
      popActiveSnapshot after = (.ret (), closed) ∧
      commitMayRaise closed.xact.blockState = true

theorem commandReachesCommit_iff {command : TransactionStmt} {pg inside : Pg E}
    (enter : (do startTransactionCommand; pushIfNeeded true) pg = (.ret (), inside)) :
    CommandReachesCommit command pg ↔ ∃ tag after,
      processUtility command inside = (.ret tag, after) ∧ ∃ closed,
        popActiveSnapshot after = (.ret (), closed) ∧
          commitMayRaise closed.xact.blockState = true := by
  constructor
  · rintro ⟨other, tag, after, closed, entered, run, popped, raises⟩
    cases enter.symm.trans entered
    exact ⟨tag, after, run, closed, popped, raises⟩
  · rintro ⟨tag, after, run, closed, popped, raises⟩
    exact ⟨inside, tag, after, closed, enter, run, popped, raises⟩

/-- A bracket with a snapshot is entered only from a state that serves. -/
theorem serves_of_enter {pg inside : Pg E}
    (enter : (do startTransactionCommand; pushIfNeeded true) pg = (.ret (), inside)) :
    Serves pg.xact.blockState := by
  cases state : pg.xact.blockState <;>
    simp [startTransactionCommand, state, pushIfNeeded, pushTransactionSnapshot,
      Xact.isAbortedTransactionBlockState, assertionFailure, Serves] at enter ⊢

section Direct

variable {backend : DirectBackendPlan} {command : TransactionStmt}

/-- The bracket of a direct `Execute` of a transaction statement reaches its
commit in a block whose commit does work that may raise. -/
def ReachesCommitByCommand (command : TransactionStmt) (verdict : Verdict) (pg : Pg E) : Prop :=
  match verdict with
  | .succeeds => CommandReachesCommit command pg
  | .refuses => Serves pg.xact.blockState
  | .raises => False

theorem leaveBracket_unwinds_iff {finish : Option ErrorReport} {result : PgWireResult α}
    {after : Pg E} :
    (∃ payload last, leaveBracket true finish (.ret result, after) = (.unwind payload, last)) ↔
      (∃ closed, popActiveSnapshot after = (.ret (), closed) ∧
        commitMayRaise closed.xact.blockState = true) ∧ finish ≠ none := by
  cases depth : after.activeSnapshots with
  | zero => simp [leaveBracket, popIfNeeded, popActiveSnapshot, depth, assertionFailure]
  | succ depth' =>
      have closing := commit_unwinds_iff finish { after with activeSnapshots := depth' }
      have popped : popActiveSnapshot after =
          (.ret (), { after with activeSnapshots := depth' }) := by
        simp [popActiveSnapshot, depth]
      simp only [leaveBracket, popIfNeeded, if_true, popped, resume_ret, Comp.bind_apply,
        Prod.mk.injEq, true_and, exists_eq_left']
      rw [← closing]
      unfold Unwinds
      rcases commitTransactionCommand finish { after with activeSnapshots := depth' } with
        ⟨_ | _ | _, last⟩ <;> simp

theorem withXact_command_unwinds_iff (node : backend.source.node = .transactionStmt command)
    (request : ExecuteRequest E) (formats : BoundFormats) (finish : Option ErrorReport)
    (pg : Pg E) :
    Unwinds (withXact true finish (directExecuteBody backend request formats)) pg ↔
      ¬Starts pg.xact.blockState ∨
        ReachesCommitByCommand command
          (decodeVerdict (request.parameters.zip formats.paramIsBinary)) pg ∧ finish ≠ none := by
  by_cases serves : Serves pg.xact.blockState
  · have starts : Starts pg.xact.blockState := .inl serves
    obtain ⟨inside, enter, commit⟩ := enter_serves serves
    have body := directExecuteBody_command node request formats (inside.hold true)
    unfold Unwinds
    rw [withXact_of_enter enter]
    cases decided : decodeVerdict (request.parameters.zip formats.paramIsBinary) with
    | succeeds =>
        rw [decided] at body
        obtain ⟨shape, run⟩ := body
        rw [run]
        simp only [starts, not_true_eq_false, false_or, ReachesCommitByCommand,
          commandReachesCommit_iff enter]
        rcases ended : processUtility command (inside.hold true) with ⟨tag | payload | _, after⟩
        · rw [resume_ret, Comp.pure_apply, leaveBracket_unwinds_iff]
          simp
        · simp [leaveBracket]
        · simp [leaveBracket]
    | raises =>
        rw [decided] at body
        obtain ⟨payload, depth, run⟩ := body
        rw [run]
        simp [leaveBracket, starts, ReachesCommitByCommand]
    | refuses =>
        rw [decided] at body
        obtain ⟨err, run⟩ := body
        obtain ⟨raised, after, committed⟩ := commit []
        have closing := committed finish
        rw [Pg.work_nil] at closing
        rw [run]
        cases finish <;>
          simp [leaveBracket, closing, starts, ReachesCommitByCommand, serves]
  · have unreached : ¬(ReachesCommitByCommand command
        (decodeVerdict (request.parameters.zip formats.paramIsBinary)) pg) := by
      cases decodeVerdict (request.parameters.zip formats.paramIsBinary) with
      | succeeds =>
          rintro ⟨inside, tag, after, closed, enter, _⟩
          exact serves (serves_of_enter enter)
      | refuses => exact serves
      | raises => exact id
    rw [Unwinds, withXact_unwinds_of_stuck serves]
    simp [unreached]

end Direct

/-! ## What a message must not do -/

/-- The precondition of `pg_ident_to_string`. -/
def IsAscii (name : String) : Prop :=
  ∀ char ∈ name.toList, char.toNat < 128

/-- The closing `CommitTransactionCommand` of the bracket around an `Execute` is
reached in a state in which it raises `finish`, if there is such an error. -/
def ReachesCommit (request : ExecuteRequest E) (pg : Pg E) : BackendPlan → Prop
  | .spi plan => Serves pg.xact.blockState ∧
      request.spiRcs.settle (request.spiBodyVerdict plan
        (request.formats plan.baseSchema.length)) ≠ .raises
  | .direct plan =>
      match plan.source.node with
      | .transactionStmt command => ReachesCommitByCommand command (decodeVerdict
          (request.parameters.zip (request.formats plan.baseSchema.length).paramIsBinary)) pg
      | _ => Serves pg.xact.blockState ∧
          request.directBodyVerdict plan (request.formats plan.baseSchema.length) ≠ .raises
  | .xactControl _ => False

/-- The plan runs inside a bracket. -/
def isBracketed : BackendPlan → Bool
  | .xactControl _ => false
  | _ => true

/-- The calls of `SpiTuples::cell` stay inside the tuple table. -/
def CellsInRange (request : ExecuteRequest E) : BackendPlan → Prop
  | .spi plan => ∀ result table, request.spi request.maxRows = .ok result →
      result.tuptable = some table → table.vals ≠ [] →
        (cachedEncoders plan.columnOids
          (request.resultFormat.codes plan.baseSchema.length)).length ≤ table.tupdesc.length
  | _ => True

/-- Unless the `Execute` is answered with an error, its format lookups stay
inside the client's format vectors and its cells inside the tuples. -/
def LookupsInRange (request : ExecuteRequest E) (plan : BackendPlan) :
    Outcome Payload (PgWireResult Response) → Prop
  | .ret (.error _) => True
  | .ret (.ok _) => request.formatsCover plan.columnCount = true ∧ CellsInRange request plan
  | _ => request.formatsCover plan.columnCount = true

section Sessions

variable [TypeTable]

/-- The message unwinds out of its handler nowhere, reads ASCII names only, and
indexes formats and tuples in range, or is answered with an error. -/
def NoPanic (session : Session E) (message : Message E) (_ : Session E) : Prop :=
  session.alive = true →
    match message with
    | .query _ _ => True
    | .parse backend request =>
        ¬Unwinds (prepare backend request) session.pg ∧
          ∀ statement after, prepare backend request session.pg =
              (.ret (.ok statement), after) →
            ∀ field ∈ statement.resultSchema, IsAscii field.name
    | .execute index request => ∀ statement, session.statements[index]? = some statement →
        ¬Unwinds (statement.execute request) session.pg ∧
          LookupsInRange request statement.plan (statement.execute request session.pg).1

/-- The bracket of the message can start, and its commit raises no error; a
`Parse` that completes describes ASCII column names; an `Execute` with the right
number of parameters has a format for each parameter and column. -/
def StaysInRange (session : Session E) (message : Message E) (_ : Session E) : Prop :=
  session.alive = true →
    match message with
    | .query _ _ => True
    | .parse backend request => containsNul request.sql = false →
        Starts session.pg.xact.blockState ∧
          (Serves session.pg.xact.blockState → request.verdict backend ≠ .raises →
            request.finish = none) ∧
          (Serves session.pg.xact.blockState → request.verdict backend = .succeeds →
            request.finish = none →
              ∀ attr ∈ (request.descriptor backend).getD [], IsAscii attr.attname)
    | .execute index request => ∀ statement, session.statements[index]? = some statement →
        request.parameters.length = statement.plan.paramCount →
          request.formatsCover statement.plan.columnCount = true ∧
            (isBracketed statement.plan = true → Starts session.pg.xact.blockState) ∧
            (ReachesCommit request session.pg statement.plan → request.finish = none)

/-- The names a `Parse` reads are those of its descriptor. -/
theorem forall_names_iff {desc : Option TupleDesc} {statement : PreparedStatement}
    (describes : Describes desc statement) :
    (∀ field ∈ statement.resultSchema, IsAscii field.name) ↔
      ∀ attr ∈ desc.getD [], IsAscii attr.attname := by
  rw [show statement.resultSchema = baseSchemaOf desc from describes, baseSchemaOf,
    List.forall_mem_map]
  rfl

theorem parse_noPanic_iff (backend : ExecutionBackend) (request : ParseRequest) (pg : Pg E) :
    (¬Unwinds (prepare backend request) pg ∧
        ∀ statement after, prepare backend request pg = (.ret (.ok statement), after) →
          ∀ field ∈ statement.resultSchema, IsAscii field.name) ↔
      (containsNul request.sql = false → Starts pg.xact.blockState ∧
        (Serves pg.xact.blockState → request.verdict backend ≠ .raises →
          request.finish = none) ∧
        (Serves pg.xact.blockState → request.verdict backend = .succeeds →
          request.finish = none →
            ∀ attr ∈ (request.descriptor backend).getD [], IsAscii attr.attname)) := by
  cases nul : containsNul request.sql with
  | true => simp [prepare, nul, Unwinds]
  | false =>
      have ends := endsAs_prepareBody (E := E) backend request nul
      rw [prepare_eq_withXact backend nul]
      have unwinds : Unwinds (withXact true request.finish
          (prepareBody backend request nul)) pg ↔ _ := withXact_unwinds_iff ends
      have answers : (∃ value after, withXact true request.finish
          (prepareBody backend request nul) pg = (.ret (.ok value), after)) ↔ _ :=
        withXact_answers_iff ends
      simp only [true_implies]
      constructor
      · rintro ⟨contained, names⟩
        rw [unwinds, not_or, not_not] at contained
        obtain ⟨starts, commits⟩ := contained
        refine ⟨starts, ?_, ?_⟩
        · intro serves reached
          by_contra raises
          exact commits ⟨serves, reached, raises⟩
        · intro serves succeeds silent
          obtain ⟨statement, after, run⟩ := answers.mpr ⟨succeeds, silent, serves⟩
          have describes := returns_withXact ends.returns pg _ after run _ rfl
          exact (forall_names_iff describes).mp (names statement after run)
      · rintro ⟨starts, commits, names⟩
        constructor
        · rw [unwinds]
          rintro (stuck | ⟨serves, reached, raises⟩)
          · exact stuck starts
          · exact raises (commits serves reached)
        · intro statement after run
          have describes := returns_withXact ends.returns pg _ after run _ rfl
          obtain ⟨succeeds, silent, serves⟩ := answers.mp ⟨statement, after, run⟩
          exact (forall_names_iff describes).mpr (names serves succeeds silent)

/-! ## Execute -/

omit [TypeTable] in
theorem execute_unwinds_iff {statement : PreparedStatement} {request : ExecuteRequest E}
    (pg : Pg E) (binds : request.Binds statement.plan) :
    Unwinds (statement.execute request) pg ↔
      (isBracketed statement.plan = true ∧ ¬Starts pg.xact.blockState) ∨
        (ReachesCommit request pg statement.plan ∧ request.finish ≠ none) := by
  cases choice : statement.plan with
  | spi plan =>
      rw [PreparedStatement.execute_spi choice binds, withSpi_eq_withXact]
      have ends := (endsAs_spiExecuteBody plan request
        (request.formats plan.baseSchema.length)).spiSession request.spiRcs
      apply (withXact_unwinds_iff ends).trans
      simp [isBracketed, ReachesCommit, and_assoc]
  | direct plan =>
      rw [PreparedStatement.execute_direct choice binds]
      cases node : plan.source.node with
      | transactionStmt command =>
          apply (withXact_command_unwinds_iff node request _ request.finish pg).trans
          simp [isBracketed, ReachesCommit, node]
      | fetchStmt ismove portalname =>
          have ordinary : isTransactionStmt plan.source.node = false := by
            rw [node]
            rfl
          apply (withXact_unwinds_iff (endsAs_directExecuteBody ordinary request _)).trans
          simp [isBracketed, ReachesCommit, node, and_assoc]
      | other requiresAnalysis =>
          have ordinary : isTransactionStmt plan.source.node = false := by
            rw [node]
            rfl
          apply (withXact_unwinds_iff (endsAs_directExecuteBody ordinary request _)).trans
          simp [isBracketed, ReachesCommit, node, and_assoc]
  | xactControl cmd =>
      rw [PreparedStatement.execute_xactControl choice binds]
      simp [handleXactControlOne_contained, isBracketed, ReachesCommit]

omit [TypeTable] in
/-- Where the formats suffice, only the cells are left to be in range, and SPI
checks them. -/
theorem lookupsInRange_of_binds {statement : PreparedStatement} {request : ExecuteRequest E}
    (pg : Pg E) (binds : request.Binds statement.plan) :
    LookupsInRange request statement.plan (statement.execute request pg).1 := by
  rcases run : statement.execute request pg with ⟨(_ | response) | payload | _, after⟩
  · trivial
  · refine ⟨binds.2, ?_⟩
    have answers := returns_execute statement request pg _ after run response rfl
    cases choice : statement.plan with
    | spi plan =>
        rw [choice] at answers
        obtain ⟨result, answered, shaped⟩ := answers
        intro other table same kept filled
        cases answered.symm.trans same
        exact spiPlanResponse_inRange shaped kept filled
    | direct plan => trivial
    | xactControl cmd => trivial
  · exact binds.2
  · exact binds.2

omit [TypeTable] in
theorem execute_noPanic_iff (statement : PreparedStatement) (request : ExecuteRequest E)
    (pg : Pg E) :
    (¬Unwinds (statement.execute request) pg ∧
        LookupsInRange request statement.plan (statement.execute request pg).1) ↔
      (request.parameters.length = statement.plan.paramCount →
        request.formatsCover statement.plan.columnCount = true ∧
          (isBracketed statement.plan = true → Starts pg.xact.blockState) ∧
          (ReachesCommit request pg statement.plan → request.finish = none)) := by
  by_cases counted : request.parameters.length = statement.plan.paramCount
  · cases cover : request.formatsCover statement.plan.columnCount with
    | false =>
        obtain ⟨len, index, panics⟩ := PreparedStatement.execute_of_uncovered pg counted cover
        simp [Unwinds, panics, counted]
    | true =>
        have binds : request.Binds statement.plan := ⟨counted, cover⟩
        rw [execute_unwinds_iff pg binds]
        simp only [counted, true_implies, lookupsInRange_of_binds pg binds, and_true, true_and,
          not_or, not_and, not_not]
  · obtain ⟨err, refused⟩ := PreparedStatement.execute_of_miscounted pg counted
    simp [Unwinds, refused, counted, LookupsInRange]

/-- A run finds no message of it panicking exactly if each of its messages stays
in range. -/
theorem no_panic_along_run_iff_in_range {source target : Session E}
    {messages : List (Message E)} :
    RunWith (sessions E) NoPanic source messages target ↔
      RunWith (sessions E) StaysInRange source messages target := by
  refine RunWith.congr (fun _ => True) (fun _ _ _ _ _ => trivial) ?_ trivial
  intro session message next _ _
  apply imp_congr_right
  intro alive
  cases message with
  | query backend body => rfl
  | parse backend request => exact parse_noPanic_iff backend request session.pg
  | execute index request =>
      exact forall₂_congr fun statement _ => execute_noPanic_iff statement request session.pg

end Sessions

/-! ## Two codes for three columns -/

/-- The result descriptor of a query with three columns. -/
def threeColumns : TupleDesc := [⟨"a", 23⟩, ⟨"b", 23⟩, ⟨"c", 23⟩]

/-- A `Parse`, and an `Execute` of its statement with two result formats. -/
def twoCodes : List (Message Nat) :=
  [.parse .spi (.select "SELECT 1 AS a, 2 AS b, 3 AS c" threeColumns),
    .execute 0 (.delivering (.individual [.text, .binary]) threeColumns [] (by simp))]

/-- Not every run stays free of panics: the lookup of the third column's format
unwinds out of the `Execute`. -/
theorem missing_code_panics :
    ¬∀ [TypeTable] (messages : List (Message Nat)) (target : Session Nat),
      Run (sessions Nat) (Session.fresh .standard) messages target →
        RunWith (sessions Nat) NoPanic (Session.fresh .standard) messages target := by
  intro always
  let _ : TypeTable := ⟨fun _ => none, by simp⟩
  have run : ∃ target, Run (sessions Nat) (Session.fresh .standard) twoCodes target :=
    ⟨_, .cons rfl trivial (.cons rfl trivial (.nil _))⟩
  obtain ⟨target, run⟩ := run
  obtain _ | ⟨rfl, _, _ | ⟨_, contained, _⟩⟩ := always twoCodes target run
  exact (contained rfl _ rfl).1 ⟨_, _, rfl⟩

end PgTransport.Properties
