import PgTransport.Backend.Extended.Outcome

/-!
# Parse strings

The answers that a `Parse` gets from the server have one origin: the statements
its string parses to, each with what analysis and rewriting make of it.  SPI
plans every statement of the string.  The direct path completes a plan source
for the first one.
-/

namespace PgTransport.Backend

open PgTransport.Computation
open PgTransport.Postgres
open PgTransport.Wire

variable {Q : Type}

/-- A statement of a `Parse` string, with the queries that analysis and
rewriting turn it into.  With variable parameters the analyzer also settles
their types; under these types it finds the same queries again, which is what
the revalidation of a plan source relies on. -/
structure ParsedStatement (Q : Type) where
  node : Node
  varparams : Except ErrorReport (List Oid × List Q)
  fixedparams : List Oid → Except ErrorReport (List Q)
  reanalyzes : ∀ types queries, varparams = .ok (types, queries) →
    fixedparams (types.map resolveOid) = .ok queries

/-- A `Parse` string: the statements it parses to, the result descriptor of a
list of queries, and the command tag of a statement. -/
structure ParseString (Q : Type) where
  sql : String
  parsed : Except ErrorReport (List (ParsedStatement Q))
  resultDesc : List Q → Option TupleDesc
  commandTag : Node → CommandTag

namespace ParseString

/-! ## What the server answers -/

/-- Analysis and rewriting of the first statement. -/
def analyze (string : ParseString Q) (types : Option (List Oid)) :
    Except ErrorReport Analysis :=
  match string.parsed with
  | .error report => .error report
  | .ok [] => .ok ⟨true, []⟩
  | .ok (first :: _) =>
      match types with
      | none => first.varparams.map fun found => ⟨found.2.isEmpty, found.1⟩
      | some types => (first.fixedparams types).map fun queries => ⟨queries.isEmpty, types⟩

/-- The plan sources of the whole string, each with its queries. -/
def planSources (string : ParseString Q) (types : List Oid) :
    Except ErrorReport (List (List Q)) :=
  match string.parsed with
  | .error report => .error report
  | .ok stmts => stmts.mapM fun stmt => stmt.fixedparams types

/-- The queries of the whole string under these types. -/
def allQueries (string : ParseString Q) (types : List Oid) : List Q :=
  match string.planSources types with
  | .error _ => []
  | .ok sources => sources.flatten

/-- The queries of the first statement under these types. -/
def firstQueries (string : ParseString Q) (types : List Oid) : List Q :=
  match string.parsed with
  | .error _ | .ok [] => []
  | .ok (first :: _) =>
      match first.fixedparams types with
      | .error _ => []
      | .ok queries => queries

/-- What completing a plan source for the first statement yields. -/
def sourceShape (string : ParseString Q) (types : List Oid) : SourceShape where
  resultDesc := string.resultDesc (string.firstQueries types)
  commandTag :=
    match string.parsed with
    | .error _ | .ok [] => ⟨"", false⟩
    | .ok (first :: _) => string.commandTag first.node

/-- The `Parse` message of a string with these parameter hints. -/
def request (string : ParseString Q) (hints : List (Option Oid)) : ParseRequest where
  sql := string.sql
  paramHints := hints
  spiRcs := .clean
  parsed := string.parsed.map fun stmts => stmts.map fun stmt => some stmt.node
  analyze := string.analyze
  spiPrepare types := (string.planSources types).map fun sources =>
    .ok ⟨types, sources.map string.resultDesc⟩
  keepplanRc := 0
  complete types := .ok (string.sourceShape types)
  finish := none

end ParseString

/-! ## What an `Execute` runs -/

/-- What an `Execute` of a prepared statement runs. -/
inductive Executed (Q : Type) where
  | control (cmd : XactCmd)
  | queries (queries : List Q)
  deriving DecidableEq, Repr

/-- A plan source is only made for at least one query. -/
def Executed.ofSource : List Q → Option (Executed Q)
  | [] => none
  | query :: rest => some (.queries (query :: rest))

/-- The kept SPI plan has every statement of the string, the plan source of the
direct path has the first. -/
def ParseString.executes (string : ParseString Q) (statement : PreparedStatement) :
    Executed Q :=
  match statement.plan with
  | .spi plan => .queries (string.allQueries plan.plan.argTypes)
  | .direct plan => .queries (string.firstQueries plan.paramOids)
  | .xactControl cmd => .control cmd

/-! ## How a `Parse` ends -/

/-- The types a `Parse` settles on for a statement and the queries found: the
client's hints, if it gave any, and what the analyzer infers otherwise. -/
def ParsedStatement.analysis (stmt : ParsedStatement Q) (hints : List (Option Oid)) :
    Except ErrorReport (List Oid × List Q) :=
  if hints.any Option.isSome then
    let types := hints.map fun hint => hint.getD INVALID
    (stmt.fixedparams types).map fun queries => (types, queries)
  else
    stmt.varparams.map fun found => (found.1.map resolveOid, found.2)

namespace ParseString

/-- What a `Parse` without an interior NUL prepares on the SPI backend; `none`
where it is rejected. -/
def spiAnswer (string : ParseString Q) (hints : List (Option Oid)) :
    Option (Executed Q) :=
  match (string.request hints).arguments with
  | .error _ => none
  | .ok (_, some cmd) => some (.control cmd)
  | .ok (types, none) =>
      match string.planSources types with
      | .error _ => none
      | .ok sources => some (.queries sources.flatten)

/-- What it prepares on the direct backend. -/
def directAnswer (string : ParseString Q) (hints : List (Option Oid)) :
    Option (Executed Q) :=
  match string.parsed with
  | .error _ | .ok [] => none
  | .ok (first :: rest) =>
      match (if rest.isEmpty then classifyRawStmt first.node else none) with
      | some cmd => some (.control cmd)
      | none =>
          match first.analysis hints with
          | .error _ => none
          | .ok (_, queries) => Executed.ofSource queries

/-- What it prepares on a backend. -/
def answer (string : ParseString Q) (hints : List (Option Oid)) :
    ExecutionBackend → Option (Executed Q)
  | .spi => string.spiAnswer hints
  | .direct => string.directAnswer hints

/-- The body prepares a statement that runs `answer`, or fails without one. -/
def Prepares (string : ParseString Q) (body : PgM Q (PgWireResult PreparedStatement))
    (answer : Option (Executed Q)) : Prop :=
  ∃ verdict, (verdict = .succeeds ↔ answer.isSome) ∧
    EndsAs body verdict [] fun statement => answer = some (string.executes statement)

namespace Prepares

variable {string : ParseString Q} {body : PgM Q (PgWireResult PreparedStatement)}

theorem rejected {answers : PreparedStatement → Prop} {verdict : Verdict}
    (fails : verdict ≠ .succeeds) (ends : EndsAs body verdict [] answers) :
    string.Prepares body none :=
  ⟨verdict, by simp [fails], fun pg => by
    have here := ends pg
    cases verdict with
    | succeeds => exact absurd rfl fails
    | raises => exact here
    | refuses => exact here⟩

theorem raised {report : ErrorReport} {α : Type} (work : α → List Q)
    (next : α → PgM Q (PgWireResult PreparedStatement)) :
    string.Prepares (callPg work (.error report) >>= next) none := by
  have ends : EndsAs (callPg work (.error report) >>= next) .raises [] fun _ => True :=
    .raised work report next
  exact rejected (by simp) ends

theorem refused (err : PgWireError) : string.Prepares (pure (.error err)) none := by
  have ends : EndsAs (pure (.error err) : PgM Q (PgWireResult PreparedStatement))
      .refuses [] fun _ => True := .error err
  exact rejected (by simp) ends

theorem accepted {statement : PreparedStatement} {executed : Executed Q}
    (runs : string.executes statement = executed) :
    string.Prepares (pure (.ok statement)) (some executed) :=
  ⟨.succeeds, by simp, .value (by rw [runs])⟩

theorem called {α : Type} {answer : Option (Executed Q)} (value : α)
    {next : α → PgM Q (PgWireResult PreparedStatement)}
    (prepares : string.Prepares (next value) answer) :
    string.Prepares (callPg (fun _ => []) (.ok value) >>= next) answer := by
  obtain ⟨verdict, succeeds, ends⟩ := prepares
  exact ⟨verdict, succeeds, .called _ value ends⟩

/-- A session that opens and closes cleanly prepares what its body does. -/
theorem spiSession {answer : Option (Executed Q)} (prepares : string.Prepares body answer) :
    string.Prepares (spiSession .clean body) answer := by
  obtain ⟨verdict, succeeds, ends⟩ := prepares
  refine ⟨verdict, succeeds, ?_⟩
  have settled := ends.spiSession .clean
  have same : SpiRcs.clean.settle verdict = verdict := by
    simp [SpiRcs.settle, SpiRcs.clean]
  have nothing : SpiRcs.clean.performed ([] : List Q) = [] := by
    simp [SpiRcs.performed, SpiRcs.clean]
  rwa [same, nothing] at settled

end Prepares

/-- Under the types that a `Parse` settles on, the first statement has the
queries that were found. -/
theorem firstQueries_of_analysis {string : ParseString Q} {hints : List (Option Oid)}
    {first : ParsedStatement Q} {rest : List (ParsedStatement Q)} {types : List Oid}
    {queries : List Q} (parsed : string.parsed = .ok (first :: rest))
    (found : first.analysis hints = .ok (types, queries)) :
    string.firstQueries types = queries := by
  unfold ParsedStatement.analysis at found
  split at found
  · cases fixed : first.fixedparams (hints.map fun hint => hint.getD INVALID) with
    | error report => simp [fixed, Except.map] at found
    | ok list =>
        simp only [fixed, Except.map, Except.ok.injEq, Prod.mk.injEq] at found
        obtain ⟨rfl, rfl⟩ := found
        simp [firstQueries, parsed, fixed]
  · cases varied : first.varparams with
    | error report => simp [varied, Except.map] at found
    | ok inferred =>
        simp only [varied, Except.map, Except.ok.injEq, Prod.mk.injEq] at found
        obtain ⟨rfl, rfl⟩ := found
        simp [firstQueries, parsed, first.reanalyzes _ _ varied]

section Types

variable [TypeTable]

/-- The SPI backend plans the whole string. -/
theorem prepares_spi (string : ParseString Q) (hints : List (Option Oid))
    (clean : containsNul string.sql = false) :
    string.Prepares (spiPrepareBody (string.request hints) clean)
      (string.spiAnswer hints) := by
  unfold spiAnswer spiPrepareBody
  rw [spiArguments_eq]
  match (string.request hints).arguments with
  | .error report => exact .raised _ _
  | .ok (types, some cmd) => exact .called (types, some cmd) (.accepted rfl)
  | .ok (types, none) =>
      apply Prepares.called (types, none)
      simp only [request]
      cases planned : string.planSources types with
      | error report => exact .raised _ _
      | ok sources =>
          apply Prepares.called
          apply Prepares.accepted
          simp [executes, PreparedStatement.ofSpiPlan, allQueries, planned]

/-- An analysis that found queries is completed, one that found none refused. -/
theorem completes {string : ParseString Q} {hints : List (Option Oid)}
    {first : ParsedStatement Q} {rest : List (ParsedStatement Q)} {analysis : Analysis}
    {types : List Oid} {queries : List Q} (parsed : string.parsed = .ok (first :: rest))
    (found : first.analysis hints = .ok (types, queries))
    (clean : containsNul string.sql = false)
    (same : analysis.querytreesNull = queries.isEmpty) :
    string.Prepares
      (callPg (fun _ => []) (.ok analysis) >>= fun analysis =>
        if analysis.querytreesNull then
          pure (.error analyzeReturnedNull)
        else
          callPg (fun _ => []) (.ok (string.sourceShape types)) >>= fun shape =>
            pure (.ok (.ofSource string.sql clean first.node types shape)))
      (Executed.ofSource queries) := by
  apply Prepares.called
  rw [same]
  cases queries with
  | nil => exact .refused _
  | cons query queries =>
      apply Prepares.called
      apply Prepares.accepted
      simp [executes, PreparedStatement.ofSource, firstQueries_of_analysis parsed found]

/-- Analysis and completion prepare the queries of the first statement. -/
theorem prepares_directComplete {string : ParseString Q} {hints : List (Option Oid)}
    {first : ParsedStatement Q} {rest : List (ParsedStatement Q)}
    (parsed : string.parsed = .ok (first :: rest))
    (clean : containsNul string.sql = false) :
    string.Prepares (directComplete (string.request hints) clean first.node)
      (match first.analysis hints with
        | .error _ => none
        | .ok (_, queries) => Executed.ofSource queries) := by
  unfold directComplete
  by_cases hinted : hints.any Option.isSome
  · have present : (string.request hints).anyHintPresent = true := hinted
    have answer : (string.request hints).analyze (some (string.request hints).hintOids) =
        (first.fixedparams (string.request hints).hintOids).map fun queries =>
          ⟨queries.isEmpty, (string.request hints).hintOids⟩ := by
      simp [request, analyze, parsed]
    have found : first.analysis hints =
        (first.fixedparams (string.request hints).hintOids).map fun queries =>
          ((string.request hints).hintOids, queries) := by
      rw [ParsedStatement.analysis, if_pos hinted]
      rfl
    simp only [present, if_true, answer]
    cases fixed : first.fixedparams (string.request hints).hintOids with
    | error report =>
        rw [fixed] at found
        rw [found]
        exact .raised _ _
    | ok queries =>
        rw [fixed] at found
        rw [found]
        exact completes parsed found clean rfl
  · have absent : (string.request hints).anyHintPresent = false := by
      simpa [ParseRequest.anyHintPresent, request] using hinted
    have answer : (string.request hints).analyze none =
        first.varparams.map fun inferred => ⟨inferred.2.isEmpty, inferred.1⟩ := by
      simp [request, analyze, parsed]
    have found : first.analysis hints =
        first.varparams.map fun inferred => (inferred.1.map resolveOid, inferred.2) := by
      rw [ParsedStatement.analysis, if_neg hinted]
    simp only [absent, Bool.false_eq_true, if_false, answer]
    cases varied : first.varparams with
    | error report =>
        rw [varied] at found
        rw [found]
        exact .raised _ _
    | ok inferred =>
        rw [varied] at found
        rw [found]
        exact completes parsed found clean rfl

/-- The direct backend completes a plan source for the first statement. -/
theorem prepares_direct (string : ParseString Q) (hints : List (Option Oid))
    (clean : containsNul string.sql = false) :
    string.Prepares (directPrepareBody (string.request hints) clean)
      (string.directAnswer hints) := by
  unfold directAnswer directPrepareBody
  match parsed : string.parsed with
  | .error report =>
      simp only [request, parsed]
      exact .raised _ _
  | .ok [] =>
      simp only [request, parsed]
      exact .called _ (.refused _)
  | .ok (first :: rest) =>
      have statements : (string.request hints).parsed =
          .ok (some first.node :: rest.map fun stmt => some stmt.node) := by
        simp [request, parsed, Except.map]
      rw [statements]
      apply Prepares.called
      simp only [List.isEmpty_map]
      cases (if rest.isEmpty then classifyRawStmt first.node else none) with
      | some cmd => exact .accepted rfl
      | none => exact prepares_directComplete parsed clean

/-- What a `Parse` does with its string, on either backend. -/
theorem prepare_answer (string : ParseString Q) (hints : List (Option Oid))
    (backend : ExecutionBackend) (clean : containsNul string.sql = false) {pg : Pg Q}
    (serves : Serves pg.xact.blockState) :
    match string.answer hints backend with
    | none => ∃ err after,
        prepare backend (string.request hints) pg = (.ret (.error err), after)
    | some executed => ∃ statement after, executed = string.executes statement ∧
        prepare backend (string.request hints) pg = (.ret (.ok statement), after) := by
  have prepares : string.Prepares (prepareBody backend (string.request hints) clean)
      (string.answer hints backend) := by
    cases backend with
    | spi => exact (prepares_spi string hints clean).spiSession
    | direct => exact prepares_direct string hints clean
  obtain ⟨verdict, succeeds, ends⟩ := prepares
  have cleanRequest : containsNul (string.request hints).sql = false := clean
  rw [prepare_eq_withXact (E := Q) backend cleanRequest]
  cases answered : string.answer hints backend with
  | none =>
      rw [answered] at succeeds
      exact withXact_of_fails ends (by simp [succeeds]) serves
  | some executed =>
      rw [answered] at succeeds ends
      cases succeeds.mpr rfl
      obtain ⟨statement, after, runs, run⟩ := withXact_of_succeeds ends serves
      exact ⟨statement, after, Option.some.inj runs, run⟩

end Types

/-! ## Executing the plan -/

/-- The answers of a server that runs the queries of a prepared statement, to
an `Execute` whose parameters are all null. -/
def execution (string : ParseString Q) (statement : PreparedStatement) :
    ExecuteRequest Q where
  parameters := List.replicate statement.plan.paramCount ⟨none, .ok 0⟩
  parameterFormat := .unifiedText
  resultFormat := .unifiedText
  maxRows := 0
  spiRcs := .clean
  spi _ :=
    match string.executes statement with
    | .control _ => .ok (.withoutTable SPI_ERROR_TRANSACTION [])
    | .queries queries => .ok (.withoutTable 4 queries)
  currentDesc :=
    match statement.plan with
    | .direct plan => plan.source.resultDesc
    | _ => none
  portal _ :=
    match string.executes statement with
    | .control _ => .error (noActiveTransaction "")
    | .queries queries => .ok
        { tupDesc := match statement.plan with
            | .direct plan => plan.source.resultDesc
            | _ => none
          tuples := []
          commandTag := ⟨"", false⟩
          nprocessed := 0
          effects := queries
          width := by simp }
  described count run answer := by
    revert answer
    cases string.executes statement with
    | control cmd => exact fun impossible => by cases impossible
    | queries queries =>
        rintro ⟨⟩
        rfl
  finish := none

theorem decodeVerdict_nulls (count : Nat) (flags : List Bool) :
    decodeVerdict ((List.replicate count ⟨none, .ok 0⟩).zip flags) = .succeeds := by
  induction count generalizing flags with
  | zero => rfl
  | succ count inductionHypothesis =>
      cases flags with
      | nil => rfl
      | cons flag flags => exact inductionHypothesis flags

theorem execution_ends (string : ParseString Q) {statement : PreparedStatement}
    (ordinary : statement.plan.ordinary = true) {queries : List Q}
    (runs : string.executes statement = .queries queries) :
    (string.execution statement).verdict statement.plan = .succeeds ∧
      (string.execution statement).effects statement.plan = queries := by
  have decodes : ∀ flags, decodeVerdict ((string.execution statement).parameters.zip flags) =
      .succeeds := decodeVerdict_nulls _
  cases choice : statement.plan with
  | spi plan =>
      have answer : ∀ count, (string.execution statement).spi count =
          .ok (.withoutTable 4 queries) := by
        simp [execution, runs]
      have session : (string.execution statement).spiRcs = .clean := rfl
      simp only [ExecuteRequest.verdict, ExecuteRequest.effects, ExecuteRequest.spiBodyVerdict,
        ExecuteRequest.spiBodyEffects, decodes, answer, spiPlanResponse, SpiResult.withoutTable,
        session]
      exact ⟨rfl, rfl⟩
  | direct plan =>
      simp [ExecuteRequest.verdict, ExecuteRequest.effects, ExecuteRequest.directBodyVerdict,
        ExecuteRequest.directBodyEffects, decodes, CachedPlanSource.refusesChange]
      simp [execution, choice, runs]
  | xactControl cmd =>
      rw [choice] at ordinary
      cases ordinary

/-- An `Execute` outside a block does and commits exactly the queries of its
plan. -/
theorem execute_performs (string : ParseString Q) {statement : PreparedStatement}
    (ordinary : statement.plan.ordinary = true) {queries : List Q}
    (runs : string.executes statement = .queries queries) {pg : Pg Q}
    (outside : pg.xact.blockState = .default) :
    ∃ response after,
      statement.execute (string.execution statement) pg = (.ret (.ok response), after) ∧
        after.xact.committed = pg.xact.committed ++ queries := by
  have binds : (string.execution statement).Binds statement.plan := by
    constructor
    · simp [execution]
    · simp [execution, ExecuteRequest.formatsCover, Format.covers]
  obtain ⟨body, answers, run, ends⟩ := PreparedStatement.execute_ends ordinary binds
  obtain ⟨succeeds, does⟩ := string.execution_ends ordinary runs
  rw [succeeds, does] at ends
  obtain ⟨outcome, after, returned, committed, _, answers⟩ :=
    withXact_default_committed _ ends outside
  obtain ⟨response, rfl⟩ := answers.mpr ⟨rfl, rfl⟩
  rw [run]
  exact ⟨response, after, returned, committed⟩

end ParseString

end PgTransport.Backend
