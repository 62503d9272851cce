import PgTransport.Backend.Outcome

/-!
# The outcome of `Parse` and `Execute`

As for the statements of a query body, the server's answers decide whether the
body of a bracket succeeds, raises or is refused.
-/

namespace PgTransport.Backend

open PgTransport.Computation
open PgTransport.Postgres
open PgTransport.Wire

variable {E : Type}

/-! ## Parse -/

/-- The parse tree decides the argument types or, for a single statement of
transaction control, the interception. -/
def ParseRequest.inferred (request : ParseRequest) :
    Except ErrorReport (List Oid × Option XactCmd) :=
  match request.parsed with
  | .error report => .error report
  | .ok [] | .ok (none :: _) => .ok ([], none)
  | .ok (some first :: rest) =>
      match (if rest.isEmpty then classifyRawStmt first else none) with
      | some cmd => .ok ([], some cmd)
      | none => (request.analyze none).map fun analysis =>
          (analysis.paramTypes.map resolveOid, none)

/-- The arguments `prepare` passes on. -/
def ParseRequest.arguments (request : ParseRequest) :
    Except ErrorReport (List Oid × Option XactCmd) :=
  if request.anyHintPresent then .ok (request.hintOids, none) else request.inferred

/-- How the closure of the SPI `prepare` ends. -/
def ParseRequest.spiBodyVerdict (request : ParseRequest) : Verdict :=
  match request.arguments with
  | .error _ => .raises
  | .ok (_, some _) => .succeeds
  | .ok (argOids, none) =>
      match request.spiPrepare argOids with
      | .error _ => .raises
      | .ok (.error _) => .refuses
      | .ok (.ok _) => if request.keepplanRc ≠ 0 then .refuses else .succeeds

/-- How analysis and completion of the first statement end. -/
def ParseRequest.completeVerdict (request : ParseRequest) : Verdict :=
  match request.analyze (if request.anyHintPresent then some request.hintOids else none) with
  | .error _ => .raises
  | .ok analysis =>
      if analysis.querytreesNull then
        .refuses
      else
        match request.complete (if request.anyHintPresent then request.hintOids
          else analysis.paramTypes.map resolveOid) with
        | .error _ => .raises
        | .ok _ => .succeeds

/-- The descriptor that completing the first statement settles on. -/
def ParseRequest.completeDescriptor (request : ParseRequest) : Option TupleDesc :=
  match request.analyze (if request.anyHintPresent then some request.hintOids else none) with
  | .error _ => none
  | .ok analysis =>
      match request.complete (if request.anyHintPresent then request.hintOids
        else analysis.paramTypes.map resolveOid) with
      | .error _ => none
      | .ok shape => shape.resultDesc

/-- How a `Parse` ends inside its bracket. -/
def ParseRequest.verdict (request : ParseRequest) : ExecutionBackend → Verdict
  | .spi => request.spiRcs.settle request.spiBodyVerdict
  | .direct =>
      match request.parsed with
      | .error _ => .raises
      | .ok [] | .ok (none :: _) => .refuses
      | .ok (some first :: rest) =>
          match (if rest.isEmpty then classifyRawStmt first else none) with
          | some _ => .succeeds
          | none => request.completeVerdict

/-- The result descriptor that `Parse` reads on a backend, where it makes a plan. -/
def ParseRequest.descriptor (request : ParseRequest) :
    ExecutionBackend → Option TupleDesc
  | .spi =>
      match request.arguments with
      | .ok (argOids, none) =>
          match request.spiPrepare argOids with
          | .ok (.ok plan) => planResultColumns plan
          | _ => none
      | _ => none
  | .direct =>
      match request.parsed with
      | .ok (some first :: rest) =>
          match (if rest.isEmpty then classifyRawStmt first else none) with
          | some _ => none
          | none => request.completeDescriptor
      | _ => none

theorem spiArguments_eq (request : ParseRequest) :
    (spiArguments request : PgM E _) = callPg (fun _ => []) request.arguments := by
  funext pg
  unfold spiArguments ParseRequest.arguments
  split
  · simp
  · unfold inferParamTypesAndClassify ParseRequest.inferred
    cases request.parsed with
    | error report => rfl
    | ok rawList =>
        match rawList with
        | [] => simp
        | none :: _ => simp
        | some first :: rest =>
            simp only [Comp.bind_apply, callPg_ok, resume_ret, Pg.work_nil]
            cases (if rest.isEmpty then classifyRawStmt first else none) with
            | some cmd => simp
            | none => cases request.analyze none <;> simp [Except.map]

section Types

variable [TypeTable]

/-- The prepared statement carries the text-format schema of this descriptor. -/
def Describes (desc : Option TupleDesc) (statement : PreparedStatement) : Prop :=
  statement.resultSchema = baseSchemaOf desc

theorem endsAs_spiPrepareBody (request : ParseRequest)
    (clean : containsNul request.sql = false) :
    EndsAs (spiPrepareBody request clean : PgM E _) request.spiBodyVerdict []
      (Describes (request.descriptor .spi)) := by
  unfold ParseRequest.spiBodyVerdict ParseRequest.descriptor spiPrepareBody
  rw [spiArguments_eq]
  match request.arguments with
  | .error report => exact .raised _ report _
  | .ok (argOids, some cmd) => exact .called _ (argOids, some cmd) (.value rfl)
  | .ok (argOids, none) =>
      refine .called _ (argOids, none) ?_
      dsimp only
      cases request.spiPrepare argOids with
      | error report => exact .raised _ report _
      | ok prepared =>
          refine .called _ prepared ?_
          cases prepared with
          | error rc => exact .error _
          | ok plan =>
              dsimp only
              split
              · exact .error _
              · exact .value rfl

theorem endsAs_directComplete (request : ParseRequest)
    (clean : containsNul request.sql = false) (first : Node) :
    EndsAs (directComplete request clean first : PgM E _) request.completeVerdict []
      (Describes request.completeDescriptor) := by
  unfold ParseRequest.completeVerdict ParseRequest.completeDescriptor directComplete
  cases request.analyze
      (if request.anyHintPresent then some request.hintOids else none) with
  | error report => exact .raised _ report _
  | ok analysis =>
      refine .called _ analysis ?_
      dsimp only
      split
      · exact .error _
      · cases request.complete (if request.anyHintPresent then request.hintOids
            else analysis.paramTypes.map resolveOid) with
        | error report => exact .raised _ report _
        | ok shape => exact .called _ shape (.value rfl)

theorem endsAs_directPrepareBody (request : ParseRequest)
    (clean : containsNul request.sql = false) :
    EndsAs (directPrepareBody request clean : PgM E _) (request.verdict .direct) []
      (Describes (request.descriptor .direct)) := by
  unfold ParseRequest.verdict ParseRequest.descriptor directPrepareBody
  cases request.parsed with
  | error report => exact .raised _ report _
  | ok rawList =>
      refine .called _ rawList ?_
      match rawList with
      | [] => exact .error _
      | none :: _ => exact .error _
      | some first :: rest =>
          dsimp only
          cases (if rest.isEmpty then classifyRawStmt first else none) with
          | some cmd => exact .value rfl
          | none => exact endsAs_directComplete request clean first

/-- What a `Parse` runs inside its bracket. -/
def prepareBody (backend : ExecutionBackend) (request : ParseRequest)
    (clean : containsNul request.sql = false) : PgM E (PgWireResult PreparedStatement) :=
  match backend with
  | .spi => spiSession request.spiRcs (spiPrepareBody request clean)
  | .direct => directPrepareBody request clean

theorem prepare_eq_withXact (backend : ExecutionBackend) {request : ParseRequest}
    (clean : containsNul request.sql = false) :
    (prepare backend request : PgM E _) =
      withXact true request.finish (prepareBody backend request clean) := by
  cases backend with
  | spi => simp [prepare, clean, spiPrepare, withSpi_eq_withXact, prepareBody]
  | direct => simp [prepare, clean, directPrepare, prepareBody]

theorem endsAs_prepareBody (backend : ExecutionBackend) (request : ParseRequest)
    (clean : containsNul request.sql = false) :
    EndsAs (prepareBody backend request clean : PgM E _) (request.verdict backend) []
      (Describes (request.descriptor backend)) := by
  cases backend with
  | spi =>
      have settled := (endsAs_spiPrepareBody (E := E) request clean).spiSession request.spiRcs
      rw [show request.spiRcs.performed ([] : List E) = [] by
        unfold SpiRcs.performed
        split <;> rfl] at settled
      exact settled
  | direct => exact endsAs_directPrepareBody request clean

end Types

/-! ## Execute -/

/-- How the decoding of the parameters with their format flags ends. -/
def decodeVerdict : List (BoundParameter × Bool) → Verdict
  | [] => .succeeds
  | (parameter, isBinary) :: parameters =>
      match parameter.bytes with
      | none => decodeVerdict parameters
      | some bytes =>
          if !isBinary && bytes.contains 0 then
            .refuses
          else
            match parameter.datum with
            | .error _ => .raises
            | .ok _ => decodeVerdict parameters

theorem endsAs_decodeParameters (parameters : List (BoundParameter × Bool)) :
    EndsAs (decodeParameters parameters : PgM E _) (decodeVerdict parameters) []
      fun _ => True := by
  induction parameters with
  | nil => exact .value trivial
  | cons entry parameters inductionHypothesis =>
      obtain ⟨parameter, isBinary⟩ := entry
      unfold decodeParameters decodeVerdict
      cases parameter.bytes with
      | none => exact inductionHypothesis.map fun datums => none :: datums
      | some bytes =>
          dsimp only
          split
          · exact .error _
          · cases parameter.datum with
            | error report => exact .raised _ report _
            | ok datum =>
                exact .called _ datum
                  (inductionHypothesis.map fun datums => some datum :: datums)

/-- How the closure of the SPI `execute_impl` ends. -/
def ExecuteRequest.spiBodyVerdict (request : ExecuteRequest E) (backend : SpiBackendPlan)
    (formats : BoundFormats) : Verdict :=
  match decodeVerdict (request.parameters.zip formats.paramIsBinary) with
  | .succeeds =>
      match request.spi request.maxRows with
      | .error _ => .raises
      | .ok result =>
          if result.rc < 0 then
            .refuses
          else
            match spiPlanResponse backend request.resultFormat formats.resultFormatPerCol
              result with
            | .error _ => .raises
            | .ok _ => .succeeds
  | failure => failure

/-- The work of the closure of the SPI `execute_impl`. -/
def ExecuteRequest.spiBodyEffects (request : ExecuteRequest E) (formats : BoundFormats) :
    List E :=
  match decodeVerdict (request.parameters.zip formats.paramIsBinary) with
  | .succeeds =>
      match request.spi request.maxRows with
      | .error _ => []
      | .ok result => result.effects
  | _ => []

/-- What a body does behind the decoded parameters. -/
theorem EndsAs.decoded {α : Type} {parameters : List (BoundParameter × Bool)}
    {verdict : Verdict} {effects : List E} {answers : α → Prop}
    {next : List (Option Datum) → PgM E (PgWireResult α)}
    (ends : ∀ datums, EndsAs (next datums) verdict effects answers) :
    EndsAs (do
        let decoded ← decodeParameters parameters
        match decoded with
        | .error err => pure (.error err)
        | .ok datums => next datums)
      (match decodeVerdict parameters with
        | .succeeds => verdict
        | failure => failure)
      (match decodeVerdict parameters with
        | .succeeds => effects
        | _ => [])
      answers := by
  intro pg
  have decode := endsAs_decodeParameters parameters pg
  cases decided : decodeVerdict parameters with
  | succeeds =>
      rw [decided] at decode
      obtain ⟨datums, _, run⟩ := decode
      have rest := ends datums pg
      rw [Pg.work_nil] at run
      cases verdict <;> simpa only [Comp.bind_apply, run, resume_ret] using rest
  | raises =>
      rw [decided] at decode
      obtain ⟨payload, depth, run⟩ := decode
      exact ⟨payload, depth, by simp [run]⟩
  | refuses =>
      rw [decided] at decode
      obtain ⟨err, run⟩ := decode
      exact ⟨err, by simp [run]⟩

/-- The closure of `execute_impl` ends as the server's answers say; its answer
is shaped from the result of the plan. -/
theorem endsAs_spiExecuteBody (backend : SpiBackendPlan) (request : ExecuteRequest E)
    (formats : BoundFormats) :
    EndsAs (spiExecuteBody backend request formats) (request.spiBodyVerdict backend formats)
      (request.spiBodyEffects formats) fun response => ∃ result,
        request.spi request.maxRows = .ok result ∧
          spiPlanResponse backend request.resultFormat formats.resultFormatPerCol result =
            .ok response := by
  unfold ExecuteRequest.spiBodyVerdict ExecuteRequest.spiBodyEffects
  apply EndsAs.decoded
  intro datums
  cases answer : request.spi request.maxRows with
  | error report => exact .raised _ report _
  | ok result =>
      by_cases failed : result.rc < 0
      · simp only [failed, if_true]
        exact .refuses (spiRcError "SPI_execute_plan" result.rc) fun pg => by simp [failed]
      · simp only [failed, if_false]
        cases shaped : spiPlanResponse backend request.resultFormat
            formats.resultFormatPerCol result with
        | error payload => exact .raises payload fun pg => by simp [failed, shaped, liftPanic]
        | ok response =>
            exact .succeeds ⟨result, rfl, shaped⟩ fun pg => by simp [failed, shaped, liftPanic]

/-- `GetCachedPlan` refuses the descriptor that the statement has now. -/
def CachedPlanSource.refusesChange (source : CachedPlanSource)
    (currentDesc : Option TupleDesc) : Bool :=
  source.revalidates && source.fixedResult && currentDesc != source.resultDesc

/-- How the closure of the direct `execute_impl` ends, for a statement that is
no transaction statement. -/
def ExecuteRequest.directBodyVerdict (request : ExecuteRequest E)
    (backend : DirectBackendPlan) (formats : BoundFormats) : Verdict :=
  match decodeVerdict (request.parameters.zip formats.paramIsBinary) with
  | .succeeds =>
      if backend.source.refusesChange request.currentDesc then
        .raises
      else
        match request.portal (portalCount request.maxRows) with
        | .error _ => .raises
        | .ok _ => .succeeds
  | failure => failure

/-- The work of the closure of the direct `execute_impl`. -/
def ExecuteRequest.directBodyEffects (request : ExecuteRequest E)
    (backend : DirectBackendPlan) (formats : BoundFormats) : List E :=
  match decodeVerdict (request.parameters.zip formats.paramIsBinary) with
  | .succeeds =>
      if backend.source.refusesChange request.currentDesc then
        []
      else
        match request.portal (portalCount request.maxRows) with
        | .error _ => []
        | .ok run => run.effects
  | _ => []

theorem endsAs_directExecuteBody {backend : DirectBackendPlan}
    (ordinary : isTransactionStmt backend.source.node = false) (request : ExecuteRequest E)
    (formats : BoundFormats) :
    EndsAs (directExecuteBody backend request formats)
      (request.directBodyVerdict backend formats) (request.directBodyEffects backend formats)
      fun response => ∃ run,
        request.portal (portalCount request.maxRows) = .ok run ∧
          response = directPlanResponse backend request.resultFormat
            formats.resultFormatPerCol run := by
  unfold ExecuteRequest.directBodyVerdict ExecuteRequest.directBodyEffects
  apply EndsAs.decoded
  intro datums
  cases refused : backend.source.refusesChange request.currentDesc with
  | true =>
      rw [CachedPlanSource.refusesChange] at refused
      simp only [CachedPlanSource.getPlan, refused, if_true]
      exact .raises (.caughtError ⟨"ERROR", "ERRCODE_FEATURE_NOT_SUPPORTED",
        "cached plan must not change result type"⟩) fun pg => by simp
  | false =>
      rw [CachedPlanSource.refusesChange] at refused
      simp only [CachedPlanSource.getPlan, refused, runPortal_ordinary ordinary]
      cases answer : request.portal (portalCount request.maxRows) with
      | error report => exact .raises (.caughtError report) fun pg => by simp
      | ok run => exact .succeeds ⟨run, rfl, rfl⟩ fun pg => by simp

/-- The closure of a direct `Execute` of a transaction statement, by the verdict
on its parameters. -/
theorem directExecuteBody_command {backend : DirectBackendPlan} {command : TransactionStmt}
    (node : backend.source.node = .transactionStmt command)
    (request : ExecuteRequest E) (formats : BoundFormats) (inside : Pg E) :
    match decodeVerdict (request.parameters.zip formats.paramIsBinary) with
    | .succeeds => ∃ shape : String → Response,
        directExecuteBody backend request formats inside =
          resume (processUtility command inside) fun tag => pure (.ok (shape tag))
    | .raises => ∃ payload depth,
        directExecuteBody backend request formats inside =
          (.unwind payload, inside.atSpiDepth depth)
    | .refuses => ∃ err,
        directExecuteBody backend request formats inside = (.ret (.error err), inside) := by
  have decode := endsAs_decodeParameters (E := E)
    (request.parameters.zip formats.paramIsBinary) inside
  cases decided : decodeVerdict (request.parameters.zip formats.paramIsBinary) with
  | succeeds =>
      rw [decided] at decode
      obtain ⟨datums, _, run⟩ := decode
      rw [Pg.work_nil] at run
      refine ⟨fun tag => directPlanResponse backend request.resultFormat
        formats.resultFormatPerCol (PortalRun.command (E := E) ⟨tag, false⟩ 0 []), ?_⟩
      have planned : (backend.source.getPlan request.currentDesc : PgM E Unit) = pure () := by
        simp [CachedPlanSource.getPlan, CachedPlanSource.revalidates, node,
          Node.analyzeRequiresSnapshot]
      simp only [directExecuteBody, Comp.bind_apply, run, resume_ret, planned,
        Comp.pure_apply, runPortal, node, Comp.resume_resume]
      exact resume_congr fun tag state => rfl
  | raises =>
      rw [decided] at decode
      obtain ⟨payload, depth, run⟩ := decode
      rw [Pg.work_nil] at run
      exact ⟨payload, depth, by simp [directExecuteBody, run]⟩
  | refuses =>
      rw [decided] at decode
      obtain ⟨err, run⟩ := decode
      exact ⟨err, by simp [directExecuteBody, run]⟩

/-! ## The whole message -/

/-- How the body of an `Execute` ends.  Transaction control has no bracket. -/
def ExecuteRequest.verdict (request : ExecuteRequest E) : BackendPlan → Verdict
  | .spi plan =>
      request.spiRcs.settle
        (request.spiBodyVerdict plan (request.formats plan.baseSchema.length))
  | .direct plan =>
      request.directBodyVerdict plan (request.formats plan.baseSchema.length)
  | .xactControl _ => .refuses

/-- The work an `Execute` does inside its bracket. -/
def ExecuteRequest.effects (request : ExecuteRequest E) : BackendPlan → List E
  | .spi plan =>
      request.spiRcs.performed (request.spiBodyEffects (request.formats plan.baseSchema.length))
  | .direct plan =>
      request.directBodyEffects plan (request.formats plan.baseSchema.length)
  | .xactControl _ => []

/-- The plan runs an ordinary statement, not a transaction statement. -/
def BackendPlan.ordinary : BackendPlan → Bool
  | .spi _ => true
  | .direct plan => !isTransactionStmt plan.source.node
  | .xactControl _ => false

/-- An `Execute` of an ordinary plan is one bracket around a body that ends as
the server's answers say. -/
theorem PreparedStatement.execute_ends {statement : PreparedStatement}
    {request : ExecuteRequest E} (ordinary : statement.plan.ordinary = true)
    (binds : request.Binds statement.plan) :
    ∃ body answers, statement.execute request = withXact true request.finish body ∧
      EndsAs body (request.verdict statement.plan) (request.effects statement.plan)
        answers := by
  cases choice : statement.plan with
  | spi plan =>
      refine ⟨_, _, ?_, (endsAs_spiExecuteBody plan request _).spiSession request.spiRcs⟩
      rw [execute_spi choice binds, withSpi_eq_withXact]
  | direct plan =>
      rw [choice] at ordinary
      have plain : isTransactionStmt plan.source.node = false := by
        simpa [BackendPlan.ordinary] using ordinary
      exact ⟨_, _, execute_direct choice binds, endsAs_directExecuteBody plain request _⟩
  | xactControl cmd =>
      rw [choice] at ordinary
      cases ordinary

end PgTransport.Backend
