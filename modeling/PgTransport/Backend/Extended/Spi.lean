import PgTransport.Backend.Extended.Prepared

/-!
# The extended-query SPI backend

`Parse` prepares and keeps an SPI plan and caches the type identifiers of the
result columns of its first plan source; `Execute` runs the plan and encodes
the tuple table it leaves with the cached identifiers.
-/

namespace PgTransport.Backend

open PgTransport.Computation
open PgTransport.Postgres
open PgTransport.Wire

variable {E : Type}

/-- `infer_param_types_and_classify`. -/
def inferParamTypesAndClassify (request : ParseRequest) :
    PgM E (List Oid × Option XactCmd) := do
  let rawList ← callPg (fun _ => []) request.parsed
  match rawList with
  | [] => pure ([], none)
  | none :: _ => pure ([], none)
  | some first :: rest =>
      match (if rest.isEmpty then classifyRawStmt first else none) with
      | some cmd => pure ([], some cmd)
      | none => do
          let analysis ← callPg (fun _ => []) (request.analyze none)
          pure (analysis.paramTypes.map resolveOid, none)

/-- The argument types `prepare` passes on, echoed from the client's hints or
inferred, with the classification that only inference makes. -/
def spiArguments (request : ParseRequest) : PgM E (List Oid × Option XactCmd) :=
  if request.anyHintPresent then
    pure (request.hintOids, none)
  else
    inferParamTypesAndClassify request

/-- `plan_result_columns`: the descriptor of the plan's first source. -/
def planResultColumns (plan : SpiPlan) : Option TupleDesc :=
  plan.planSources.head?.join

section Types

variable [TypeTable]

/-- The prepared statement that wraps a kept SPI plan. -/
def PreparedStatement.ofSpiPlan (sql : String) (clean : containsNul sql = false)
    (plan : SpiPlan) : PreparedStatement :=
  let resultSchema := baseSchemaOf (planResultColumns plan)
  ⟨sql, plan.argTypes.map paramType, resultSchema,
    .spi ⟨plan, plan.argTypes, columnOidsOf resultSchema, resultSchema⟩, clean⟩

/-- The closure of `prepare`. -/
def spiPrepareBody (request : ParseRequest) (clean : containsNul request.sql = false) :
    PgM E (PgWireResult PreparedStatement) := do
  let (argOids, classification) ← spiArguments request
  match classification with
  | some cmd => pure (.ok (.xactControl request.sql clean cmd))
  | none => do
      let prepared ← callPg (fun _ => []) (request.spiPrepare argOids)
      match prepared with
      | .error rc => pure (.error (spiRcError "SPI_prepare" rc))
      | .ok plan =>
          if request.keepplanRc ≠ 0 then
            pure (.error (spiRcError "SPI_keepplan" request.keepplanRc))
          else
            pure (.ok (.ofSpiPlan request.sql clean plan))

/-- `extended::spi::prepare`. -/
def spiPrepare (request : ParseRequest) : PgM E (PgWireResult PreparedStatement) :=
  if clean : containsNul request.sql = false then
    withSpi request.spiRcs request.finish (spiPrepareBody request clean)
  else
    pure (.error (genericError "pg_transport extended"
      "query string contains a NUL byte"))

end Types

/-- `command_tag_from_rc`. -/
def commandTagFromRc (rc : Int) : String :=
  match rc with
  | 5 => "SELECT"
  | 7 => "INSERT"
  | 9 => "UPDATE"
  | 8 => "DELETE"
  | 11 => "INSERT"
  | 13 => "UPDATE"
  | 12 => "DELETE"
  | 18 => "MERGE"
  | 4 => "OK"
  | _ => "OK"

/-- The response to a successful `SPI_execute_plan`: the tuple table encoded
with the cached identifiers, or the processed count without one. -/
def spiPlanResponse (backend : SpiBackendPlan) (format : Format)
    (resultFormatPerCol : List FieldFormat) (result : SpiResult E) :
    Except Payload Response :=
  let tagName := commandTagFromRc result.rc
  let withoutTable := Response.execution ((Tag.new tagName).withRows result.processed)
  match result.tuptable with
  | some table =>
      if backend.baseSchema.isEmpty then
        pure withoutTable
      else do
        let dataRows ← table.encodeRows
          (cachedEncoders backend.columnOids resultFormatPerCol) 0 table.vals
        pure (.query (requestedSchema backend.baseSchema format resultFormatPerCol)
          dataRows (some tagName))
  | none => pure withoutTable

/-- The closure of `execute_impl`. -/
def spiExecuteBody (backend : SpiBackendPlan) (request : ExecuteRequest E)
    (formats : BoundFormats) : PgM E (PgWireResult Response) := do
  let decoded ← decodeParameters (request.parameters.zip formats.paramIsBinary)
  match decoded with
  | .error err => pure (.error err)
  | .ok _ => do
      let result ← callPg SpiResult.effects (request.spi request.maxRows)
      if result.rc < 0 then
        pure (.error (spiRcError "SPI_execute_plan" result.rc))
      else do
        let response ← liftPanic
          (spiPlanResponse backend request.resultFormat formats.resultFormatPerCol result)
        pure (.ok response)

/-- `extended::spi::execute_impl`. -/
def spiExecuteImpl (backend : SpiBackendPlan) (request : ExecuteRequest E) :
    PgM E (PgWireResult Response) :=
  if request.parameters.length ≠ backend.paramOids.length then
    pure (.error (countMismatch "pg_transport extended" request.parameters.length
      backend.paramOids.length))
  else do
    let formats ← liftPanic (request.boundFormats backend.baseSchema.length)
    withSpi request.spiRcs request.finish (spiExecuteBody backend request formats)

end PgTransport.Backend
