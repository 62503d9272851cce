import Mathlib.Algebra.Group.Nat.Defs
import PgTransport.Backend.Extended.Prepared

/-!
# The extended-query direct backend

`Parse` completes a cached plan source with a fixed result and caches the type
identifiers of its descriptor; `Execute` revalidates the source, runs a portal
and lets the wire receiver encode each tuple with the cached identifiers.
-/

namespace PgTransport.Backend

open PgTransport.Computation
open PgTransport.Postgres
open PgTransport.Wire

variable {E : Type}

/-- The errors `prepare` reports without a PG `ERROR`. -/
def emptyQueryString : PgWireError :=
  ⟨"ERROR", "42601", "pg_transport direct: empty query string"⟩

/-- `pg_parse_query` returned a null statement. -/
def nullRawStmt : PgWireError :=
  ⟨"ERROR", "XX000", "pg_transport direct: pg_parse_query returned a null RawStmt"⟩

/-- The analyzer returned no query tree. -/
def analyzeReturnedNull : PgWireError :=
  ⟨"ERROR", "XX000", "pg_transport direct: analyze returned null"⟩

section Types

variable [TypeTable]

/-- The prepared statement that wraps a saved plan source. -/
def PreparedStatement.ofSource (sql : String) (clean : containsNul sql = false)
    (first : Node) (paramOids : List Oid) (shape : SourceShape) : PreparedStatement :=
  let baseSchema := baseSchemaOf shape.resultDesc
  ⟨sql, paramOids.map paramType, baseSchema,
    .direct ⟨⟨first, true, shape.resultDesc⟩, paramOids, columnOidsOf baseSchema,
      shape.commandTag, baseSchema⟩, clean⟩

/-- Analysis and completion of the first statement of a `Parse` string. -/
def directComplete (request : ParseRequest) (clean : containsNul request.sql = false)
    (first : Node) : PgM E (PgWireResult PreparedStatement) := do
  let analysis ← callPg (fun _ => [])
    (request.analyze (if request.anyHintPresent then some request.hintOids else none))
  let resolvedOids :=
    if request.anyHintPresent then request.hintOids
    else analysis.paramTypes.map resolveOid
  if analysis.querytreesNull then
    pure (.error analyzeReturnedNull)
  else do
    let shape ← callPg (fun _ => []) (request.complete resolvedOids)
    pure (.ok (.ofSource request.sql clean first resolvedOids shape))

/-- The closure of `prepare`. -/
def directPrepareBody (request : ParseRequest)
    (clean : containsNul request.sql = false) :
    PgM E (PgWireResult PreparedStatement) := do
  let rawList ← callPg (fun _ => []) request.parsed
  match rawList with
  | [] => pure (.error emptyQueryString)
  | none :: _ => pure (.error nullRawStmt)
  | some first :: rest =>
      match (if rest.isEmpty then classifyRawStmt first else none) with
      | some cmd => pure (.ok (.xactControl request.sql clean cmd))
      | none => directComplete request clean first

/-- `extended::direct::prepare`. -/
def directPrepare (request : ParseRequest) : PgM E (PgWireResult PreparedStatement) :=
  if clean : containsNul request.sql = false then
    withXact true request.finish (directPrepareBody request clean)
  else
    pure (.error ⟨"ERROR", "08P01",
      "pg_transport direct: query string contains a NUL byte"⟩)

end Types

/-- The statement's analysis depends on the catalog, so that its cached plan is
revalidated when it is fetched. -/
def CachedPlanSource.revalidates (source : CachedPlanSource) : Bool :=
  source.node.analyzeRequiresSnapshot

/-- `GetCachedPlan`: revalidation refuses a changed descriptor of a plan source
with a fixed result.  Utility statements are not revalidated. -/
def CachedPlanSource.getPlan (source : CachedPlanSource)
    (currentDesc : Option TupleDesc) : PgM E Unit :=
  if source.revalidates && source.fixedResult && currentDesc != source.resultDesc then
    ereport ⟨"ERROR", "ERRCODE_FEATURE_NOT_SUPPORTED",
      "cached plan must not change result type"⟩
  else
    pure ()

/-- The row count passed to `PortalRun`: `i64::MAX` for no limit. -/
def portalCount (maxRows : Nat) : Nat :=
  if maxRows = 0 then 2 ^ 63 - 1 else maxRows

/-- The response to a finished portal run. -/
def directPlanResponse (backend : DirectBackendPlan) (format : Format)
    (resultFormatPerCol : List FieldFormat) (run : PortalRun E) : Response :=
  if backend.baseSchema.isEmpty then
    let tag := Tag.new backend.commandTag.name
    .execution (if backend.commandTag.displayRowcount then tag.withRows run.nprocessed
      else tag)
  else
    .query (requestedSchema backend.baseSchema format resultFormatPerCol)
      (receiveAll (cachedEncoders backend.columnOids resultFormatPerCol) run.tuples)
      (some backend.commandTag.name)

/-- The closure of `execute_impl`. -/
def directExecuteBody (backend : DirectBackendPlan) (request : ExecuteRequest E)
    (formats : BoundFormats) : PgM E (PgWireResult Response) := do
  let decoded ← decodeParameters (request.parameters.zip formats.paramIsBinary)
  match decoded with
  | .error err => pure (.error err)
  | .ok _ => do
      backend.source.getPlan request.currentDesc
      let run ← runPortal backend.source.node
        (request.portal (portalCount request.maxRows))
      pure (.ok (directPlanResponse backend request.resultFormat
        formats.resultFormatPerCol run))

/-- `extended::direct::execute_impl`. -/
def directExecuteImpl (backend : DirectBackendPlan) (request : ExecuteRequest E) :
    PgM E (PgWireResult Response) :=
  if request.parameters.length ≠ backend.paramOids.length then
    pure (.error (countMismatch "pg_transport direct" request.parameters.length
      backend.paramOids.length))
  else do
    let formats ← liftPanic (request.boundFormats backend.baseSchema.length)
    withXact true request.finish (directExecuteBody backend request formats)

end PgTransport.Backend
