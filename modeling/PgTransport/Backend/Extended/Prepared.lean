import PgTransport.Backend.SimpleDirect

/-!
# Prepared statements and the messages that make and run them

A `Parse` message resolves to a prepared statement whose plan belongs to the
backend that was selected at that moment; every later `Execute` runs that plan.
The requests carry the server's answers as the simple-query statements do.
-/

namespace PgTransport.Backend

open PgTransport.Computation
open PgTransport.Postgres
open PgTransport.Wire

/-! ## Parse -/

/-- What the analyzer returns: whether its query tree list is null, and the
parameter types it settled on. -/
structure Analysis where
  querytreesNull : Bool
  paramTypes : List Oid
  deriving DecidableEq, Repr

/-- A kept SPI plan: its argument types and the result descriptor of each of
its plan sources. -/
structure SpiPlan where
  argTypes : List Oid
  planSources : List (Option TupleDesc)
  deriving DecidableEq, Repr

/-- `CachedPlanSource`, as far as the bridge and revalidation read it. -/
structure CachedPlanSource where
  node : Node
  fixedResult : Bool
  resultDesc : Option TupleDesc
  deriving DecidableEq, Repr

/-- What completing a cached plan source yields: the result descriptor and the
command tag. -/
structure SourceShape where
  resultDesc : Option TupleDesc
  commandTag : CommandTag
  deriving DecidableEq, Repr

/-- A `Parse` message with the server's answers.  `analyze none` is the
variable-parameter analysis, `analyze (some types)` the fixed-parameter one;
`spiPrepare` answers with a plan or with the code left in `SPI_result`. -/
structure ParseRequest where
  sql : String
  paramHints : List (Option Oid)
  spiRcs : SpiRcs
  parsed : Except ErrorReport (List (Option Node))
  analyze : Option (List Oid) → Except ErrorReport Analysis
  spiPrepare : List Oid → Except ErrorReport (Except Int SpiPlan)
  keepplanRc : Int
  complete : List Oid → Except ErrorReport SourceShape
  finish : Option ErrorReport

/-- `param_hints.iter().any(|o| o.is_some())`. -/
def ParseRequest.anyHintPresent (request : ParseRequest) : Bool :=
  request.paramHints.any Option.isSome

/-- The hints as type identifiers, `InvalidOid` where the client gave none. -/
def ParseRequest.hintOids (request : ParseRequest) : List Oid :=
  request.paramHints.map fun hint => hint.getD INVALID

/-- `TEXTOID` for a parameter the analyzer could not resolve. -/
def resolveOid (oid : Oid) : Oid :=
  if oid = INVALID ∨ oid = UNKNOWNOID then TEXTOID else oid

/-! ## Plans -/

/-- `SpiBackendPlan`. -/
structure SpiBackendPlan where
  plan : SpiPlan
  paramOids : List Oid
  columnOids : List Oid
  baseSchema : List FieldInfo
  deriving DecidableEq, Repr

/-- `DirectBackendPlan`. -/
structure DirectBackendPlan where
  source : CachedPlanSource
  paramOids : List Oid
  columnOids : List Oid
  commandTag : CommandTag
  baseSchema : List FieldInfo
  deriving DecidableEq, Repr

/-- The implementations of `PreparedPlan`. -/
inductive BackendPlan where
  | spi (plan : SpiBackendPlan)
  | direct (plan : DirectBackendPlan)
  | xactControl (cmd : XactCmd)
  deriving DecidableEq, Repr

/-- `PreparedStatement`.  Its query string went through `CString::new` at
`Parse`, which is what `execute` expects of it. -/
structure PreparedStatement where
  sql : String
  paramTypes : List WireType
  resultSchema : List FieldInfo
  plan : BackendPlan
  clean : containsNul sql = false
  deriving DecidableEq

/-- The statement both backends build for transaction control. -/
def PreparedStatement.xactControl (sql : String) (clean : containsNul sql = false)
    (cmd : XactCmd) : PreparedStatement :=
  ⟨sql, [], [], .xactControl cmd, clean⟩

section Schema

variable [TypeTable]

/-- The wire type of a parameter. -/
def paramType (oid : Oid) : WireType :=
  (TypeTable.fromOid oid).getD WireType.UNKNOWN

/-- The text-format schema of a result descriptor; empty without one. -/
def baseSchemaOf (resultDesc : Option TupleDesc) : List FieldInfo :=
  (resultDesc.getD []).map (FieldInfo.ofAttribute .text)

end Schema

/-- The type identifiers cached for the encoders. -/
def columnOidsOf (schema : List FieldInfo) : List Oid :=
  schema.map fun field => field.datatype.oid

/-! ## Execute -/

/-- One bound parameter: its bytes, absent for NULL, and what the input or
receive function of the parameter's type makes of them. -/
structure BoundParameter where
  bytes : Option (List UInt8)
  datum : Except ErrorReport Datum

/-- An `Execute` message, with the parameters and formats of its portal and the
server's answers.  `currentDesc` is the result descriptor the statement has
now; the tuples a portal run delivers are described by it. -/
structure ExecuteRequest (E : Type) where
  parameters : List BoundParameter
  parameterFormat : Format
  resultFormat : Format
  maxRows : Nat
  spiRcs : SpiRcs
  spi : Nat → Except ErrorReport (SpiResult E)
  currentDesc : Option TupleDesc
  portal : Nat → Except ErrorReport (PortalRun E)
  described : ∀ count run, portal count = .ok run → run.tupDesc = currentDesc
  finish : Option ErrorReport

variable {E : Type}

/-- The message of a parameter-count mismatch. -/
def countMismatch (pre : String) (got expected : Nat) : PgWireError :=
  genericError pre
    (s!"bind parameter count mismatch: got {got}, expected {expected}")

/-- The error of a text parameter that `CString::new` refuses. -/
def nulParameter : PgWireError :=
  genericError "pg_transport spi" "text parameter contains an interior NUL byte"

/-- The format lookups of an execution: the format of every result column and
whether each parameter is binary. -/
structure BoundFormats where
  resultFormatPerCol : List FieldFormat
  paramIsBinary : List Bool
  deriving DecidableEq, Repr

/-- The lookups `execute_impl` makes before it opens its bracket, for a schema
of `ncols` columns. -/
def ExecuteRequest.boundFormats (request : ExecuteRequest E) (ncols : Nat) :
    Except Payload BoundFormats := do
  let resultFormatPerCol ← request.resultFormat.formatsFor ncols
  let paramIsBinary ← request.parameterFormat.binaryFor request.parameters.length
  pure ⟨resultFormatPerCol, paramIsBinary⟩

/-- The client sent a format for every result column and every parameter, or
one for all of them. -/
def ExecuteRequest.formatsCover (request : ExecuteRequest E) (ncols : Nat) : Bool :=
  request.resultFormat.covers ncols &&
    request.parameterFormat.covers request.parameters.length

/-- The formats the lookups find. -/
def ExecuteRequest.formats (request : ExecuteRequest E) (ncols : Nat) : BoundFormats :=
  ⟨request.resultFormat.codes ncols,
    (request.parameterFormat.codes request.parameters.length).map (· == .binary)⟩

theorem ExecuteRequest.boundFormats_of_cover {request : ExecuteRequest E} {ncols : Nat}
    (cover : request.formatsCover ncols = true) :
    request.boundFormats ncols = .ok (request.formats ncols) := by
  rw [formatsCover, Bool.and_eq_true] at cover
  rw [boundFormats, Format.binaryFor_eq, Format.formatsFor_of_covers cover.1,
    Format.formatsFor_of_covers cover.2]
  rfl

theorem ExecuteRequest.boundFormats_of_not_cover {request : ExecuteRequest E}
    {ncols : Nat} (uncovered : request.formatsCover ncols = false) :
    ∃ len index, request.boundFormats ncols = .error (indexOutOfBounds len index) := by
  rw [formatsCover, Bool.and_eq_false_iff] at uncovered
  rw [boundFormats, Format.binaryFor_eq]
  cases columns : request.resultFormat.covers ncols with
  | false =>
      obtain ⟨len, index, run⟩ := Format.formatsFor_of_not_covers columns
      rw [run]
      exact ⟨len, index, rfl⟩
  | true =>
      obtain ⟨len, index, run⟩ := Format.formatsFor_of_not_covers
        (uncovered.resolve_left (by simp [columns]))
      rw [Format.formatsFor_of_covers columns, run]
      exact ⟨len, index, rfl⟩

/-- `decode_parameters`, of the parameters with their format flags: the datums,
`none` for NULL. -/
def decodeParameters : List (BoundParameter × Bool) →
    PgM E (PgWireResult (List (Option Datum)))
  | [] => pure (.ok [])
  | (parameter, isBinary) :: parameters => do
      match parameter.bytes with
      | none => do
          let rest ← decodeParameters parameters
          pure (rest.map fun datums => none :: datums)
      | some bytes =>
          if !isBinary && bytes.contains 0 then
            pure (.error nulParameter)
          else do
            let datum ← callPg (fun _ => []) parameter.datum
            let rest ← decodeParameters parameters
            pure (rest.map fun datums => some datum :: datums)

/-- The schema sent with the rows: the cached one when the client asked for
text throughout, rebuilt with the requested formats otherwise. -/
def requestedSchema (base : List FieldInfo) (format : Format)
    (resultFormatPerCol : List FieldFormat) : List FieldInfo :=
  match format with
  | .unifiedText => base
  | _ => List.zipWith (fun field format => { field with format }) base resultFormatPerCol

/-- The encoders of an execution: the cached type identifiers with the
requested formats. -/
def cachedEncoders (columnOids : List Oid) (resultFormatPerCol : List FieldFormat) :
    List ColumnEncoder :=
  List.zipWith ColumnEncoder.forColumn columnOids resultFormatPerCol

/-! ## Building messages -/

/-- A `Parse` of one query with this result descriptor, answered without an
error. -/
def ParseRequest.select (sql : String) (desc : TupleDesc) : ParseRequest where
  sql := sql
  paramHints := []
  spiRcs := .clean
  parsed := .ok [some (.other true)]
  analyze _ := .ok ⟨false, []⟩
  spiPrepare _ := .ok (.ok ⟨[], [some desc]⟩)
  keepplanRc := 0
  complete _ := .ok ⟨some desc, ⟨"SELECT", true⟩⟩
  finish := none

/-- An `Execute` without parameters that delivers these rows on either backend. -/
def ExecuteRequest.delivering (format : Format) (desc : TupleDesc) (rows : List Row)
    (width : ∀ row ∈ rows, row.length = desc.length) : ExecuteRequest E where
  parameters := []
  parameterFormat := .unifiedText
  resultFormat := format
  maxRows := 0
  spiRcs := .clean
  spi _ := .ok ⟨5, rows.length, some ⟨desc, rows⟩, [], by
    rintro table ⟨⟩
    rfl⟩
  currentDesc := some desc
  portal _ := .ok ⟨some desc, rows, ⟨"SELECT", true⟩, rows.length, [], width⟩
  described := by
    rintro count run ⟨⟩
    rfl
  finish := none

end PgTransport.Backend
