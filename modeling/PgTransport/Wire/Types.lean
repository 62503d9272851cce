import PgTransport.Postgres.Backend

/-!
# Wire-level values

The values the backends hand to the wire layer: errors, command tags, field
descriptions and encoded rows.  An encoded cell records the function applied to
the datum instead of the bytes that function would produce, since which
function meets which datum is what the result encoders have to get right.
-/

namespace PgTransport.Wire

open PgTransport.Postgres

/-! ## Errors -/

/-- `PgWireError::UserError(ErrorInfo)`. -/
structure PgWireError where
  severity : String
  sqlstate : String
  message : String
  deriving DecidableEq, Repr

/-- The result of a backend function. -/
abbrev PgWireResult (α : Type) : Type :=
  Except PgWireError α

/-- `Result::and` with an error on the right. -/
def PgWireResult.andError {α : Type} (result : PgWireResult α)
    (err : PgWireError) : PgWireResult α :=
  match result with
  | .ok _ => .error err
  | .error first => .error first

/-- `SPI_result_code_string`. -/
def spiResultCodeString (rc : Int) : String :=
  match rc with
  | -1 => "SPI_ERROR_CONNECT"
  | -2 => "SPI_ERROR_COPY"
  | -3 => "SPI_ERROR_OPUNKNOWN"
  | -4 => "SPI_ERROR_UNCONNECTED"
  | -6 => "SPI_ERROR_ARGUMENT"
  | -7 => "SPI_ERROR_PARAM"
  | -8 => "SPI_ERROR_TRANSACTION"
  | -9 => "SPI_ERROR_NOATTRIBUTE"
  | -10 => "SPI_ERROR_NOOUTFUNC"
  | -11 => "SPI_ERROR_TYPUNKNOWN"
  | -12 => "SPI_ERROR_REL_DUPLICATE"
  | -13 => "SPI_ERROR_REL_NOT_FOUND"
  | 1 => "SPI_OK_CONNECT"
  | 2 => "SPI_OK_FINISH"
  | 3 => "SPI_OK_FETCH"
  | 4 => "SPI_OK_UTILITY"
  | 5 => "SPI_OK_SELECT"
  | 6 => "SPI_OK_SELINTO"
  | 7 => "SPI_OK_INSERT"
  | 8 => "SPI_OK_DELETE"
  | 9 => "SPI_OK_UPDATE"
  | 10 => "SPI_OK_CURSOR"
  | 11 => "SPI_OK_INSERT_RETURNING"
  | 12 => "SPI_OK_DELETE_RETURNING"
  | 13 => "SPI_OK_UPDATE_RETURNING"
  | 14 => "SPI_OK_REWRITTEN"
  | 15 => "SPI_OK_REL_REGISTER"
  | 16 => "SPI_OK_REL_UNREGISTER"
  | 17 => "SPI_OK_TD_REGISTER"
  | 18 => "SPI_OK_MERGE"
  | 19 => "SPI_OK_MERGE_RETURNING"
  | _ => "Unrecognized SPI code " ++ toString rc

/-- `spi_rc_error`. -/
def spiRcError (api : String) (rc : Int) : PgWireError :=
  ⟨"ERROR", "XX000",
    "pg_transport spi: " ++ api ++ " failed: " ++ spiResultCodeString rc⟩

/-- `generic_error`. -/
def genericError (pre message : String) : PgWireError :=
  ⟨"ERROR", "XX000", pre ++ ": " ++ message⟩

/-- `aborted_transaction_block_error`. -/
def abortedTransactionBlockError : PgWireError :=
  ⟨"ERROR", "25P02",
    "current transaction is aborted, commands ignored until end of transaction block"⟩

/-- `error_report_to_pgwire`. -/
def errorReportToPgwire (report : ErrorReport) : PgWireError :=
  ⟨report.level, report.sqlErrorCode, report.message⟩

/-- `panic_to_pgwire`. -/
def panicToPgwire (payload : Payload) : PgWireError :=
  match payload with
  | .caughtError report => errorReportToPgwire report
  | .message text => genericError "pg_transport panic" text

/-! ## Types and formats -/

/-- A type's object identifier. -/
abbrev Oid : Type := Nat

/-- `InvalidOid`. -/
def INVALID : Oid := 0

/-- `TEXTOID`. -/
def TEXTOID : Oid := 25

/-- `UNKNOWNOID`. -/
def UNKNOWNOID : Oid := 705

/-- `pgwire::api::Type`, of which the bridge only uses the identifier. -/
structure WireType where
  oid : Oid
  deriving DecidableEq, Repr

/-- `Type::TEXT`. -/
def WireType.TEXT : WireType := ⟨TEXTOID⟩

/-- `Type::UNKNOWN`. -/
def WireType.UNKNOWN : WireType := ⟨UNKNOWNOID⟩

/-- The table of built-in types behind `Type::from_oid`: an identifier it knows
is the identifier of the type it returns. -/
class TypeTable where
  fromOid : Oid → Option WireType
  oid_of_fromOid : ∀ oid wireType, fromOid oid = some wireType → wireType.oid = oid

/-- The table that knows exactly the listed identifiers. -/
@[reducible]
def TypeTable.knowing (oids : List Oid) : TypeTable where
  fromOid oid := if oid ∈ oids then some ⟨oid⟩ else none
  oid_of_fromOid := by
    intro oid wireType known
    split at known <;> cases known
    rfl

/-- A type is built in when the table knows its identifier. -/
def builtin [TypeTable] (oid : Oid) : Bool :=
  (TypeTable.fromOid oid).isSome

/-- `FieldFormat`. -/
inductive FieldFormat where
  | text
  | binary
  deriving DecidableEq, Repr

/-- `pgwire::api::portal::Format`; the individual codes are those of the Bind
message, however many the client sent. -/
inductive Format where
  | unifiedText
  | unifiedBinary
  | individual (codes : List FieldFormat)
  deriving DecidableEq, Repr

/-- The panic of an index past the end of a vector. -/
def indexOutOfBounds (len index : Nat) : Payload :=
  .message s!"index out of bounds: the len is {len} but the index is {index}"

/-- `Format::format_for`, which indexes the vector of individual codes. -/
def Format.formatFor : Format → Nat → Except Payload FieldFormat
  | .unifiedText, _ => pure .text
  | .unifiedBinary, _ => pure .binary
  | .individual codes, index =>
      match codes[index]? with
      | some code => pure code
      | none => throw (indexOutOfBounds codes.length index)

/-- `Format::is_binary`. -/
def Format.isBinary (format : Format) (index : Nat) : Except Payload Bool := do
  let code ← format.formatFor index
  pure (code == .binary)

/-- `(0..n).map(|i| format.format_for(i)).collect()`. -/
def Format.formatsFor (format : Format) (n : Nat) : Except Payload (List FieldFormat) :=
  (List.range n).mapM format.formatFor

/-- `(0..n).map(|i| format.is_binary(i)).collect()`. -/
def Format.binaryFor (format : Format) (n : Nat) : Except Payload (List Bool) :=
  (List.range n).mapM format.isBinary

/-- The format has a code for every index below `n`. -/
def Format.covers (format : Format) (n : Nat) : Bool :=
  match format with
  | .unifiedText | .unifiedBinary => true
  | .individual codes => n ≤ codes.length

/-- The first `n` codes of the format. -/
def Format.codes (format : Format) (n : Nat) : List FieldFormat :=
  match format with
  | .unifiedText => List.replicate n .text
  | .unifiedBinary => List.replicate n .binary
  | .individual codes => codes.take n

section Lookups

variable {ε β : Type} {α : Type} {lookup : β → Except ε α}

/-- Lookups that all succeed return the list of what they find. -/
theorem mapM_of_forall_ok {find : β → α} {indices : List β}
    (found : ∀ index ∈ indices, lookup index = .ok (find index)) :
    indices.mapM lookup = .ok (indices.map find) := by
  induction indices with
  | nil => rfl
  | cons index indices inductionHypothesis =>
      rw [List.forall_mem_cons] at found
      rw [List.mapM_cons, found.1, inductionHypothesis found.2]
      rfl

/-- One failing lookup fails them all, with the failure of some lookup. -/
theorem mapM_of_exists_error {indices : List β}
    (fails : ∃ index ∈ indices, ∃ failure, lookup index = .error failure) :
    ∃ index ∈ indices, ∃ failure, lookup index = .error failure ∧
      indices.mapM lookup = .error failure := by
  induction indices with
  | nil => simp at fails
  | cons head indices inductionHypothesis =>
      cases first : lookup head with
      | error failure =>
          refine ⟨head, List.mem_cons_self, failure, first, ?_⟩
          rw [List.mapM_cons, first]
          rfl
      | ok value =>
          have later : ∃ index ∈ indices, ∃ failure, lookup index = .error failure := by
            simpa [first] using fails
          obtain ⟨index, member, failure, failed, run⟩ := inductionHypothesis later
          refine ⟨index, List.mem_cons_of_mem _ member, failure, failed, ?_⟩
          rw [List.mapM_cons, first, run]
          rfl

end Lookups

theorem Format.formatFor_of_covers {format : Format} {n index : Nat}
    (covered : format.covers n = true) (below : index < n) :
    ∃ code, (format.codes n)[index]? = some code ∧ format.formatFor index = .ok code := by
  cases format with
  | unifiedText => exact ⟨.text, by simp [codes, below], rfl⟩
  | unifiedBinary => exact ⟨.binary, by simp [codes, below], rfl⟩
  | individual list =>
      have inside : index < list.length := by
        simp only [covers, decide_eq_true_eq] at covered
        omega
      refine ⟨list[index], ?_, ?_⟩
      · rw [codes, List.getElem?_take_of_lt below, List.getElem?_eq_getElem inside]
      · rw [formatFor, List.getElem?_eq_getElem inside]
        rfl

theorem Format.codes_length {format : Format} {n : Nat} (covered : format.covers n = true) :
    (format.codes n).length = n := by
  cases format <;> simp_all [codes, covers]

/-- Where the format covers the columns, the lookups return its codes. -/
theorem Format.formatsFor_of_covers {format : Format} {n : Nat}
    (covered : format.covers n = true) : format.formatsFor n = .ok (format.codes n) := by
  have found : ∀ index ∈ List.range n,
      format.formatFor index = .ok ((format.codes n).getD index .text) := by
    intro index member
    obtain ⟨code, known, run⟩ := formatFor_of_covers covered (List.mem_range.mp member)
    rw [run, List.getD_eq_getElem?_getD, known, Option.getD_some]
  rw [formatsFor, mapM_of_forall_ok found]
  refine congrArg _ (List.ext_getElem? fun index => ?_)
  by_cases below : index < n
  · obtain ⟨code, known, _⟩ := formatFor_of_covers covered below
    simp [below, known]
  · have past : (format.codes n).length ≤ index := by
      rw [codes_length covered]
      omega
    simp [below, past]

/-- Past the client's codes a lookup panics. -/
theorem Format.formatFor_of_not_covers {format : Format} {n : Nat}
    (uncovered : format.covers n = false) :
    ∃ index ∈ List.range n, ∃ failure, format.formatFor index = .error failure := by
  cases format with
  | unifiedText => cases uncovered
  | unifiedBinary => cases uncovered
  | individual list =>
      simp only [covers, decide_eq_false_iff_not, Nat.not_le] at uncovered
      refine ⟨list.length, List.mem_range.mpr uncovered,
        indexOutOfBounds list.length list.length, ?_⟩
      rw [formatFor, List.getElem?_eq_none (Nat.le_refl _)]
      rfl

theorem Format.formatsFor_of_not_covers {format : Format} {n : Nat}
    (uncovered : format.covers n = false) :
    ∃ len index, format.formatsFor n = .error (indexOutOfBounds len index) := by
  obtain ⟨index, _, failure, failed, run⟩ :=
    mapM_of_exists_error (formatFor_of_not_covers uncovered)
  cases format with
  | unifiedText => cases failed
  | unifiedBinary => cases failed
  | individual list =>
      cases found : list[index]? with
      | some code =>
          rw [formatFor, found] at failed
          cases failed
      | none =>
          rw [formatFor, found] at failed
          cases failed
          exact ⟨list.length, index, run⟩

/-- The two vectors of lookups fail together. -/
theorem Format.binaryFor_eq (format : Format) (n : Nat) :
    format.binaryFor n = (format.formatsFor n).map (List.map (· == FieldFormat.binary)) := by
  unfold binaryFor formatsFor
  induction List.range n with
  | nil => rfl
  | cons index indices inductionHypothesis =>
      rw [List.mapM_cons, List.mapM_cons, inductionHypothesis, isBinary]
      cases format.formatFor index with
      | error failure => rfl
      | ok code => cases indices.mapM format.formatFor <;> rfl

/-! ## Responses -/

/-- `Tag`. -/
structure Tag where
  command : String
  rows : Option Nat
  deriving DecidableEq, Repr

/-- `Tag::new`. -/
def Tag.new (command : String) : Tag := ⟨command, none⟩

/-- `Tag::with_rows`. -/
def Tag.withRows (tag : Tag) (rows : Nat) : Tag := { tag with rows := some rows }

/-- `FieldInfo` with the fields the bridge sets; table and column identifiers
are always absent. -/
structure FieldInfo where
  name : String
  datatype : WireType
  format : FieldFormat
  deriving DecidableEq, Repr

/-- The machine word a tuple stores for a column. -/
abbrev Datum : Type := Nat

/-- A type's output or send function, named by the type it belongs to. -/
inductive ColumnEncoder where
  | text (typeOid : Oid)
  | binary (typeOid : Oid)
  deriving DecidableEq, Repr

/-- `ColumnEncoder::for_column`. -/
def ColumnEncoder.forColumn (typeOid : Oid) (format : FieldFormat) : ColumnEncoder :=
  match format with
  | .text => .text typeOid
  | .binary => .binary typeOid

/-- The type whose function the encoder applies. -/
def ColumnEncoder.typeOid : ColumnEncoder → Oid
  | .text typeOid | .binary typeOid => typeOid

@[simp]
theorem ColumnEncoder.typeOid_forColumn (typeOid : Oid) (format : FieldFormat) :
    (ColumnEncoder.forColumn typeOid format).typeOid = typeOid := by
  cases format <;> rfl

/-- One field of a `DataRow`: a NULL marker, the application of an encoder to a
datum of the tuple, or its application to memory past the tuple's columns. -/
inductive Cell where
  | null
  | encoded (encoder : ColumnEncoder) (datum : Datum)
  | stray (encoder : ColumnEncoder)
  deriving DecidableEq, Repr

/-- `DataRow`. -/
abbrev DataRow : Type := List Cell

/-- `Response`; a query without a command tag of its own keeps the default of
`QueryResponse::new`. -/
inductive Response where
  | execution (tag : Tag)
  | query (schema : List FieldInfo) (rows : List DataRow) (commandTag : Option String)
  deriving DecidableEq, Repr

/-- `SPI_tuptable`'s and the portal's tuple descriptor. -/
structure Attribute where
  attname : String
  atttypid : Oid
  deriving DecidableEq, Repr

/-- `TupleDesc`. -/
abbrev TupleDesc : Type := List Attribute

/-- `FieldInfo::new` for an attribute, with `TEXT` for a type that the table
does not know. -/
def FieldInfo.ofAttribute [TypeTable] (format : FieldFormat)
    (attr : Attribute) : FieldInfo :=
  ⟨attr.attname, (TypeTable.fromOid attr.atttypid).getD WireType.TEXT, format⟩

/-! ## Text -/

/-- Rust's `char::is_whitespace`. -/
def isWhitespace (c : Char) : Bool :=
  (9 ≤ c.toNat && c.toNat ≤ 13) || (8192 ≤ c.toNat && c.toNat ≤ 8202) ||
    [32, 133, 160, 5760, 8232, 8233, 8239, 8287, 12288].contains c.toNat

/-- `text.trim().is_empty()`. -/
def isBlank (text : String) : Bool :=
  text.toList.all isWhitespace

/-- `CString::new` fails on this text. -/
def containsNul (text : String) : Bool :=
  text.toList.contains '\x00'

end PgTransport.Wire
