import PgTransport.Backend.Extended.Rows

/-!
# Encoders and the types of the values they meet

The encoders of a prepared statement are looked up by the column types its
descriptor had at `Parse`, and by `TEXT` for a type that the wire library does
not know.  They meet the values of an execution whose descriptor may be another
one, and match them exactly if every column that holds a value still has the
type that was cached for it.
-/

namespace PgTransport.Properties

open PgTransport.Backend
open PgTransport.Computation
open PgTransport.Postgres
open PgTransport.Wire

variable {E : Type}

/-! ## Matching encoders -/

/-- A field of a column was written by the function of the column's type, from
a value of the tuple. -/
def WrittenByType (live : TupleDesc) (column : Nat) : Cell → Prop
  | .null => True
  | .encoded encoder _ => live[column]?.map Attribute.atttypid = some encoder.typeOid
  | .stray _ => False

/-- Every field of the rows was written by the function of its column's type. -/
def EncodersMatch (live : TupleDesc) (rows : List DataRow) : Prop :=
  ∀ row ∈ rows, ∀ (column : Nat) (cell : Cell), row[column]? = some cell →
    WrittenByType live column cell

/-- Rows written column by column match if each column of each tuple does. -/
theorem encodersMatch_map_iff {live : TupleDesc} {tuples : List Row}
    {encoders : List ColumnEncoder} {write : Row → Nat → ColumnEncoder → Cell} :
    EncodersMatch live (tuples.map fun tuple => encoders.mapIdx (write tuple)) ↔
      ∀ tuple ∈ tuples, ∀ (column : Nat) (encoder : ColumnEncoder),
        encoders[column]? = some encoder →
          WrittenByType live column (write tuple column encoder) := by
  constructor
  · intro matching tuple member column encoder found
    apply matching _ (List.mem_map_of_mem member)
    rw [List.getElem?_mapIdx, found, Option.map_some]
  · intro columns row member column cell field
    obtain ⟨tuple, here, rfl⟩ := List.mem_map.mp member
    rw [List.getElem?_mapIdx, Option.map_eq_some_iff] at field
    obtain ⟨encoder, found, rfl⟩ := field
    exact columns tuple here column encoder found

/-! ## The descriptors of a statement -/

/-- The result descriptor the statement had at `Parse`. -/
def parsedDesc : BackendPlan → TupleDesc
  | .spi plan => (planResultColumns plan.plan).getD []
  | .direct plan => plan.source.resultDesc.getD []
  | .xactControl _ => []

/-- The descriptor and the tuples of an execution: those of `SPI_tuptable`, or
of the portal. -/
def delivered (request : ExecuteRequest E) : BackendPlan → TupleDesc × List Row
  | .spi _ =>
      match request.spi request.maxRows with
      | .ok result => (result.tuptable.map fun table => (table.tupdesc, table.vals)).getD ([], [])
      | .error _ => ([], [])
  | .direct plan =>
      match isTransactionStmt plan.source.node,
        request.portal (portalCount request.maxRows) with
      | false, .ok run => (run.tupDesc.getD [], run.tuples)
      | _, _ => ([], [])
  | .xactControl _ => ([], [])

/-- The rows of the plan come from a portal. -/
def fromPortal : BackendPlan → Bool
  | .direct _ => true
  | _ => false

section Rows

variable [TypeTable]

/-- The type that is cached for a column of this type. -/
def cachedOid (oid : Oid) : Oid :=
  if builtin oid then oid else TEXTOID

/-- Every column that holds a value has the type that was cached for it at
`Parse`, and no tuple of a portal has fewer columns than the statement had. -/
def TypesKept (plan : BackendPlan) (live : TupleDesc) (tuples : List Row) : Prop :=
  ∀ tuple ∈ tuples, ∀ (column : Nat) (attr : Attribute),
    (parsedDesc plan)[column]? = some attr →
      (fromPortal plan = true → column < tuple.length) ∧
        ∀ datum, tuple[column]? = some (some datum) →
          live[column]?.map Attribute.atttypid = some (cachedOid attr.atttypid)

theorem oid_ofAttribute (format : FieldFormat) (attr : Attribute) :
    (FieldInfo.ofAttribute format attr).datatype.oid = cachedOid attr.atttypid := by
  cases known : TypeTable.fromOid attr.atttypid with
  | none => simp [FieldInfo.ofAttribute, cachedOid, builtin, known, WireType.TEXT]
  | some wireType =>
      have same := TypeTable.oid_of_fromOid attr.atttypid wireType known
      simp [FieldInfo.ofAttribute, cachedOid, builtin, known, same]

/-- The encoder of a column is chosen by the type that was cached for it. -/
theorem cachedEncoders_columnOidsOf {desc : Option TupleDesc} {codes : List FieldFormat}
    (width : codes.length = (baseSchemaOf desc).length) (column : Nat) :
    (cachedEncoders (columnOidsOf (baseSchemaOf desc)) codes)[column]?.map
        ColumnEncoder.typeOid =
      (desc.getD [])[column]?.map fun attr => cachedOid attr.atttypid := by
  rw [baseSchemaOf, List.length_map] at width
  rw [cachedEncoders, columnOidsOf, baseSchemaOf, List.getElem?_zipWith]
  by_cases inside : column < (desc.getD []).length
  · have coded : column < codes.length := by omega
    simp [inside, coded, oid_ofAttribute]
  · simp [inside]

/-- What has to hold of the encoder of each column, said of the column's type. -/
theorem forall_encoders_iff {desc : Option TupleDesc} {codes : List FieldFormat}
    (width : codes.length = (baseSchemaOf desc).length) (holds : Nat → Oid → Prop) :
    (∀ (column : Nat) (encoder : ColumnEncoder),
      (cachedEncoders (columnOidsOf (baseSchemaOf desc)) codes)[column]? = some encoder →
        holds column encoder.typeOid) ↔
      ∀ (column : Nat) (attr : Attribute), (desc.getD [])[column]? = some attr →
        holds column (cachedOid attr.atttypid) := by
  have typed := cachedEncoders_columnOidsOf width
  constructor
  · intro encoders column attr found
    have known := typed column
    rw [found, Option.map_some, Option.map_eq_some_iff] at known
    obtain ⟨encoder, used, same⟩ := known
    rw [← same]
    exact encoders column encoder used
  · intro columns column encoder used
    have known := (typed column).symm
    rw [used, Option.map_some, Option.map_eq_some_iff] at known
    obtain ⟨attr, found, same⟩ := known
    rw [← same]
    exact columns column attr found

omit [TypeTable] in
theorem writtenByType_encodeCell {live : TupleDesc} {column : Nat} {encoder : ColumnEncoder}
    {value : Option Datum} :
    WrittenByType live column (encodeCell encoder value) ↔ ∀ datum, value = some datum →
      live[column]?.map Attribute.atttypid = some encoder.typeOid := by
  cases value <;> simp [encodeCell, WrittenByType]

omit [TypeTable] in
theorem writtenByType_receiveCell {live : TupleDesc} {column : Nat} {tuple : Row}
    {encoder : ColumnEncoder} :
    WrittenByType live column (receiveCell encoder tuple[column]?) ↔
      column < tuple.length ∧ ∀ datum, tuple[column]? = some (some datum) →
        live[column]?.map Attribute.atttypid = some encoder.typeOid := by
  by_cases inside : column < tuple.length
  · simp [inside, receiveCell, writtenByType_encodeCell]
  · simp [inside, receiveCell, WrittenByType]

/-- Every encoder of an `Execute` that is answered with rows is the one of its
column's type in the descriptor of that execution, exactly if every column that
holds a value has the type that was cached for it at `Parse`. -/
theorem encoders_match_iff_types_kept {backend : ExecutionBackend} {parse : ParseRequest}
    {statement : PreparedStatement} {request : ExecuteRequest E}
    {before between pg after : Pg E} {schema : List FieldInfo} {rows : List DataRow}
    {tag : Option String}
    (prepared : prepare backend parse before = (.ret (.ok statement), between))
    (run : statement.execute request pg = (.ret (.ok (.query schema rows tag)), after)) :
    EncodersMatch (delivered request statement.plan).1 rows ↔
      TypesKept statement.plan (delivered request statement.plan).1
        (delivered request statement.plan).2 := by
  have made := returns_prepare backend parse before _ between prepared statement rfl
  have answers := returns_execute statement request pg _ after run _ rfl
  have cover := (PreparedStatement.binds_of_returns run).2
  rw [ExecuteRequest.formatsCover, Bool.and_eq_true] at cover
  have width := Format.codes_length cover.1
  cases made with
  | xactControl backend clean cmd =>
      obtain ⟨tag, impossible⟩ := answers
      cases impossible
  | @spi argOids plan clean _ =>
      obtain ⟨result, answered, shaped⟩ := answers
      obtain ⟨table, kept, _, _, rfl⟩ := spiPlanResponse_query shaped
      have live : delivered request (PreparedStatement.ofSpiPlan parse.sql clean plan).plan =
          (table.tupdesc, table.vals) := by
        simp [PreparedStatement.ofSpiPlan, delivered, answered, kept]
      rw [live, encodersMatch_map_iff]
      apply forall₂_congr
      intro tuple member
      simp only [writtenByType_encodeCell, Option.join_eq_some_iff]
      refine (forall_encoders_iff width fun column oid => ∀ datum,
        tuple[column]? = some (some datum) →
          table.tupdesc[column]?.map Attribute.atttypid = some oid).trans ?_
      simp [PreparedStatement.ofSpiPlan, parsedDesc, fromPortal]
  | @direct paramOids shape clean first _ =>
      obtain ⟨portalRun, delivers, shaped⟩ := answers
      obtain ⟨_, rfl⟩ := directPlanResponse_query shaped
      cases ordinary : isTransactionStmt first with
      | true =>
          have none : portalRun.tuples = [] := by
            simpa [PreparedStatement.ofSource, Delivers, ordinary] using delivers
          simp [none, PreparedStatement.ofSource, delivered, ordinary, EncodersMatch,
            TypesKept]
      | false =>
          have answered : request.portal (portalCount request.maxRows) = .ok portalRun := by
            simpa [PreparedStatement.ofSource, Delivers, ordinary] using delivers
          have live : delivered request (PreparedStatement.ofSource parse.sql clean first
              paramOids shape).plan = (portalRun.tupDesc.getD [], portalRun.tuples) := by
            simp [PreparedStatement.ofSource, delivered, ordinary, answered]
          rw [live, encodersMatch_map_iff]
          apply forall₂_congr
          intro tuple member
          simp only [writtenByType_receiveCell]
          refine (forall_encoders_iff width fun column oid =>
            column < tuple.length ∧ ∀ datum, tuple[column]? = some (some datum) →
              (portalRun.tupDesc.getD [])[column]?.map Attribute.atttypid = some oid).trans ?_
          simp [PreparedStatement.ofSource, parsedDesc, fromPortal]

end Rows

/-! ## A column of a user-defined type -/

/-- A `Parse` of a query with a single column of this type. -/
def selectTyped (typeOid : Oid) : ParseRequest :=
  .select "SELECT c FROM t" [⟨"c", typeOid⟩]

/-- An `Execute` that returns one value of the column. -/
def executeTyped (typeOid : Oid) : ExecuteRequest Nat :=
  .delivering .unifiedText [⟨"c", typeOid⟩] [[some 1]] (by simp)

/-- The encoder of a column of a built-in type matches its values. -/
theorem int4_encoder_matches :
    EncodersMatch [⟨"c", 23⟩] [[.encoded (.text 23) 1]] :=
  (@encoders_match_iff_types_kept Nat (.knowing [23]) .spi (selectTyped 23) _ (executeTyped 23)
    (Pg.fresh .standard) _ (Pg.fresh .standard) _ _ _ _ rfl rfl).mpr (by
      let _ : TypeTable := .knowing [23]
      intro tuple member column attr found
      constructor
      · intro impossible
        cases impossible
      · intro datum value
        match column with
        | 0 =>
            cases found
            rfl
        | _ + 1 => cases found)

/-- Not every encoder matches: a user-defined type's values are written by the
output function of `TEXT`. -/
theorem user_type_written_as_text :
    ¬∀ [TypeTable] (backend : ExecutionBackend) (parse : ParseRequest)
      (statement : PreparedStatement) (request : ExecuteRequest Nat)
      (before between pg after : Pg Nat) (schema : List FieldInfo) (rows : List DataRow)
      (tag : Option String),
      prepare backend parse before = (.ret (.ok statement), between) →
      statement.execute request pg = (.ret (.ok (.query schema rows tag)), after) →
        EncodersMatch (delivered request statement.plan).1 rows := by
  intro always
  let _ : TypeTable := ⟨fun _ => none, by simp⟩
  have matching := always .spi (selectTyped 16400) _ (executeTyped 16400)
    (Pg.fresh .standard) _ (Pg.fresh .standard) _ _ _ _ rfl rfl
  have written : some 16400 = some TEXTOID :=
    matching [.encoded (.text TEXTOID) 1] (List.mem_singleton.mpr rfl) 0 _ rfl
  cases written

end PgTransport.Properties
