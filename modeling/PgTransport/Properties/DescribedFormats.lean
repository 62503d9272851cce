import PgTransport.Backend.Extended.Rows

/-!
# Described and sent formats

An `Execute` labels its columns with the formats the portal asks for and
encodes them accordingly.  `Describe` reports the schema that was cached at
`Parse`, in text format throughout, so that it tells the truth exactly about
the portals that ask for text.
-/

namespace PgTransport.Properties

open PgTransport.Backend
open PgTransport.Computation
open PgTransport.Postgres
open PgTransport.Wire

variable {E : Type}

/-- The format an encoder produces. -/
def encoderFormat : ColumnEncoder → FieldFormat
  | .text _ => .text
  | .binary _ => .binary

/-- The encoder that wrote a field, if one did. -/
def cellEncoder : Cell → Option ColumnEncoder
  | .null => none
  | .encoded encoder _ | .stray encoder => some encoder

/-- For every column, the format that was described, the format of the schema
and the format of the encoder of each field are the same. -/
structure FormatsAgree (described schema : List FieldInfo) (rows : List DataRow) : Prop where
  described : ∀ column : Nat,
    described[column]?.map FieldInfo.format = schema[column]?.map FieldInfo.format
  encoded : ∀ row ∈ rows, ∀ (column : Nat) (cell : Cell) (encoder : ColumnEncoder),
    row[column]? = some cell → cellEncoder cell = some encoder →
      schema[column]?.map FieldInfo.format = some (encoderFormat encoder)

/-- The portal asks for text in each of `ncols` columns. -/
def AsksForText (format : Format) (ncols : Nat) : Prop :=
  ∀ column < ncols, format.formatFor column = .ok .text

@[simp]
theorem encoderFormat_forColumn (typeOid : Oid) (format : FieldFormat) :
    encoderFormat (ColumnEncoder.forColumn typeOid format) = format := by
  cases format <;> rfl

/-! ## The schema and the encoders -/

section Formats

variable {format : Format} {base : List FieldInfo} {columnOids : List Oid}

/-- The fast and the slow path label a column alike. -/
theorem format_requestedSchema (covered : format.covers base.length = true)
    (texts : ∀ field ∈ base, field.format = .text) (column : Nat) :
    (requestedSchema base format (format.codes base.length))[column]?.map FieldInfo.format =
      (format.codes base.length)[column]? := by
  have rebuilt : (List.zipWith (fun (field : FieldInfo) format => { field with format })
      base (format.codes base.length))[column]?.map FieldInfo.format =
        (format.codes base.length)[column]? := by
    have width := Format.codes_length covered
    by_cases inside : column < base.length
    · simp [inside, width]
    · have past : (format.codes base.length).length ≤ column := by omega
      have beyond : (List.zipWith (fun (field : FieldInfo) format => { field with format })
          base (format.codes base.length)).length ≤ column := by
        rw [List.length_zipWith]
        omega
      rw [List.getElem?_eq_none beyond, List.getElem?_eq_none past]
      rfl
  cases format with
  | unifiedText =>
      by_cases inside : column < base.length
      · simp [requestedSchema, Format.codes, inside, texts]
      · simp [requestedSchema, Format.codes, inside]
  | unifiedBinary => exact rebuilt
  | individual codes => exact rebuilt

/-- Every encoder has the requested format of its column. -/
theorem encoderFormat_cachedEncoders {n column : Nat} {encoder : ColumnEncoder}
    (used : (cachedEncoders columnOids (format.codes n))[column]? = some encoder) :
    (format.codes n)[column]? = some (encoderFormat encoder) := by
  rw [cachedEncoders, List.getElem?_zipWith] at used
  cases oid : columnOids[column]? <;> cases code : (format.codes n)[column]? <;>
    simp [oid, code] at used
  rw [← used, encoderFormat_forColumn]

/-- Rows whose fields come from the encoders agree with the schema, so that the
description is all that may differ. -/
theorem formatsAgree_iff {rows : List DataRow} (covered : format.covers base.length = true)
    (texts : ∀ field ∈ base, field.format = .text)
    (encoded : ∀ row ∈ rows, ∀ (column : Nat) cell encoder, row[column]? = some cell →
      cellEncoder cell = some encoder →
        (cachedEncoders columnOids (format.codes base.length))[column]? = some encoder) :
    FormatsAgree base (requestedSchema base format (format.codes base.length)) rows ↔
      AsksForText format base.length := by
  constructor
  · intro agree column inside
    obtain ⟨code, known, lookup⟩ := Format.formatFor_of_covers covered inside
    have same := agree.described column
    rw [format_requestedSchema covered texts, known] at same
    simp only [inside, List.getElem?_eq_getElem, Option.map_some, Option.some.injEq,
      texts _ (List.getElem_mem inside)] at same
    rw [lookup, ← same]
  · intro asks
    constructor
    · intro column
      rw [format_requestedSchema covered texts]
      by_cases inside : column < base.length
      · obtain ⟨code, known, lookup⟩ := Format.formatFor_of_covers covered inside
        rw [asks column inside] at lookup
        cases lookup
        simp [known, inside, texts _ (List.getElem_mem inside)]
      · have past : (format.codes base.length).length ≤ column := by
          rw [Format.codes_length covered]
          omega
        simp [inside, past]
    · intro row member column cell encoder field used
      rw [format_requestedSchema covered texts]
      exact encoderFormat_cachedEncoders (encoded row member column cell encoder field used)

end Formats

/-! ## The fields of a row -/

theorem cellEncoder_encodeCell {encoder used : ColumnEncoder} {value : Option Datum}
    (wrote : cellEncoder (encodeCell encoder value) = some used) : used = encoder := by
  cases value <;> cases wrote
  rfl

theorem cellEncoder_receiveCell {encoder used : ColumnEncoder}
    {value : Option (Option Datum)}
    (wrote : cellEncoder (receiveCell encoder value) = some used) : used = encoder := by
  cases value with
  | none =>
      cases wrote
      rfl
  | some datum => exact cellEncoder_encodeCell wrote

/-- A row written column by column uses the encoder of each column. -/
theorem encoder_of_mapIdx {encoders : List ColumnEncoder} {column : Nat} {cell : Cell}
    {used : ColumnEncoder} {write : Nat → ColumnEncoder → Cell}
    (writes : ∀ index encoder, cellEncoder (write index encoder) = some used → used = encoder)
    (field : (encoders.mapIdx write)[column]? = some cell)
    (wrote : cellEncoder cell = some used) : encoders[column]? = some used := by
  rw [List.getElem?_mapIdx, Option.map_eq_some_iff] at field
  obtain ⟨encoder, found, rfl⟩ := field
  rw [found, writes column encoder wrote]

section Rows

variable [TypeTable]

omit [TypeTable] in
theorem text_of_baseSchemaOf [TypeTable] {desc : Option TupleDesc} :
    ∀ field ∈ baseSchemaOf desc, field.format = .text := by
  intro field member
  obtain ⟨attr, _, rfl⟩ := List.mem_map.mp member
  rfl

/-- The description of a portal, the schema of its answer and the encoders of
its rows agree on every column exactly if the portal asks for text in every
column. -/
theorem described_formats_agree_iff_text {backend : ExecutionBackend}
    {parse : ParseRequest} {statement : PreparedStatement} {request : ExecuteRequest E}
    {before between pg after : Pg E} {schema : List FieldInfo} {rows : List DataRow}
    {tag : Option String}
    (prepared : prepare backend parse before = (.ret (.ok statement), between))
    (run : statement.execute request pg = (.ret (.ok (.query schema rows tag)), after)) :
    FormatsAgree (statement.describePortal request.resultFormat) schema rows ↔
      AsksForText request.resultFormat statement.plan.columnCount := by
  have made := returns_prepare backend parse before _ between prepared statement rfl
  have answers := returns_execute statement request pg _ after run _ rfl
  have cover := (PreparedStatement.binds_of_returns run).2
  rw [ExecuteRequest.formatsCover, Bool.and_eq_true] at cover
  cases made with
  | xactControl backend clean cmd =>
      obtain ⟨tag, impossible⟩ := answers
      cases impossible
  | @spi argOids plan clean _ =>
      obtain ⟨result, _, shaped⟩ := answers
      obtain ⟨table, _, rfl, _, rfl⟩ := spiPlanResponse_query shaped
      apply formatsAgree_iff cover.1 text_of_baseSchemaOf
      intro row member column cell encoder field wrote
      obtain ⟨tuple, _, rfl⟩ := List.mem_map.mp member
      exact encoder_of_mapIdx (fun _ _ => cellEncoder_encodeCell) field wrote
  | @direct paramOids shape clean first _ =>
      obtain ⟨portalRun, _, shaped⟩ := answers
      obtain ⟨rfl, rfl⟩ := directPlanResponse_query shaped
      apply formatsAgree_iff cover.1 text_of_baseSchemaOf
      intro row member column cell encoder field wrote
      obtain ⟨tuple, _, rfl⟩ := List.mem_map.mp member
      exact encoder_of_mapIdx (fun _ _ => cellEncoder_receiveCell) field wrote

end Rows

/-! ## One column -/

/-- The result descriptor of a query with an `int4` column. -/
def oneColumn : TupleDesc := [⟨"n", 23⟩]

/-- An `Execute` of that query that returns one row. -/
def executeOneColumn (format : Format) : ExecuteRequest Nat :=
  .delivering format oneColumn [[some 1]] (by simp [oneColumn])

/-- A portal that asks for text gets what was described. -/
theorem text_portal_agrees :
    FormatsAgree [⟨"n", ⟨23⟩, .text⟩] [⟨"n", ⟨23⟩, .text⟩] [[.encoded (.text 23) 1]] :=
  (@described_formats_agree_iff_text Nat (.knowing [23]) .spi
    (.select "SELECT 1 AS n" oneColumn) _ (executeOneColumn .unifiedText)
    (Pg.fresh .standard) _ (Pg.fresh .standard) _ _ _ _ rfl rfl).mpr fun _ _ => rfl

/-- Not every portal is described with the formats it is sent: one that asks for
binary is described as text. -/
theorem binary_portal_disagrees :
    ¬∀ [TypeTable] (backend : ExecutionBackend) (parse : ParseRequest)
      (statement : PreparedStatement) (request : ExecuteRequest Nat)
      (before between pg after : Pg Nat) (schema : List FieldInfo) (rows : List DataRow)
      (tag : Option String),
      prepare backend parse before = (.ret (.ok statement), between) →
      statement.execute request pg = (.ret (.ok (.query schema rows tag)), after) →
        FormatsAgree (statement.describePortal request.resultFormat) schema rows := by
  intro always
  let _ : TypeTable := ⟨fun _ => none, by simp⟩
  have agree := always .spi (.select "SELECT 1 AS n" oneColumn) _
    (executeOneColumn .unifiedBinary) (Pg.fresh .standard) _ (Pg.fresh .standard)
    _ _ _ _ rfl rfl
  have described : some FieldFormat.text = some FieldFormat.binary := agree.described 0
  cases described

end PgTransport.Properties
