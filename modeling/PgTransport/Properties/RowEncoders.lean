import PgTransport.Backend.RowEncoding

/-!
# The encoders of rows

All three row encoders write the values of the row, each behind its length, so that they
are read back.  The receiver does so for as many columns as its count can tell.
-/

namespace PgTransport.Properties

open PgTransport.Backend
open PgTransport.Encoding
open PgTransport.Wire

/-- A row with one encoder, one field of the schema and one attribute of the descriptor for
each column. -/
structure SameWidth (encoders : List ColumnEncoder) (baseSchema : List FieldInfo)
    (tuples : TupTable) (row : Row) : Prop where
  row : row.length = encoders.length
  described : tuples.tupdesc.length = encoders.length
  schema : baseSchema.length = encoders.length

variable {functions : TypeFunctions} {encoders : List ColumnEncoder}
  {baseSchema : List FieldInfo} {tuples : TupTable} {rowIdx : Nat} {row : Row}

theorem length_rowValues (same : SameWidth encoders baseSchema tuples row) :
    (rowValues functions encoders row).length = encoders.length := by
  rw [rowValues, List.length_zipWith, same.row, Nat.min_self]

/-- A row of SPI tuples holds the values of the row. -/
theorem spiRow_eq (same : SameWidth encoders baseSchema tuples row) (ncols : Nat) :
    spiRow functions tuples rowIdx row encoders ncols =
      .ok ⟨writeValues (rowValues functions encoders row), .ofNat ncols⟩ := by
  have narrow : 0 + encoders.length ≤ row.length := by
    rw [same.row, Nat.zero_add]
  have described : 0 + encoders.length ≤ tuples.tupdesc.length := by
    rw [same.described, Nat.zero_add]
  have fields := @encodeRow_eq_receiveSlot encoders row tuples rowIdx 0 described narrow
  rw [spiRow, encodeColumns_eq, fields]
  simp only [Except.map, List.nil_append, map_cellValue_receiveSlot 0 narrow, List.drop_zero]

/-- The receiver's row does where its count of columns is the row's width. -/
theorem wireReceiveSlot_eq (same : SameWidth encoders baseSchema tuples row) {ncols : Int16}
    (counted : asUsize ncols = encoders.length) :
    wireReceiveSlot functions encoders ncols row =
      some ⟨writeValues (rowValues functions encoders row), ncols⟩ := by
  have narrow : encoders.length ≤ row.length := Nat.le_of_eq same.row.symm
  rw [wireReceiveSlot, counted, receiveColumns_eq narrow _ 0 [] (Nat.zero_add _), List.drop_zero,
    map_cellValue_receiveSlot 0 (by rwa [Nat.zero_add])]
  rfl

theorem asUsize_ofNat {count : Nat} (small : count < 32768) :
    (Int16.ofNat count).toInt = count ∧ asUsize (.ofNat count) = count := by
  have value : (Int16.ofNat count).toInt = count := Int16.toInt_ofNat_of_lt small
  constructor
  · exact value
  · rw [asUsize, value]
    omega

/-- The values of the row are read back from what was written, and nothing is left. -/
theorem readValues_rowValues (same : SameWidth encoders baseSchema tuples row)
    (short : ∀ value ∈ rowValues functions encoders row, Short value) :
    readValues encoders.length (writeValues (rowValues functions encoders row)) =
      some (rowValues functions encoders row, []) := by
  have read := readValues_writeValues short []
  rwa [List.append_nil, length_rowValues same] at read

/-- The loops over SPI tuples write the same bytes, from which the values of the row are
read back; where the number of columns fits a 16-bit integer, the receiver writes them, too,
and the number written is that of the schema. -/
theorem row_encoders_agree (same : SameWidth encoders baseSchema tuples row)
    (short : ∀ value ∈ rowValues functions encoders row, Short value) :
    ∃ data,
      runViaSpiRow functions tuples rowIdx row encoders =
        .ok ⟨data, .ofNat baseSchema.length⟩ ∧
      spiExecuteRow functions baseSchema tuples rowIdx row encoders =
        .ok ⟨data, .ofNat baseSchema.length⟩ ∧
      readValues baseSchema.length data = some (rowValues functions encoders row, []) ∧
      (baseSchema.length < 32768 →
        wireReceiveSlot functions encoders (.ofNat baseSchema.length) row =
          some ⟨data, .ofNat baseSchema.length⟩ ∧
        (Int16.ofNat baseSchema.length).toInt = baseSchema.length) := by
  refine ⟨writeValues (rowValues functions encoders row), ?_, ?_, ?_, ?_⟩
  · rw [runViaSpiRow, spiRow_eq same, same.described, same.schema]
  · rw [spiExecuteRow, spiRow_eq same]
  · rw [same.schema]
    exact readValues_rowValues same short
  · intro small
    obtain ⟨value, counted⟩ := asUsize_ofNat small
    constructor
    · exact wireReceiveSlot_eq same (counted.trans same.schema)
    · exact value

/-- The functions of types whose text is `42` and whose binary form is one byte. -/
def sampleFunctions : TypeFunctions where
  outputFunctionCall _ _ := [52, 50, 0, 7]
  sendFunctionCall _ datum := [.ofNat datum]

/-- A row of a text, a NULL and a binary value. -/
theorem sample_row_encoded :
    ∃ data, runViaSpiRow sampleFunctions
        ⟨[⟨"a", TEXTOID⟩, ⟨"b", TEXTOID⟩, ⟨"c", TEXTOID⟩], [[some 1, none, some 2]]⟩ 0
        [some 1, none, some 2] [.text TEXTOID, .text TEXTOID, .binary TEXTOID] =
          .ok ⟨data, 3⟩ ∧
      readValues 3 data = some ([some [52, 50], none, some [2]], []) := by
  obtain ⟨data, written, _, read, _⟩ := @row_encoders_agree sampleFunctions
    [.text TEXTOID, .text TEXTOID, .binary TEXTOID]
    [⟨"a", .TEXT, .text⟩, ⟨"b", .TEXT, .text⟩, ⟨"c", .TEXT, .binary⟩]
    ⟨[⟨"a", TEXTOID⟩, ⟨"b", TEXTOID⟩, ⟨"c", TEXTOID⟩], [[some 1, none, some 2]]⟩ 0
    [some 1, none, some 2] ⟨rfl, rfl, rfl⟩ (by decide)
  exact ⟨data, written, read⟩

/-! ## Wide rows -/

/-- A row of NULLs with its schema and descriptor. -/
theorem sameWidth_nulls (width : Nat) :
    SameWidth (List.replicate width (.text TEXTOID)) (List.replicate width ⟨"c", .TEXT, .text⟩)
      ⟨List.replicate width ⟨"c", TEXTOID⟩, []⟩ (List.replicate width none) := by
  constructor <;> simp only [List.length_replicate]

theorem short_nulls (width : Nat) :
    ∀ value ∈ rowValues functions (List.replicate width (.text TEXTOID))
      (List.replicate width none), Short value := by
  intro value member bytes found
  have nulls : rowValues functions (List.replicate width (.text TEXTOID))
      (List.replicate width none) = List.replicate width none := by
    simp [rowValues]
  rw [nulls] at member
  rw [List.eq_of_mem_replicate member] at found
  cases found

/-- A row of 65536 columns is received as an empty one. -/
theorem wide_row_received_empty :
    ¬∀ (functions : TypeFunctions) (encoders : List ColumnEncoder)
        (baseSchema : List FieldInfo) (tuples : TupTable) (rowIdx : Nat) (row : Row),
      SameWidth encoders baseSchema tuples row →
      (∀ value ∈ rowValues functions encoders row, Short value) →
        ∃ data count, wireReceiveSlot functions encoders (.ofNat baseSchema.length) row =
            some ⟨data, count⟩ ∧
          runViaSpiRow functions tuples rowIdx row encoders = .ok ⟨data, count⟩ := by
  intro claimed
  obtain ⟨data, count, received, written⟩ := claimed sampleFunctions _ _ _ 0 _
    (sameWidth_nulls 65536) (short_nulls 65536)
  have none : asUsize (.ofNat 65536) = 0 := by decide
  rw [List.length_replicate, wireReceiveSlot, none] at received
  cases received
  have read := @readValues_rowValues sampleFunctions _ _ _ _ (sameWidth_nulls 65536)
    (short_nulls 65536)
  rw [runViaSpiRow, spiRow_eq (sameWidth_nulls 65536)] at written
  have empty := congrArg WireRow.data (Except.ok.inj written)
  change writeValues _ = [] at empty
  rw [empty, List.length_replicate] at read
  cases read

end PgTransport.Properties
