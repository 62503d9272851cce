import Mathlib.Data.List.Basic
import PgTransport.Backend.DestReceiver
import PgTransport.Encoding.LengthPrefixed

/-!
# The bytes of a row

The loops of the row encoders again, over the buffer that they fill.  What a type's
function returns is a parameter; the receiver counts its columns with a 16-bit integer and
indexes the arrays of its slot without a check, while the loops over SPI tuples go over
their encoders and ask for each cell.
-/

namespace PgTransport.Backend

open PgTransport.Encoding
open PgTransport.Wire

/-- What the functions of the types return: the memory behind the pointer that an output
function returns, and the content of the `bytea` of a send function. -/
structure TypeFunctions where
  outputFunctionCall : Oid → Datum → List UInt8
  sendFunctionCall : Oid → Datum → List UInt8

/-- `DataRow` as it is handed over: the buffer and the number of fields. -/
structure WireRow where
  data : List UInt8
  fieldCount : Int16
  deriving DecidableEq, Repr

/-- `CStr::from_ptr(…).to_bytes()`. -/
def cstrBytes (memory : List UInt8) : List UInt8 :=
  memory.takeWhile (· != 0)

/-- `ColumnEncoder::encode_into`. -/
def encodeInto (functions : TypeFunctions) (encoder : ColumnEncoder) (datum : Datum)
    (buf : List UInt8) : List UInt8 :=
  match encoder with
  | .text typeOid =>
      let slice := cstrBytes (functions.outputFunctionCall typeOid datum)
      buf ++ putI32 (.ofNat slice.length) ++ slice
  | .binary typeOid =>
      let slice := functions.sendFunctionCall typeOid datum
      buf ++ putI32 (.ofNat slice.length) ++ slice

/-! ## The receiver -/

/-- `as usize`, of a 16-bit integer. -/
def asUsize (value : Int16) : Nat :=
  (value.toInt % 18446744073709551616).toNat

/-- The loop of `wire_receive_slot`, with so many columns left; `none` is an access outside
of the arrays. -/
def receiveColumns (functions : TypeFunctions) (encoders : List ColumnEncoder) (slot : Row) :
    Nat → Nat → List UInt8 → Option (List UInt8)
  | 0, _, buf => some buf
  | left + 1, c, buf =>
      match slot[c]? with
      | none => none
      | some none => receiveColumns functions encoders slot left (c + 1) (buf ++ putI32 (-1))
      | some (some datum) =>
          match encoders[c]? with
          | none => none
          | some encoder =>
              receiveColumns functions encoders slot left (c + 1)
                (encodeInto functions encoder datum buf)

/-- `wire_receive_slot`. -/
def wireReceiveSlot (functions : TypeFunctions) (encoders : List ColumnEncoder) (ncols : Int16)
    (slot : Row) : Option WireRow :=
  (receiveColumns functions encoders slot (asUsize ncols) 0 []).map fun buf => ⟨buf, ncols⟩

/-! ## The loops over SPI tuples -/

/-- The loop over the encoders of one row. -/
def encodeColumns (functions : TypeFunctions) (tuples : TupTable) (rowIdx : Nat) (row : Row) :
    Nat → List ColumnEncoder → List UInt8 → Except Postgres.Payload (List UInt8)
  | _, [], buf => .ok buf
  | c, encoder :: encoders, buf =>
      match tuples.cell rowIdx row c with
      | .error payload => .error payload
      | .ok none =>
          encodeColumns functions tuples rowIdx row (c + 1) encoders (buf ++ putI32 (-1))
      | .ok (some datum) =>
          encodeColumns functions tuples rowIdx row (c + 1) encoders
            (encodeInto functions encoder datum buf)

/-- A row of SPI tuples, with this number of columns. -/
def spiRow (functions : TypeFunctions) (tuples : TupTable) (rowIdx : Nat) (row : Row)
    (encoders : List ColumnEncoder) (ncols : Nat) : Except Postgres.Payload WireRow :=
  (encodeColumns functions tuples rowIdx row 0 encoders []).map fun buf => ⟨buf, .ofNat ncols⟩

/-- A row of `run_via_spi`, which counts the columns of the table. -/
def runViaSpiRow (functions : TypeFunctions) (tuples : TupTable) (rowIdx : Nat) (row : Row)
    (encoders : List ColumnEncoder) : Except Postgres.Payload WireRow :=
  spiRow functions tuples rowIdx row encoders tuples.tupdesc.length

/-- A row of the extended `execute_impl`, which counts the columns of its schema. -/
def spiExecuteRow (functions : TypeFunctions) (baseSchema : List FieldInfo) (tuples : TupTable)
    (rowIdx : Nat) (row : Row) (encoders : List ColumnEncoder) : Except Postgres.Payload WireRow :=
  spiRow functions tuples rowIdx row encoders baseSchema.length

/-! ## The values of a row -/

/-- The bytes that an encoder writes behind their length. -/
def encoderValue (functions : TypeFunctions) : ColumnEncoder → Datum → List UInt8
  | .text typeOid, datum => cstrBytes (functions.outputFunctionCall typeOid datum)
  | .binary typeOid, datum => functions.sendFunctionCall typeOid datum

/-- The value of a field. -/
def cellValue (functions : TypeFunctions) : Cell → OptionalBytes
  | .null => none
  | .encoded encoder datum => some (encoderValue functions encoder datum)
  | .stray _ => none

/-- The values of a row. -/
def rowValues (functions : TypeFunctions) (encoders : List ColumnEncoder) (row : Row) :
    List OptionalBytes :=
  List.zipWith (fun encoder cell => cell.map (encoderValue functions encoder)) encoders row

variable {functions : TypeFunctions} {encoders : List ColumnEncoder} {row : Row}
  {tuples : TupTable} {rowIdx : Nat}

theorem encodeInto_eq (encoder : ColumnEncoder) (datum : Datum) (buf : List UInt8) :
    encodeInto functions encoder datum buf =
      buf ++ writeValue (some (encoderValue functions encoder datum)) := by
  cases encoder <;> exact List.append_assoc _ _ _

/-- The loop over SPI tuples writes the values of the fields. -/
theorem encodeColumns_eq (col : Nat) (buf : List UInt8) :
    encodeColumns functions tuples rowIdx row col encoders buf =
      (tuples.encodeRow rowIdx row col encoders).map fun fields =>
        buf ++ writeValues (fields.map (cellValue functions)) := by
  induction encoders generalizing col buf with
  | nil => simp [encodeColumns, TupTable.encodeRow, writeValues, Except.map]
  | cons encoder encoders inductionHypothesis =>
      rw [encodeColumns, TupTable.encodeRow]
      cases found : tuples.cell rowIdx row col with
      | error payload => rfl
      | ok cell =>
          cases cell with
          | none =>
              simp only [inductionHypothesis]
              cases tuples.encodeRow rowIdx row (col + 1) encoders with
              | error payload => rfl
              | ok fields => simp [Except.map, bind, Except.bind, pure, Except.pure, encodeCell,
                  cellValue, writeValues, writeValue]
          | some datum =>
              simp only [inductionHypothesis, encodeInto_eq]
              cases tuples.encodeRow rowIdx row (col + 1) encoders with
              | error payload => rfl
              | ok fields => simp [Except.map, bind, Except.bind, pure, Except.pure, encodeCell,
                  cellValue, writeValues]

/-- So does the loop of the receiver, within the arrays. -/
theorem receiveColumns_eq (narrow : encoders.length ≤ row.length) (left col : Nat)
    (buf : List UInt8) (inside : col + left = encoders.length) :
    receiveColumns functions encoders row left col buf =
      some (buf ++ writeValues ((receiveSlot row col (encoders.drop col)).map
        (cellValue functions))) := by
  induction left generalizing col buf with
  | zero =>
      rw [List.drop_of_length_le (by omega)]
      simp [receiveColumns, receiveSlot, writeValues]
  | succ left inductionHypothesis =>
      have column : col < encoders.length := by omega
      have cell : row[col]? = some row[col] := List.getElem?_eq_getElem _
      rw [receiveColumns, cell, List.drop_eq_getElem_cons column, receiveSlot, cell]
      cases row[col] with
      | none =>
          simp only [inductionHypothesis (col + 1) _ (by omega)]
          simp [receiveCell, encodeCell, cellValue, writeValues, writeValue]
      | some datum =>
          simp only [List.getElem?_eq_getElem column, encodeInto_eq,
            inductionHypothesis (col + 1) _ (by omega)]
          simp [receiveCell, encodeCell, cellValue, writeValues]

/-- Within the descriptor and the tuple both take the same fields. -/
theorem encodeRow_eq_receiveSlot (col : Nat)
    (described : col + encoders.length ≤ tuples.tupdesc.length)
    (narrow : col + encoders.length ≤ row.length) :
    tuples.encodeRow rowIdx row col encoders = .ok (receiveSlot row col encoders) := by
  induction encoders generalizing col with
  | nil => rfl
  | cons encoder encoders inductionHypothesis =>
      rw [List.length_cons] at described narrow
      have found : tuples.cell rowIdx row col = .ok row[col] := by
        rw [TupTable.cell, if_pos (by omega), List.getElem?_eq_getElem (by omega)]
        rfl
      rw [TupTable.encodeRow, found, inductionHypothesis (col + 1) (by omega) (by omega),
        receiveSlot, List.getElem?_eq_getElem (by omega)]
      rfl

/-- So do the loops over all rows. -/
theorem encodeRows_eq_receiveAll {rows : List Row}
    (described : encoders.length ≤ tuples.tupdesc.length)
    (narrow : ∀ row ∈ rows, encoders.length ≤ row.length) :
    tuples.encodeRows encoders rowIdx rows = .ok (receiveAll encoders rows) := by
  induction rows generalizing rowIdx with
  | nil => rfl
  | cons row rows inductionHypothesis =>
      rw [List.forall_mem_cons] at narrow
      rw [TupTable.encodeRows, inductionHypothesis narrow.2,
        encodeRow_eq_receiveSlot 0 (by omega) (by omega)]
      rfl

theorem map_cellValue_receiveSlot (col : Nat) (narrow : col + encoders.length ≤ row.length) :
    (receiveSlot row col encoders).map (cellValue functions) =
      rowValues functions encoders (row.drop col) := by
  induction encoders generalizing col with
  | nil => simp [receiveSlot, rowValues]
  | cons encoder encoders inductionHypothesis =>
      rw [List.length_cons] at narrow
      have column : col < row.length := by omega
      rw [receiveSlot, List.map_cons, inductionHypothesis (col + 1) (by omega),
        List.drop_eq_getElem_cons column, List.getElem?_eq_getElem column, rowValues, rowValues,
        List.zipWith_cons_cons]
      cases row[col] <;> rfl

end PgTransport.Backend
