import PgTransport.Backend.Statement

/-!
# The wire destination receiver

The receiver is handed its encoders when the portal starts and applies the
encoder of each column to the value in the same position of every tuple it is
sent.  It reads as many columns as it has encoders, whatever the width of the
tuple.
-/

namespace PgTransport.Backend

open PgTransport.Wire

/-- Encode the value at a position of a tuple, or what lies past its end. -/
def receiveCell (encoder : ColumnEncoder) : Option (Option Datum) → Cell
  | some datum => encodeCell encoder datum
  | none => .stray encoder

/-- `wire_receive_slot`, starting at column `col`. -/
def receiveSlot (tuple : Row) : Nat → List ColumnEncoder → DataRow
  | _, [] => []
  | col, encoder :: encoders =>
      receiveCell encoder tuple[col]? :: receiveSlot tuple (col + 1) encoders

/-- The rows a receiver accumulates over one portal run. -/
def receiveAll (encoders : List ColumnEncoder) (tuples : List Row) : List DataRow :=
  tuples.map fun tuple => receiveSlot tuple 0 encoders

/-- `schema_and_encoders_uniform`. -/
def schemaAndEncodersUniform [TypeTable] (tupdesc : TupleDesc) (format : FieldFormat) :
    List FieldInfo × List ColumnEncoder :=
  (tupdesc.map (FieldInfo.ofAttribute format),
    tupdesc.map fun attr => ColumnEncoder.forColumn attr.atttypid format)

end PgTransport.Backend
