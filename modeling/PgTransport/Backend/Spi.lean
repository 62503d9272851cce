import PgTransport.Backend.Executor

/-!
# `with_spi`: the transaction bracket with an SPI session

Beside the bracket itself this module models the tuple table that an SPI call
leaves behind, and the loop that encodes its rows.
-/

namespace PgTransport.Backend

open PgTransport.Computation
open PgTransport.Postgres
open PgTransport.Wire

variable {E : Type} {α : Type}

/-- The return codes of one SPI session. -/
structure SpiRcs where
  connect : Int
  finish : Int
  deriving DecidableEq, Repr

/-- The session opens and closes cleanly. -/
def SpiRcs.clean : SpiRcs := ⟨SPI_OK_CONNECT, SPI_OK_FINISH⟩

/-- The closure `with_spi` runs under `catch_unwind`: `SPI_connect`, the body,
and `SPI_finish`, whose failure does not hide an error of the body. -/
def spiSession (rcs : SpiRcs) (body : PgM E (PgWireResult α)) :
    PgM E (PgWireResult α) := do
  let connectRc ← spiConnect rcs.connect
  if connectRc ≠ SPI_OK_CONNECT then
    pure (.error (spiRcError "SPI_connect" connectRc))
  else do
    let bodyResult ← body
    let finishRc ← spiFinish rcs.finish
    if finishRc ≠ SPI_OK_FINISH then
      pure (bodyResult.andError (spiRcError "SPI_finish" finishRc))
    else
      pure bodyResult

/-- `with_spi`. -/
def withSpi (rcs : SpiRcs) (finish : Option ErrorReport)
    (body : PgM E (PgWireResult α)) : PgM E (PgWireResult α) := do
  startTransactionCommand
  pushTransactionSnapshot
  let outcome ← Comp.catchUnwind (spiSession rcs body)
  match outcome with
  | .ok (.ok value) => do
      popActiveSnapshot
      commitTransactionCommand finish
      pure (.ok value)
  | .ok (.error err) => do
      popActiveSnapshot
      commitTransactionCommand finish
      pure (.error err)
  | .error payload => do
      abortCurrentTransaction
      pure (.error (panicToPgwire payload))

/-- `with_spi` is `with_xact` with a snapshot around the SPI session. -/
theorem withSpi_eq_withXact (rcs : SpiRcs) (finish : Option ErrorReport)
    (body : PgM E (PgWireResult α)) :
    withSpi rcs finish body = withXact true finish (spiSession rcs body) :=
  rfl

/-! ## Tuple tables -/

/-- A row of a tuple table; `none` is SQL NULL. -/
abbrev Row : Type := List (Option Datum)

/-- `SPITupleTable`. -/
structure TupTable where
  tupdesc : TupleDesc
  vals : List Row
  deriving DecidableEq, Repr

/-- What one SPI execution leaves behind: its return code, `SPI_processed`,
`SPI_tuptable` and the work done.  Where there is a table, `SPI_processed`
counts its rows. -/
structure SpiResult (E : Type) where
  rc : Int
  processed : Nat
  tuptable : Option TupTable
  effects : List E
  counted : ∀ table, tuptable = some table → processed = table.vals.length

/-- A result without a tuple table. -/
def SpiResult.withoutTable (rc : Int) (effects : List E) : SpiResult E where
  rc := rc
  processed := 0
  tuptable := none
  effects := effects
  counted _ impossible := by cases impossible

/-- `SPI_ERROR_TRANSACTION`. -/
def SPI_ERROR_TRANSACTION : Int := -8

/-- `SpiTuples::cell`: a NULL or a datum, with a panic outside the descriptor. -/
def TupTable.cell (table : TupTable) (rowIdx : Nat) (row : Row) (col : Nat) :
    Except Payload (Option Datum) :=
  if col < table.tupdesc.length then
    .ok (row[col]?.join)
  else
    .error (.message (s!"cell ({rowIdx},{col}) out of range " ++
      s!"({table.vals.length},{table.tupdesc.length})"))

/-- Encode a cell: a NULL marker or the encoder's output. -/
def encodeCell (encoder : ColumnEncoder) : Option Datum → Cell
  | none => .null
  | some datum => .encoded encoder datum

/-- The inner loop over the encoders of one row, starting at column `col`. -/
def TupTable.encodeRow (table : TupTable) (rowIdx : Nat) (row : Row) :
    Nat → List ColumnEncoder → Except Payload DataRow
  | _, [] => .ok []
  | col, encoder :: encoders => do
      let datum ← table.cell rowIdx row col
      let rest ← table.encodeRow rowIdx row (col + 1) encoders
      pure (encodeCell encoder datum :: rest)

/-- The outer loop over the rows, starting at row `rowIdx`. -/
def TupTable.encodeRows (table : TupTable) (encoders : List ColumnEncoder) :
    Nat → List Row → Except Payload (List DataRow)
  | _, [] => .ok []
  | rowIdx, row :: rows => do
      let dataRow ← table.encodeRow rowIdx row 0 encoders
      let rest ← table.encodeRows encoders (rowIdx + 1) rows
      pure (dataRow :: rest)

/-- A pure computation that may panic, run inside the backend. -/
def liftPanic (result : Except Payload α) : PgM E α :=
  match result with
  | .ok value => pure value
  | .error payload => Comp.raise payload

/-- A PG call that either raises or does some work and returns. -/
def callPg (effects : α → List E) (result : Except ErrorReport α) : PgM E α :=
  match result with
  | .error report => ereport report
  | .ok value => do
      perform (effects value)
      pure value

end PgTransport.Backend
