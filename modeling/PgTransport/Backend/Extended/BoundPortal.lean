import PgTransport.Backend.Extended.Rows
import PgTransport.Wire.RowStream

/-!
# Bound portals and the executions of a portal

Every `Execute` message of a portal that reaches `do_query` runs the statement
of the portal from its start and hands the limit to `PortalRun` or to
`SPI_execute_plan`.  Nothing of the run outlives the message: the next one
either takes what is left of the row stream that was returned or runs the
statement again.
-/

namespace PgTransport.Backend

open PgTransport.Computation
open PgTransport.Postgres
open PgTransport.Wire

variable {E : Type}

/-- `PortalStrategy`. -/
inductive PortalStrategy where
  | oneSelect
  | oneReturning
  | oneModWith
  | utilSelect
  | multiQuery
  deriving DecidableEq, Repr

/-- A bound portal, with what its query comes to: the rows and the work of a
run to the end, and the work of an executor run that stops after so many rows.
`processed` counts the rows of a command that returns none. -/
structure BoundPortal (E : Type) where
  statement : PreparedStatement
  parameters : List BoundParameter
  parameterFormat : Format
  resultFormat : Format
  strategy : PortalStrategy
  resultDesc : Option TupleDesc
  rows : List Row
  processed : Nat
  commandTag : CommandTag
  rc : Int
  effects : List E
  stopped : Nat → List E
  width : ∀ row ∈ rows, row.length = (resultDesc.getD []).length
  counted : rows.length < 9223372036854775808
  returned : 0 ≤ rc

/-- `as i64` and `as c_long`. -/
def asI64 (count : Nat) : Int :=
  if count < 9223372036854775808 then count else (count : Int) - 18446744073709551616

theorem asI64_usizeOf (limit : Int32) : asI64 (usizeOf limit) = limit.toInt := by
  have below := limit.toInt_lt
  have above := limit.le_toInt
  by_cases negative : limit.toInt < 0
  · have count := usizeOf_of_neg negative
    rw [asI64, if_neg (by omega)]
    omega
  · have count := usizeOf_of_nonneg (Int.not_lt.mp negative)
    rw [asI64, if_pos (by omega)]
    omega

/-- `FETCH_ALL`. -/
def FETCH_ALL : Int := 9223372036854775807

theorem asI64_portalCount (limit : Int32) :
    asI64 (portalCount (usizeOf limit)) =
      if limit.toInt = 0 then FETCH_ALL else limit.toInt := by
  rw [portalCount]
  by_cases unlimited : limit.toInt = 0
  · rw [if_pos (usizeOf_eq_zero_iff.mpr unlimited), if_pos unlimited]
    rfl
  · rw [if_neg (mt usizeOf_eq_zero_iff.mp unlimited), if_neg unlimited, asI64_usizeOf]

/-- `SPI_ERROR_ARGUMENT`. -/
def SPI_ERROR_ARGUMENT : Int := -6

namespace BoundPortal

/-- The work of the executor where it stops after `count` rows: all of it only
where there are fewer. -/
def executorRun (portal : BoundPortal E) (count : Nat) : List E :=
  if count ≤ portal.rows.length then portal.stopped count else portal.effects

/-- The rows that `PortalRun` sends; none for a count that is not positive. -/
def portalRows (portal : BoundPortal E) (count : Int) : List Row :=
  if count = FETCH_ALL then portal.rows else portal.rows.take count.toNat

/-- `PortalRun`.  The strategies other than `PORTAL_ONE_SELECT` do all of their
work before the first row is fetched. -/
def portalRun (portal : BoundPortal E) (count : Int) : PortalRun E where
  tupDesc := portal.resultDesc
  tuples := portal.portalRows count
  commandTag := portal.commandTag
  nprocessed :=
    if portal.resultDesc.isNone then portal.processed else (portal.portalRows count).length
  effects :=
    if portal.strategy ≠ .oneSelect ∨ count = FETCH_ALL then portal.effects
    else if count ≤ 0 then []
    else portal.executorRun count.toNat
  width tuple member := by
    unfold portalRows at member
    split at member
    · exact portal.width tuple member
    · exact portal.width tuple (List.mem_of_mem_take member)

/-- What SPI leaves behind: a tuple table where the query has a result. -/
def spiResult (portal : BoundPortal E) (vals : List Row) (effects : List E) : SpiResult E :=
  match portal.resultDesc with
  | none => ⟨portal.rc, portal.processed, none, effects, by simp⟩
  | some desc => ⟨portal.rc, vals.length, some ⟨desc, vals⟩, effects, by
      rintro table ⟨⟩
      rfl⟩

@[simp]
theorem rc_spiResult (portal : BoundPortal E) (vals : List Row) (effects : List E) :
    (portal.spiResult vals effects).rc = portal.rc := by
  unfold spiResult
  split <;> rfl

@[simp]
theorem effects_spiResult (portal : BoundPortal E) (vals : List Row) (effects : List E) :
    (portal.spiResult vals effects).effects = effects := by
  unfold spiResult
  split <;> rfl

/-- `SPI_execute_plan`.  The count does not stop a utility statement. -/
def spiExecutePlan (portal : BoundPortal E) (tcount : Int) : SpiResult E :=
  if tcount < 0 then .withoutTable SPI_ERROR_ARGUMENT []
  else if tcount = 0 ∨ portal.strategy = .utilSelect then
    portal.spiResult portal.rows portal.effects
  else portal.spiResult (portal.rows.take tcount.toNat) (portal.executorRun tcount.toNat)

/-- The request of an `Execute` message with this limit. -/
def request (portal : BoundPortal E) (maxRows : Nat) : ExecuteRequest E where
  parameters := portal.parameters
  parameterFormat := portal.parameterFormat
  resultFormat := portal.resultFormat
  maxRows := maxRows
  spiRcs := .clean
  spi count := .ok (portal.spiExecutePlan (asI64 count))
  currentDesc := portal.resultDesc
  portal count := .ok (portal.portalRun (asI64 count))
  described := by
    rintro count run ⟨⟩
    rfl
  finish := none

/-- `do_query`. -/
def doQuery (portal : BoundPortal E) (maxRows : Nat) : PgM E (PgWireResult Response) :=
  portal.statement.execute (portal.request maxRows)

end BoundPortal

/-! ## Executions -/

/-- The row stream of a response. -/
def responseRows : Response → List DataRow
  | .execution _ => []
  | .query _ rows _ => rows

/-- How the wire library serves the later `Execute` messages of a portal. -/
inductive Serving where
  | restOfStream
  | doQueryAgain
  deriving DecidableEq, Repr

/-- The rest of a stream that the portal keeps. -/
def Serving.keep (serving : Serving) (rest : List DataRow) : Option (List DataRow) :=
  match serving with
  | .restOfStream => some rest
  | .doQueryAgain => none

/-- An `Execute` message: the rows it sends and the stream that the portal keeps. -/
def onExecute (serving : Serving) (portal : BoundPortal E) (held : Option (List DataRow))
    (limit : Int32) : PgM E (PgWireResult (List DataRow × Option (List DataRow))) :=
  match held with
  | some stream =>
      let (page, rest) := sendRows (usizeOf limit) stream
      pure (.ok (page, some rest))
  | none => do
      let answer ← portal.doQuery (usizeOf limit)
      match answer with
      | .error err => pure (.error err)
      | .ok response =>
          let (page, rest) := sendRows (usizeOf limit) (responseRows response)
          pure (.ok (page, serving.keep rest))

/-- A sequence of `Execute` messages of one portal, up to the first error: the
rows that each one sends, and the rows that the portal still holds. -/
def executes (serving : Serving) (portal : BoundPortal E) :
    Option (List DataRow) → List Int32 →
      PgM E (PgWireResult (List (List DataRow) × List DataRow))
  | held, [] => pure (.ok ([], held.getD []))
  | held, limit :: limits => do
      let answer ← onExecute serving portal held limit
      match answer with
      | .error err => pure (.error err)
      | .ok (page, held) => do
          let later ← executes serving portal held limits
          pure (later.map fun (pages, rest) => (page :: pages, rest))

end PgTransport.Backend
