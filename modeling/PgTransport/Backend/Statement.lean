import Mathlib.Data.List.Infix
import PgTransport.Postgres.Utility
import PgTransport.Backend.Spi

/-!
# Parsed statements and what PG makes of them

A client message carries, beside what the client sends, the answers the server
gives while the message is processed: the parse tree, the outcome of each
statement, the error its commit raises.  The bridge's own decisions are then a
function of the message and of the backend state.
-/

namespace PgTransport.Backend

open PgTransport.Postgres
open PgTransport.Wire

variable {E : Type}

/-- The node of a `RawStmt`, as far as the bridge inspects it.  Every other
node says whether its analysis needs a snapshot. -/
inductive Node where
  | transactionStmt (stmt : TransactionStmt)
  | fetchStmt (ismove : Bool) (portalname : Option String)
  | other (requiresAnalysis : Bool)
  deriving DecidableEq, Repr

/-- `analyze_requires_snapshot`. -/
def Node.analyzeRequiresSnapshot : Node → Bool
  | .other requiresAnalysis => requiresAnalysis
  | _ => false

/-- `CommandTag`: its display name and `command_tag_display_rowcount`. -/
structure CommandTag where
  name : String
  displayRowcount : Bool
  deriving DecidableEq, Repr

/-- What `PortalRun` delivers: the portal's descriptor, the tuples sent to the
receiver, the query completion and the work done.  The tuples have the columns
of the descriptor. -/
structure PortalRun (E : Type) where
  tupDesc : Option TupleDesc
  tuples : List Row
  commandTag : CommandTag
  nprocessed : Nat
  effects : List E
  width : ∀ tuple ∈ tuples, tuple.length = (tupDesc.getD []).length

/-- A run that delivers no tuples. -/
def PortalRun.command (tag : CommandTag) (nprocessed : Nat) (effects : List E) :
    PortalRun E where
  tupDesc := none
  tuples := []
  commandTag := tag
  nprocessed := nprocessed
  effects := effects
  width _ impossible := by cases impossible

/-- One parsed statement with the server's answers on either backend.

`text` is the slice of the query string at the parser's location.  `spiRcs` and
`spi` answer the SPI calls, `portal` answers analysis, planning and execution
through a portal, `cursorIsBinary` is `CURSOR_OPT_BINARY` of the cursor a
`FETCH` names, and `finish` is the error of the commit or command-counter step
that follows the statement. -/
structure RawStmt (E : Type) where
  text : String
  node : Node
  spiRcs : SpiRcs
  spi : Except ErrorReport (SpiResult E)
  portal : Except ErrorReport (PortalRun E)
  cursorIsBinary : Option Bool
  finish : Option ErrorReport

/-- The body of a simple `Query` message with the raw parser's answer.  Each
statement's text is part of the query string. -/
structure SimpleQuery (E : Type) where
  text : String
  parsed : Except ErrorReport (List (RawStmt E))
  slices : ∀ stmts, parsed = .ok stmts →
    ∀ stmt ∈ stmts, stmt.text.toList <:+: text.toList

/-- The statements with executable content. -/
def nonEmpty (stmts : List (RawStmt E)) : List (RawStmt E) :=
  stmts.filter fun stmt => !isBlank stmt.text

/-- A slice of a string without NUL bytes has none either. -/
theorem SimpleQuery.containsNul_slice {query : SimpleQuery E}
    (clean : containsNul query.text = false) {stmts : List (RawStmt E)}
    (parsed : query.parsed = .ok stmts) {stmt : RawStmt E} (member : stmt ∈ stmts) :
    containsNul stmt.text = false := by
  have slice := query.slices stmts parsed stmt member
  simp only [containsNul, List.contains_eq_mem, decide_eq_false_iff_not] at clean ⊢
  exact fun inside => clean (slice.subset inside)

/-! ## Building messages -/

/-- A statement that runs without SPI or commit errors and returns no rows: it
raises, or it does some work, and the same on both backends. -/
def RawStmt.command (text : String) (node : Node)
    (result : Except ErrorReport (List E)) : RawStmt E where
  text := text
  node := node
  spiRcs := .clean
  spi := result.map (SpiResult.withoutTable 4)
  portal := result.map (PortalRun.command ⟨"OK", false⟩ 0)
  cursorIsBinary := none
  finish := none

/-- A transaction statement without options. -/
def RawStmt.control (text : String) (kind : TransactionStmtKind) : RawStmt E :=
  .command text (.transactionStmt (.plain kind)) (.ok [])

/-- The query body that consists of these statements, one after the other. -/
def SimpleQuery.batch (stmts : List (RawStmt E)) : SimpleQuery E where
  text := String.ofList (stmts.map fun stmt => stmt.text.toList).flatten
  parsed := .ok stmts
  slices := by
    intro parsed same stmt member
    cases same
    rw [String.toList_ofList]
    exact List.infix_of_mem_flatten (List.mem_map_of_mem member)

end PgTransport.Backend
