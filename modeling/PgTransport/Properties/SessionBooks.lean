import PgTransport.Backend.Clients
import PgTransport.Properties.BackendAgreement
import PgTransport.Properties.BracketBalance

/-!
# The books of a session

A session of simple queries does what the books say: each query is read as one
implicit transaction or statement by statement, as its backend reads it, and the
books are carried from query to query.  The backend may change with every query.
-/

namespace PgTransport.Properties

open PgTransport.Backend
open PgTransport.Computation
open PgTransport.Postgres
open PgTransport.Transaction
open PgTransport.Wire

variable {E : Type}

/-- A simple query with its statements, for one of the backends. -/
structure BackendQuery (E : Type) where
  backend : ExecutionBackend
  body : SimpleQuery E
  stmts : List (RawStmt E)

namespace BackendQuery

/-- The backend commits behind every statement: a batch is one implicit block on the
direct backend, and on SPI unless it contains transaction control. -/
def closesEach (query : BackendQuery E) : Bool :=
  match query.backend with
  | .spi => (nonEmpty query.stmts).length ≤ 1 || hasXactControl query.stmts
  | .direct => (nonEmpty query.stmts).length ≤ 1

/-- The message of the query. -/
def message (query : BackendQuery E) : Message E :=
  .query query.backend query.body

/-- The books behind a query, and the number of its responses unless it fails. -/
def interpret (query : BackendQuery E) (books : Books E) : Option Nat × Books E :=
  Books.interpret query.closesEach (bodyCommands query.stmts) books

end BackendQuery

/-- The books behind the queries of a session, with the outcome of each of them. -/
def interpretSession : List (BackendQuery E) → Books E → List (Option Nat) × Books E
  | [], books => ([], books)
  | query :: queries, books =>
      let (outcome, after) := query.interpret books
      let (outcomes, last) := interpretSession queries after
      (outcome :: outcomes, last)

/-- Behind a message no implicit transaction is open. -/
theorem phase_of_waits {xact : Xact E} {books : Books E} (shown : Shows xact books)
    (waits : xact.Waits) : books.phase ≠ .implicit := by
  cases shown with
  | outside state => exact fun impossible => Phase.noConfusion impossible
  | inside phase entered state =>
      rintro rfl
      rw [Xact.Waits, state] at waits
      simp [blockStateOf] at waits

section Rows

variable [TypeTable]

/-- A reply tells the outcome of a query: an error, or a response to each of its
statements in order. -/
def Tells (query : BackendQuery E) : Option Nat → Reply → Prop
  | some count, .responses responses =>
      responses.length = count ∧ Replies query.backend (nonEmpty query.stmts) responses
  | none, .error _ => True
  | _, _ => False

/-- One query follows the books. -/
theorem simpleQuery_follows {query : BackendQuery E} {pg : Pg E} {books : Books E}
    (block : ComparableBody query.body query.stmts) (shown : Shows pg.xact books)
    (single : books.phase ≠ .implicit) :
    Follows AnsweredWithError (Replies query.backend (nonEmpty query.stmts))
      (simpleQuery query.backend query.body pg) (query.interpret books) := by
  obtain ⟨backend, body, stmts⟩ := query
  cases backend with
  | spi =>
      change Follows _ _ (executeSimpleQuery body pg) _
      rw [executeSimpleQuery_of_parsed block.clean block.parsed]
      split
      · next whole =>
        have together : (BackendQuery.mk .spi body stmts).closesEach = false := by
          simp [BackendQuery.closesEach, whole.2, whole.1]
        rw [BackendQuery.interpret, together]
        exact block.spiBlock_follows shown whole.2
      · next apart =>
        have each : (BackendQuery.mk .spi body stmts).closesEach = true := by
          simp only [BackendQuery.closesEach, Bool.or_eq_true, decide_eq_true_eq]
          by_contra both
          simp only [not_or, Nat.not_le, Bool.not_eq_true] at both
          exact apart both
        rw [BackendQuery.interpret, each]
        exact block.statements_follow shown single
  | direct =>
      change Follows _ _ (executeSimpleQueryDirect body pg) _
      rw [executeSimpleQueryDirect_of_parsed block.clean block.parsed]
      split
      · next several =>
        have together : (BackendQuery.mk .direct body stmts).closesEach = false := by
          simp [BackendQuery.closesEach, several]
        rw [BackendQuery.interpret, together]
        exact block.implicitBlock_follows shown
      · next short =>
        have each : (BackendQuery.mk .direct body stmts).closesEach = true :=
          decide_eq_true (Nat.not_lt.mp short)
        rw [BackendQuery.interpret, each]
        exact block.single_follows shown single

/-- A session that shows the books answers a query as they say. -/
theorem receive_follows {query : BackendQuery E} {session : Session E} {books : Books E}
    (block : ComparableBody query.body query.stmts) (alive : session.alive = true)
    (shown : Shows session.pg.xact books) (single : books.phase ≠ .implicit) :
    Tells query (query.interpret books).1 (session.receive query.message).1 ∧
      (session.receive query.message).2.alive = true ∧
      Shows (session.receive query.message).2.pg.xact (query.interpret books).2 := by
  have follows := simpleQuery_follows block shown single
  simp only [Session.receive, alive, if_true, BackendQuery.message]
  rcases read : query.interpret books with ⟨_ | count, after⟩
  · rw [read] at follows
    obtain ⟨err, left, run, shows⟩ := follows
    rw [run]
    exact ⟨trivial, alive, shows⟩
  · rw [read] at follows
    obtain ⟨responses, left, run, replies, counted, shows⟩ := follows
    rw [run]
    exact ⟨⟨counted, replies⟩, alive, shows⟩

theorem receiveEach_follows (queries : List (BackendQuery E)) {session : Session E}
    {books : Books E} (blocks : ∀ query ∈ queries, ComparableBody query.body query.stmts)
    (alive : session.alive = true) (idle : Idle session.pg)
    (shown : Shows session.pg.xact books) :
    List.Forall₂ (fun told reply => Tells told.1 told.2 reply)
        (queries.zip (interpretSession queries books).1)
        (session.receiveEach (queries.map BackendQuery.message)).1 ∧
      Shows (session.receiveEach (queries.map BackendQuery.message)).2.pg.xact
        (interpretSession queries books).2 := by
  induction queries generalizing session books with
  | nil => exact ⟨.nil, shown⟩
  | cons query queries inductionHypothesis =>
      have single := phase_of_waits shown idle.xact
      obtain ⟨told, running, shows⟩ :=
        receive_follows (blocks query (List.mem_cons_self ..)) alive shown single
      have waits := receive_idle session query.message (fun _ => idle) running
      obtain ⟨later, last⟩ := inductionHypothesis
        (fun other member => blocks other (List.mem_cons_of_mem query member))
        running waits shows
      exact ⟨.cons told later, last⟩

/-- A session of comparable queries on either backend, which may change from query
to query, answers as the books say and commits what they say is committed. -/
theorem session_refines_books (defaults : Characteristics) (queries : List (BackendQuery E))
    (blocks : ∀ query ∈ queries, ComparableBody query.body query.stmts) :
    let session := (Session.fresh defaults).receiveEach (queries.map BackendQuery.message)
    let books := interpretSession queries ⟨.outside, [], [], [], []⟩
    List.Forall₂ (fun told reply => Tells told.1 told.2 reply)
        (queries.zip books.1) session.1 ∧
      Shows session.2.pg.xact books.2 := by
  apply receiveEach_follows queries blocks rfl
  · exact ⟨rfl, rfl, .inl rfl, by simp [Orderly, Session.fresh, Pg.fresh]⟩
  · exact .outside rfl

end Rows

/-- A block that one query opens through SPI and another ends on the direct path. -/
def openedThenEnded : List (BackendQuery Nat) :=
  [⟨.spi, .batch insertThenBegin, insertThenBegin⟩,
    ⟨.direct, .batch insertThenBlock, insertThenBlock⟩]

theorem openedThenEnded_committed :
    let _ : TypeTable := .knowing [TEXTOID]
    let session := (Session.fresh .standard).receiveEach
      (openedThenEnded.map BackendQuery.message)
    let books := interpretSession openedThenEnded ⟨.outside, [], [], [], []⟩
    List.Forall₂ (fun told reply => Tells told.1 told.2 reply)
        (openedThenEnded.zip books.1) session.1 ∧
      Shows session.2.pg.xact books.2 :=
  let _ : TypeTable := .knowing [TEXTOID]
  session_refines_books .standard openedThenEnded fun query member => by
    simp only [openedThenEnded, List.mem_cons, List.not_mem_nil, or_false] at member
    rcases member with rfl | rfl
    · exact insertThenBegin_comparable
    · exact insertThenBlock_comparable

end PgTransport.Properties
