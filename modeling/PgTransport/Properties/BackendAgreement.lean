import PgTransport.Backend.Autocommit
import PgTransport.Transaction.Agreement

/-!
# Agreement of the two simple-query backends

The SPI bridge gives up the implicit block as soon as a batch contains
transaction control, and runs the batch statement by statement.  The direct
path keeps the implicit block of `exec_simple_query`.  On batches whose
statements the server answers alike, the two arrive at the same transaction
state exactly if no work of the batch done outside a block is at stake when a
later command of the batch fails, rolls back or leaves a block open.
-/

namespace PgTransport.Properties

open PgTransport.Backend
open PgTransport.Computation
open PgTransport.Postgres
open PgTransport.Transaction
open PgTransport.Wire

variable {E : Type}

/-- A statement of a batch that both backends can be compared on: `BEGIN`,
`COMMIT` or `ROLLBACK` without options, or an ordinary statement that succeeds
with the same work on both backends or raises on both. -/
structure Comparable (stmt : RawStmt E) : Prop where
  finish : stmt.finish = none
  control : ∀ command, stmt.node = .transactionStmt command →
    ∃ cmd, PlainControl command cmd
  verdict : isTransactionStmt stmt.node = false →
    stmt.verdict .spi = stmt.verdict .direct
  effects : isTransactionStmt stmt.node = false →
    stmt.effects .spi = stmt.effects .direct

/-- Two endings agree: both report errors or both the same number of responses,
and the block state and the committed, pending and rolled-back work are the
same. -/
structure SameOutcome (first second : Ending E (List Response)) : Prop where
  answers : match first.1, second.1 with
    | .ret (.ok responses), .ret (.ok others) => responses.length = others.length
    | .ret (.error _), .ret (.error _) => True
    | _, _ => False
  blockState : first.2.xact.blockState = second.2.xact.blockState
  books : booksOf first.2.xact = booksOf second.2.xact

/-- Endings that follow the books agree exactly if the books do. -/
theorem sameOutcome_iff {first second : Ending E (List Response)}
    {firstReplies secondReplies : List Response → Prop}
    {firstBooks secondBooks : Option Nat × Books E}
    (firstFollows : Follows AnsweredWithError firstReplies first firstBooks)
    (secondFollows : Follows AnsweredWithError secondReplies second secondBooks) :
    SameOutcome first second ↔ firstBooks = secondBooks := by
  rcases firstBooks with ⟨_ | count, books⟩ <;> rcases secondBooks with ⟨_ | other, others⟩
  · obtain ⟨_, after, rfl, shows⟩ := firstFollows
    obtain ⟨_, final, rfl, ends⟩ := secondFollows
    constructor
    · intro same
      have booksEq : books = others :=
        shows.booksOf_eq.symm.trans (same.books.trans ends.booksOf_eq)
      rw [booksEq]
    · intro same
      cases same
      exact ⟨trivial, shows.phase_eq.trans ends.phase_eq.symm,
        shows.booksOf_eq.trans ends.booksOf_eq.symm⟩
  · obtain ⟨_, after, rfl, _⟩ := firstFollows
    obtain ⟨_, final, rfl, _⟩ := secondFollows
    simp only [Prod.mk.injEq, reduceCtorEq, false_and, iff_false]
    exact fun same => same.answers
  · obtain ⟨_, after, rfl, _⟩ := firstFollows
    obtain ⟨_, final, rfl, _⟩ := secondFollows
    simp only [Prod.mk.injEq, reduceCtorEq, false_and, iff_false]
    exact fun same => same.answers
  · obtain ⟨responses, after, rfl, _, rfl, shows⟩ := firstFollows
    obtain ⟨replies, final, rfl, _, rfl, ends⟩ := secondFollows
    constructor
    · intro same
      have booksEq : books = others :=
        shows.booksOf_eq.symm.trans (same.books.trans ends.booksOf_eq)
      have lengths : responses.length = replies.length := same.answers
      rw [booksEq, lengths]
    · intro same
      obtain ⟨length, rfl⟩ := Prod.mk.inj same
      exact ⟨Option.some.inj length, shows.phase_eq.trans ends.phase_eq.symm,
        shows.booksOf_eq.trans ends.booksOf_eq.symm⟩

section Comparable

variable {stmt : RawStmt E}

theorem Comparable.settled (comparable : Comparable stmt) (backend : ExecutionBackend) :
    Settled stmt backend where
  finish := comparable.finish
  control := comparable.control
  settled := by
    intro ordinary
    have direct : stmt.verdict .direct ≠ .refuses := by
      unfold RawStmt.verdict
      cases stmt.portal <;> simp
    cases backend with
    | spi => rwa [comparable.verdict ordinary]
    | direct => exact direct

theorem Comparable.asCommand_eq (comparable : Comparable stmt) :
    stmt.asCommand .spi = stmt.asCommand .direct := by
  cases node : stmt.node with
  | transactionStmt command =>
      obtain ⟨cmd, plain⟩ := comparable.control command node
      simp [RawStmt.asCommand, node, plain.classified]
  | fetchStmt ismove portalname =>
      have ordinary : isTransactionStmt stmt.node = false := by rw [node]; rfl
      simp only [RawStmt.asCommand, comparable.verdict ordinary, comparable.effects ordinary]
  | other requiresAnalysis =>
      have ordinary : isTransactionStmt stmt.node = false := by rw [node]; rfl
      simp only [RawStmt.asCommand, comparable.verdict ordinary, comparable.effects ordinary]

end Comparable

section Rows

variable [TypeTable]

/-- A query body whose statements are comparable. -/
structure ComparableBody (body : SimpleQuery E) (stmts : List (RawStmt E)) : Prop where
  clean : containsNul body.text = false
  parsed : body.parsed = .ok stmts
  comparable : ∀ stmt ∈ stmts, Comparable stmt

variable {body : SimpleQuery E} {stmts : List (RawStmt E)} {pg : Pg E} {books : Books E}

/-- The commands of a body, the same on both backends. -/
def bodyCommands (stmts : List (RawStmt E)) : List (Command E) :=
  (nonEmpty stmts).map fun stmt => stmt.asCommand .spi

omit [TypeTable] in
theorem bodyCommands_direct (comparable : ∀ stmt ∈ stmts, Comparable stmt) :
    (nonEmpty stmts).map (fun stmt => stmt.asCommand .direct) = bodyCommands stmts :=
  List.map_congr_left fun stmt member =>
    (comparable stmt (mem_of_mem_nonEmpty member)).asCommand_eq.symm

omit [TypeTable] in
theorem ComparableBody.noNul (block : ComparableBody body stmts) {stmt : RawStmt E}
    (member : stmt ∈ nonEmpty stmts) : containsNul stmt.text = false :=
  body.containsNul_slice block.clean block.parsed (mem_of_mem_nonEmpty member)

omit [TypeTable] in
theorem ComparableBody.settled (block : ComparableBody body stmts) {stmt : RawStmt E}
    (member : stmt ∈ nonEmpty stmts) (backend : ExecutionBackend) : Settled stmt backend :=
  (block.comparable stmt (mem_of_mem_nonEmpty member)).settled backend

/-- An implicit block on the direct path closes its last statement. -/
theorem ComparableBody.implicitBlock_follows (block : ComparableBody body stmts)
    (shown : Shows pg.xact books) :
    Follows AnsweredWithError (Replies .direct (nonEmpty stmts))
      (catchImplicitBlock (implicitBlockLoopDirect (nonEmpty stmts)) pg)
      (Books.interpret false (bodyCommands stmts) books) := by
  rw [← bodyCommands_direct block.comparable]
  apply catchImplicitBlock_follows
  apply loop_follows (implicitBlockLoop .direct) rfl awaitsAbort_passes ?_ shown (by simp)
  intro stmt member
  have settled := block.settled member .direct
  by_cases ordinary : isTransactionStmt stmt.node = false
  · exact implicitBlockLoop_stepFollows .direct (block.noNul member) ordinary
  · obtain ⟨command, node⟩ := exists_command_of_transactionStmt ordinary
    obtain ⟨cmd, plain⟩ := settled.control command node
    exact implicitBlockLoopDirect_control node plain settled.finish

/-- The direct path closes a single statement. -/
theorem ComparableBody.single_follows (block : ComparableBody body stmts)
    (shown : Shows pg.xact books) (single : books.phase ≠ .implicit) :
    Follows AnsweredWithError (Replies .direct (nonEmpty stmts))
      (executeSingleDirect (nonEmpty stmts) pg)
      (Books.interpret true (bodyCommands stmts) books) := by
  rw [← bodyCommands_direct block.comparable]
  apply loop_follows executeSingleDirect rfl answeredWithError_passes ?_ shown fun _ => single
  intro stmt member
  exact executeSingleDirect_stepFollows (not_blank_of_mem_nonEmpty member)
    (block.settled member .direct)

/-- The SPI bridge closes every statement of a batch it runs one by one. -/
theorem ComparableBody.statements_follow (block : ComparableBody body stmts)
    (shown : Shows pg.xact books) (single : books.phase ≠ .implicit) :
    Follows AnsweredWithError (Replies .spi (nonEmpty stmts))
      (executeStatements ((nonEmpty stmts).map RawStmt.classified) pg)
      (Books.interpret true (bodyCommands stmts) books) := by
  apply loop_follows (fun stmts => executeStatements (stmts.map RawStmt.classified)) rfl
    answeredWithError_passes ?_ shown fun _ => single
  intro stmt member
  exact executeStatements_stepFollows (not_blank_of_mem_nonEmpty member)
    (block.noNul member) (block.settled member .spi)

/-- The SPI bridge closes the last statement of a batch without transaction
control. -/
theorem ComparableBody.spiBlock_follows (block : ComparableBody body stmts)
    (shown : Shows pg.xact books) (noControl : hasXactControl stmts = false) :
    Follows AnsweredWithError (Replies .spi (nonEmpty stmts))
      (catchImplicitBlock
        (implicitBlockLoopSpi ((nonEmpty stmts).map RawStmt.withPortalname)) pg)
      (Books.interpret false (bodyCommands stmts) books) := by
  apply catchImplicitBlock_follows
  apply loop_follows (implicitBlockLoop .spi) rfl awaitsAbort_passes ?_ shown (by simp)
  intro stmt member
  apply implicitBlockLoop_stepFollows .spi (block.noNul member)
  by_contra control
  obtain ⟨command, node⟩ := exists_command_of_transactionStmt control
  obtain ⟨cmd, plain⟩ := (block.settled member .spi).control command node
  have intercepted := List.any_eq_false.mp noControl stmt (mem_of_mem_nonEmpty member)
  simp [node, plain.classified] at intercepted

/-- The block states in which a session waits for a query. -/
def AwaitsQuery (pg : Pg E) : Prop :=
  pg.xact.blockState = .default ∨ pg.xact.blockState = .inprogress ∨
    pg.xact.blockState = .abort

omit [TypeTable] in
theorem AwaitsQuery.shows (awaits : AwaitsQuery pg) :
    Shows pg.xact (booksOf pg.xact) ∧ (booksOf pg.xact).phase ≠ .implicit := by
  rcases awaits with state | state | state <;> simp only [booksOf, state]
  · exact ⟨.outside state, by simp⟩
  · exact ⟨.inside .explicit (by simp) state, by simp [booksIn]⟩
  · exact ⟨.inside .failed (by simp) state, by simp [booksIn]⟩

/-- On a comparable body the two backends agree exactly if it contains no
transaction control or is safe. -/
theorem backends_agree_iff_safe (block : ComparableBody body stmts)
    (awaits : AwaitsQuery pg) :
    SameOutcome (executeSimpleQuery body pg) (executeSimpleQueryDirect body pg) ↔
      hasXactControl stmts = false ∨
        Books.safe (booksOf pg.xact).phase false (bodyCommands stmts) = true := by
  obtain ⟨shown, single⟩ := awaits.shows
  rw [executeSimpleQuery_of_parsed block.clean block.parsed,
    executeSimpleQueryDirect_of_parsed block.clean block.parsed]
  by_cases several : 1 < (nonEmpty stmts).length
  · rw [if_pos several]
    by_cases control : hasXactControl stmts = false
    · rw [if_pos ⟨several, control⟩,
        sameOutcome_iff (block.spiBlock_follows shown control)
          (block.implicitBlock_follows shown)]
      simp [control]
    · rw [if_neg (by simp [control]),
        sameOutcome_iff (block.statements_follow shown single)
          (block.implicitBlock_follows shown),
        Books.interpret_agree_iff _ single]
      simp [control]
  · rw [if_neg several, if_neg (by simp [several]),
      sameOutcome_iff (block.statements_follow shown single)
        (block.single_follows shown single), ← Books.interpret_agree_iff _ single]
    -- a batch of at most one statement is read in the same way by both modes
    have short : (bodyCommands stmts).length ≤ 1 := by
      rw [bodyCommands, List.length_map]
      omega
    simp only [true_iff]
    refine .inr ?_
    match commands : bodyCommands stmts with
    | [] => rfl
    | [command] => exact (Books.interpret_single false command (booksOf pg.xact)).symm
    | _ :: _ :: _ => simp [commands] at short

end Rows

/-! ## Work in front of a block -/

/-- A statement that does some work, followed by `BEGIN`. -/
def insertThenBegin : List (RawStmt Nat) :=
  [.command "INSERT 1;" (.other true) (.ok [1]), .control "BEGIN" .begin]

/-- The same with the block committed behind it. -/
def insertThenBlock : List (RawStmt Nat) :=
  [.command "INSERT 1;" (.other true) (.ok [1]), .control "BEGIN;" .begin,
    .control "COMMIT" .commit]

theorem comparable_command (text : String) (effects : List E) :
    Comparable (.command text (.other true) (.ok effects)) where
  finish := rfl
  control _ impossible := by cases impossible
  verdict _ := by rfl
  effects _ := by rfl

theorem comparable_control (text : String) {kind : TransactionStmtKind} {cmd : XactCmd}
    (intercepted : classifyRawStmt (.transactionStmt (.plain kind)) = some cmd) :
    Comparable (.control text kind : RawStmt E) where
  finish := rfl
  control := by
    rintro _ ⟨⟩
    exact ⟨cmd, rfl, rfl, intercepted⟩
  verdict impossible := by cases impossible
  effects impossible := by cases impossible

theorem insertThenBegin_comparable : ComparableBody (.batch insertThenBegin) insertThenBegin where
  clean := by decide
  parsed := rfl
  comparable := by
    simp only [insertThenBegin, List.forall_mem_cons]
    exact ⟨comparable_command _ _, comparable_control _ rfl, by simp⟩

theorem insertThenBlock_comparable : ComparableBody (.batch insertThenBlock) insertThenBlock where
  clean := by decide
  parsed := rfl
  comparable := by
    simp only [insertThenBlock, List.forall_mem_cons]
    exact ⟨comparable_command _ _, comparable_control _ rfl, comparable_control _ rfl,
      by simp⟩

/-- Work in front of a block that commits is committed by both backends. -/
theorem insertThenBlock_agrees :
    SameOutcome
      (@executeSimpleQuery Nat (.knowing [TEXTOID]) (.batch insertThenBlock) (Pg.fresh .standard))
      (@executeSimpleQueryDirect Nat (.knowing [TEXTOID]) (.batch insertThenBlock)
        (Pg.fresh .standard)) :=
  let _ : TypeTable := .knowing [TEXTOID]
  (backends_agree_iff_safe insertThenBlock_comparable (.inl rfl)).mpr (.inr (by decide))

/-- The backends do not agree on every comparable body: work in front of a block
that stays open is committed by one and pending in the other. -/
theorem insertThenBegin_disagrees :
    ¬∀ [TypeTable] (body : SimpleQuery Nat) (stmts : List (RawStmt Nat)) (pg : Pg Nat),
      ComparableBody body stmts → AwaitsQuery pg →
        SameOutcome (executeSimpleQuery body pg) (executeSimpleQueryDirect body pg) := by
  intro always
  let _ : TypeTable := ⟨fun _ => none, by simp⟩
  have same := always (.batch insertThenBegin) insertThenBegin (Pg.fresh .standard)
    insertThenBegin_comparable (.inl rfl)
  have committed : [1] = [] := congrArg Books.committed same.books
  cases committed

end PgTransport.Properties
