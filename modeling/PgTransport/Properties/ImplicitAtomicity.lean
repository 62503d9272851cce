import PgTransport.Backend.Refinement

/-!
# Atomicity of implicit blocks

A query body of several statements without transaction control takes effect as
a whole or not at all, on either backend, whatever statement fails and in
whatever way.
-/

namespace PgTransport.Properties

open PgTransport.Backend
open PgTransport.Computation
open PgTransport.Postgres
open PgTransport.Transaction
open PgTransport.Wire

variable {E : Type}

/-- Every statement of a batch succeeds, and so does the command-counter step
or the commit behind it. -/
def BatchSucceeds (backend : ExecutionBackend) (batch : List (RawStmt E)) : Prop :=
  ∀ stmt ∈ batch, stmt.verdict backend = .succeeds ∧ stmt.finish = none

/-- The work of a batch, in source order. -/
def batchEffects (backend : ExecutionBackend) (batch : List (RawStmt E)) : List E :=
  batch.flatMap fun stmt => stmt.effects backend

/-- The commands of a batch without transaction statements. -/
theorem asCommand_ordinary {stmt : RawStmt E} (backend : ExecutionBackend)
    (ordinary : isTransactionStmt stmt.node = false) :
    Books.Works (stmt.asCommand backend) ∧
      Books.effectsOf (stmt.asCommand backend) = stmt.effects backend ∧
      (Books.Runs (stmt.asCommand backend) ↔
        stmt.verdict backend = .succeeds ∧ stmt.finish = none) := by
  unfold RawStmt.asCommand
  rw [classifyRawStmt_ordinary ordinary]
  by_cases succeeds : stmt.verdict backend = .succeeds ∧ stmt.finish = none
  · simp only [succeeds, and_self, if_true]
    exact ⟨.inl ⟨_, rfl⟩, rfl, fun _ => trivial, fun _ => ⟨_, rfl⟩⟩
  · simp only [succeeds, if_false, iff_false]
    refine ⟨.inr ⟨_, rfl⟩, rfl, ?_⟩
    rintro ⟨effects, impossible⟩
    cases impossible

section Batch

variable {backend : ExecutionBackend} {batch : List (RawStmt E)}
  (ordinary : ∀ stmt ∈ batch, isTransactionStmt stmt.node = false)

include ordinary

theorem commands_work :
    ∀ command ∈ batch.map fun stmt => stmt.asCommand backend, Books.Works command := by
  intro command member
  obtain ⟨stmt, inBatch, rfl⟩ := List.mem_map.mp member
  exact (asCommand_ordinary backend (ordinary stmt inBatch)).1

theorem commands_run_iff :
    (∀ command ∈ batch.map fun stmt => stmt.asCommand backend, Books.Runs command) ↔
      BatchSucceeds backend batch := by
  rw [List.forall_mem_map]
  exact forall₂_congr fun stmt member =>
    (asCommand_ordinary backend (ordinary stmt member)).2.2

theorem commands_effects :
    (batch.map fun stmt => stmt.asCommand backend).flatMap Books.effectsOf =
      batchEffects backend batch := by
  rw [List.flatMap_map]
  exact List.flatMap_congr fun stmt member =>
    (asCommand_ordinary backend (ordinary stmt member)).2.1

end Batch

section Rows

variable [TypeTable]

/-- The response to every statement of a batch, one each and in source order. -/
def InOrder (backend : ExecutionBackend) (batch : List (RawStmt E))
    (responses : List Response) : Prop :=
  List.Forall₂ (fun stmt response => stmt.Answers backend response) batch responses

theorem inOrder_of_replies {backend : ExecutionBackend} {batch : List (RawStmt E)}
    {responses : List Response}
    (ordinary : ∀ stmt ∈ batch, isTransactionStmt stmt.node = false)
    (replies : Replies backend batch responses) : InOrder backend batch responses := by
  induction replies with
  | nil => exact .nil
  | @cons stmt response batch responses answer _ inductionHypothesis =>
      exact .cons (answer (ordinary stmt List.mem_cons_self))
        (inductionHypothesis fun other member =>
          ordinary other (List.mem_cons_of_mem _ member))

/-- A query body of several statements without transaction statements. -/
structure ImplicitBatch (body : SimpleQuery E) (stmts : List (RawStmt E)) : Prop where
  clean : containsNul body.text = false
  parsed : body.parsed = .ok stmts
  several : 2 ≤ (nonEmpty stmts).length
  ordinary : ∀ stmt ∈ stmts, isTransactionStmt stmt.node = false

/-- Such a body runs as one implicit block on either backend. -/
theorem ImplicitBatch.simpleQuery_eq {body : SimpleQuery E} {stmts : List (RawStmt E)}
    (block : ImplicitBatch body stmts) (backend : ExecutionBackend) :
    simpleQuery backend body =
      catchImplicitBlock (implicitBlockLoop backend (nonEmpty stmts)) := by
  have several : 1 < (nonEmpty stmts).length := block.several
  have noControl : hasXactControl stmts = false := by
    rw [hasXactControl, List.any_eq_false]
    intro stmt member
    simp [classifyRawStmt_ordinary (block.ordinary stmt member)]
  rw [simpleQuery_eq_batchLoop backend block.clean block.parsed]
  cases backend with
  | spi => simp only [batchLoop, several, noControl, and_self, if_true, implicitBlockLoop]
  | direct => simp only [batchLoop, several, if_true, implicitBlockLoop]

/-- An implicit block follows the books. -/
theorem ImplicitBatch.follows {body : SimpleQuery E} {stmts : List (RawStmt E)}
    (block : ImplicitBatch body stmts) (backend : ExecutionBackend) {pg : Pg E}
    {books : Books E} (shown : Shows pg.xact books) :
    Follows AnsweredWithError (Replies backend (nonEmpty stmts))
      (simpleQuery backend body pg)
      (Books.interpret false
        ((nonEmpty stmts).map fun stmt => stmt.asCommand backend) books) := by
  rw [block.simpleQuery_eq backend]
  apply catchImplicitBlock_follows
  apply loop_follows (implicitBlockLoop backend) (by cases backend <;> rfl)
    awaitsAbort_passes ?_ shown (by simp)
  intro stmt member
  have inBody := mem_of_mem_nonEmpty member
  exact implicitBlockLoop_stepFollows backend
    (body.containsNul_slice block.clean block.parsed inBody) (block.ordinary stmt inBody)

/-- What an implicit batch does to a session: its answer, the books before it
and the transaction state behind it. -/
theorem implicit_batch_all_or_nothing {session : Session E} (backend : ExecutionBackend)
    {body : SimpleQuery E} {stmts : List (RawStmt E)} {books : Books E}
    (alive : session.alive = true) (block : ImplicitBatch body stmts)
    (shown : Shows session.pg.xact books) (active : books.phase ≠ .failed) :
    let answer := session.receive (.query backend body)
    (BatchSucceeds backend (nonEmpty stmts) → ∃ responses,
      answer.1 = .responses responses ∧ InOrder backend (nonEmpty stmts) responses ∧
        Shows answer.2.pg.xact
          (books.enter.perform (batchEffects backend (nonEmpty stmts))).close) ∧
    (¬BatchSucceeds backend (nonEmpty stmts) → ∃ err done,
      answer.1 = .error err ∧
        Shows answer.2.pg.xact (books.enter.perform done).abandon) := by
  have ordinary : ∀ stmt ∈ nonEmpty stmts, isTransactionStmt stmt.node = false :=
    fun stmt member => block.ordinary stmt (mem_of_mem_nonEmpty member)
  have follows := block.follows backend shown
  constructor
  · intro succeeds
    have content : ((nonEmpty stmts).map fun stmt => stmt.asCommand backend) ≠ [] := by
      rw [ne_eq, List.map_eq_nil_iff, ← List.length_eq_zero_iff]
      have := block.several
      omega
    rw [Books.interpret_runs ((commands_run_iff ordinary).mpr succeeds) content active,
      commands_effects ordinary] at follows
    obtain ⟨responses, after, run, replies, _, shows⟩ := follows
    exact ⟨responses, by simp [Session.receive, alive, run, Session.conclude],
      inOrder_of_replies ordinary replies, by
        simpa [Session.receive, alive, run, Session.conclude] using shows⟩
  · intro failing
    obtain ⟨done, interpreted⟩ := Books.interpret_fails (commands_work ordinary)
      (mt (commands_run_iff ordinary).mp failing) active
    rw [interpreted] at follows
    obtain ⟨err, after, run, shows⟩ := follows
    exact ⟨err, done, by simp [Session.receive, alive, run, Session.conclude], by
      simpa [Session.receive, alive, run, Session.conclude] using shows⟩

/-- A batch without transaction control takes effect as a whole or not at all.
Outside a block it commits everything or nothing and stays outside; in an open
block its work joins the block or aborts it. -/
theorem implicit_batch_atomic {session : Session E} {body : SimpleQuery E}
    {stmts : List (RawStmt E)} (backend : ExecutionBackend)
    (alive : session.alive = true) (block : ImplicitBatch body stmts) :
    let batch := nonEmpty stmts
    let before := session.pg.xact
    let reply := (session.receive (.query backend body)).1
    let after := (session.receive (.query backend body)).2.pg.xact
    (before.blockState = .default → after.blockState = .default ∧
      (BatchSucceeds backend batch → ∃ responses, reply = .responses responses ∧
        InOrder backend batch responses ∧
        after.committed = before.committed ++ batchEffects backend batch) ∧
      (¬BatchSucceeds backend batch → ∃ err, reply = .error err ∧
        after.committed = before.committed)) ∧
    (before.blockState = .inprogress → after.committed = before.committed ∧
      (BatchSucceeds backend batch → ∃ responses, reply = .responses responses ∧
        InOrder backend batch responses ∧ after.blockState = .inprogress ∧
        after.pending = before.pending ++ batchEffects backend batch) ∧
      (¬BatchSucceeds backend batch → ∃ err, reply = .error err ∧
        after.blockState = .abort)) := by
  constructor
  · intro outside
    obtain ⟨whole, nothing⟩ := implicit_batch_all_or_nothing backend alive block
      (.outside outside) (by simp)
    refine ⟨?_, fun succeeds => ?_, fun failing => ?_⟩
    · by_cases succeeds : BatchSucceeds backend (nonEmpty stmts)
      · obtain ⟨_, _, _, shows⟩ := whole succeeds
        exact shows.phase_eq
      · obtain ⟨_, _, _, shows⟩ := nothing succeeds
        exact shows.phase_eq
    · obtain ⟨responses, answered, ordered, shows⟩ := whole succeeds
      exact ⟨responses, answered, ordered, shows.committed_eq.symm⟩
    · obtain ⟨err, _, answered, shows⟩ := nothing failing
      exact ⟨err, answered, shows.committed_eq.symm⟩
  · intro inBlock
    obtain ⟨whole, nothing⟩ := implicit_batch_all_or_nothing backend alive block
      (.inside .explicit (by simp) inBlock) (by simp [booksIn])
    refine ⟨?_, fun succeeds => ?_, fun failing => ?_⟩
    · by_cases succeeds : BatchSucceeds backend (nonEmpty stmts)
      · obtain ⟨_, _, _, shows⟩ := whole succeeds
        exact shows.committed_eq.symm
      · obtain ⟨_, _, _, shows⟩ := nothing succeeds
        exact shows.committed_eq.symm
    · obtain ⟨responses, answered, ordered, shows⟩ := whole succeeds
      exact ⟨responses, answered, ordered, shows.phase_eq, shows.pending_eq (by
        simp [booksIn, Books.enter, Books.perform, Books.close])⟩
    · obtain ⟨err, _, answered, shows⟩ := nothing failing
      exact ⟨err, answered, shows.phase_eq⟩

end Rows

/-- Two statements that each do some work. -/
def twoInserts : List (RawStmt Nat) :=
  [.command "INSERT 1;" (.other true) (.ok [1]), .command "INSERT 2" (.other true) (.ok [2])]

theorem twoInserts_implicitBatch : ImplicitBatch (.batch twoInserts) twoInserts where
  clean := by decide
  parsed := rfl
  several := by decide
  ordinary := by decide

/-- A fresh session on the direct backend commits both of two statements. -/
theorem twoInserts_committed :
    (@Session.receive Nat (.knowing [TEXTOID]) (Session.fresh .standard)
      (.query .direct (.batch twoInserts))).2.pg.xact.committed = [1, 2] := by
  let _ : TypeTable := .knowing [TEXTOID]
  have alive : (Session.fresh .standard : Session Nat).alive = true := rfl
  have succeeds : BatchSucceeds .direct (nonEmpty twoInserts) := by
    unfold BatchSucceeds
    decide
  obtain ⟨_, whole, _⟩ := (implicit_batch_atomic .direct alive twoInserts_implicitBatch).1 rfl
  obtain ⟨_, _, _, committed⟩ := whole succeeds
  rw [committed]
  rfl

end PgTransport.Properties
