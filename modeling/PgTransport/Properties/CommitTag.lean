import PgTransport.Backend.Batch
import PgTransport.Backend.Extended.Plans
import PgTransport.Backend.Kept

/-!
# The tag of an intercepted `COMMIT`

On the SPI backend a transaction that is neither over nor aborted has lost none
of its work, so that a `COMMIT` of an open block commits all of it.  In an
aborted block `COMMIT` rolls back, and the bridge answers `COMMIT` all the same:
the result of `EndTransactionBlock` is dropped.
-/

namespace PgTransport.Properties

open PgTransport.Backend
open PgTransport.Computation
open PgTransport.Postgres
open PgTransport.Transition
open PgTransport.Wire

variable {E : Type}

/-! ## Transactions that have lost no work -/

/-- There is no savepoint and, unless the transaction is over or aborted, none
of its work has been undone. -/
def Intact (xact : Xact E) : Prop :=
  xact.savepoints = [] ∧
    match xact.blockState with
    | .default | .abort | .abortEnd | .abortPending => True
    | .started | .begin | .inprogress | .implicitInprogress | .endBlock =>
        xact.discarded = []
    | .prepare _ | .subbegin _ | .subrelease _ | .subrestart _ => False

/-- The second state is intact if the first one is. -/
def StaysIntact (before after : Pg E) : Prop :=
  Intact before.xact → Intact after.xact

theorem intact_of_default {xact : Xact E} (flat : xact.savepoints = [])
    (ended : xact.blockState = .default) : Intact xact := by
  simp [Intact, flat, ended]

/-- A chained transaction starts with all of its work ahead. -/
theorem intact_startChained {xact : Xact E} (saved : Characteristics)
    (intact : Intact xact) : Intact (xact.startChained saved) := by
  unfold Xact.startChained
  split
  · simp [Intact, Xact.startTransaction]
  · exact intact

theorem moves_commit_intact (finish : Option ErrorReport) :
    Moves StaysIntact (commitTransactionCommand finish : PgM E Unit) := by
  intro pg intact
  obtain ⟨flat, whole⟩ := intact
  cases state : pg.xact.blockState with
  | default => simpa [commitTransactionCommand, state, Pg.record] using
      intact_of_default flat state
  | started =>
      cases finish <;> simp_all [commitTransactionCommand, Intact, Xact.commitTransaction]
  | begin => simp_all [commitTransactionCommand, Intact]
  | inprogress | implicitInprogress =>
      cases finish <;> simp_all [commitTransactionCommand, commandCounterIncrement, Intact]
  | endBlock =>
      cases finish with
      | none =>
          simp only [commitTransactionCommand, state, raiseIf_none, Comp.bind_apply,
            Comp.pure_apply, resume_ret, setXact_apply, Pg.mapXact_xact]
          exact intact_startChained _ (intact_of_default rfl rfl)
      | some report => simp_all [commitTransactionCommand, Intact]
  | abort => simp_all [commitTransactionCommand, Intact]
  | abortEnd =>
      simp only [commitTransactionCommand, state, Pg.mapXact_xact]
      exact intact_startChained _ (intact_of_default rfl rfl)
  | abortPending =>
      simp only [commitTransactionCommand, state, Pg.mapXact_xact]
      exact intact_startChained _ (intact_of_default rfl rfl)
  | prepare gid => simp [state] at whole
  | subbegin name => simp [state] at whole
  | subrelease depth => simp [state] at whole
  | subrestart depth => simp [state] at whole

theorem moves_abort_intact : Moves StaysIntact (abortCurrentTransaction : PgM E Unit) := by
  intro pg intact
  obtain ⟨flat, whole⟩ := intact
  cases state : pg.xact.blockState <;>
    simp_all [abortCurrentTransaction_apply, Pg.abortCurrent, Intact, Xact.rollback,
      Xact.cleanupTransaction, Xact.abortLevel, Xact.discard]

/-- Every call of the SPI backend leaves an intact transaction intact. -/
theorem kept_intact : KeptByControl (E := E) StaysIntact where
  refl _ intact := intact
  trans _ _ _ first second intact := second (first intact)
  work _ _ intact := intact
  atSpiDepth _ _ intact := intact
  start := by
    intro pg intact
    cases state : pg.xact.blockState <;>
      simp_all [startTransactionCommand, Intact, Pg.record, Xact.startTransaction]
  push := by
    intro pg intact
    unfold pushTransactionSnapshot
    split <;> exact intact
  pop := by
    intro pg intact
    unfold popActiveSnapshot
    split <;> exact intact
  commit := moves_commit_intact
  abort := moves_abort_intact
  beginImplicit := by
    intro pg intact
    cases state : pg.xact.blockState <;>
      simp_all [beginImplicitTransactionBlock, Intact]
  endImplicit := by
    intro pg intact
    cases state : pg.xact.blockState <;>
      simp_all [endImplicitTransactionBlock, Intact]
  beginBlock := by
    intro pg intact
    cases state : pg.xact.blockState <;> simp_all [beginTransactionBlock, Intact]
  endBlock := by
    intro pg intact
    cases state : pg.xact.blockState <;>
      simp_all [endTransactionBlock, Intact, Xact.isSubTransaction]
  userAbort := by
    intro pg intact
    cases state : pg.xact.blockState <;>
      simp_all [userAbortTransactionBlock, Intact, Xact.isSubTransaction]

/-! ## Sessions on the SPI backend -/

/-- A message for the SPI backend. -/
def OnSpi : Message E → Prop
  | .query backend _ | .parse backend _ => backend = .spi
  | .execute _ _ => True

/-- A plan that the SPI backend made. -/
def IsSpiPlan : BackendPlan → Prop
  | .direct _ => False
  | _ => True

section Rows

variable [TypeTable]

/-- Sessions that are served by the SPI backend throughout. -/
def spiSessions (E : Type) : System (Session E) (Message E) where
  initial := (sessions E).initial
  step session message next := OnSpi message ∧ (sessions E).step session message next

/-- What all states of such a session have in common. -/
structure SpiSession (session : Session E) : Prop where
  intact : Intact session.pg.xact
  plans : ∀ statement ∈ session.statements, IsSpiPlan statement.plan

omit [TypeTable] in
theorem fresh_spiSession (defaults : Characteristics) :
    SpiSession (Session.fresh defaults : Session E) where
  intact := intact_of_default rfl rfl
  plans _ member := by cases member

omit [TypeTable] in
theorem conclude_intact {α : Type} {session : Session E}
    {step : PgM E (PgWireResult α)} (moves : Moves StaysIntact step)
    (intact : Intact session.pg.xact) (reply : α → Reply)
    (prepared : α → List PreparedStatement) :
    Intact (session.conclude (step session.pg) reply prepared).2.pg.xact := by
  have kept := moves session.pg intact
  rcases ended : step session.pg with ⟨(_ | _) | _ | _, after⟩ <;>
    simpa [ended, Session.conclude] using kept

/-- Every message of the SPI backend keeps the session's invariant. -/
theorem spiSession_step {session next : Session E} {message : Message E}
    (sound : SpiSession session) (step : (spiSessions E).step session message next) :
    SpiSession next := by
  obtain ⟨onSpi, rfl⟩ := step
  constructor
  · unfold Session.receive
    split
    · cases message with
      | query backend body =>
          cases onSpi
          exact conclude_intact (kept_intact.executeSimpleQuery body) sound.intact _ _
      | parse backend request =>
          exact conclude_intact (kept_intact.prepare backend request) sound.intact _ _
      | execute index request =>
          dsimp only
          cases found : session.statements[index]? with
          | none => exact sound.intact
          | some statement =>
              have onSpiPlan := sound.plans statement (List.mem_of_getElem? found)
              refine conclude_intact ?_ sound.intact _ _
              cases choice : statement.plan with
              | spi plan =>
                  simp only [PreparedStatement.execute, choice]
                  exact kept_intact.spiExecuteImpl plan request
              | direct plan =>
                  rw [choice] at onSpiPlan
                  exact onSpiPlan.elim
              | xactControl cmd =>
                  have := kept_intact.toIsPreorder (E := E)
                  simp only [PreparedStatement.execute, choice]
                  exact .ite (kept_intact.handleXactControlOne cmd request.finish) (.pure _)
    · exact sound.intact
  · intro statement member
    rcases mem_statements_of_receive member with old | ⟨backend, request, rfl, made⟩
    · exact sound.plans statement old
    · cases onSpi
      cases made <;> trivial

/-! ## The `COMMIT`s of a message -/

/-- The loop of `execute_simple_query` passes the statements before `rest`, and
every one of them is answered. -/
inductive Passes : List (RawStmt E) → Pg E → List (RawStmt E) → Pg E → Prop where
  | here (stmts : List (RawStmt E)) (pg : Pg E) : Passes stmts pg stmts pg
  | statement {stmt : RawStmt E} {stmts rest : List (RawStmt E)} {pg middle final : Pg E}
      {responses : List Response}
      (run : executeOneStatement stmt stmt.stmtMeta pg = (.ret (.ok responses), middle))
      (later : Passes stmts middle rest final) : Passes (stmt :: stmts) pg rest final

/-- The loop goes on from where it has arrived, behind the responses so far. -/
theorem Passes.executeStatements {stmts rest : List (RawStmt E)} {pg final : Pg E}
    (passes : Passes stmts pg rest final)
    (content : ∀ stmt ∈ stmts, isBlank stmt.text = false) :
    ∃ responses, executeStatements (stmts.map RawStmt.classified) pg =
      resume (executeStatements (rest.map RawStmt.classified) final) fun more =>
        pure (more.map fun later => responses ++ later) := by
  induction passes with
  | here stmts pg =>
      refine ⟨[], ?_⟩
      rcases Backend.executeStatements (stmts.map RawStmt.classified) pg with
        ⟨(_ | _) | _ | _, final⟩ <;> simp [Except.map]
  | @statement stmt stmts rest pg middle final responses run later inductionHypothesis =>
      obtain ⟨more, rest⟩ := inductionHypothesis fun stmt member =>
        content stmt (.tail _ member)
      refine ⟨responses ++ more, ?_⟩
      rw [executeStatements_cons (content stmt (.head _)), run, resume_ret, continueWith,
        Comp.bind_apply, rest]
      rcases Backend.executeStatements (_ : List (RawStmt E × StmtMeta)) final with
        ⟨(_ | _) | _ | _, final⟩ <;> simp [Except.map]

/-- The message has `handle_xact_control_one` process a `COMMIT` in this state.
The error of that commit, if any, is `finish`. -/
inductive CommitAt (session : Session E) : Message E → Pg E → Option ErrorReport → Prop where
  | query {body : SimpleQuery E} {stmts rest : List (RawStmt E)} {stmt : RawStmt E}
      {pg : Pg E} (clean : containsNul body.text = false) (parsed : body.parsed = .ok stmts)
      (passes : Passes (nonEmpty stmts) session.pg (stmt :: rest) pg)
      (commit : classifyRawStmt stmt.node = some .commit) :
      CommitAt session (.query .spi body) pg stmt.finish
  | execute {index : Nat} {request : ExecuteRequest E} {statement : PreparedStatement}
      (found : session.statements[index]? = some statement)
      (commit : statement.plan = .xactControl .commit)
      (bound : request.parameters = []) :
      CommitAt session (.execute index request) session.pg request.finish

/-- The answer to a `COMMIT` processed in this state tells the truth: `COMMIT`
means that the block has lost no work and that all of it is committed, and a
`COMMIT` of an aborted block is answered `ROLLBACK`. -/
structure Truthful (pg : Pg E) (finish : Option ErrorReport) : Prop where
  acknowledged : ∀ after, pg.xact.isTransactionBlock = true →
    handleXactControlOne .commit finish pg =
      (.ret (.ok (.execution (Tag.new "COMMIT"))), after) →
    after.xact.discarded = [] ∧
      after.xact.committed = pg.xact.committed ++ pg.xact.pending
  rolledBack : pg.xact.blockState = .abort → ∀ response after,
    handleXactControlOne .commit finish pg = (.ret (.ok response), after) →
    response = .execution (Tag.new "ROLLBACK")

/-- Every `COMMIT` of the message is answered truthfully. -/
def CommitsTruthfully (session : Session E) (message : Message E) (_ : Session E) : Prop :=
  session.alive = true → ∀ pg finish, CommitAt session message pg finish → Truthful pg finish

/-- The message has no `COMMIT` processed while the block is aborted. -/
def CommitsUnaborted (session : Session E) (message : Message E) (_ : Session E) : Prop :=
  session.alive = true → ∀ pg finish, CommitAt session message pg finish →
    pg.xact.blockState ≠ .abort

/-- Up to its `COMMIT`s, a message of the SPI backend leaves the transaction
intact. -/
theorem CommitAt.intact {session : Session E} {message : Message E} {pg : Pg E}
    {finish : Option ErrorReport} (commit : CommitAt session message pg finish)
    (intact : Intact session.pg.xact) : Intact pg.xact := by
  have passed : ∀ {stmts rest : List (RawStmt E)} {start final : Pg E},
      Passes stmts start rest final → Intact start.xact → Intact final.xact := by
    intro stmts rest start final passes
    induction passes with
    | here => exact id
    | @statement stmt stmts rest start middle final responses run later inductionHypothesis =>
        intro intact
        have kept := kept_intact.executeOneStatement stmt stmt.stmtMeta start intact
        rw [run] at kept
        exact inductionHypothesis kept
  cases commit with
  | query clean parsed passes commit => exact passed passes intact
  | execute found commit bound => exact intact

omit [TypeTable] in
/-- A `COMMIT` of an open block that is answered commits the whole block. -/
theorem commit_of_open {pg after : Pg E} {finish : Option ErrorReport}
    {response : Response} (intact : Intact pg.xact)
    (inBlock : pg.xact.isTransactionBlock = true) (active : pg.xact.blockState ≠ .abort)
    (run : handleXactControlOne .commit finish pg = (.ret (.ok response), after)) :
    after.xact.discarded = [] ∧
      after.xact.committed = pg.xact.committed ++ pg.xact.pending := by
  obtain ⟨_, whole⟩ := intact
  cases state : pg.xact.blockState
  case inprogress =>
    cases finish <;>
      simp [handleXactControlOne, xactControlBody, inBlock, startTransactionCommand, state,
        endTransactionBlock, commitTransactionCommand, Comp.catchUnwind,
        Xact.startChained, Xact.commitTransaction] at run
    simp_all [← run.2]
  case implicitInprogress =>
    cases finish <;>
      simp [handleXactControlOne, xactControlBody, inBlock, startTransactionCommand, state,
        endTransactionBlock, commitTransactionCommand, Comp.catchUnwind,
        Xact.startChained, Xact.commitTransaction] at run
    simp_all [← run.2]
  case abort => exact absurd state active
  case default | started => simp [Xact.isTransactionBlock, state] at inBlock
  all_goals
    simp [handleXactControlOne, xactControlBody, inBlock, startTransactionCommand, state,
      Comp.catchUnwind] at run

omit [TypeTable] in
/-- A `COMMIT` of an aborted block is acknowledged as `COMMIT`. -/
theorem commit_of_aborted (finish : Option ErrorReport) {pg : Pg E}
    (aborted : pg.xact.blockState = .abort) :
    ∃ after, handleXactControlOne .commit finish pg =
      (.ret (.ok (.execution (Tag.new "COMMIT"))), after) := by
  have inBlock : pg.xact.isTransactionBlock = true := by
    simp [Xact.isTransactionBlock, aborted]
  cases nested : pg.xact.isSubTransaction <;>
    simp [handleXactControlOne, xactControlBody, inBlock, startTransactionCommand, aborted,
      endTransactionBlock, nested, commitTransactionCommand, Comp.catchUnwind]

omit [TypeTable] in
/-- In an intact session the answer is truthful unless the block is aborted. -/
theorem truthful_iff {pg : Pg E} {finish : Option ErrorReport} (intact : Intact pg.xact) :
    Truthful pg finish ↔ pg.xact.blockState ≠ .abort := by
  constructor
  · intro truthful aborted
    obtain ⟨after, run⟩ := commit_of_aborted finish aborted
    exact absurd (truthful.rolledBack aborted _ _ run) (by decide)
  · intro active
    refine ⟨fun after inBlock run => commit_of_open intact inBlock active run, ?_⟩
    exact fun aborted => absurd aborted active

/-- Along a run of an SPI session every `COMMIT` is answered truthfully exactly
if none is processed while the block is aborted. -/
theorem commits_truthful_iff_unaborted {defaults : Characteristics}
    {messages : List (Message E)} {target : Session E} :
    RunWith (spiSessions E) CommitsTruthfully (Session.fresh defaults) messages target ↔
      RunWith (spiSessions E) CommitsUnaborted (Session.fresh defaults) messages target := by
  refine RunWith.congr SpiSession (fun _ _ _ => spiSession_step) ?_
    (fresh_spiSession defaults)
  intro session message next sound _
  constructor
  · intro truthful alive pg finish commit
    exact (truthful_iff (commit.intact sound.intact)).mp (truthful alive pg finish commit)
  · intro unaborted alive pg finish commit
    exact (truthful_iff (commit.intact sound.intact)).mpr (unaborted alive pg finish commit)

end Rows

/-! ## A `COMMIT` that rolls back -/

/-- `BEGIN`, an insertion, a failing statement, and `COMMIT`. -/
def commitAfterError : List (Message Nat) :=
  [.query .spi (.batch [.control "BEGIN" .begin]),
    .query .spi (.batch [.command "INSERT INTO t VALUES (1)" (.other true) (.ok [1])]),
    .query .spi (.batch [.command "SELECT 1/0" (.other true)
      (.error ⟨"ERROR", "ERRCODE_DIVISION_BY_ZERO", "division by zero"⟩)]),
    .query .spi (.batch [.control "COMMIT" .commit])]

/-- Not every run of a fresh SPI session has its `COMMIT`s answered truthfully:
after an error in its block a `COMMIT` that rolls back is acknowledged. -/
theorem commit_tag_misleads :
    ¬∀ [TypeTable] (messages : List (Message Nat)) (target : Session Nat),
      Run (spiSessions Nat) (Session.fresh .standard) messages target →
        RunWith (spiSessions Nat) CommitsTruthfully (Session.fresh .standard) messages
          target := by
  intro always
  let _ : TypeTable := ⟨fun _ => none, by simp⟩
  have run : ∃ target, Run (spiSessions Nat) (Session.fresh .standard) commitAfterError
      target :=
    ⟨_, .cons ⟨rfl, rfl⟩ trivial (.cons ⟨rfl, rfl⟩ trivial (.cons ⟨rfl, rfl⟩ trivial
      (.cons ⟨rfl, rfl⟩ trivial (.nil _))))⟩
  obtain ⟨target, run⟩ := run
  have truthful := always commitAfterError target run
  obtain _ | ⟨⟨_, rfl⟩, _, _ | ⟨⟨_, rfl⟩, _, _ | ⟨⟨_, rfl⟩, _, _ | ⟨_, last, _⟩⟩⟩⟩ := truthful
  have commit := last rfl _ _ (.query (by decide) rfl (.here _ _) rfl)
  exact absurd rfl ((truthful_iff ⟨rfl, trivial⟩).mp commit)

end PgTransport.Properties
