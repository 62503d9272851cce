import PgTransport.Backend.Built
import PgTransport.Postgres.Alike

/-!
# Clients that are served in turn

A slot serves one client after the other with the same backend process, and the
next slot takes over when its process dies.  Each client has a connection of its own,
with no prepared statements; what a client left open is rolled back behind it.  The
ledgers and the prepared transactions are those of the database, which outlives every
connection.

What passes from one client to the next is the state of the transaction machinery.
A message brings the answers of the server to its statements with it; a role, a
setting, a temporary table or a statement prepared in SQL, which the server keeps
for a later client, shows in these answers only.
-/

namespace PgTransport.Postgres

variable {E : Type}

namespace Pg

/-- A freshly started backend of a database with these prepared transactions. -/
def freshOn (defaults : Characteristics) (prepared : List (String × List E)) : Pg E :=
  (fresh defaults).mapXact fun xact => { xact with prepared }

/-- `AbortOutOfAnyTransaction`. -/
def abortOutOfAnyTransaction (pg : Pg E) : Pg E :=
  match pg.xact.blockState with
  | .default => pg
  | _ => pg.releaseAll.mapXact Xact.rollback

end Pg

end PgTransport.Postgres

namespace PgTransport.Backend

open PgTransport.Computation
open PgTransport.Postgres
open PgTransport.Wire

variable {E : Type}

section Serving

variable [TypeTable]

/-- The replies to the messages of a session, and the session behind them. -/
def Session.receiveEach : Session E → List (Message E) → List Reply × Session E
  | session, [] => ([], session)
  | session, message :: messages =>
      let (reply, next) := session.receive message
      let (replies, last) := next.receiveEach messages
      (reply :: replies, last)

/-- The `FdHandoff` arm of `run_slot`: the messages of a client on a connection of
its own, and the rollback of what it left open, which is that of
`reset_per_handoff_state` if the process still runs and the server's own if not. -/
def serve (pg : Pg E) (messages : List (Message E)) : List Reply × Session E :=
  let (replies, session) := (Session.mk pg [] true).receiveEach messages
  (replies, { session with pg := session.pg.abortOutOfAnyTransaction })

/-- What serving some clients comes to: the replies to each client that is served,
what was committed and rolled back for them, and the transactions that are left
prepared. -/
structure Service (E : Type) where
  replies : List (List Reply)
  committed : List E
  rolledBack : List E
  prepared : List (String × List E)
  deriving DecidableEq, Repr

/-- What serving a client adds in front of what serving the later ones comes to. -/
def Service.behind (later : Service E) (replies : List Reply) (left : Xact E) : Service E :=
  ⟨replies :: later.replies, left.committed ++ later.committed,
    left.rolledBack ++ later.rolledBack, later.prepared⟩

/-- A slot serves clients in turn; when its process dies, the next clients are served
by the process of the next slot, which has served none. -/
def serveInTurn (defaults : Characteristics) : Pg E → List (List (Message E)) → Service E
  | pg, [] => ⟨[], pg.xact.committed, pg.xact.rolledBack, pg.xact.prepared⟩
  | pg, client :: clients =>
      let (replies, session) := serve pg client
      let left := session.pg.xact
      if session.alive then
        let later := serveInTurn defaults session.pg clients
        { later with replies := replies :: later.replies }
      else
        (serveInTurn defaults (.freshOn defaults left.prepared) clients).behind replies left

/-- Each client is served by a backend of its own, which is started for it on the
same database and exits behind it. -/
def serveApart (defaults : Characteristics) :
    List (String × List E) → List (List (Message E)) → Service E
  | prepared, [] => ⟨[], [], [], prepared⟩
  | prepared, client :: clients =>
      let (replies, session) := serve (.freshOn defaults prepared) client
      let left := session.pg.xact
      (serveApart defaults left.prepared clients).behind replies left

end Serving

/-! ## Nothing tells a used backend from a fresh one -/

theorem Built.unaware {α : Type} {step : PgM E α} (built : Built step) : Unaware step := by
  induction built with
  | pure value => exact .pure value
  | raise payload => exact .raise payload
  | bind _ _ first second => exact first.bind second
  | catchUnwind _ body => exact body.catchUnwind
  | isTransactionBlock => exact fun _ _ => .read fun _ _ alike => alike.xact.isTransactionBlock.symm
  | isAborted => exact fun _ _ => .read fun _ _ alike => alike.xact.isAborted.symm
  | perform effects => exact unaware_perform effects
  | pushTransactionSnapshot => exact unaware_pushTransactionSnapshot
  | popActiveSnapshot => exact unaware_popActiveSnapshot
  | spiConnect rc => exact unaware_spiConnect rc
  | spiFinish rc => exact unaware_spiFinish rc
  | startTransactionCommand => exact unaware_startTransactionCommand
  | commitTransactionCommand finish => exact unaware_commitTransactionCommand finish
  | abortCurrentTransaction => exact unaware_abortCurrentTransaction
  | beginTransactionBlock => exact unaware_beginTransactionBlock
  | endTransactionBlock chain => exact unaware_endTransactionBlock chain
  | userAbortTransactionBlock chain => exact unaware_userAbortTransactionBlock chain
  | beginImplicitTransactionBlock => exact unaware_beginImplicitTransactionBlock
  | endImplicitTransactionBlock => exact unaware_endImplicitTransactionBlock
  | processUtility stmt => exact unaware_processUtility stmt

/-! ## The defaults of a session -/

/-- The defaults stay as they were. -/
def SameDefaults (before after : Pg E) : Prop :=
  after.xact.defaults = before.xact.defaults

instance : IsPreorder (Pg E) SameDefaults where
  refl _ := rfl
  trans _ _ _ first second := second.trans first

@[simp]
theorem defaults_startChained (saved : Characteristics) (xact : Xact E) :
    (xact.startChained saved).defaults = xact.defaults := by
  unfold Xact.startChained
  split <;> rfl

@[simp]
theorem defaults_restartSavepoint (depth : Nat) (xact : Xact E) :
    (xact.restartSavepoint depth).defaults = xact.defaults := by
  unfold Xact.restartSavepoint
  split <;> rfl

theorem defaults_abortCurrent (pg : Pg E) : pg.abortCurrent.xact.defaults = pg.xact.defaults := by
  unfold Pg.abortCurrent
  split <;> rfl

theorem sameDefaults_commitTransactionCommand (finish : Option ErrorReport) :
    Moves SameDefaults (commitTransactionCommand finish : PgM E Unit) := by
  intro pg
  unfold commitTransactionCommand
  split
  case h_7 | h_1 | h_3 | h_11 | h_12 => rfl
  case h_8 | h_9 => exact defaults_startChained _ _
  case h_13 => exact defaults_restartSavepoint _ _
  all_goals cases finish
  case h_6.none => exact defaults_startChained _ _
  all_goals rfl

theorem sameDefaults_endTransactionBlock (chain : Bool) :
    Moves SameDefaults (endTransactionBlock chain : PgM E Bool) := by
  intro pg
  unfold endTransactionBlock
  cases chain <;> split <;> rfl

theorem sameDefaults_setPGVariables (options : List TransactionOption) :
    Moves SameDefaults (setPGVariables options : PgM E Unit) := by
  induction options with
  | nil => exact .pure ()
  | cons option options inductionHypothesis =>
      refine Moves.bind (fun pg => ?_) fun _ => inductionHypothesis
      unfold setPGVariable
      split <;> rfl

theorem sameDefaults_requireTransactionBlock (command : String) :
    Moves SameDefaults (requireTransactionBlock command : PgM E Unit) := by
  intro pg
  unfold requireTransactionBlock
  split <;> rfl

theorem sameDefaults_beginTransactionBlock :
    Moves SameDefaults (beginTransactionBlock : PgM E Unit) := by
  intro pg
  unfold beginTransactionBlock
  split <;> rfl

theorem sameDefaults_userAbortTransactionBlock (chain : Bool) :
    Moves SameDefaults (userAbortTransactionBlock chain : PgM E Unit) := by
  intro pg
  unfold userAbortTransactionBlock
  cases chain <;> split <;> rfl

theorem sameDefaults_processUtility (stmt : TransactionStmt) :
    Moves SameDefaults (processUtility stmt : PgM E String) := by
  have prevents (command : String) :
      Moves SameDefaults (preventInTransactionBlock command : PgM E Unit) := by
    intro pg
    unfold preventInTransactionBlock
    split <;> rfl
  have finishes (isCommit : Bool) :
      Moves SameDefaults (finishPreparedTransaction stmt.name isCommit : PgM E Unit) := by
    intro pg
    unfold finishPreparedTransaction
    split <;> rfl
  unfold processUtility
  cases stmt.kind with
  | begin | start =>
      exact sameDefaults_beginTransactionBlock.bind fun _ =>
        (sameDefaults_setPGVariables _).bind fun _ => .pure _
  | commit => exact (sameDefaults_endTransactionBlock _).bind fun _ => .pure _
  | rollback => exact (sameDefaults_userAbortTransactionBlock _).bind fun _ => .pure _
  | savepoint =>
      refine (sameDefaults_requireTransactionBlock _).bind fun _ =>
        Moves.bind (fun pg => ?_) fun _ => .pure _
      unfold defineSavepoint
      split <;> rfl
  | release =>
      refine (sameDefaults_requireTransactionBlock _).bind fun _ =>
        Moves.bind (fun pg => ?_) fun _ => .pure _
      unfold releaseSavepoint
      split <;> try split
      all_goals rfl
  | rollbackTo =>
      refine (sameDefaults_requireTransactionBlock _).bind fun _ =>
        Moves.bind (fun pg => ?_) fun _ => .pure _
      unfold rollbackToSavepoint
      split <;> try split
      all_goals rfl
  | prepare =>
      refine Moves.bind ((sameDefaults_endTransactionBlock _).bind fun committed =>
        .ite (fun pg => ?_) (.pure _)) fun _ => .pure _
      unfold markPrepare
      split <;> rfl
  | commitPrepared => exact (prevents _).bind fun _ => (finishes _).bind fun _ => .pure _
  | rollbackPrepared => exact (prevents _).bind fun _ => (finishes _).bind fun _ => .pure _

/-- No message of a client changes what its transactions start with. -/
theorem Built.sameDefaults {α : Type} {step : PgM E α} (built : Built step) :
    Moves SameDefaults step := by
  induction built with
  | pure value => exact .pure value
  | raise payload => exact .raise payload
  | bind _ _ first second => exact first.bind second
  | catchUnwind _ body => exact body.catchUnwind
  | isTransactionBlock => exact .read _
  | isAborted => exact .read _
  | perform effects => exact fun _ => rfl
  | pushTransactionSnapshot =>
      intro pg
      unfold Postgres.pushTransactionSnapshot
      split <;> rfl
  | popActiveSnapshot =>
      intro pg
      unfold Postgres.popActiveSnapshot
      split <;> rfl
  | spiConnect rc =>
      intro pg
      unfold Postgres.spiConnect
      split <;> rfl
  | spiFinish rc =>
      intro pg
      unfold Postgres.spiFinish Pg.closeSession
      split <;> rfl
  | startTransactionCommand =>
      intro pg
      unfold Postgres.startTransactionCommand
      split <;> rfl
  | commitTransactionCommand finish => exact sameDefaults_commitTransactionCommand finish
  | abortCurrentTransaction => exact defaults_abortCurrent
  | beginTransactionBlock => exact sameDefaults_beginTransactionBlock
  | endTransactionBlock chain => exact sameDefaults_endTransactionBlock chain
  | userAbortTransactionBlock chain => exact sameDefaults_userAbortTransactionBlock chain
  | beginImplicitTransactionBlock =>
      intro pg
      unfold Postgres.beginImplicitTransactionBlock
      split <;> rfl
  | endImplicitTransactionBlock =>
      intro pg
      unfold Postgres.endImplicitTransactionBlock
      split <;> rfl
  | processUtility stmt => exact sameDefaults_processUtility stmt

end PgTransport.Backend
