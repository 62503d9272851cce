import PgTransport.Backend.OpenBlockRuns

/-!
# The transaction status of a session

`ReadyForQuery` carries a status that the wire library derives from the
responses of the handlers.  No handler returns a response that changes it, so
that it stays idle, and it is right exactly as long as no message leaves a
transaction block open.
-/

namespace PgTransport.Properties

open PgTransport.Backend
open PgTransport.Computation
open PgTransport.Postgres
open PgTransport.Transition
open PgTransport.Wire

variable {E : Type}

/-! ## The status of the wire library -/

/-- `TransactionStatus`. -/
inductive TransactionStatus where
  | idle
  | transaction
  | error
  deriving DecidableEq, Repr

/-- The responses that the wire library tells apart in its status. -/
inductive ResponseKind where
  | query
  | execution
  | transactionStart
  | transactionEnd
  | error
  deriving DecidableEq, Repr

/-- The status behind a response. -/
def TransactionStatus.after (status : TransactionStatus) :
    ResponseKind → TransactionStatus
  | .transactionStart => .transaction
  | .transactionEnd => .idle
  | .error => if status = .transaction then .error else status
  | .query | .execution => status

/-- The kind of a response that a handler returns. -/
def kindOf : Response → ResponseKind
  | .execution _ => .execution
  | .query _ _ _ => .query

/-- The kinds of the responses in the reply to a message. -/
def replyKinds : Reply → List ResponseKind
  | .responses responses => responses.map kindOf
  | .executed response => [kindOf response]
  | .error _ | .unknownStatement => [.error]
  | .parseComplete | .gone => []

theorem kindOf_ne_transactionStart (response : Response) :
    kindOf response ≠ .transactionStart := by
  cases response <;> simp [kindOf]

/-- No reply starts a transaction for the wire library. -/
theorem transactionStart_not_mem (reply : Reply) : .transactionStart ∉ replyKinds reply := by
  cases reply with
  | responses responses =>
      intro member
      obtain ⟨response, _, start⟩ := List.mem_map.mp member
      exact kindOf_ne_transactionStart response start
  | executed response =>
      simpa [replyKinds] using (kindOf_ne_transactionStart response).symm
  | parseComplete | error | unknownStatement | gone => simp [replyKinds]

/-- Without such a response the status stays idle. -/
theorem foldl_after_idle {kinds : List ResponseKind} (starts : .transactionStart ∉ kinds) :
    kinds.foldl TransactionStatus.after .idle = .idle := by
  induction kinds with
  | nil => rfl
  | cons kind kinds inductionHypothesis =>
      have rest : .transactionStart ∉ kinds := fun member => starts (.tail _ member)
      rw [List.foldl_cons]
      cases kind with
      | transactionStart => exact absurd (.head _) starts
      | query | execution | transactionEnd | error => exact inductionHypothesis rest

/-! ## The status of the server -/

/-- `TransactionBlockStatusCode`. -/
def blockStatus : TBlockState → TransactionStatus
  | .default | .started => .idle
  | .begin | .inprogress | .implicitInprogress | .endBlock | .prepare _ | .subbegin _ |
      .subrelease _ => .transaction
  | .abort | .abortEnd | .abortPending | .subrestart _ => .error

/-- A session together with the status the client has been told. -/
structure Tracked (E : Type) where
  session : Session E
  status : TransactionStatus

/-- The client has been told the status of the server. -/
def Tracked.Agrees (tracked : Tracked E) : Prop :=
  tracked.session.alive = true →
    tracked.status = blockStatus tracked.session.pg.xact.blockState

/-! ## LeftBehind a message -/

/-- A message has left a block open or not, and one that ends the process has left none. -/
def LeftBehind (leaves : Bool) (session : Session E) : Prop :=
  if session.alive then Left leaves session.pg else leaves = false

theorem conclude_behind {α : Type} {session : Session E} {leaves : Bool}
    {result : Outcome Payload (PgWireResult α) × Pg E} (reply : α → Reply)
    (prepared : α → List PreparedStatement) (alive : session.alive = true)
    (ending : LeavesBlock leaves result) :
    LeftBehind leaves (session.conclude result reply prepared).2 := by
  rcases result with ⟨(err | value) | payload | _, after⟩
  · simp only [Session.conclude, LeftBehind, alive, if_true]
    exact ending
  · simp only [Session.conclude, LeftBehind, alive, if_true]
    exact ending
  · exact ending
  · exact ending.elim

/-- The session stands outside any block, and the client has been told so. -/
def Outside (tracked : Tracked E) : Prop :=
  tracked.status = .idle ∧
    (tracked.session.alive = true → InState .default tracked.session.pg)

/-- A client that has been told that no block is open has been told right if none is. -/
theorem agrees_iff_of_behind {tracked : Tracked E} {leaves : Bool} (idle : tracked.status = .idle)
    (behind : LeftBehind leaves tracked.session) : tracked.Agrees ↔ leaves = false := by
  rw [Tracked.Agrees, idle]
  unfold LeftBehind at behind
  cases alive : tracked.session.alive with
  | false => simpa [alive] using behind
  | true =>
      rw [if_pos alive] at behind
      cases leaves with
      | false =>
          have state : tracked.session.pg.xact.blockState = .default := behind
          simp [state, blockStatus]
      | true =>
          rcases behind with state | state
          · have inside : tracked.session.pg.xact.blockState = .inprogress := state
            simp [inside, blockStatus]
          · have aborted : tracked.session.pg.xact.blockState = .abort := state
            simp [aborted, blockStatus]

section Rows

variable [TypeTable]

/-- Process one message and track its replies. -/
def Tracked.receive (tracked : Tracked E) (message : Message E) : Tracked E where
  session := (tracked.session.receive message).2
  status := (replyKinds (tracked.session.receive message).1).foldl .after tracked.status

/-- Sessions with the status their client is told. -/
def trackedSessions (E : Type) : System (Tracked E) (Message E) where
  initial tracked := ∃ defaults, tracked = ⟨Session.fresh defaults, .idle⟩
  step tracked message next := tracked.receive message = next

/-- The message leaves a transaction block open behind it. -/
def leavesBlock (session : Session E) : Message E → Bool
  | .query backend query => query.leavesBlock backend session.pg.xact.defaults
  | .parse _ _ => false
  | .execute index request =>
      match session.statements[index]? with
      | none => false
      | some statement => statement.leavesBlock request session.pg.xact.defaults

/-- The message leaves no transaction block open behind it. -/
def closesBlocks (session : Session E) (message : Message E) : Bool :=
  !(session.alive && leavesBlock session message)

/-! ## Messages -/

/-- Outside any block, a message leaves a block open exactly if it is read so. -/
theorem receive_behind {session : Session E} (message : Message E) (alive : session.alive = true)
    (outside : InState .default session.pg) :
    LeftBehind (leavesBlock session message) (session.receive message).2 := by
  simp only [Session.receive, alive, if_true]
  cases message with
  | query backend query =>
      exact conclude_behind _ _ alive (simpleQuery_leaves backend query rfl outside)
  | parse backend request =>
      exact conclude_behind _ _ alive (prepare_leaves backend request outside)
  | execute index request =>
      simp only [leavesBlock]
      cases session.statements[index]? with
      | none =>
          rw [LeftBehind, if_pos alive]
          exact outside
      | some statement =>
          exact conclude_behind _ _ alive (execute_leaves statement request rfl outside)

section Messages

variable {tracked : Tracked E}

theorem receive_status (message : Message E) (outside : Outside tracked) :
    (tracked.receive message).status = .idle := by
  rw [Tracked.receive, outside.1]
  exact foldl_after_idle (transactionStart_not_mem _)

/-- Outside any block, the client is told the status of the server behind a message exactly
if that leaves no block open. -/
theorem receive_agrees_iff (message : Message E) (outside : Outside tracked) :
    (tracked.receive message).Agrees ↔ closesBlocks tracked.session message = true := by
  cases alive : tracked.session.alive with
  | false => simp [closesBlocks, Tracked.Agrees, Tracked.receive, Session.receive, alive]
  | true =>
      have behind := receive_behind message alive (outside.2 alive)
      have agrees : (tracked.receive message).Agrees ↔ _ :=
        agrees_iff_of_behind (receive_status message outside) behind
      rw [agrees, closesBlocks, alive, Bool.true_and, Bool.not_eq_true']

/-- A message that leaves no block open leaves the session outside any block. -/
theorem receive_outside {message : Message E} (outside : Outside tracked)
    (closes : closesBlocks tracked.session message = true) :
    Outside (tracked.receive message) := by
  refine ⟨receive_status message outside, ?_⟩
  intro remains
  cases alive : tracked.session.alive with
  | false =>
      simp [Tracked.receive, Session.receive, alive] at remains
  | true =>
      have behind := receive_behind message alive (outside.2 alive)
      have none : leavesBlock tracked.session message = false := by
        simpa [closesBlocks, alive] using closes
      rw [none] at behind
      exact (if_pos remains).mp behind

end Messages

/-! ## Runs -/

/-- The client is told the status of the server behind the message. -/
abbrev ToldRight (_source : Tracked E) (_message : Message E) (target : Tracked E) : Prop :=
  target.Agrees

/-- The message leaves no block open behind it. -/
abbrev ClosesBlocks (source : Tracked E) (message : Message E) (_target : Tracked E) : Prop :=
  closesBlocks source.session message = true

end Rows

/-! ## A block that stays open -/

/-- A block with a savepoint that is opened and committed by one message. -/
def wholeBlock : List (RawStmt Nat) :=
  [.control "BEGIN;" .begin,
    .command "SAVEPOINT s;" (.transactionStmt ⟨.savepoint, [], "s", false⟩) (.ok []),
    .command "INSERT 1;" (.other true) (.ok [1]), .control "COMMIT" .commit]

end PgTransport.Properties
