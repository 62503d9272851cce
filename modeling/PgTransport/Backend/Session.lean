import PgTransport.Backend.Extended.Direct
import PgTransport.Backend.Extended.Spi
import PgTransport.Transition.Run

/-!
# Sessions

A session is one backend process serving one client: the backend state and the
statements the client has prepared.  A message is dispatched to the backend
that `pg_transport.execution_backend` selects at that moment, except that an
`Execute` runs whatever backend prepared its statement.  When an error escapes
the bracket around a message, or the process halts, the client gets no answer
and the session is over.
-/

namespace PgTransport.Backend

open PgTransport.Computation
open PgTransport.Postgres
open PgTransport.Transition
open PgTransport.Wire

/-- `ExecutionBackend`. -/
inductive ExecutionBackend where
  | spi
  | direct
  deriving DecidableEq, Repr

variable {E : Type}

/-! ## Extended-query dispatch -/

/-- `XactControlBackendPlan::execute`. -/
def xactControlExecute (cmd : XactCmd) (request : ExecuteRequest E) :
    PgM E (PgWireResult Response) :=
  if request.parameters.isEmpty then
    handleXactControlOne cmd request.finish
  else
    pure (.error (genericError "pg_transport extended"
      ("transaction-control statement takes no parameters; got " ++
        toString request.parameters.length)))

/-- `PreparedStatement::execute`. -/
def PreparedStatement.execute (statement : PreparedStatement)
    (request : ExecuteRequest E) : PgM E (PgWireResult Response) :=
  match statement.plan with
  | .spi plan => spiExecuteImpl plan request
  | .direct plan => directExecuteImpl plan request
  | .xactControl cmd => xactControlExecute cmd request

/-- The number of parameters a prepared statement is executed with. -/
def BackendPlan.paramCount : BackendPlan → Nat
  | .spi plan => plan.paramOids.length
  | .direct plan => plan.paramOids.length
  | .xactControl _ => 0

/-- The number of result columns whose formats an execution looks up. -/
def BackendPlan.columnCount : BackendPlan → Nat
  | .spi plan => plan.baseSchema.length
  | .direct plan => plan.baseSchema.length
  | .xactControl _ => 0

/-- The binding gets as far as the plan: it has the right number of parameters,
and a format for every parameter and column. -/
def ExecuteRequest.Binds (request : ExecuteRequest E) (plan : BackendPlan) : Prop :=
  request.parameters.length = plan.paramCount ∧ request.formatsCover plan.columnCount = true

instance (request : ExecuteRequest E) (plan : BackendPlan) :
    Decidable (request.Binds plan) :=
  inferInstanceAs (Decidable (_ ∧ _))

section Execute

variable {request : ExecuteRequest E} {statement : PreparedStatement}

theorem PreparedStatement.execute_spi {plan : SpiBackendPlan}
    (choice : statement.plan = .spi plan) (binds : request.Binds statement.plan) :
    statement.execute request = withSpi request.spiRcs request.finish
      (spiExecuteBody plan request (request.formats plan.baseSchema.length)) := by
  obtain ⟨count, cover⟩ := binds
  rw [choice] at count cover
  have bound : request.parameters.length = plan.paramOids.length := count
  have covered : request.formatsCover plan.baseSchema.length = true := cover
  funext pg
  simp [execute, choice, spiExecuteImpl, bound, liftPanic,
    ExecuteRequest.boundFormats_of_cover covered]

theorem PreparedStatement.execute_direct {plan : DirectBackendPlan}
    (choice : statement.plan = .direct plan) (binds : request.Binds statement.plan) :
    statement.execute request = withXact true request.finish
      (directExecuteBody plan request (request.formats plan.baseSchema.length)) := by
  obtain ⟨count, cover⟩ := binds
  rw [choice] at count cover
  have bound : request.parameters.length = plan.paramOids.length := count
  have covered : request.formatsCover plan.baseSchema.length = true := cover
  funext pg
  simp [execute, choice, directExecuteImpl, bound, liftPanic,
    ExecuteRequest.boundFormats_of_cover covered]

theorem PreparedStatement.execute_xactControl {cmd : XactCmd}
    (choice : statement.plan = .xactControl cmd) (binds : request.Binds statement.plan) :
    statement.execute request = handleXactControlOne cmd request.finish := by
  have empty : request.parameters = [] := by
    simpa [choice, BackendPlan.paramCount] using binds.1
  simp [execute, choice, xactControlExecute, empty]

/-- A wrong number of parameters is answered with an error. -/
theorem PreparedStatement.execute_of_miscounted (pg : Pg E)
    (miscounted : request.parameters.length ≠ statement.plan.paramCount) :
    ∃ err, statement.execute request pg = (.ret (.error err), pg) := by
  cases choice : statement.plan with
  | spi plan =>
      rw [choice] at miscounted
      have bound : request.parameters.length ≠ plan.paramOids.length := miscounted
      simp [execute, choice, spiExecuteImpl, bound]
  | direct plan =>
      rw [choice] at miscounted
      have bound : request.parameters.length ≠ plan.paramOids.length := miscounted
      simp [execute, choice, directExecuteImpl, bound]
  | xactControl cmd =>
      have nonempty : request.parameters ≠ [] := by
        simpa [choice, BackendPlan.paramCount] using miscounted
      simp [execute, choice, xactControlExecute, nonempty]

/-- A missing format panics outside the bracket. -/
theorem PreparedStatement.execute_of_uncovered (pg : Pg E)
    (counted : request.parameters.length = statement.plan.paramCount)
    (uncovered : request.formatsCover statement.plan.columnCount = false) :
    ∃ len index, statement.execute request pg = (.unwind (indexOutOfBounds len index), pg) := by
  cases choice : statement.plan with
  | spi plan =>
      rw [choice] at counted uncovered
      have bound : request.parameters.length = plan.paramOids.length := counted
      have missing : request.formatsCover plan.baseSchema.length = false := uncovered
      obtain ⟨len, index, run⟩ := ExecuteRequest.boundFormats_of_not_cover missing
      exact ⟨len, index, by simp [execute, choice, spiExecuteImpl, bound, run, liftPanic]⟩
  | direct plan =>
      rw [choice] at counted uncovered
      have bound : request.parameters.length = plan.paramOids.length := counted
      have missing : request.formatsCover plan.baseSchema.length = false := uncovered
      obtain ⟨len, index, run⟩ := ExecuteRequest.boundFormats_of_not_cover missing
      exact ⟨len, index, by simp [execute, choice, directExecuteImpl, bound, run, liftPanic]⟩
  | xactControl cmd =>
      rw [choice] at counted uncovered
      have empty : request.parameters.length = 0 := counted
      have covered : request.formatsCover 0 = true := by
        cases columns : request.resultFormat <;> cases inputs : request.parameterFormat <;>
          simp [ExecuteRequest.formatsCover, columns, inputs, Format.covers, empty]
      exact absurd covered (by simpa [BackendPlan.columnCount] using uncovered)

/-- An `Execute` that returns a value got as far as its plan. -/
theorem PreparedStatement.binds_of_returns {pg after : Pg E} {response : Response}
    (run : statement.execute request pg = (.ret (.ok response), after)) :
    request.Binds statement.plan := by
  by_contra unbound
  by_cases counted : request.parameters.length = statement.plan.paramCount
  · have uncovered : request.formatsCover statement.plan.columnCount = false := by
      simpa [ExecuteRequest.Binds, counted] using unbound
    obtain ⟨len, index, panics⟩ := execute_of_uncovered pg counted uncovered
    rw [panics] at run
    cases run
  · obtain ⟨err, refused⟩ := execute_of_miscounted pg counted
    rw [refused] at run
    cases run

end Execute

/-- `do_describe_portal`: the cached schema, whatever formats the portal asks
for. -/
def PreparedStatement.describePortal (statement : PreparedStatement)
    (_resultColumnFormat : Format) : List FieldInfo :=
  statement.resultSchema

section Dispatch

variable [TypeTable]

/-- `extended::prepare`. -/
def prepare (backend : ExecutionBackend) (request : ParseRequest) :
    PgM E (PgWireResult PreparedStatement) :=
  if containsNul request.sql then
    pure (.error (genericError "pg_transport" "query string contains a NUL byte"))
  else
    match backend with
    | .spi => spiPrepare request
    | .direct => directPrepare request

/-- `do_query` of the simple-query handler. -/
def simpleQuery (backend : ExecutionBackend) (query : SimpleQuery E) :
    PgM E (PgWireResult (List Response)) :=
  match backend with
  | .spi => executeSimpleQuery query
  | .direct => executeSimpleQueryDirect query

/-! ## Messages -/

/-- The client messages that reach a backend.  `execute` names a statement by
its position among those prepared so far. -/
inductive Message (E : Type) where
  | query (backend : ExecutionBackend) (body : SimpleQuery E)
  | parse (backend : ExecutionBackend) (request : ParseRequest)
  | execute (statement : Nat) (request : ExecuteRequest E)

/-- What the client is answered.  `unknownStatement` is the error of the wire
library for a statement that was never prepared. -/
inductive Reply where
  | responses (responses : List Response)
  | parseComplete
  | executed (response : Response)
  | error (err : PgWireError)
  | unknownStatement
  | gone
  deriving DecidableEq, Repr

/-- The reply is an `ErrorResponse`. -/
def Reply.isError : Reply → Bool
  | .error _ | .unknownStatement => true
  | _ => false

/-- The state of a session. -/
structure Session (E : Type) where
  pg : Pg E
  statements : List PreparedStatement
  alive : Bool

/-- A session that has just been handed to a backend. -/
def Session.fresh (defaults : Characteristics) : Session E :=
  ⟨Pg.fresh defaults, [], true⟩

/-- Answer a message whose dispatch ended in `result`. -/
def Session.conclude {α : Type} (session : Session E)
    (result : Outcome Payload (PgWireResult α) × Pg E)
    (reply : α → Reply) (prepared : α → List PreparedStatement) :
    Reply × Session E :=
  match result with
  | (.ret (.ok value), pg) =>
      (reply value, { session with pg, statements := session.statements ++ prepared value })
  | (.ret (.error err), pg) => (.error err, { session with pg })
  | (.unwind _, pg) => (.gone, { session with pg, alive := false })
  | (.halt, pg) => (.gone, { session with pg, alive := false })

/-- Process one message. -/
def Session.receive (session : Session E) (message : Message E) : Reply × Session E :=
  if session.alive then
    match message with
    | .query backend body =>
        session.conclude (simpleQuery backend body session.pg) .responses fun _ => []
    | .parse backend request =>
        session.conclude (prepare backend request session.pg)
          (fun _ => .parseComplete) fun statement => [statement]
    | .execute index request =>
        match session.statements[index]? with
        | none => (.unknownStatement, session)
        | some statement =>
            session.conclude (statement.execute request session.pg) .executed fun _ => []
  else
    (.gone, session)

/-- Sessions as a transition system: any client messages in any order. -/
def sessions (E : Type) : System (Session E) (Message E) where
  initial session := ∃ defaults, session = Session.fresh defaults
  step session message next := (session.receive message).2 = next

end Dispatch

end PgTransport.Backend
