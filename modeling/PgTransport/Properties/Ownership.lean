import PgTransport.Backend.LedgerEnds
import PgTransport.Backend.OwningErasure
import PgTransport.Transition.Run

/-!
# Nothing outlives its owner

A session hands out memory contexts, plans, references and portals, and keeps account of
them.  In whatever order it parses, executes and drops statements and runs simple queries,
and whichever calls fail, as long as every command leaves the transaction of its bracket in
place, no call is made on something that is gone, nothing is given back twice or while it is
in use, and between messages nothing is left but the plans of the statements that are held
and, inside a block, contexts that go with it.

A command that ends its transaction, such as `VACUUM`, takes the reference to its own plan
with it when it is executed from a plan of the direct path.
-/

namespace PgTransport.Properties

open PgTransport.Backend
open PgTransport.Computation
open PgTransport.Postgres
open PgTransport.Transition
open PgTransport.Wire

/-- A message, with the call that raises where it fails and what its commands do with their
transaction; `release` is the wire library dropping a statement. -/
inductive OwningMessage (E : Type) where
  | query (body : SimpleQuery E) (fate : RawStmt E → PortalFate)
  | parse (backend : ExecutionBackend) (request : ParseRequest) (failing : CompletionCall)
  | execute (index : Nat) (request : ExecuteRequest E) (fate : PortalFate)
  | release (index : Nat)

/-- The commands of the message leave the transactions of their brackets in place. -/
def OwningMessage.KeepsTransaction {E : Type} : OwningMessage E → Prop
  | .query _ fate => ∀ stmt, (fate stmt).endsTransaction = false
  | .parse _ _ _ => True
  | .execute _ _ fate => fate.endsTransaction = false
  | .release _ => True

/-- A session with what it has handed out and the statements that are held. -/
structure OwningSession (E : Type) where
  pg : Pg E
  resources : Resources
  held : List OwnedStatement
  alive : Bool

namespace OwningSession

variable {E : Type}

/-- A session that has handed out nothing. -/
def fresh (defaults : Characteristics) : OwningSession E :=
  ⟨Pg.fresh defaults, Resources.empty, [], true⟩

/-- The plans that the held statements own. -/
def plans (session : OwningSession E) : List Nat :=
  session.held.flatMap OwnedStatement.plans

/-- Go on behind a message that ended in `result`. -/
def conclude {α : Type} (session : OwningSession E)
    (result : Outcome Payload (PgWireResult α) × Pg E × Resources)
    (prepared : α → List OwnedStatement) : OwningSession E :=
  match result with
  | (.ret (.ok value), pg, resources) =>
      { session with pg, resources, held := session.held ++ prepared value }
  | (.ret (.error _), pg, resources) => { session with pg, resources }
  | (.unwind _, pg, resources) => { session with pg, resources, alive := false }
  | (.halt, pg, resources) => { session with pg, resources, alive := false }

/-- Process one message. -/
def receive [TypeTable] (session : OwningSession E) (message : OwningMessage E) :
    OwningSession E :=
  if session.alive then
    match message with
    | .query body fate =>
        session.conclude
          (Owning.executeSimpleQueryDirect body fate (session.pg, session.resources))
          fun _ => []
    | .parse backend request failing =>
        session.conclude (Owning.prepare backend request failing (session.pg, session.resources))
          fun statement => [statement]
    | .execute index request fate =>
        match session.held[index]? with
        | none => session
        | some statement =>
            session.conclude
              (Owning.execute statement request fate (session.pg, session.resources))
              fun _ => []
    | .release index =>
        match session.held[index]? with
        | none => session
        | some statement =>
            { session with
              resources := (Owning.releaseStatement statement session.resources).2
              held := session.held.eraseIdx index }
  else
    session

end OwningSession

/-- Sessions with their account: any messages in any order. -/
def owningSessions (E : Type) [TypeTable] : System (OwningSession E) (OwningMessage E) where
  initial session := ∃ defaults, session = OwningSession.fresh defaults
  step session message next := session.receive message = next

variable {E : Type} [TypeTable]

/-! ## The account and the session -/

/-- The session without its account. -/
def OwningSession.erase (session : OwningSession E) : Session E :=
  ⟨session.pg, session.held.map OwnedStatement.statement, session.alive⟩

/-- The message without the call that fails; a statement that is dropped is no message of
the client. -/
def OwningMessage.erase : OwningMessage E → Option (Message E)
  | .query body _ => some (.query .direct body)
  | .parse backend request _ => some (.parse backend request)
  | .execute index request _ => some (.execute index request)
  | .release _ => none

omit [TypeTable] in
theorem conclude_erase {α β : Type} {view : α → β} (session : OwningSession E)
    {step : OwnM E (PgWireResult α)} {plain : PgM E (PgWireResult β)}
    (shadows : Shadows (Except.map view) step plain) (reply : β → Reply)
    {prepared : α → List OwnedStatement} {kept : β → List PreparedStatement}
    (same : ∀ value, (prepared value).map OwnedStatement.statement = kept (view value)) :
    (session.conclude (step (session.pg, session.resources)) prepared).erase =
      (session.erase.conclude (plain session.pg) reply kept).2 := by
  rw [← shadows (session.pg, session.resources)]
  rcases step (session.pg, session.resources) with ⟨(_ | value) | payload | _, pg, resources⟩
  · rfl
  · simp only [OwningSession.conclude, OwningSession.erase, Session.conclude, withoutNotes,
      Except.map, List.map_append, same]
  · rfl
  · rfl

/-- A message with its account does what it does without. -/
theorem receive_erase (session : OwningSession E) {message : OwningMessage E}
    (keeps : message.KeepsTransaction) {plain : Message E} (erased : message.erase = some plain) :
    (session.receive message).erase = (session.erase.receive plain).2 := by
  by_cases alive : session.alive = true
  · have lives : session.erase.alive = true := alive
    simp only [OwningSession.receive, Session.receive, alive, lives, if_true]
    cases message with
    | query body fate =>
        cases erased
        have shadows := executeSimpleQueryDirect_shadows keeps body
        rw [← Except.map_id] at shadows
        exact conclude_erase session shadows _ fun _ => rfl
    | parse backend request failing =>
        cases erased
        exact conclude_erase session (prepare_shadows backend request failing) _ fun _ => rfl
    | execute index request fate =>
        cases erased
        simp only [OwningSession.erase, List.getElem?_map]
        cases session.held[index]? with
        | none => rfl
        | some statement =>
            have shadows := execute_shadows statement request keeps
            rw [← Except.map_id] at shadows
            exact conclude_erase session shadows _ fun _ => rfl
    | release index => cases erased
  · have dead : session.erase.alive ≠ true := alive
    simp only [OwningSession.receive, Session.receive, alive, dead, if_false, Bool.false_eq_true]

/-- Without its account, a run in which no statement is dropped and no command ends its
transaction is one of the session. -/
theorem run_erase {session target : OwningSession E} {messages : List (OwningMessage E)}
    {plain : List (Message E)} (erased : messages.map OwningMessage.erase = plain.map some)
    (run : RunWith (owningSessions E) (fun _ message _ => message.KeepsTransaction) session
      messages target) :
    Run (sessions E) session.erase plain target.erase := by
  induction run generalizing plain with
  | nil state =>
      cases plain with
      | nil => exact .nil _
      | cons first rest => cases erased
  | cons step keeps _ inductionHypothesis =>
      cases plain with
      | nil => cases erased
      | cons first rest =>
          obtain ⟨first, rest⟩ := List.cons_eq_cons.mp erased
          cases step
          exact .cons (receive_erase _ keeps first).symm trivial (inductionHypothesis rest)

/-! ## What is left between messages -/

/-- What is handed out is what the held statements own and, inside a block, contexts that go
with it. -/
structure Inventory (session : OwningSession E) : Prop where
  current : session.resources.current = none
  references : session.resources.references = []
  portals : session.resources.portals = []
  plans : ∀ entry, entry ∈ session.resources.plans ↔
    entry.kept = true ∧ entry.number ∈ session.plans
  distinct : session.plans.Nodup
  contexts : ∀ context ∈ session.resources.contexts, context.owner = .transaction
  outside : session.pg.xact.blockState = .default → session.resources.contexts = []

/-- The books balance, as long as the process lives. -/
structure Balancing (session : OwningSession E) : Prop where
  faultless : session.resources.faults = []
  balance : session.alive = true → session.resources.Matches (.quiet session.plans [])
  cleared : session.alive = true → Cleared (session.pg, session.resources)

omit [TypeTable] in
theorem Balancing.inventory {session : OwningSession E} (balancing : Balancing session)
    (alive : session.alive = true) : Inventory session := by
  have balance := balancing.balance alive
  have contexts : ∀ context ∈ session.resources.contexts, context.owner = .transaction := by
    rintro ⟨number, owner⟩ member
    cases owner with
    | transaction => rfl
    | value => cases (balance.owned number).mp member
  exact {
    current := balance.current
    references := balance.references
    portals := balance.portals
    plans := by
      intro entry
      rw [balance.plans entry]
      cases entry.kept <;> simp [Ledger.quiet]
    distinct := (List.nodup_append.mp balance.distinct).1
    contexts := contexts
    outside := by
      intro outside
      apply List.eq_nil_iff_forall_not_mem.mpr
      intro context member
      have value := balancing.cleared alive outside context member
      cases (contexts context member).symm.trans value }

omit [TypeTable] in
/-- A message whose result is listed keeps the books. -/
theorem Balancing.conclude {α : Type} {session : OwningSession E}
    {result : Outcome Payload (PgWireResult α) × Pg E × Resources}
    {plansOf : α → List Nat} {prepared : α → List OwnedStatement}
    (same : ∀ value, (prepared value).flatMap OwnedStatement.plans = plansOf value)
    (lists : Meets (Yields plansOf session.plans []) (Lists Anything (.quiet session.plans []))
      Faultless result)
    (clears : Meets (fun _ => Cleared) Anywhere Anywhere result) :
    Balancing (session.conclude result prepared) := by
  rcases result with ⟨(err | value) | payload | _, pg, resources⟩
  · exact ⟨lists.faultless, fun _ => lists.2, fun _ => clears⟩
  · refine ⟨lists.faultless, fun _ => ?_, fun _ => clears⟩
    rw [OwningSession.plans, OwningSession.conclude, List.flatMap_append, same]
    exact lists.2
  · constructor
    · exact lists.faultless
    · intro impossible
      cases impossible
    · intro impossible
      cases impossible
  · constructor
    · exact lists
    · intro impossible
      cases impossible
    · intro impossible
      cases impossible

omit [TypeTable] in
theorem releaseStatement_contexts (statement : OwnedStatement) (resources : Resources) :
    (Owning.releaseStatement statement resources).2.contexts = resources.contexts := by
  cases planned : statement.statement.plan with
  | spi plan | direct plan =>
      simp only [Owning.releaseStatement, planned, Resources.dropPlan, Resources.demand]
      split <;> split <;> rfl
  | xactControl cmd => simp only [Owning.releaseStatement, planned]

omit [TypeTable] in
/-- A statement that is dropped takes its plan off the books. -/
theorem Balancing.release {session : OwningSession E} (balancing : Balancing session)
    (alive : session.alive = true) {index : Nat} {statement : OwnedStatement}
    (found : session.held[index]? = some statement) :
    Balancing { session with
      resources := (Owning.releaseStatement statement session.resources).2
      held := session.held.eraseIdx index } := by
  obtain ⟨inside, rfl⟩ := List.getElem?_eq_some_iff.mp found
  have held : session.held = session.held.take index ++
      session.held[index] :: session.held.drop (index + 1) := by
    rw [← List.drop_eq_getElem_cons inside, List.take_append_drop]
  have balance := balancing.balance alive
  rw [OwningSession.plans, held, List.flatMap_append, List.flatMap_cons,
    ← List.append_assoc] at balance
  have released := releaseStatement_matches session.held[index] balance
  constructor
  · exact released.faultless
  · intro _
    rw [OwningSession.plans, List.eraseIdx_eq_take_drop_succ, List.flatMap_append]
    exact released
  · intro _ outside context member
    rw [releaseStatement_contexts] at member
    exact balancing.cleared alive outside context member

/-- One message keeps the books. -/
theorem Balancing.receive {session : OwningSession E} (balancing : Balancing session)
    {message : OwningMessage E} (keeps : message.KeepsTransaction) :
    Balancing (session.receive message) := by
  unfold OwningSession.receive
  split
  case isFalse => exact balancing
  case isTrue alive =>
  have balance : Lists Anything (.quiet session.plans []) (session.pg, session.resources) :=
    ⟨trivial, balancing.balance alive⟩
  have cleared := balancing.cleared alive
  have responds {α : Type} {step : OwnM E (PgWireResult α)}
      (lists : Triple (Lists Anything (.quiet session.plans [])) step
        (fun _ => Lists Anything (.quiet session.plans []))
        (Lists Anything (.quiet session.plans [])) Faultless)
      (clears : Clearing Cleared step) :
      Balancing (session.conclude (step (session.pg, session.resources)) fun _ => []) := by
    have yields : Triple (Lists Anything (.quiet session.plans [])) step
        (Yields (fun _ => []) session.plans []) (Lists Anything (.quiet session.plans []))
        Faultless := by
      apply lists.concluding
      intro result _ lists
      rw [Yields, withPlansOf_nil]
      exact lists
    exact .conclude (fun _ => rfl) (yields _ balance) (clears _ cleared)
  cases message with
  | query body fate =>
      exact responds (executeSimpleQueryDirect_lists body keeps)
        (executeSimpleQueryDirect_clears body)
  | parse backend request failing =>
      exact .conclude (fun statement => List.append_nil statement.plans)
        (prepare_lists backend request failing _ balance)
        (prepare_clears backend request failing _ cleared)
  | execute index request fate =>
      dsimp only
      split
      · exact balancing
      · next statement found =>
          apply responds (execute_lists statement _ request keeps)
            (execute_clears statement request fate)
          intro number listed
          exact List.mem_flatMap_of_mem (List.mem_of_getElem? found) listed
  | release index =>
      dsimp only
      split
      · exact balancing
      · next statement found => exact balancing.release alive found

/-- Two statements are parsed, one is executed and dropped, and the completion of a third
fails. -/
def parsedAndDropped : List (OwningMessage Nat) :=
  [.parse .direct (.select "SELECT 1" [⟨"?column?", 23⟩]) .create,
    .parse .spi (.select "SELECT 1" [⟨"?column?", 23⟩]) .create,
    .execute 0 (.delivering .unifiedText [⟨"?column?", 23⟩] [] (by simp)) ⟨.run, false⟩,
    .release 0,
    .parse .direct { ParseRequest.select "SELECT 1" [] with
      complete := fun _ => .error ⟨"ERROR", "ERRCODE_OUT_OF_MEMORY", "out of memory"⟩ } .complete]

/-- Messages that are processed one after the other are a run. -/
theorem run_foldl (messages : List (OwningMessage E)) (session : OwningSession E)
    (keep : ∀ message ∈ messages, message.KeepsTransaction) :
    RunWith (owningSessions E) (fun _ message _ => message.KeepsTransaction) session messages
      (messages.foldl OwningSession.receive session) := by
  induction messages generalizing session with
  | nil => exact .nil session
  | cons message messages inductionHypothesis =>
      obtain ⟨keeps, keep⟩ := List.forall_mem_cons.mp keep
      exact .cons rfl keeps (inductionHypothesis (session.receive message) keep)

/-- A command that ends its transaction is executed from a plan of the direct path. -/
def vacuumed : List (OwningMessage Nat) :=
  [.parse .direct { ParseRequest.select "VACUUM" [] with
      parsed := .ok [some (.other false)]
      complete := fun _ => .ok ⟨none, ⟨"VACUUM", false⟩⟩ } .create,
    .execute 0 (.delivering .unifiedText [] [] (by simp)) ⟨.run, true⟩]

/-- The commit inside finds the reference to the plan, which is released once more behind
it. -/
example : ∃ _ : TypeTable,
    (vacuumed.foldl OwningSession.receive (.fresh .standard)).resources.faults =
      [.referenceLeaked, .referenceGone] :=
  ⟨.knowing [TEXTOID], by decide +kernel⟩

end PgTransport.Properties
