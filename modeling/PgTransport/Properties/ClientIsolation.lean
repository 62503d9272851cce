import PgTransport.Backend.Clients
import PgTransport.Properties.BracketBalance

/-!
# Clients that share a slot

No transaction state passes from a client to the next one of its slot: given the
answers of the server to the statements, each client is served as by a backend of its
own.  The used backend and the fresh one stay alike through the session, and the
rollback behind the session leaves a backend that is alike the next fresh one.
-/

namespace PgTransport.Properties

open PgTransport.Backend
open PgTransport.Computation
open PgTransport.Postgres
open PgTransport.Wire

variable {E : Type} {committed rolledBack : List E}

/-! ## Sessions of backends that are alike -/

/-- Two sessions of one client, on backends that are alike. -/
structure SameSession (committed rolledBack : List E) (first second : Session E) : Prop where
  pg : Alike committed rolledBack first.pg second.pg
  statements : second.statements = first.statements
  alive : second.alive = first.alive

/-- The backend waits for a client, with these defaults and prepared transactions. -/
structure Rested (defaults : Characteristics) (prepared : List (String × List E))
    (pg : Pg E) : Prop where
  blockState : pg.xact.blockState = .default
  defaults : pg.xact.defaults = defaults
  prepared : pg.xact.prepared = prepared
  activeSnapshots : pg.activeSnapshots = 0
  spiDepth : pg.spiDepth = 0

/-- A resting backend is a fresh one behind its ledgers. -/
theorem Rested.alike {defaults : Characteristics} {prepared : List (String × List E)} {pg : Pg E}
    (rested : Rested defaults prepared pg) :
    Alike pg.xact.committed pg.xact.rolledBack (.freshOn defaults prepared) pg := by
  obtain ⟨blockState, same, table, snapshots, depth⟩ := rested
  constructor
  · constructor <;> simp_all [Pg.freshOn, Pg.fresh, Pg.mapXact, Xact.fresh, TBlockState.mayChain]
  · exact snapshots
  · exact depth

/-- A freshly started backend rests. -/
theorem rested_freshOn (defaults : Characteristics) (prepared : List (String × List E)) :
    Rested defaults prepared (.freshOn defaults prepared : Pg E) ∧
      Orderly (.freshOn defaults prepared : Pg E) :=
  ⟨⟨rfl, rfl, rfl, rfl, rfl⟩, by simp [Orderly, Pg.freshOn, Pg.fresh, Pg.mapXact]⟩

/-- What `AbortOutOfAnyTransaction` leaves of backends that are alike. -/
theorem alike_abortOutOfAnyTransaction {first second : Pg E}
    (alike : Alike committed rolledBack first second) :
    Alike committed rolledBack first.abortOutOfAnyTransaction
      second.abortOutOfAnyTransaction := by
  have same := alike.xact.blockState
  unfold Pg.abortOutOfAnyTransaction
  cases there : first.xact.blockState <;> rw [there] at same <;> simp only [same]
  case default => exact alike
  all_goals exact alike.releaseAll.mapXact (alike.xact.rollback (by simp [there]))

/-- The reset behind a session that waits idle. -/
theorem rested_abortOutOfAnyTransaction {pg : Pg E} (idle : Idle pg) :
    Rested pg.xact.defaults pg.xact.prepared pg.abortOutOfAnyTransaction := by
  by_cases atRest : pg.xact.blockState = .default
  · simp only [Pg.abortOutOfAnyTransaction, atRest]
    exact ⟨atRest, rfl, rfl, idle.snapshots, idle.spiDepth⟩
  · have rolledBack : pg.abortOutOfAnyTransaction = pg.releaseAll.mapXact Xact.rollback := by
      unfold Pg.abortOutOfAnyTransaction
      split
      · next there => exact absurd there atRest
      · rfl
    rw [rolledBack]
    exact ⟨rfl, rfl, rfl, rfl, rfl⟩

section Serving

variable [TypeTable]

omit [TypeTable] in
theorem SameSession.conclude {α : Type} {first second : Session E}
    (same : SameSession committed rolledBack first second)
    {left right : Outcome Payload (PgWireResult α) × Pg E}
    (agree : Agree (Alike committed rolledBack) left right)
    (reply : α → Reply) (prepared : α → List PreparedStatement) :
    (second.conclude right reply prepared).1 = (first.conclude left reply prepared).1 ∧
      SameSession committed rolledBack (first.conclude left reply prepared).2
        (second.conclude right reply prepared).2 := by
  obtain ⟨outcome, middle⟩ := left
  obtain ⟨ending, other⟩ := right
  obtain ⟨ended, alike⟩ := agree
  cases ended
  rcases outcome with (err | value) | payload | _
  · exact ⟨rfl, alike, same.statements, same.alive⟩
  · refine ⟨rfl, alike, ?_, same.alive⟩
    exact congrArg (· ++ prepared value) same.statements
  · exact ⟨rfl, alike, same.statements, rfl⟩
  · exact ⟨rfl, alike, same.statements, rfl⟩

/-- A message is answered alike. -/
theorem SameSession.receive {first second : Session E}
    (same : SameSession committed rolledBack first second) (message : Message E) :
    (second.receive message).1 = (first.receive message).1 ∧
      SameSession committed rolledBack (first.receive message).2
        (second.receive message).2 := by
  unfold Session.receive
  rw [same.alive]
  split
  · cases message with
    | query backend body =>
        exact same.conclude ((built_simpleQuery backend body).unaware _ _ same.pg) _ _
    | parse backend request =>
        exact same.conclude ((built_prepare backend request).unaware _ _ same.pg) _ _
    | execute index request =>
        dsimp only
        rw [same.statements]
        split
        · exact ⟨rfl, same⟩
        · next statement named =>
          exact same.conclude ((built_execute statement request).unaware _ _ same.pg) _ _
  · exact ⟨rfl, same⟩

theorem SameSession.receiveEach {first second : Session E}
    (same : SameSession committed rolledBack first second) (messages : List (Message E)) :
    (second.receiveEach messages).1 = (first.receiveEach messages).1 ∧
      SameSession committed rolledBack (first.receiveEach messages).2
        (second.receiveEach messages).2 := by
  induction messages generalizing first second with
  | nil => exact ⟨rfl, same⟩
  | cons message messages inductionHypothesis =>
      obtain ⟨reply, next⟩ := same.receive message
      obtain ⟨replies, last⟩ := inductionHypothesis next
      exact ⟨List.cons_eq_cons.mpr ⟨reply, replies⟩, last⟩

/-- A client is served alike by a used backend and by a fresh one. -/
theorem serve_alike {first second : Pg E} (alike : Alike committed rolledBack first second)
    (messages : List (Message E)) :
    (serve second messages).1 = (serve first messages).1 ∧
      SameSession committed rolledBack (serve first messages).2 (serve second messages).2 := by
  have opened : SameSession committed rolledBack (Session.mk first [] true)
      (Session.mk second [] true) := ⟨alike, rfl, rfl⟩
  obtain ⟨replies, last⟩ := opened.receiveEach messages
  refine ⟨replies, ?_, last.statements, last.alive⟩
  exact alike_abortOutOfAnyTransaction last.pg

/-! ## What a session leaves -/

theorem receive_sameDefaults (session : Session E) (message : Message E) :
    SameDefaults session.pg (session.receive message).2.pg := by
  have concluded {α : Type} {step : PgM E (PgWireResult α)} (built : Built step)
      (reply : α → Reply) (prepared : α → List PreparedStatement) :
      SameDefaults session.pg (session.conclude (step session.pg) reply prepared).2.pg := by
    have moved := built.sameDefaults session.pg
    rcases ended : step session.pg with ⟨(err | value) | payload | _, after⟩ <;>
      rw [ended] at moved <;> exact moved
  unfold Session.receive
  split
  · cases message with
    | query backend body => exact concluded (built_simpleQuery backend body) _ _
    | parse backend request => exact concluded (built_prepare backend request) _ _
    | execute index request =>
        dsimp only
        split
        · rfl
        · next statement named => exact concluded (built_execute statement request) _ _
  · rfl

theorem receiveEach_leaves (session : Session E) (messages : List (Message E))
    (idle : session.alive = true → Idle session.pg) :
    ((session.receiveEach messages).2.alive = true → Idle (session.receiveEach messages).2.pg) ∧
      SameDefaults session.pg (session.receiveEach messages).2.pg := by
  induction messages generalizing session with
  | nil => exact ⟨idle, rfl⟩
  | cons message messages inductionHypothesis =>
      obtain ⟨waits, same⟩ := inductionHypothesis (session.receive message).2
        (receive_idle session message idle)
      exact ⟨waits, same.trans (receive_sameDefaults session message)⟩

/-- Behind a client, a process that still runs rests. -/
theorem rested_serve {defaults : Characteristics} {prepared : List (String × List E)}
    {pg : Pg E} (rested : Rested defaults prepared pg) (ordered : Orderly pg)
    (messages : List (Message E)) (alive : (serve pg messages).2.alive = true) :
    ∃ table, Rested defaults table (serve pg messages).2.pg ∧
      Orderly (serve pg messages).2.pg := by
  have opened : Idle pg :=
    ⟨rested.activeSnapshots, rested.spiDepth, .inl rested.blockState, ordered⟩
  obtain ⟨waits, same⟩ :=
    receiveEach_leaves (Session.mk pg [] true) messages fun _ => opened
  have running : ((Session.mk pg [] true).receiveEach messages).2.alive = true := alive
  have idle := waits running
  refine ⟨((Session.mk pg [] true).receiveEach messages).2.pg.xact.prepared, ?_, ?_⟩
  · have rests := rested_abortOutOfAnyTransaction idle
    rw [same.trans rested.defaults] at rests
    exact rests
  · simp only [serve, Pg.abortOutOfAnyTransaction]
    split
    · exact idle.orderly
    · exact idle.orderly

/-- From a resting backend, clients served in turn are served as if apart, behind
what is on the books already. -/
theorem serveInTurn_of_rested {defaults : Characteristics} (clients : List (List (Message E)))
    {prepared : List (String × List E)} {pg : Pg E} (rested : Rested defaults prepared pg)
    (ordered : Orderly pg) :
    serveInTurn defaults pg clients =
      { serveApart defaults prepared clients with
        committed := pg.xact.committed ++ (serveApart defaults prepared clients).committed
        rolledBack :=
          pg.xact.rolledBack ++ (serveApart defaults prepared clients).rolledBack } := by
  induction clients generalizing prepared pg with
  | nil => simp [serveInTurn, serveApart, rested.prepared]
  | cons client clients inductionHypothesis =>
      obtain ⟨replies, same⟩ := serve_alike rested.alike client
      have behind := same.pg.xact
      simp only [serveInTurn, serveApart, same.alive, replies]
      split
      · next alive =>
        obtain ⟨table, rests, ordered⟩ := rested_serve rested ordered client
          (same.alive.trans alive)
        have named : table = (serve (.freshOn defaults prepared) client).2.pg.xact.prepared :=
          rests.prepared.symm.trans behind.prepared
        rw [inductionHypothesis rests ordered, named, behind.committed, behind.rolledBack]
        simp [Service.behind]
      · obtain ⟨rests, ordered⟩ := rested_freshOn (E := E) defaults
          (serve (.freshOn defaults prepared) client).2.pg.xact.prepared
        rw [behind.prepared, inductionHypothesis rests ordered]
        simp [Service.behind, behind.committed, behind.rolledBack, Pg.freshOn, Pg.fresh,
          Pg.mapXact, Xact.fresh]

/-- With the answers of the server given, a slot serves clients in turn as if each had
a backend of its own, started for it on the same database: the same replies, and the
same on the books, also behind a client whose process dies. -/
theorem served_in_turn_as_apart (defaults : Characteristics)
    (prepared : List (String × List E)) (clients : List (List (Message E))) :
    serveInTurn defaults (.freshOn defaults prepared) clients =
      serveApart defaults prepared clients := by
  obtain ⟨rested, ordered⟩ := rested_freshOn (E := E) defaults prepared
  rw [serveInTurn_of_rested clients rested ordered]
  simp [Pg.freshOn, Pg.fresh, Pg.mapXact, Xact.fresh]

end Serving

end PgTransport.Properties
