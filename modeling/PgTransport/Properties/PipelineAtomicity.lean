import PgTransport.Backend.Extended.Outcome

/-!
# Pipelines between two `Sync`s

The wire library passes on the messages of a pipeline one by one, and after an
error none until the next `Sync`.  Every message is a transaction of its own, so
that an error does not take back what the messages before it have done.
-/

namespace PgTransport.Properties

open PgTransport.Backend
open PgTransport.Computation
open PgTransport.Postgres
open PgTransport.Wire

variable {E : Type}

/-! ## Pipelines -/

/-- The messages of a pipeline.  What `Bind` carries is part of the request of
`execute`. -/
inductive PipelineMessage (E : Type) where
  | parse (backend : ExecutionBackend) (request : ParseRequest)
  | execute (statement : Nat) (request : ExecuteRequest E)

namespace PipelineMessage

/-- The message as a backend receives it. -/
def message : PipelineMessage E → Message E
  | .parse backend request => .parse backend request
  | .execute statement request => .execute statement request

/-- The message does not execute a transaction statement. -/
def ordinary (session : Session E) : PipelineMessage E → Bool
  | .parse _ _ => true
  | .execute index _ =>
      match session.statements[index]? with
      | none => true
      | some statement => statement.plan.ordinary

/-- The server's answers let the message succeed. -/
def succeeds (session : Session E) : PipelineMessage E → Bool
  | .parse backend request =>
      !containsNul request.sql && request.verdict backend = .succeeds && request.finish = none
  | .execute index request =>
      match session.statements[index]? with
      | none => false
      | some statement =>
          request.Binds statement.plan && request.verdict statement.plan = .succeeds &&
            request.finish = none

/-- The work of the message. -/
def effects (session : Session E) : PipelineMessage E → List E
  | .parse _ _ => []
  | .execute index request =>
      match session.statements[index]? with
      | none => []
      | some statement => request.effects statement.plan

end PipelineMessage

/-- The message is not answered, or answered with an error. -/
def failing (reply : Reply) : Bool :=
  reply.isError || reply = .gone

section Rows

variable [TypeTable]

/-- Process messages until one fails: the session in front of that message or
at the end, and the session behind the message that fails. -/
def processUntilError (session : Session E) :
    List (PipelineMessage E) → Session E × Option (Session E)
  | [] => (session, none)
  | message :: rest =>
      let answered := session.receive message.message
      if failing answered.1 then (session, some answered.2)
      else processUntilError answered.2 rest

/-- No message executes a transaction statement. -/
def OrdinaryPipeline (session : Session E) : List (PipelineMessage E) → Prop
  | [] => True
  | message :: rest =>
      message.ordinary session = true ∧
        OrdinaryPipeline (session.receive message.message).2 rest

/-- All messages succeed. -/
def allSucceed (session : Session E) : List (PipelineMessage E) → Bool
  | [] => true
  | message :: rest =>
      message.succeeds session && allSucceed (session.receive message.message).2 rest

/-- The work of all messages. -/
def work (session : Session E) : List (PipelineMessage E) → List E
  | [] => []
  | message :: rest =>
      message.effects session ++ work (session.receive message.message).2 rest

/-- The work of the messages in front of the first one that fails. -/
def workDone (session : Session E) : List (PipelineMessage E) → List E
  | [] => []
  | message :: rest =>
      if message.succeeds session then
        message.effects session ++ workDone (session.receive message.message).2 rest
      else
        []

/-- Between two `Sync`s, all work is committed or, but for what the failing
message commits itself, none. -/
def AtomicUntilSync (session : Session E) (messages : List (PipelineMessage E)) : Prop :=
  match processUntilError session messages with
  | (final, none) =>
      final.pg.xact.committed = session.pg.xact.committed ++ work session messages
  | (before, some after) =>
      ∃ own, after.pg.xact.committed = before.pg.xact.committed ++ own ∧
        after.pg.xact.committed = session.pg.xact.committed ++ own

/-! ## One message -/

/-- What a message of a pipeline does to a session outside a block. -/
structure Answered (session : Session E) (succeeds : Bool) (effects : List E)
    (answer : Reply × Session E) : Prop where
  fails : failing answer.1 = !succeeds
  grows : ∃ own, answer.2.pg.xact.committed = session.pg.xact.committed ++ own
  alive : succeeds = true → answer.2.alive = true
  outside : succeeds = true → answer.2.pg.xact.blockState = .default
  committed : succeeds = true →
    answer.2.pg.xact.committed = session.pg.xact.committed ++ effects

omit [TypeTable] in
/-- A message whose dispatch returns an error in the state it found. -/
theorem answered_error {α : Type} {session : Session E} {err : PgWireError} {effects : List E}
    (reply : α → Reply) (prepared : α → List PreparedStatement) :
    Answered session false effects
      (session.conclude (.ret (.error err), session.pg) reply prepared) where
  fails := rfl
  grows := ⟨[], (List.append_nil _).symm⟩
  alive impossible := by cases impossible
  outside impossible := by cases impossible
  committed impossible := by cases impossible

omit [TypeTable] in
/-- A message that is one bracket. -/
theorem answered_bracket {α : Type} {session : Session E} {body : PgM E (PgWireResult α)}
    {verdict : Verdict} {effects : List E} {answers : α → Prop} {finish : Option ErrorReport}
    (ends : EndsAs body verdict effects answers) (alive : session.alive = true)
    (outside : session.pg.xact.blockState = .default) {reply : α → Reply}
    (answer : ∀ value, failing (reply value) = false)
    (prepared : α → List PreparedStatement) :
    Answered session (verdict = .succeeds && finish = none) effects
      (session.conclude (withXact true finish body session.pg) reply prepared) := by
  obtain ⟨outcome, after, run, committed, standing, answered⟩ :=
    withXact_default_committed finish ends outside
  rw [run]
  by_cases settled : verdict = .succeeds ∧ finish = none
  · obtain ⟨value, rfl⟩ := answered.mpr settled
    obtain ⟨rfl, rfl⟩ := settled
    exact {
      fails := answer value
      grows := ⟨_, committed⟩
      alive := fun _ => alive
      outside := fun _ => standing _ rfl
      committed := fun _ => committed }
  · have unanswered := mt answered.mp settled
    have fails : (verdict = .succeeds && finish = none : Bool) = false := by
      simpa using settled
    rw [fails]
    have grows : ∃ own, after.xact.committed = session.pg.xact.committed ++ own := ⟨_, committed⟩
    rcases outcome with (err | value) | payload | _
    · exact ⟨rfl, grows, by simp, by simp, by simp⟩
    · exact absurd ⟨value, rfl⟩ unanswered
    · exact ⟨rfl, grows, by simp, by simp, by simp⟩
    · exact ⟨rfl, grows, by simp, by simp, by simp⟩

/-- Every message of a pipeline that executes no transaction statement succeeds
or fails as the server's answers say, and commits its work if it succeeds. -/
theorem receive_answered {session : Session E} {message : PipelineMessage E}
    (alive : session.alive = true) (outside : session.pg.xact.blockState = .default)
    (ordinary : message.ordinary session = true) :
    Answered session (message.succeeds session) (message.effects session)
      (session.receive message.message) := by
  cases message with
  | parse backend request =>
      simp only [PipelineMessage.message, Session.receive, alive, if_true]
      cases clean : containsNul request.sql with
      | true =>
          simp only [PipelineMessage.succeeds, clean, Bool.not_true, Bool.false_and, prepare,
            if_true]
          exact answered_error _ _
      | false =>
          simp only [PipelineMessage.succeeds, clean, Bool.not_false, Bool.true_and,
            prepare_eq_withXact backend clean]
          exact answered_bracket (endsAs_prepareBody backend request clean) alive outside
            (fun _ => rfl) _
  | execute index request =>
      simp only [PipelineMessage.message, Session.receive, alive, if_true,
        PipelineMessage.succeeds, PipelineMessage.effects]
      cases named : session.statements[index]? with
      | none => exact ⟨rfl, ⟨[], (List.append_nil _).symm⟩, by simp, by simp, by simp⟩
      | some statement =>
          simp only [PipelineMessage.ordinary, named] at ordinary
          by_cases binds : request.Binds statement.plan
          · obtain ⟨body, answers, run, ends⟩ := statement.execute_ends ordinary binds
            simp only [binds, decide_true, Bool.true_and, run]
            exact answered_bracket ends alive outside (fun _ => rfl) _
          · simp only [binds, decide_false, Bool.false_and]
            by_cases counted : request.parameters.length = statement.plan.paramCount
            · have uncovered : request.formatsCover statement.plan.columnCount = false := by
                simpa [ExecuteRequest.Binds, counted] using binds
              obtain ⟨len, position, panics⟩ :=
                statement.execute_of_uncovered session.pg counted uncovered
              rw [panics]
              exact ⟨rfl, ⟨[], (List.append_nil _).symm⟩, by simp, by simp, by simp⟩
            · obtain ⟨err, refused⟩ := statement.execute_of_miscounted session.pg counted
              rw [refused]
              exact answered_error _ _

/-! ## The whole pipeline -/

/-- Without a failure, everything is committed. -/
theorem process_succeeds {messages : List (PipelineMessage E)} {session : Session E}
    (alive : session.alive = true) (outside : session.pg.xact.blockState = .default)
    (ordinary : OrdinaryPipeline session messages) (succeed : allSucceed session messages = true) :
    ∃ final, processUntilError session messages = (final, none) ∧
      final.pg.xact.committed = session.pg.xact.committed ++ work session messages := by
  induction messages generalizing session with
  | nil => exact ⟨session, rfl, (List.append_nil _).symm⟩
  | cons message rest inductionHypothesis =>
      obtain ⟨first, later⟩ := Bool.and_eq_true_iff.mp succeed
      have answered := receive_answered alive outside ordinary.1
      obtain ⟨final, processed, committed⟩ := inductionHypothesis (answered.alive first)
        (answered.outside first) ordinary.2 later
      refine ⟨final, ?_, ?_⟩
      · have passes : failing (session.receive message.message).1 = false := by
          rw [answered.fails, first]
          rfl
        simp only [processUntilError, passes, Bool.false_eq_true, if_false, processed]
      · rw [committed, answered.committed first, work, List.append_assoc]

/-- With a failure, the work in front of it is committed. -/
theorem process_fails {messages : List (PipelineMessage E)} {session : Session E}
    (alive : session.alive = true) (outside : session.pg.xact.blockState = .default)
    (ordinary : OrdinaryPipeline session messages) (fails : allSucceed session messages = false) :
    ∃ before after, processUntilError session messages = (before, some after) ∧
      before.pg.xact.committed = session.pg.xact.committed ++ workDone session messages ∧
      ∃ own, after.pg.xact.committed = before.pg.xact.committed ++ own := by
  induction messages generalizing session with
  | nil => cases fails
  | cons message rest inductionHypothesis =>
      have answered := receive_answered alive outside ordinary.1
      cases first : message.succeeds session with
      | true =>
          have later : allSucceed (session.receive message.message).2 rest = false := by
            simpa [allSucceed, first] using fails
          obtain ⟨before, after, processed, committed, own⟩ := inductionHypothesis
            (answered.alive first) (answered.outside first) ordinary.2 later
          refine ⟨before, after, ?_, ?_, own⟩
          · have passes : failing (session.receive message.message).1 = false := by
              rw [answered.fails, first]
              rfl
            simp only [processUntilError, passes, Bool.false_eq_true, if_false, processed]
          · rw [committed, answered.committed first, workDone, if_pos first, List.append_assoc]
      | false =>
          refine ⟨session, (session.receive message.message).2, ?_, ?_, answered.grows⟩
          · have stops : failing (session.receive message.message).1 = true := by
              rw [answered.fails, first]
              rfl
            simp only [processUntilError, stops, if_true]
          · simp [workDone, first]

/-- A pipeline is atomic exactly if none of its messages fails or those in front
of the failing one do no work. -/
theorem atomicUntilSync_iff {session : Session E} {messages : List (PipelineMessage E)}
    (alive : session.alive = true) (outside : session.pg.xact.blockState = .default)
    (ordinary : OrdinaryPipeline session messages) :
    AtomicUntilSync session messages ↔
      allSucceed session messages = true ∨ workDone session messages = [] := by
  unfold AtomicUntilSync
  cases succeed : allSucceed session messages with
  | true =>
      obtain ⟨final, processed, committed⟩ := process_succeeds alive outside ordinary succeed
      simpa [processed] using committed
  | false =>
      obtain ⟨before, after, processed, committed, own, grows⟩ :=
        process_fails alive outside ordinary succeed
      simp only [processed, Bool.false_eq_true, false_or]
      constructor
      · rintro ⟨added, behind, beside⟩
        have same : before.pg.xact.committed = session.pg.xact.committed :=
          List.append_cancel_right (behind.symm.trans beside)
        rw [committed] at same
        simpa using same
      · intro nothing
        rw [nothing, List.append_nil] at committed
        exact ⟨own, grows, by rw [grows, committed]⟩

end Rows

/-! ## A pipeline whose second `Execute` fails -/

/-- `Parse` of an `INSERT`. -/
def parseInsert : ParseRequest :=
  { ParseRequest.select "INSERT INTO t VALUES (1)" [] with
    spiPrepare := fun _ => .ok (.ok ⟨[], [none]⟩)
    complete := fun _ => .ok ⟨none, ⟨"INSERT", true⟩⟩ }

/-- `Execute` of an `INSERT` that the server answers like this. -/
def executeInsert (result : Except ErrorReport (List Nat)) : ExecuteRequest Nat where
  parameters := []
  parameterFormat := .unifiedText
  resultFormat := .unifiedText
  maxRows := 0
  spiRcs := .clean
  spi _ := result.map (SpiResult.withoutTable 7)
  currentDesc := none
  portal _ := result.map (PortalRun.command ⟨"INSERT", true⟩ 1)
  described := by
    rintro count run returned
    cases result with
    | error report => cases returned
    | ok effects =>
        cases returned
        rfl
  finish := none

/-- The error of a second `INSERT` of the same key. -/
def duplicateKey : ErrorReport :=
  ⟨"ERROR", "ERRCODE_UNIQUE_VIOLATION", "duplicate key value violates unique constraint"⟩

/-- An `INSERT` that is executed twice, with these answers. -/
def insertTwiceWith (first second : Except ErrorReport (List Nat)) :
    List (PipelineMessage Nat) :=
  [.parse .direct parseInsert, .execute 0 (executeInsert first), .execute 0 (executeInsert second)]

/-- Both inserts are committed where both succeed. -/
theorem bothInserts_atomic :
    @AtomicUntilSync Nat (.knowing [TEXTOID]) (Session.fresh .standard)
      (insertTwiceWith (.ok [1]) (.ok [2])) := by
  let _ : TypeTable := .knowing [TEXTOID]
  have ordinary : OrdinaryPipeline (Session.fresh .standard)
      (insertTwiceWith (.ok [1]) (.ok [2])) := ⟨rfl, rfl, rfl, trivial⟩
  exact (atomicUntilSync_iff rfl rfl ordinary).mpr (.inl (by decide))

/-- A first insert is committed although the second one fails. -/
theorem failingInsert_not_atomic :
    ¬∀ [TypeTable] (session : Session Nat) (messages : List (PipelineMessage Nat)),
      session.alive = true → session.pg.xact.blockState = .default →
        OrdinaryPipeline session messages → AtomicUntilSync session messages := by
  intro always
  let _ : TypeTable := ⟨fun _ => none, by simp⟩
  have ordinary : OrdinaryPipeline (Session.fresh .standard)
      (insertTwiceWith (.ok [1]) (.error duplicateKey)) := ⟨rfl, rfl, rfl, trivial⟩
  obtain ⟨before, after, processed, committed, _⟩ :=
    process_fails rfl rfl ordinary (by decide)
  have atomic := always _ _ rfl rfl ordinary
  simp only [AtomicUntilSync, processed] at atomic
  obtain ⟨own, behind, beside⟩ := atomic
  have same := List.append_cancel_right (behind.symm.trans beside)
  rw [committed] at same
  revert same
  decide

end PgTransport.Properties
