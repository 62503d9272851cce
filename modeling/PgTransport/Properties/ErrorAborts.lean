import PgTransport.Backend.Autocommit
import PgTransport.Backend.Extended.Outcome
import PgTransport.Backend.Kept
import PgTransport.Properties.ContainedErrors
import PgTransport.Properties.SnapshotGate

/-!
# Errors inside a transaction block

An error inside an explicit block should abort the block.  What is raised inside
a bracket does, and so does every error of an implicit block.  An error that the
bridge returns as a value does not: the parsers, the lookup of a statement and
the count of its parameters answer before any bracket, and a bracket commits a
body that returns a typed error.
-/

namespace PgTransport.Properties

open PgTransport.Backend
open PgTransport.Computation
open PgTransport.Postgres
open PgTransport.Transition
open PgTransport.Wire

variable {E : Type} {α β : Type}

/-! ## Errors that leave a block open -/

/-- A dispatch from an open block.  One that is refused is answered with an
error and the block stays open.  Every other error aborts the block, unless the
dispatch itself has ended it and left no transaction behind. -/
structure AbortsUnless (refused : Bool) (ended : Prop)
    (result : Outcome Payload (PgWireResult α) × Pg E) : Prop where
  remains : refused = true → ∃ err after, result = (.ret (.error err), after) ∧
    after.xact.blockState = .inprogress
  aborts : refused = false → ∀ err after, result = (.ret (.error err), after) →
    after.xact.blockState = .abort ∨ ended ∧ after.xact.blockState = .default

namespace AbortsUnless

variable {refused : Bool} {ended other : Prop}
  {result : Outcome Payload (PgWireResult α) × Pg E} {pg : Pg E}

theorem quiet (answers : ∀ err after, result ≠ (.ret (.error err), after)) :
    AbortsUnless false ended result where
  remains impossible := by cases impossible
  aborts _ err after run := absurd run (answers err after)

theorem error {err : PgWireError}
    (left : pg.xact.blockState = .abort ∨ ended ∧ pg.xact.blockState = .default) :
    AbortsUnless false ended
      ((.ret (.error err), pg) : Outcome Payload (PgWireResult α) × Pg E) where
  remains impossible := by cases impossible
  aborts _ other after run := by
    cases run
    exact left

theorem stays {err : PgWireError} (inBlock : pg.xact.blockState = .inprogress) :
    AbortsUnless true ended
      ((.ret (.error err), pg) : Outcome Payload (PgWireResult α) × Pg E) where
  remains _ := ⟨err, pg, rfl, inBlock⟩
  aborts impossible := by cases impossible

theorem imp (aborts : AbortsUnless refused ended result) (implies : ended → other) :
    AbortsUnless refused other result where
  remains := aborts.remains
  aborts admitted err after run :=
    (aborts.aborts admitted err after run).imp_right (And.imp_left implies)

/-- Change the value of an answer. -/
theorem map (aborts : AbortsUnless refused ended result) (change : α → β) :
    AbortsUnless refused ended
      (resume result fun answer => (pure (answer.map change) : PgM E _)) := by
  constructor
  · intro isRefused
    obtain ⟨err, after, run, inBlock⟩ := aborts.remains isRefused
    exact ⟨err, after, by simp [run, Except.map], inBlock⟩
  · intro admitted err after run
    rcases result with ⟨(other | value) | _ | _, final⟩ <;> simp [Except.map] at run
    exact aborts.aborts admitted other after (by rw [run.2])

end AbortsUnless

/-! ## Brackets -/

/-- The block state in which a session waits for a message, inside an open block
or outside. -/
def waiting (inBlock : Bool) : TBlockState :=
  if inBlock then .inprogress else .default

/-- How a bracket around a body with this verdict ends: what succeeds or is
refused is committed as a step of the block, and only what raises is aborted. -/
inductive BracketEnds (inBlock : Bool) : Verdict → Option ErrorReport →
    Outcome Payload (PgWireResult α) × Pg E → Prop where
  | answered {value : α} {after : Pg E} (state : after.xact.blockState = waiting inBlock) :
      BracketEnds inBlock .succeeds none (.ret (.ok value), after)
  | refused {err : PgWireError} {after : Pg E}
      (state : after.xact.blockState = waiting inBlock) :
      BracketEnds inBlock .refuses none (.ret (.error err), after)
  | raised {err : PgWireError} {after : Pg E} {finish : Option ErrorReport}
      (state : after.xact.blockState = if inBlock then .abort else .default) :
      BracketEnds inBlock .raises finish (.ret (.error err), after)
  | unwound {verdict : Verdict} {payload : Payload} {after : Pg E} {report : ErrorReport}
      (returned : verdict ≠ .raises) :
      BracketEnds inBlock verdict (some report) (.unwind payload, after)

section Brackets

variable {body : PgM E (PgWireResult α)} {verdict : Verdict} {effects : List E}
  {answers : α → Prop} {finish : Option ErrorReport} {pg : Pg E} {inBlock : Bool}
  {ended : Prop}

theorem withXact_ends (ends : EndsAs body verdict effects answers)
    (place : pg.xact.blockState = waiting inBlock) :
    BracketEnds inBlock verdict finish (withXact true finish body pg) := by
  cases inBlock with
  | true =>
      have inside := ends ((pg.joined true).hold true)
      have state : ((pg.joined true).work effects).xact.blockState = waiting true := by
        simpa using place
      cases verdict with
      | succeeds =>
          obtain ⟨value, _, run⟩ := inside
          rw [withXact_inprogress_ret place run]
          cases finish with
          | none => exact .answered state
          | some report => exact .unwound (by simp)
      | raises =>
          obtain ⟨payload, depth, run⟩ := inside
          rw [withXact_inprogress_unwind place run]
          exact .raised rfl
      | refuses =>
          obtain ⟨err, run⟩ := inside
          rw [withXact_inprogress_ret place run]
          cases finish with
          | none => exact .refused state
          | some report => exact .unwound (by simp)
  | false =>
      have inside := ends ((pg.begun true).hold true)
      cases verdict with
      | succeeds =>
          obtain ⟨value, _, run⟩ := inside
          rw [withXact_default_ret place run]
          cases finish with
          | none => exact .answered rfl
          | some report => exact .unwound (by simp)
      | raises =>
          obtain ⟨payload, depth, run⟩ := inside
          rw [withXact_default_unwind place run]
          exact .raised rfl
      | refuses =>
          obtain ⟨err, run⟩ := inside
          rw [withXact_default_ret place run]
          cases finish with
          | none => exact .refused rfl
          | some report => exact .unwound (by simp)

/-- In an open block, a bracket leaves the block open where its body is refused
and nothing is raised behind it. -/
theorem BracketEnds.abortsUnless {result : Outcome Payload (PgWireResult α) × Pg E}
    (bracket : BracketEnds true verdict finish result) :
    AbortsUnless (verdict == .refuses && finish.isNone) ended result := by
  cases bracket with
  | answered => exact .quiet fun err after run => by cases run
  | refused state => exact .stays state
  | raised state => exact .error (.inl state)
  | unwound =>
      rw [Option.isNone_some, Bool.and_false]
      exact .quiet fun err after run => by cases run

/-- A bracket whose body returns values only, and raises in place, aborts an
open block where it is answered with an error. -/
theorem abortsUnless_of_inPlace {needsSnapshot : Bool} (inPlace : RaisesInPlace body)
    (returns : Returns body fun result => ∃ value, result = .ok value)
    (inBlock : pg.xact.blockState = .inprogress) :
    AbortsUnless false ended (withXact needsSnapshot finish body pg) := by
  rw [withXact_of_enter (enter_inprogress inBlock)]
  rcases run : body ((pg.joined needsSnapshot).hold needsSnapshot) with
    ⟨result | payload | _, after⟩
  · obtain ⟨value, rfl⟩ := returns _ _ _ run
    apply AbortsUnless.quiet
    intro err final ended
    simp only [leaveBracket] at ended
    rcases popped : popIfNeeded needsSnapshot after with ⟨_ | _ | _, middle⟩ <;>
      rw [popped] at ended
    · rcases closed : commitTransactionCommand finish middle with ⟨_ | _ | _, last⟩ <;>
        simp [closed] at ended
    · cases ended
    · cases ended
  · apply AbortsUnless.error
    left
    apply (abortCurrent_blockState after).1
    apply (inPlace _ _ _ run).mpr
    simp [InBlock, inBlock]
  · exact .quiet fun err final impossible => by cases impossible

end Brackets

/-! ## Statements in brackets of their own -/

/-- The statement ends the block it is executed in. -/
def endsBlock : Node → Bool
  | .transactionStmt stmt =>
      match stmt.kind with
      | .commit | .rollback | .prepare => true
      | _ => false
  | _ => false

/-- A statement that ends by `verdict` leaves an open block with an error, or
leaves it to the rest of the batch, of which `later` says whether it does. -/
def refusedThrough (inBlock : Bool) (finish : Option ErrorReport) (later : Bool)
    (verdict : Verdict) : Bool :=
  finish.isNone &&
    match verdict with
    | .succeeds => later
    | .raises => false
    | .refuses => inBlock

/-- The per-statement loop of the SPI bridge arrives, inside an open block, at a
statement that is refused without raising and without an error behind it.
`BEGIN`, `COMMIT` and `ROLLBACK` on the way open and end blocks; an error on the
way ends the loop. -/
def refusedInBlock (inBlock : Bool) : List (RawStmt E) → Bool
  | [] => false
  | stmt :: rest =>
      match classifyRawStmt stmt.node with
      | some .begin => refusedInBlock true rest
      | some .commit => (!inBlock || stmt.finish.isNone) && refusedInBlock false rest
      | some .rollback => refusedInBlock false rest
      | none =>
          refusedThrough inBlock stmt.finish (refusedInBlock inBlock rest) (stmt.verdict .spi)

/-- The commit of a block that raises ends the block with an error. -/
def commitFails (cmd : XactCmd) (inBlock : Bool) (finish : Option ErrorReport) : Bool :=
  cmd == .commit && inBlock && finish.isSome

theorem refusedInBlock_control {stmt : RawStmt E} {cmd : XactCmd} {inBlock : Bool}
    {rest : List (RawStmt E)} (classified : classifyRawStmt stmt.node = some cmd)
    (completes : commitFails cmd inBlock stmt.finish = false) :
    refusedInBlock inBlock (stmt :: rest) = refusedInBlock (cmd == .begin) rest := by
  simp only [refusedInBlock, classified]
  cases cmd with
  | begin => rfl
  | rollback => rfl
  | commit =>
      have quiet : inBlock = true → stmt.finish = none := by
        simpa [commitFails] using completes
      cases inBlock with
      | false => rfl
      | true => rw [quiet rfl]; rfl

section Statements

variable {pg : Pg E} {inBlock : Bool}

/-- Intercepted transaction control is answered, and a `BEGIN` leaves a block
open; where the commit raises, the block is over. -/
theorem handleXactControlOne_ends (cmd : XactCmd) (finish : Option ErrorReport)
    (place : pg.xact.blockState = waiting inBlock) :
    if commitFails cmd inBlock finish then
      ∃ err after, handleXactControlOne cmd finish pg = (.ret (.error err), after) ∧
        after.xact.blockState = .default
    else
      ∃ response after, handleXactControlOne cmd finish pg = (.ret (.ok response), after) ∧
        after.xact.blockState = waiting (cmd == .begin) :=
  handleXactControlOne_answers cmd finish place

theorem endsBlock_of_classified {node : Node} {cmd : XactCmd}
    (classified : classifyRawStmt node = some cmd) (leaving : (cmd == .begin) = false) :
    endsBlock node = true := by
  cases node with
  | transactionStmt command =>
      cases kind : command.kind <;> simp_all [classifyRawStmt, endsBlock]
  | fetchStmt ismove portalname => cases classified
  | other requiresAnalysis => cases classified

/-- A loop goes on behind a bracket that answers, and ends with any other. -/
theorem BracketEnds.continues {verdict : Verdict} {finish : Option ErrorReport}
    {refused : Bool} {ended : Prop} {rest : PgM E (PgWireResult (List Response))}
    {result : Outcome Payload (PgWireResult (List Response)) × Pg E}
    (bracket : BracketEnds inBlock verdict finish result)
    (outside : inBlock = false → ended)
    (later : ∀ after : Pg E, after.xact.blockState = waiting inBlock →
      AbortsUnless refused ended (rest after)) :
    AbortsUnless (refusedThrough inBlock finish refused verdict) ended
      (resume result (continueWith rest)) := by
  cases bracket with
  | answered state => exact (later _ state).map _
  | refused state =>
      cases inBlock with
      | true => exact .stays state
      | false => exact .error (.inr ⟨outside rfl, state⟩)
  | raised state =>
      rw [refusedThrough, Bool.and_false]
      cases inBlock with
      | true => exact .error (.inl state)
      | false => exact .error (.inr ⟨outside rfl, state⟩)
  | unwound => exact .quiet fun err after run => by cases run

/-- The per-statement loop leaves a block open exactly where it arrives at a
refusal. -/
theorem abortsUnless_executeStatements [TypeTable] {stmts : List (RawStmt E)}
    (content : ∀ stmt ∈ stmts, isBlank stmt.text = false)
    (clean : ∀ stmt ∈ stmts, containsNul stmt.text = false)
    (place : pg.xact.blockState = waiting inBlock) :
    AbortsUnless (refusedInBlock inBlock stmts)
      (inBlock = false ∨ (stmts.any fun stmt => endsBlock stmt.node) = true)
      (executeStatements (stmts.map RawStmt.classified) pg) := by
  induction stmts generalizing inBlock pg with
  | nil => exact .quiet fun err after run => by cases run
  | cons stmt rest inductionHypothesis =>
      have later {inBlock : Bool} {after : Pg E}
          (place : after.xact.blockState = waiting inBlock) :=
        inductionHypothesis (fun stmt member => content stmt (.tail _ member))
          (fun stmt member => clean stmt (.tail _ member)) place
      have gate : (pg.xact.isAbortedTransactionBlockState &&
          !isXactExitStmt stmt.stmtMeta) = false := by
        apply gate_admits
        cases inBlock <;> simp [place, waiting]
      rw [executeStatements_cons (content stmt (.head _)), executeOneStatement_admitted gate]
      cases classified : classifyRawStmt stmt.node with
      | none =>
          have bracket : BracketEnds inBlock (stmt.verdict .spi) stmt.finish _ :=
            withXact_ends (endsAs_runViaSpi (clean stmt (.head _))) place
          simp only [refusedInBlock, classified]
          apply bracket.continues .inl
          intro after state
          apply (later state).imp
          rintro (outside | member)
          · exact .inl outside
          · exact .inr (by simp [member])
      | some cmd =>
          dsimp only
          have ends := handleXactControlOne_ends cmd stmt.finish place
          cases fails : commitFails cmd inBlock stmt.finish with
          | true =>
              obtain ⟨err, after, failed, state⟩ := (if_pos fails).mp ends
              have commits : (cmd = .commit ∧ inBlock = true) ∧ stmt.finish.isSome = true := by
                simpa [commitFails] using fails
              obtain ⟨⟨rfl, rfl⟩, raised⟩ := commits
              have admitted : refusedInBlock true (stmt :: rest) = false := by
                simp [refusedInBlock, classified, Option.isSome_iff_ne_none.mp raised]
              rw [admitted, handleXactControl, Comp.bind_apply, failed]
              exact .error (.inr ⟨.inr (by simp [endsBlock_of_classified classified rfl]),
                state⟩)
          | false =>
              rw [if_neg (by simp [fails])] at ends
              obtain ⟨response, after, answered, state⟩ := ends
              rw [refusedInBlock_control classified fails, handleXactControl,
                Comp.bind_apply, answered]
              apply AbortsUnless.imp ((later state).map _)
              rintro (leaving | member)
              · exact .inr (by simp [endsBlock_of_classified classified leaving])
              · exact .inr (by simp [member])

end Statements

/-! ## Implicit blocks -/

/-- A step that does not leave an explicit block. -/
def StaysInBlock (before after : Pg E) : Prop :=
  InBlock before.xact → InBlock after.xact

/-- No call around the statements ends a block: a commit ends only what a
statement has marked for its end, and an abort leaves an aborted block. -/
theorem keptInBlock : Kept (StaysInBlock : Pg E → Pg E → Prop) where
  refl _ inside := inside
  trans _ _ _ first second inside := second (first inside)
  work pg effects inside := (inBlock_congr rfl).mp inside
  atSpiDepth pg depth inside := inside
  start := by
    intro pg inside
    cases state : pg.xact.blockState <;> simp [InBlock, state] at inside <;>
      simp [startTransactionCommand, state, InBlock, Pg.record]
  push := by
    intro pg inside
    unfold pushTransactionSnapshot
    split
    · exact inside
    · exact (inBlock_congr rfl).mp inside
  pop := by
    intro pg inside
    unfold popActiveSnapshot
    split <;> exact inside
  commit finish := by
    intro pg inside
    cases state : pg.xact.blockState <;> simp [InBlock, state] at inside
    case inprogress => cases finish <;> simp [commitTransactionCommand,
      commandCounterIncrement, state, InBlock]
    case subrestart depth =>
      simp only [commitTransactionCommand, state, Pg.mapXact_xact, Xact.restartSavepoint]
      split
      · trivial
      · simp [InBlock, state]
    all_goals simp [commitTransactionCommand, state, InBlock, Xact.pushSavepoint]
  abort := by
    intro pg inside
    simp [InBlock, (abortCurrent_blockState pg).1 inside]
  beginImplicit := by
    intro pg inside
    cases state : pg.xact.blockState <;> simp [InBlock, state] at inside <;>
      simp [beginImplicitTransactionBlock, state, InBlock]
  endImplicit := by
    intro pg inside
    cases state : pg.xact.blockState <;> simp [InBlock, state] at inside <;>
      simp [endImplicitTransactionBlock, state, InBlock]

section Implicit

variable {pg : Pg E} {stmt : RawStmt E}

/-- A transaction statement that does not end the block stays in it. -/
theorem processUtility_staysInBlock {command : TransactionStmt}
    (inside : endsBlock (.transactionStmt command) = false) :
    Moves StaysInBlock (processUtility command : PgM E String) := by
  have := (keptInBlock (E := E)).toIsPreorder
  have begins : ∀ tag, Moves StaysInBlock (do
      beginTransactionBlock
      setPGVariables command.options
      pure tag : PgM E String) := by
    intro tag
    apply Moves.bind
    · intro pg inBlock
      cases state : pg.xact.blockState <;> simp [InBlock, state] at inBlock <;>
        simp [beginTransactionBlock, state, InBlock]
    · intro _
      refine Moves.bind ?_ fun _ => .pure _
      intro pg
      by_cases accepted : Accepted command.options pg.xact
      · rw [setPGVariables_of_accepted accepted]
        exact (inBlock_congr rfl).mp
      · obtain ⟨payload, refused, run, state⟩ := setPGVariables_of_refused accepted
        rw [run]
        exact (inBlock_congr state).mpr
  have requires : ∀ command, Moves StaysInBlock (requireTransactionBlock command :
      PgM E Unit) := by
    intro command pg
    unfold requireTransactionBlock
    split <;> exact id
  have finishes : ∀ command gid isCommit, Moves StaysInBlock (do
      preventInTransactionBlock command
      finishPreparedTransaction gid isCommit
      pure command : PgM E String) := by
    intro command gid isCommit
    apply Moves.bind
    · intro pg
      unfold preventInTransactionBlock
      split <;> exact id
    · intro _
      refine Moves.bind ?_ fun _ => .pure _
      intro pg
      unfold finishPreparedTransaction
      split
      · exact id
      · exact (inBlock_congr rfl).mp
  unfold processUtility
  split
  case h_1 | h_2 => exact begins _
  case h_3 kind => simp [endsBlock, kind] at inside
  case h_4 kind => simp [endsBlock, kind] at inside
  case h_5 =>
    refine (requires _).bind fun _ => Moves.bind ?_ fun _ => .pure _
    intro pg inBlock
    cases state : pg.xact.blockState <;> simp [InBlock, state] at inBlock <;>
      simp [defineSavepoint, state, InBlock]
  case h_6 =>
    refine (requires _).bind fun _ => Moves.bind ?_ fun _ => .pure _
    intro pg inBlock
    cases state : pg.xact.blockState <;> cases depth : pg.xact.savepointDepth command.name <;>
      simp [InBlock, state] at inBlock <;> simp [releaseSavepoint, state, depth, InBlock]
  case h_7 =>
    refine (requires _).bind fun _ => Moves.bind ?_ fun _ => .pure _
    intro pg inBlock
    cases state : pg.xact.blockState <;> cases depth : pg.xact.savepointDepth command.name <;>
      simp [InBlock, state] at inBlock <;> simp [rollbackToSavepoint, state, depth, InBlock]
  case h_8 kind => simp [endsBlock, kind] at inside
  case h_9 | h_10 => exact finishes _ _ _

/-- A statement of the direct path that does not end the block stays in it. -/
theorem runOneDirect_staysInBlock [TypeTable] (inside : endsBlock stmt.node = false) :
    Moves StaysInBlock (runOneDirect stmt) := by
  have := (keptInBlock (E := E)).toIsPreorder
  cases ordinary : isTransactionStmt stmt.node with
  | false => exact keptInBlock.worksOnly (worksOnly_runOneDirect ordinary)
  | true =>
      cases node : stmt.node with
      | transactionStmt command =>
          unfold runOneDirect runPortal
          rw [node] at inside ⊢
          exact ((processUtility_staysInBlock inside).bind fun _ => .pure _).bind
            fun _ => .pure _
      | fetchStmt ismove portalname => simp [isTransactionStmt, node] at ordinary
      | other requiresAnalysis => simp [isTransactionStmt, node] at ordinary

/-- The end of an implicit block aborts what its body leaves. -/
theorem abortsUnless_catchImplicitBlock {body : PgM E (PgWireResult (List Response))}
    {ended : Prop} (inside : ¬ended → InBlock (body pg).2.xact) :
    AbortsUnless false ended (catchImplicitBlock body pg) := by
  have aborted : (body pg).2.abortCurrent.xact.blockState = .abort ∨
      ended ∧ (body pg).2.abortCurrent.xact.blockState = .default := by
    obtain ⟨aborts, leaves⟩ := abortCurrent_blockState (body pg).2
    by_cases inBlock : InBlock (body pg).2.xact
    · exact .inl (aborts inBlock)
    · exact .inr ⟨by_contra fun going => inBlock (inside going), leaves inBlock⟩
  rcases run : body pg with ⟨(err | responses) | payload | _, after⟩ <;> rw [run] at aborted
  · simp only [catchImplicitBlock, Comp.bind_apply, Comp.catchUnwind, run, resume_ret,
      abortCurrentTransaction_apply]
    exact .error aborted
  · simp only [catchImplicitBlock, Comp.bind_apply, Comp.catchUnwind, run, resume_ret]
    exact .quiet fun err final impossible => by cases impossible
  · simp only [catchImplicitBlock, Comp.bind_apply, Comp.catchUnwind, run, resume_ret,
      abortCurrentTransaction_apply]
    exact .error aborted
  · simp only [catchImplicitBlock, Comp.bind_apply, Comp.catchUnwind, run]
    exact .quiet fun err final impossible => by cases impossible

end Implicit

/-! ## Messages -/

/-- A batch is refused, in an open block, without raising: through SPI, by a
return code of a statement in a bracket of its own. -/
def batchRefused (backend : ExecutionBackend) (stmts : List (RawStmt E)) : Bool :=
  match backend with
  | .spi =>
      if 1 < (nonEmpty stmts).length ∧ hasXactControl stmts = false then
        false
      else
        refusedInBlock true (nonEmpty stmts)
  | .direct => false

/-- A query body is refused without raising, by the parser or as a batch. -/
def queryRefused (backend : ExecutionBackend) (body : SimpleQuery E) : Bool :=
  containsNul body.text ||
    match body.parsed with
    | .error _ => true
    | .ok stmts => batchRefused backend stmts

/-- A `Parse` is refused without raising. -/
def parseRefused (backend : ExecutionBackend) (request : ParseRequest) : Bool :=
  containsNul request.sql || (request.verdict backend == .refuses && request.finish.isNone)

/-- The execution of a plan is refused inside its bracket: by an SPI return code
or by a parameter that does not decode. -/
def planRefuses (request : ExecuteRequest E) : BackendPlan → Bool
  | .spi plan => request.spiRcs.settle
      (request.spiBodyVerdict plan (request.formats plan.baseSchema.length)) == .refuses
  | .direct plan => decodeVerdict (request.parameters.zip
      (request.formats plan.baseSchema.length).paramIsBinary) == .refuses
  | .xactControl _ => false

/-- An `Execute` is refused without raising. -/
def executeRefused (statement : PreparedStatement) (request : ExecuteRequest E) : Bool :=
  request.parameters.length != statement.plan.paramCount ||
    (request.formatsCover statement.plan.columnCount &&
      (planRefuses request statement.plan && request.finish.isNone))

/-- A message is refused in an open block without raising, so that nothing
aborts the block. -/
def refusedUnraised (session : Session E) : Message E → Bool
  | .query backend body => queryRefused backend body
  | .parse backend request => parseRefused backend request
  | .execute index request =>
      match session.statements[index]? with
      | none => true
      | some statement => executeRefused statement request

/-- A statement that the message executes ends the block it is executed in. -/
def EndsBlock (session : Session E) : Message E → Prop
  | .query _ body => ∃ stmts, body.parsed = .ok stmts ∧
      ((nonEmpty stmts).any fun stmt => endsBlock stmt.node) = true
  | .parse _ _ => False
  | .execute index _ => ∃ statement cmd, session.statements[index]? = some statement ∧
      statement.plan = .xactControl cmd ∧ (cmd == .begin) = false

section Dispatch

variable [TypeTable] {pg : Pg E}

/-- A single statement of the direct path never leaves the block open with an
error. -/
theorem abortsUnless_executeSingleDirect {stmt : RawStmt E} {ended : Prop}
    (content : isBlank stmt.text = false) (inBlock : pg.xact.blockState = .inprogress) :
    AbortsUnless false ended (executeSingleDirect [stmt] pg) := by
  have single : executeSingleDirect [stmt] pg =
      resume (withXact stmt.node.analyzeRequiresSnapshot stmt.finish (runOneDirect stmt) pg)
        fun result => pure (result.map fun response => [response]) := by
    rw [executeSingleDirect_cons content [] (gate_admits fun aborted => by simp_all)]
    apply resume_congr
    intro result _
    cases result <;> rfl
  have returns : Returns (runOneDirect stmt) fun result => ∃ value, result = .ok value :=
    (Returns.any _).bind fun _ _ => .pure ⟨_, rfl⟩
  rw [single]
  exact (abortsUnless_of_inPlace (Body.oneDirect stmt).inPlace returns inBlock).map _

/-- On either backend, a batch leaves the block open exactly where it is
refused. -/
theorem abortsUnless_batchLoop (backend : ExecutionBackend) {stmts : List (RawStmt E)}
    (clean : ∀ stmt ∈ stmts, containsNul stmt.text = false)
    (inBlock : pg.xact.blockState = .inprogress) :
    AbortsUnless (batchRefused backend stmts)
      (((nonEmpty stmts).any fun stmt => endsBlock stmt.node) = true)
      (batchLoop backend stmts (nonEmpty stmts) pg) := by
  have inside : InBlock pg.xact := by simp [InBlock, inBlock]
  have content : ∀ stmt ∈ nonEmpty stmts, isBlank stmt.text = false :=
    fun stmt member => not_blank_of_mem_nonEmpty member
  cases backend with
  | spi =>
      simp only [batchRefused, batchLoop]
      split
      · apply abortsUnless_catchImplicitBlock
        exact fun _ => keptInBlock.implicitBlockLoopSpi _ pg inside
      · apply (abortsUnless_executeStatements content
          (fun stmt member => clean stmt (mem_of_mem_nonEmpty member)) inBlock).imp
        rintro (impossible | member)
        · cases impossible
        · exact member
  | direct =>
      simp only [batchRefused, batchLoop]
      split
      · apply abortsUnless_catchImplicitBlock
        intro going
        apply keptInBlock.implicitBlockLoopDirect _ pg inside
        intro stmt member
        apply runOneDirect_staysInBlock
        simpa using fun ends => going (List.any_eq_true.mpr ⟨stmt, member, ends⟩)
      · next short =>
        match statements : nonEmpty stmts with
        | [] => exact .quiet fun err after run => by cases run
        | [stmt] =>
            exact abortsUnless_executeSingleDirect (content stmt (by simp [statements])) inBlock
        | _ :: _ :: _ => simp [statements] at short

theorem abortsUnless_simpleQuery (backend : ExecutionBackend) (body : SimpleQuery E)
    (inBlock : pg.xact.blockState = .inprogress) :
    AbortsUnless (queryRefused backend body)
      (∃ stmts, body.parsed = .ok stmts ∧
        ((nonEmpty stmts).any fun stmt => endsBlock stmt.node) = true)
      (simpleQuery backend body pg) := by
  unfold queryRefused
  cases text : containsNul body.text with
  | true =>
      obtain ⟨err, run⟩ := simpleQuery_unparsed backend pg (.inl text)
      rw [Bool.true_or, run]
      exact .stays inBlock
  | false =>
      rw [Bool.false_or]
      cases parsed : body.parsed with
      | error report =>
          obtain ⟨err, run⟩ := simpleQuery_unparsed backend pg (.inr ⟨report, parsed⟩)
          rw [run]
          exact .stays inBlock
      | ok stmts =>
          rw [simpleQuery_eq_batchLoop backend text parsed]
          apply AbortsUnless.imp (abortsUnless_batchLoop backend
            (fun stmt member => body.containsNul_slice text parsed member) inBlock)
          exact fun ends => ⟨stmts, rfl, ends⟩

theorem abortsUnless_prepare (backend : ExecutionBackend) (request : ParseRequest)
    (inBlock : pg.xact.blockState = .inprogress) :
    AbortsUnless (parseRefused backend request) False (prepare backend request pg) := by
  unfold parseRefused
  cases text : containsNul request.sql with
  | true =>
      simp only [prepare, text, if_true, Bool.true_or]
      exact .stays inBlock
  | false =>
      rw [Bool.false_or, prepare_eq_withXact backend text]
      exact (withXact_ends (endsAs_prepareBody backend request text) inBlock).abortsUnless

omit [TypeTable] in
/-- A body that is not refused returns values only. -/
theorem returns_of_not_refused {body : PgM E (PgWireResult α)} {verdict : Verdict}
    {effects : List E} {answers : α → Prop} (ends : EndsAs body verdict effects answers)
    (admitted : verdict ≠ .refuses) :
    Returns body fun result => ∃ value, result = .ok value := by
  intro pg result after run
  cases verdict with
  | succeeds =>
      obtain ⟨value, _, returned⟩ := ends pg
      cases run.symm.trans returned
      exact ⟨value, rfl⟩
  | raises =>
      obtain ⟨payload, depth, raised⟩ := ends pg
      cases run.symm.trans raised
  | refuses => exact absurd rfl admitted

omit [TypeTable] in
/-- A direct `Execute` leaves the block open where a parameter does not decode. -/
theorem abortsUnless_directExecute {plan : DirectBackendPlan} {request : ExecuteRequest E}
    {formats : BoundFormats} {ended : Prop} (inBlock : pg.xact.blockState = .inprogress) :
    AbortsUnless (decodeVerdict (request.parameters.zip formats.paramIsBinary) == .refuses &&
        request.finish.isNone) ended
      (withXact true request.finish (directExecuteBody plan request formats) pg) := by
  have decodes := endsAs_decodeParameters (E := E)
    (request.parameters.zip formats.paramIsBinary)
  by_cases refused : decodeVerdict (request.parameters.zip formats.paramIsBinary) = .refuses
  · have ends : EndsAs (directExecuteBody plan request formats) .refuses [] fun _ => True := by
      intro pg
      rw [refused] at decodes
      obtain ⟨err, run⟩ := decodes pg
      exact ⟨err, by simp [directExecuteBody, run]⟩
    rw [refused]
    exact (withXact_ends ends inBlock).abortsUnless
  · rw [beq_false_of_ne refused, Bool.false_and]
    refine abortsUnless_of_inPlace (inPlace_directExecuteBody plan request formats) ?_ inBlock
    refine (returns_of_not_refused decodes refused).bind ?_
    rintro _ ⟨datums, rfl⟩
    exact (Returns.any _).bind fun _ _ => (Returns.any _).bind fun _ _ => .pure ⟨_, rfl⟩

omit [TypeTable] in
/-- The execution of a plan that the binding gets to. -/
theorem abortsUnless_bound {statement : PreparedStatement} {request : ExecuteRequest E}
    (binds : request.Binds statement.plan) (inBlock : pg.xact.blockState = .inprogress) :
    AbortsUnless (planRefuses request statement.plan && request.finish.isNone)
      (∃ cmd, statement.plan = .xactControl cmd ∧ (cmd == .begin) = false)
      (statement.execute request pg) := by
  cases choice : statement.plan with
  | spi plan =>
      rw [PreparedStatement.execute_spi choice binds, withSpi_eq_withXact]
      exact (withXact_ends ((endsAs_spiExecuteBody plan request _).spiSession request.spiRcs)
        inBlock).abortsUnless
  | direct plan =>
      rw [PreparedStatement.execute_direct choice binds]
      exact abortsUnless_directExecute inBlock
  | xactControl cmd =>
      rw [PreparedStatement.execute_xactControl choice binds]
      have place : pg.xact.blockState = waiting true := inBlock
      have ends := handleXactControlOne_ends cmd request.finish place
      cases fails : commitFails cmd true request.finish with
      | true =>
          obtain ⟨err, after, failed, state⟩ := (if_pos fails).mp ends
          have commits : cmd = .commit ∧ request.finish.isSome = true := by
            simpa [commitFails] using fails
          rw [failed]
          exact .error (.inr ⟨⟨cmd, rfl, by simp [commits.1]⟩, state⟩)
      | false =>
          rw [if_neg (by simp [fails])] at ends
          obtain ⟨response, after, answered, _⟩ := ends
          rw [answered]
          exact .quiet fun err final impossible => by cases impossible

omit [TypeTable] in
theorem abortsUnless_execute {statement : PreparedStatement} {request : ExecuteRequest E}
    (inBlock : pg.xact.blockState = .inprogress) :
    AbortsUnless (executeRefused statement request)
      (∃ cmd, statement.plan = .xactControl cmd ∧ (cmd == .begin) = false)
      (statement.execute request pg) := by
  unfold executeRefused
  by_cases counted : request.parameters.length = statement.plan.paramCount
  · rw [bne_eq_false_iff_eq.mpr counted, Bool.false_or]
    cases covered : request.formatsCover statement.plan.columnCount with
    | true =>
        rw [Bool.true_and]
        exact abortsUnless_bound ⟨counted, covered⟩ inBlock
    | false =>
        obtain ⟨len, index, run⟩ :=
          PreparedStatement.execute_of_uncovered pg counted covered
        rw [Bool.false_and, run]
        exact .quiet fun err final impossible => by cases impossible
  · obtain ⟨err, run⟩ := PreparedStatement.execute_of_miscounted pg counted
    rw [bne_iff_ne.mpr counted, Bool.true_or, run]
    exact .stays inBlock

end Dispatch

/-! ## Sessions -/

section Sessions

variable [TypeTable]

/-- A message that is answered with an error inside an open block aborts the
block, unless a statement of its own has ended the block before and nothing is
open any more. -/
def ErrorAborts (session : Session E) (message : Message E) (next : Session E) : Prop :=
  session.alive = true → session.pg.xact.blockState = .inprogress →
    (session.receive message).1.isError = true →
      next.pg.xact.blockState = .abort ∨
        EndsBlock session message ∧ next.pg.xact.blockState = .default

omit [TypeTable] in
/-- Inside an open block, nothing is refused without raising. -/
def ErrorsRaise (session : Session E) (message : Message E) (_ : Session E) : Prop :=
  session.alive = true → session.pg.xact.blockState = .inprogress →
    refusedUnraised session message = false

omit [TypeTable] in
/-- The answer to a dispatch is an error that aborts the block exactly if the
dispatch was not refused. -/
theorem conclude_aborts_iff {refused : Bool} {ended : Prop} {session : Session E}
    {result : Outcome Payload (PgWireResult α) × Pg E} {reply : α → Reply}
    {prepared : α → List PreparedStatement} (aborts : AbortsUnless refused ended result)
    (answer : ∀ value, (reply value).isError = false) :
    ((session.conclude result reply prepared).1.isError = true →
      (session.conclude result reply prepared).2.pg.xact.blockState = .abort ∨
        ended ∧ (session.conclude result reply prepared).2.pg.xact.blockState = .default) ↔
      refused = false := by
  constructor
  · intro held
    by_contra remains
    obtain ⟨err, after, rfl, inBlock⟩ := aborts.remains (by simpa using remains)
    have left := held rfl
    simp [Session.conclude, inBlock] at left
  · intro admitted isError
    rcases result with ⟨(err | value) | payload | _, after⟩
    · exact aborts.aborts admitted err after rfl
    · rw [Session.conclude, answer value] at isError
      cases isError
    · cases isError
    · cases isError

theorem receive_aborts_iff {session : Session E} {message : Message E}
    (alive : session.alive = true) (inBlock : session.pg.xact.blockState = .inprogress) :
    ((session.receive message).1.isError = true →
      (session.receive message).2.pg.xact.blockState = .abort ∨
        EndsBlock session message ∧
          (session.receive message).2.pg.xact.blockState = .default) ↔
      refusedUnraised session message = false := by
  simp only [Session.receive, alive, if_true]
  cases message with
  | query backend body =>
      exact conclude_aborts_iff (abortsUnless_simpleQuery backend body inBlock) fun _ => rfl
  | parse backend request =>
      exact conclude_aborts_iff (abortsUnless_prepare backend request inBlock) fun _ => rfl
  | execute index request =>
      cases found : session.statements[index]? with
      | none => simp [refusedUnraised, found, Reply.isError, inBlock]
      | some statement =>
          simp only [refusedUnraised, found, EndsBlock]
          apply conclude_aborts_iff ((abortsUnless_execute inBlock).imp ?_) fun _ => rfl
          rintro ⟨cmd, choice, leaving⟩
          exact ⟨statement, cmd, rfl, choice, leaving⟩

/-- Along a run every error inside an open block aborts the block exactly if
nothing is refused there without raising. -/
theorem errors_abort_along_run_iff_raised {source target : Session E}
    {messages : List (Message E)} :
    RunWith (sessions E) ErrorAborts source messages target ↔
      RunWith (sessions E) ErrorsRaise source messages target := by
  refine RunWith.congr (fun _ => True) (fun _ _ _ _ _ => trivial) ?_ trivial
  intro session message next _ step
  subst step
  apply forall_congr'
  intro alive
  apply forall_congr'
  intro inBlock
  exact receive_aborts_iff alive inBlock

end Sessions

/-! ## A refused savepoint -/

/-- `BEGIN`, an insertion, and a `SAVEPOINT`, which SPI refuses with a return
code. -/
def savepointInBlock : List (Message Nat) :=
  [.query .spi (.batch [.control "BEGIN" .begin]),
    .query .spi (.batch [.command "INSERT INTO t VALUES (1)" (.other true) (.ok [1])]),
    .query .spi (.batch [.control "SAVEPOINT s" .savepoint])]

/-- Not every error inside an open block of a fresh session aborts it: the block
of a refused `SAVEPOINT` stays open. -/
theorem refused_savepoint_keeps_block :
    ¬∀ [TypeTable] (messages : List (Message Nat)) (target : Session Nat),
      Run (sessions Nat) (Session.fresh .standard) messages target →
        RunWith (sessions Nat) ErrorAborts (Session.fresh .standard) messages target := by
  intro always
  let _ : TypeTable := ⟨fun _ => none, by simp⟩
  have run : ∃ target, Run (sessions Nat) (Session.fresh .standard) savepointInBlock
      target :=
    ⟨_, .cons rfl trivial (.cons rfl trivial (.cons rfl trivial (.nil _)))⟩
  obtain ⟨target, run⟩ := run
  obtain _ | ⟨rfl, _, _ | ⟨rfl, _, _ | ⟨rfl, aborts, _⟩⟩⟩ := always savepointInBlock target run
  have raised := (receive_aborts_iff rfl rfl).mp (aborts rfl rfl)
  cases raised

end PgTransport.Properties
