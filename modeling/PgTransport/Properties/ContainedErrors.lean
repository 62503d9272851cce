import PgTransport.Backend.Works

/-!
# Errors raised inside a bracket

`with_xact` and `with_spi` run their body under `catch_unwind`, and open and
close the transaction outside it.  An error that the body raises is answered and
leaves nothing open but an aborted block; an error raised on the way in or on
the way out unwinds through the bracket.
-/

namespace PgTransport.Properties

open PgTransport.Backend
open PgTransport.Computation
open PgTransport.Postgres
open PgTransport.Wire

variable {E : Type} {α : Type}

/-! ## Brackets whose every step may raise -/

/-- The errors that the steps of a bracket outside its body raise, if any:
`StartTransactionCommand`, the snapshot, its release, and
`CommitTransactionCommand`. -/
structure StepErrors where
  start : Option ErrorReport
  push : Option ErrorReport
  pop : Option ErrorReport
  commit : Option ErrorReport

/-- The steps before the body. -/
def enterRaising (errors : StepErrors) (needsSnapshot : Bool) : PgM E Unit := do
  raiseIf errors.start
  startTransactionCommand
  raiseIf (if needsSnapshot then errors.push else none)
  pushIfNeeded needsSnapshot

/-- The steps after a body that returned. -/
def leaveRaising (errors : StepErrors) (needsSnapshot : Bool) : PgM E Unit := do
  raiseIf (if needsSnapshot then errors.pop else none)
  popIfNeeded needsSnapshot
  commitTransactionCommand errors.commit

/-- `with_xact`. -/
def withXactRaising (errors : StepErrors) (needsSnapshot : Bool)
    (body : PgM E (PgWireResult α)) : PgM E (PgWireResult α) := do
  enterRaising errors needsSnapshot
  let outcome ← Comp.catchUnwind body
  match outcome with
  | .ok (.ok value) => do
      leaveRaising errors needsSnapshot
      pure (.ok value)
  | .ok (.error err) => do
      leaveRaising errors needsSnapshot
      pure (.error err)
  | .error payload => do
      abortCurrentTransaction
      pure (.error (panicToPgwire payload))

theorem enterRaising_commit (finish : Option ErrorReport) (needsSnapshot : Bool) :
    (enterRaising ⟨none, none, none, finish⟩ needsSnapshot : PgM E Unit) = (do
      startTransactionCommand
      pushIfNeeded needsSnapshot) := by
  cases needsSnapshot <;> rfl

theorem leaveRaising_commit (finish : Option ErrorReport) (needsSnapshot : Bool) :
    (leaveRaising ⟨none, none, none, finish⟩ needsSnapshot : PgM E Unit) = (do
      popIfNeeded needsSnapshot
      commitTransactionCommand finish) := by
  cases needsSnapshot <;> rfl

/-- Where only the commit raises, this is the bracket of the other modules. -/
theorem withXactRaising_commit (finish : Option ErrorReport) (needsSnapshot : Bool)
    (body : PgM E (PgWireResult α)) :
    withXactRaising ⟨none, none, none, finish⟩ needsSnapshot body =
      withXact needsSnapshot finish body := by
  have leaves (result : PgWireResult α) : (do
        leaveRaising ⟨none, none, none, finish⟩ needsSnapshot
        pure result : PgM E (PgWireResult α)) = (do
        popIfNeeded needsSnapshot
        commitTransactionCommand finish
        pure result) := by
    rw [leaveRaising_commit, bind_assoc]
  rw [withXactRaising, withXact, enterRaising_commit, bind_assoc]
  apply bind_congr
  intro _
  apply bind_congr
  intro _
  apply bind_congr
  rintro (payload | err | value)
  · rfl
  · exact leaves (.error err)
  · exact leaves (.ok value)

/-- The closure of `with_spi`, in which `SPI_connect` and `SPI_finish` may
raise. -/
def spiSessionRaising (rcs : SpiRcs) (connectError finishError : Option ErrorReport)
    (body : PgM E (PgWireResult α)) : PgM E (PgWireResult α) := do
  raiseIf connectError
  let connectRc ← spiConnect rcs.connect
  if connectRc ≠ SPI_OK_CONNECT then
    pure (.error (spiRcError "SPI_connect" connectRc))
  else do
    let bodyResult ← body
    raiseIf finishError
    let finishRc ← spiFinish rcs.finish
    if finishRc ≠ SPI_OK_FINISH then
      pure (bodyResult.andError (spiRcError "SPI_finish" finishRc))
    else
      pure bodyResult

/-! ## Bodies -/

/-- The session is inside an explicit block. -/
def InBlock (xact : Xact E) : Prop :=
  match xact.blockState with
  | .inprogress | .abort | .subbegin _ | .subrelease _ | .subrestart _ => True
  | _ => False

/-- Where a computation raises, the session is inside an explicit block exactly
if it was at the start. -/
def RaisesInPlace (step : PgM E α) : Prop :=
  ∀ pg payload after, step pg = (.unwind payload, after) →
    (InBlock after.xact ↔ InBlock pg.xact)

/-- The body of a bracket; where it raises, it has neither opened nor ended a
block. -/
structure Body (E : Type) (α : Type) where
  run : PgM E (PgWireResult α)
  inPlace : RaisesInPlace run

/-- The body of an SPI session, which leaves the block to its bracket. -/
structure SpiBody (E : Type) (α : Type) where
  run : PgM E (PgWireResult α)
  works : WorksOnly run

theorem inBlock_congr {first second : Xact E} (same : first.blockState = second.blockState) :
    InBlock first ↔ InBlock second := by
  unfold InBlock
  rw [same]

theorem inPlace_of_worksOnly {step : PgM E α} (works : WorksOnly step) :
    RaisesInPlace step := by
  intro pg payload after raised
  obtain ⟨effects, ⟨value, run⟩ | ⟨other, depth, run⟩⟩ := works pg
  · rw [run] at raised
    cases raised
  · rw [run] at raised
    cases raised
    exact inBlock_congr rfl

/-- A computation that goes on after a step which leaves the block alone. -/
theorem RaisesInPlace.bind {β : Type} {step : PgM E α} {next : α → PgM E β}
    (first : RaisesInPlace step)
    (stays : ∀ pg value middle, step pg = (.ret value, middle) →
      (InBlock middle.xact ↔ InBlock pg.xact))
    (second : ∀ value, RaisesInPlace (next value)) : RaisesInPlace (step >>= next) := by
  intro pg payload after raised
  rw [Comp.bind_apply] at raised
  rcases ended : step pg with ⟨value | other | _, middle⟩ <;> rw [ended] at raised
  · exact (second value middle payload after raised).trans (stays pg value middle ended)
  · cases raised
    exact first pg _ _ ended
  · cases raised

/-- A computation behind which nothing raises. -/
theorem RaisesInPlace.before {β : Type} {step : PgM E α} {next : α → PgM E β}
    (first : RaisesInPlace step)
    (quiet : ∀ value pg payload after, next value pg ≠ (.unwind payload, after)) :
    RaisesInPlace (step >>= next) := by
  intro pg payload after raised
  rw [Comp.bind_apply] at raised
  rcases ended : step pg with ⟨value | other | _, middle⟩ <;> rw [ended] at raised
  · exact absurd raised (quiet value middle payload after)
  · cases raised
    exact first pg _ _ ended
  · cases raised

theorem pure_quiet (value : α) (pg : Pg E) (payload : Payload) (after : Pg E) :
    (pure value : PgM E α) pg ≠ (.unwind payload, after) := by
  simp

/-- `SPI_connect`, the body and `SPI_finish` raise in place. -/
theorem inPlace_spiSessionRaising (rcs : SpiRcs)
    (connectError finishError : Option ErrorReport) (body : SpiBody E α) :
    RaisesInPlace (spiSessionRaising rcs connectError finishError body.run) := by
  intro pg payload after raised
  cases connectError with
  | some report =>
      simp only [spiSessionRaising, raiseIf_some, Comp.bind_apply, ereport_apply,
        resume_unwind, Prod.mk.injEq] at raised
      rw [← raised.2]
  | none =>
      by_cases connected : rcs.connect = SPI_OK_CONNECT
      · obtain ⟨effects, ⟨value, run⟩ | ⟨other, depth, run⟩⟩ :=
          body.works { pg with spiDepth := pg.spiDepth + 1 }
        · cases finishError with
          | none =>
              by_cases finished : rcs.finish = SPI_OK_FINISH <;>
                simp [spiSessionRaising, spiConnect, spiFinish, Pg.closeSession, connected, run,
                  finished] at raised
          | some report =>
              simp [spiSessionRaising, spiConnect, connected, run] at raised
              rw [← raised.2]
              exact inBlock_congr rfl
        · simp [spiSessionRaising, spiConnect, connected, run] at raised
          rw [← raised.2]
          exact inBlock_congr rfl
      · simp [spiSessionRaising, spiConnect, connected] at raised

theorem inPlace_setPGVariables (options : List TransactionOption) :
    RaisesInPlace (setPGVariables options : PgM E Unit) := by
  intro pg payload after raised
  by_cases accepted : Accepted options pg.xact
  · rw [setPGVariables_of_accepted accepted] at raised
    cases raised
  · obtain ⟨other, stopped, stops, state⟩ := setPGVariables_of_refused accepted
    rw [stops] at raised
    cases raised
    exact inBlock_congr state

theorem inPlace_endTransactionBlock (chain : Bool) :
    RaisesInPlace (endTransactionBlock chain : PgM E Bool) := by
  intro pg payload after raised
  cases state : pg.xact.blockState <;> cases chain <;>
    simp [endTransactionBlock, state] at raised <;> rw [← raised.2]

theorem inPlace_userAbortTransactionBlock (chain : Bool) :
    RaisesInPlace (userAbortTransactionBlock chain : PgM E Unit) := by
  intro pg payload after raised
  cases state : pg.xact.blockState <;> cases chain <;>
    simp [userAbortTransactionBlock, state] at raised <;> rw [← raised.2]

/-- A savepoint command outside a block, or one that raises, changes nothing. -/
theorem inPlace_savepoint (command : String) {step : PgM E Unit} (tag : String)
    (unchanged : ∀ pg payload after, step pg = (.unwind payload, after) → after = pg) :
    RaisesInPlace (do requireTransactionBlock command; step; pure tag : PgM E String) := by
  intro pg payload after raised
  by_cases inside : pg.xact.isTransactionBlock = true
  · rcases ended : step pg with ⟨_ | other | _, middle⟩ <;>
      simp [requireTransactionBlock, inside, ended] at raised
    rw [← raised.2, unchanged pg _ _ ended]
  · simp [requireTransactionBlock, inside] at raised
    rw [← raised.2]

theorem inPlace_finishPrepared (command : String) (gid : String) (isCommit : Bool) :
    RaisesInPlace (do
      preventInTransactionBlock command
      finishPreparedTransaction gid isCommit
      pure command : PgM E String) := by
  intro pg payload after raised
  by_cases inside : pg.xact.isTransactionBlock = true
  · simp [preventInTransactionBlock, inside] at raised
    rw [← raised.2]
  · cases found : pg.xact.prepared.find? fun entry => entry.1 = gid <;>
      simp [preventInTransactionBlock, inside, finishPreparedTransaction, found] at raised
    rw [← raised.2]

/-- A transaction statement raises in place: only `BEGIN` raises behind a
change of the block, and what it begins is not yet a block. -/
theorem inPlace_processUtility (command : TransactionStmt) :
    RaisesInPlace (processUtility command : PgM E String) := by
  have begins : ∀ tag, RaisesInPlace (do
      beginTransactionBlock
      setPGVariables command.options
      pure tag : PgM E String) := by
    intro tag
    apply RaisesInPlace.bind
    · intro pg payload after raised
      cases state : pg.xact.blockState <;> simp [beginTransactionBlock, state] at raised
    · intro pg value middle run
      cases state : pg.xact.blockState <;> simp [beginTransactionBlock, state] at run <;>
        rw [← run] <;> simp [InBlock, state]
    · exact fun _ => (inPlace_setPGVariables _).before fun _ => pure_quiet _
  unfold processUtility
  split
  case h_1 | h_2 => exact begins _
  case h_3 => exact (inPlace_endTransactionBlock _).before fun _ => pure_quiet _
  case h_4 => exact (inPlace_userAbortTransactionBlock _).before fun _ => pure_quiet _
  case h_5 =>
    apply inPlace_savepoint
    intro pg payload after raised
    cases state : pg.xact.blockState <;> simp [defineSavepoint, state] at raised
    exact raised.2.symm
  case h_6 =>
    apply inPlace_savepoint
    intro pg payload after raised
    cases state : pg.xact.blockState <;> cases depth : pg.xact.savepointDepth command.name <;>
      simp [releaseSavepoint, state, depth] at raised <;> exact raised.2.symm
  case h_7 =>
    apply inPlace_savepoint
    intro pg payload after raised
    cases state : pg.xact.blockState <;> cases depth : pg.xact.savepointDepth command.name <;>
      simp [rollbackToSavepoint, state, depth] at raised <;> exact raised.2.symm
  case h_8 =>
    refine RaisesInPlace.before ?_ fun _ => pure_quiet _
    refine (inPlace_endTransactionBlock _).before fun marked pg payload after => ?_
    cases marked <;> cases state : pg.xact.blockState <;> simp [markPrepare, state]
  case h_9 | h_10 => exact inPlace_finishPrepared _ _ _

theorem inPlace_runPortal (node : Node) (portal : Except ErrorReport (PortalRun E)) :
    RaisesInPlace (runPortal node portal) := by
  cases ordinary : isTransactionStmt node with
  | false => exact inPlace_of_worksOnly (worksOnly_runPortal ordinary portal)
  | true =>
      cases node with
      | transactionStmt command =>
          exact (inPlace_processUtility command).before fun _ => pure_quiet _
      | fetchStmt ismove portalname => cases ordinary
      | other requiresAnalysis => cases ordinary

/-! ## The bodies of the bridge -/

/-- A body that leaves the block to its bracket: the two `prepare`s, and the
execution of anything but a transaction statement. -/
def Body.ofWorksOnly (run : PgM E (PgWireResult α)) (works : WorksOnly run) : Body E α :=
  ⟨run, inPlace_of_worksOnly works⟩

/-- The body of a single statement on the direct path. -/
def Body.oneDirect [TypeTable] (stmt : RawStmt E) : Body E Response :=
  ⟨runOneDirect stmt, (inPlace_runPortal _ _).before fun _ => pure_quiet _⟩

theorem inPlace_directExecuteBody (backend : DirectBackendPlan) (request : ExecuteRequest E)
    (formats : BoundFormats) : RaisesInPlace (directExecuteBody backend request formats) := by
  have stays : ∀ {β : Type} {step : PgM E β}, WorksOnly step → ∀ pg value middle,
      step pg = (.ret value, middle) → (InBlock middle.xact ↔ InBlock pg.xact) := by
    intro β step works pg value middle returned
    obtain ⟨effects, ⟨other, run⟩ | ⟨payload, depth, run⟩⟩ := works pg <;>
      rw [run] at returned <;> cases returned
    exact inBlock_congr rfl
  have decodes := worksOnly_decodeParameters (E := E)
    (request.parameters.zip formats.paramIsBinary)
  apply (inPlace_of_worksOnly decodes).bind (stays decodes)
  rintro (err | datums)
  · exact inPlace_of_worksOnly (.pure _)
  · have plans := worksOnly_getPlan (E := E) backend.source request.currentDesc
    exact (inPlace_of_worksOnly plans).bind (stays plans) fun _ =>
      (inPlace_runPortal _ _).before fun _ => pure_quiet _

/-- The body of a direct `Execute`. -/
def Body.directExecute (backend : DirectBackendPlan) (request : ExecuteRequest E)
    (formats : BoundFormats) : Body E Response :=
  ⟨directExecuteBody backend request formats,
    inPlace_directExecuteBody backend request formats⟩

/-! ## Calls of the brackets -/

/-- A call of `with_xact` or `with_spi`. -/
inductive BracketCall (E : Type) (α : Type) where
  | withXact (needsSnapshot : Bool) (body : Body E α)
  | withSpi (rcs : SpiRcs) (connectError finishError : Option ErrorReport)
      (body : SpiBody E α)

namespace BracketCall

/-- The bracket takes a snapshot. -/
def needsSnapshot : BracketCall E α → Bool
  | withXact needsSnapshot _ => needsSnapshot
  | withSpi _ _ _ _ => true

/-- What the bracket runs under `catch_unwind`. -/
def body : BracketCall E α → Body E α
  | withXact _ body => body
  | withSpi rcs connectError finishError body =>
      ⟨spiSessionRaising rcs connectError finishError body.run,
        inPlace_spiSessionRaising rcs connectError finishError body⟩

/-- The call, with the errors that its own steps raise. -/
def run (errors : StepErrors) (call : BracketCall E α) : PgM E (PgWireResult α) :=
  withXactRaising errors call.needsSnapshot call.body.run

/-- The steps of the call in a line, without the `catch_unwind`: an error that
any step raises ends them. -/
def steps (errors : StepErrors) (call : BracketCall E α) : PgM E (PgWireResult α) := do
  enterRaising errors call.needsSnapshot
  let result ← call.body.run
  leaveRaising errors call.needsSnapshot
  pure result

/-- The steps arrive at the body, and it is the body that raises. -/
def BodyRaises (errors : StepErrors) (call : BracketCall E α) (pg : Pg E) : Prop :=
  ∃ inside payload after, enterRaising errors call.needsSnapshot pg = (.ret (), inside) ∧
    call.body.run inside = (.unwind payload, after)

end BracketCall

/-- The call is answered with an error.  A session outside a block is left
without a transaction, and a session inside one in an aborted block. -/
def ContainsError (pg : Pg E) (result : Outcome Payload (PgWireResult α) × Pg E) : Prop :=
  ∃ err after, result = (.ret (.error err), after) ∧
    (pg.xact.blockState = .default → after.xact.blockState = .default) ∧
    (InBlock pg.xact → after.xact.blockState = .abort)

/-- An abort leaves an aborted block, or no transaction at all. -/
theorem abortCurrent_blockState (pg : Pg E) :
    (InBlock pg.xact → pg.abortCurrent.xact.blockState = .abort) ∧
      (¬InBlock pg.xact → pg.abortCurrent.xact.blockState = .default) := by
  constructor
  · intro inside
    cases state : pg.xact.blockState <;> simp [InBlock, state] at inside <;>
      simp [Pg.abortCurrent, state, Xact.abortLevel]
  · intro outside
    cases state : pg.xact.blockState <;> simp [InBlock, state] at outside <;>
      simp [Pg.abortCurrent, state, Xact.rollback, Xact.cleanupTransaction]

/-- Entering a bracket neither opens nor ends a block. -/
theorem enterRaising_inBlock {errors : StepErrors} {needsSnapshot : Bool} {pg inside : Pg E}
    (enter : enterRaising errors needsSnapshot pg = (.ret (), inside)) :
    InBlock inside.xact ↔ InBlock pg.xact := by
  unfold enterRaising at enter
  cases start : errors.start with
  | some report => simp [start] at enter
  | none =>
      cases needsSnapshot with
      | false =>
          cases state : pg.xact.blockState <;>
            simp [start, startTransactionCommand, state, pushIfNeeded] at enter <;>
            subst enter <;> simp [InBlock, state, Xact.startTransaction]
      | true =>
          cases push : errors.push with
          | some report =>
              cases state : pg.xact.blockState <;>
                simp [start, startTransactionCommand, state, push] at enter
          | none =>
              cases state : pg.xact.blockState <;>
                simp [start, startTransactionCommand, state, push, pushIfNeeded,
                  pushTransactionSnapshot, assertionFailure, Xact.startTransaction,
                  Xact.isAbortedTransactionBlockState] at enter <;>
                rw [← enter] <;> simp [InBlock, state]

/-- A call of a bracket in which a step raises is answered with an error, and
leaves nothing open but an aborted block, exactly if the raising step is the
body. -/
theorem error_contained_iff_body_raises (errors : StepErrors) (call : BracketCall E α)
    (pg : Pg E) {payload : Payload} {middle : Pg E}
    (raises : call.steps errors pg = (.unwind payload, middle)) :
    ContainsError pg (call.run errors pg) ↔ call.BodyRaises errors pg := by
  simp only [BracketCall.steps, Comp.bind_apply] at raises
  rcases entered : enterRaising errors call.needsSnapshot pg with ⟨_ | other | _, inside⟩ <;>
    simp only [entered, resume_ret, resume_unwind, resume_halt, Comp.bind_apply] at raises
  · rcases ended : call.body.run inside with ⟨result | other | _, after⟩ <;>
      simp only [ended, resume_ret, resume_unwind, resume_halt, Comp.bind_apply] at raises
    · -- the body returns, so it is the way out that raises
      rcases left : leaveRaising errors call.needsSnapshot after with ⟨_ | other | _, final⟩ <;>
        rw [left] at raises
      · cases raises
      · constructor
        · rintro ⟨err, last, run, _⟩
          cases result <;>
            simp [BracketCall.run, withXactRaising, entered, Comp.catchUnwind, ended, left]
              at run
        · rintro ⟨place, payload, last, enter, run⟩
          cases entered.symm.trans enter
          rw [ended] at run
          cases run
      · cases raises
    · have run : call.run errors pg =
          (.ret (.error (panicToPgwire other)), after.abortCurrent) := by
        simp [BracketCall.run, withXactRaising, entered, Comp.catchUnwind, ended]
      have place : InBlock after.xact ↔ InBlock pg.xact :=
        (call.body.inPlace inside other after ended).trans (enterRaising_inBlock entered)
      obtain ⟨aborts, ends⟩ := abortCurrent_blockState after
      constructor
      · exact fun _ => ⟨inside, other, after, entered, ended⟩
      · intro _
        refine ⟨_, _, run, fun outside => ends ?_, fun inBlock => aborts (place.mpr inBlock)⟩
        rw [place]
        simp [InBlock, outside]
    · cases raises
  · constructor
    · rintro ⟨err, last, run, _⟩
      simp [BracketCall.run, withXactRaising, entered] at run
    · rintro ⟨place, payload, last, enter, _⟩
      cases entered.symm.trans enter
  · cases raises

/-! ## A deferred constraint -/

/-- The violation of a deferred constraint, raised by the commit. -/
def deferredViolation : StepErrors :=
  ⟨none, none, none, some ⟨"ERROR", "ERRCODE_FOREIGN_KEY_VIOLATION",
    "insert or update on table \"t\" violates foreign key constraint \"t_fk\""⟩⟩

/-- An insertion that returns. -/
def insertion : BracketCall Nat Unit :=
  .withXact true (.ofWorksOnly (do perform [1]; pure (.ok ()))
    (.bind (.perform [1]) fun _ => .pure _))

/-- A body that raises. -/
def division : BracketCall Nat Unit :=
  .withXact true (.ofWorksOnly
    (ereport ⟨"ERROR", "ERRCODE_DIVISION_BY_ZERO", "division by zero"⟩) (.raise _))

/-- The error of a failing body is answered. -/
theorem division_contained :
    ContainsError (Pg.fresh .standard)
      (division.run ⟨none, none, none, none⟩ (Pg.fresh .standard)) :=
  (error_contained_iff_body_raises ⟨none, none, none, none⟩ division (Pg.fresh .standard)
    rfl).mpr ⟨_, _, _, rfl, rfl⟩

/-- Not every error is contained: one that the commit raises unwinds through the
bracket. -/
theorem commit_error_escapes :
    ¬∀ (errors : StepErrors) (call : BracketCall Nat Unit) (pg middle : Pg Nat)
      (payload : Payload), call.steps errors pg = (.unwind payload, middle) →
        ContainsError pg (call.run errors pg) := by
  intro always
  obtain ⟨err, after, run, _⟩ := always deferredViolation insertion (Pg.fresh .standard) _ _ rfl
  cases run

end PgTransport.Properties
