import PgTransport.Backend.Session
import PgTransport.Postgres.Utility

/-!
# What the bridge is built from

Every entry point of the bridge is put together from the server API by sequencing
and by catching what unwinds.  What holds of the server API and survives the two is
therefore true of the whole bridge.
-/

namespace PgTransport.Backend

open PgTransport.Computation
open PgTransport.Postgres
open PgTransport.Wire

variable {E : Type}

/-- The computations that are put together from the server API. -/
inductive Built : {α : Type} → PgM E α → Prop where
  | pure {α : Type} (value : α) : Built (Pure.pure value)
  | raise {α : Type} (payload : Payload) : Built (Comp.raise payload : PgM E α)
  | bind {α β : Type} {step : PgM E α} {next : α → PgM E β} (first : Built step)
      (second : ∀ value, Built (next value)) : Built (step >>= next)
  | catchUnwind {α : Type} {body : PgM E α} (built : Built body) : Built (Comp.catchUnwind body)
  | isTransactionBlock : Built (Comp.read fun pg => pg.xact.isTransactionBlock)
  | isAborted : Built (Comp.read fun pg => pg.xact.isAbortedTransactionBlockState)
  | perform (effects : List E) : Built (perform effects)
  | pushTransactionSnapshot : Built pushTransactionSnapshot
  | popActiveSnapshot : Built popActiveSnapshot
  | spiConnect (rc : Int) : Built (spiConnect rc)
  | spiFinish (rc : Int) : Built (spiFinish rc)
  | startTransactionCommand : Built startTransactionCommand
  | commitTransactionCommand (finish : Option ErrorReport) :
      Built (commitTransactionCommand finish)
  | abortCurrentTransaction : Built abortCurrentTransaction
  | beginTransactionBlock : Built beginTransactionBlock
  | endTransactionBlock (chain : Bool) : Built (endTransactionBlock chain)
  | userAbortTransactionBlock (chain : Bool) : Built (userAbortTransactionBlock chain)
  | beginImplicitTransactionBlock : Built beginImplicitTransactionBlock
  | endImplicitTransactionBlock : Built endImplicitTransactionBlock
  | processUtility (stmt : TransactionStmt) : Built (processUtility stmt)

variable {α : Type}

theorem Built.ite {condition : Prop} [Decidable condition] {positive negative : PgM E α}
    (first : Built positive) (second : Built negative) :
    Built (if condition then positive else negative) := by
  split
  · exact first
  · exact second

/-! ## The pieces of a bracket -/

theorem built_pushIfNeeded (needsSnapshot : Bool) :
    Built (pushIfNeeded needsSnapshot : PgM E Unit) :=
  .ite Built.pushTransactionSnapshot (.pure ())

theorem built_popIfNeeded (needsSnapshot : Bool) :
    Built (popIfNeeded needsSnapshot : PgM E Unit) :=
  .ite Built.popActiveSnapshot (.pure ())

theorem built_raiseIf (report : Option ErrorReport) :
    Built (raiseIf report : PgM E Unit) := by
  cases report with
  | none => exact .pure ()
  | some report => exact .raise _

theorem built_liftPanic (result : Except Payload α) : Built (liftPanic result : PgM E α) := by
  cases result with
  | error payload => exact .raise payload
  | ok value => exact .pure value

theorem built_callPg (effects : α → List E) (result : Except ErrorReport α) :
    Built (callPg effects result) := by
  cases result with
  | error report => exact .raise _
  | ok value => exact (Built.perform _).bind fun _ => .pure value

/-- What a bracket does once its body has ended. -/
theorem built_afterBody (needsSnapshot : Bool) (finish : Option ErrorReport)
    (result : PgWireResult α) :
    Built (do
      popIfNeeded needsSnapshot
      commitTransactionCommand finish
      pure result : PgM E (PgWireResult α)) :=
  (built_popIfNeeded needsSnapshot).bind fun _ =>
    (Built.commitTransactionCommand finish).bind fun _ => .pure result

theorem built_withXact (needsSnapshot : Bool) (finish : Option ErrorReport)
    {body : PgM E (PgWireResult α)} (built : Built body) :
    Built (withXact needsSnapshot finish body) := by
  apply Built.startTransactionCommand.bind
  intro _
  apply (built_pushIfNeeded needsSnapshot).bind
  intro _
  apply built.catchUnwind.bind
  rintro (payload | err | value)
  · exact Built.abortCurrentTransaction.bind fun _ => .pure _
  · exact built_afterBody needsSnapshot finish (.error err)
  · exact built_afterBody needsSnapshot finish (.ok value)

theorem built_spiSession (rcs : SpiRcs) {body : PgM E (PgWireResult α)}
    (built : Built body) : Built (spiSession rcs body) := by
  apply (Built.spiConnect rcs.connect).bind
  intro connectRc
  apply Built.ite (.pure _)
  apply built.bind
  intro bodyResult
  apply (Built.spiFinish rcs.finish).bind
  exact fun _ => .ite (.pure _) (.pure _)

theorem built_withSpi (rcs : SpiRcs) (finish : Option ErrorReport)
    {body : PgM E (PgWireResult α)} (built : Built body) :
    Built (withSpi rcs finish body) := by
  rw [withSpi_eq_withXact]
  exact built_withXact true finish (built_spiSession rcs built)

/-! ## Transaction control -/

theorem built_xactControlBody (cmd : XactCmd) (inBlock : Bool) (finish : Option ErrorReport) :
    Built (xactControlBody cmd inBlock finish : PgM E Tag) := by
  have bracketed {γ : Type} {step : PgM E γ} (built : Built step) (tag : Tag) :
      Built (do
        startTransactionCommand
        let _ ← step
        commitTransactionCommand finish
        pure tag : PgM E Tag) :=
    Built.startTransactionCommand.bind fun _ => built.bind fun _ =>
      (Built.commitTransactionCommand finish).bind fun _ => .pure tag
  cases cmd with
  | begin => exact .ite (.pure _) (bracketed Built.beginTransactionBlock _)
  | commit => exact .ite (.pure _) (bracketed (Built.endTransactionBlock false) _)
  | rollback => exact .ite (.pure _) (bracketed (Built.userAbortTransactionBlock false) _)

theorem built_handleXactControlOne (cmd : XactCmd) (finish : Option ErrorReport) :
    Built (handleXactControlOne cmd finish : PgM E (PgWireResult Response)) := by
  apply Built.isTransactionBlock.bind
  intro inBlock
  apply (built_xactControlBody cmd inBlock finish).catchUnwind.bind
  rintro (payload | tag)
  · exact Built.abortCurrentTransaction.bind fun _ => .pure _
  · exact .pure _

/-! ## Statements and batches -/

theorem built_catchImplicitBlock {body : PgM E (PgWireResult (List Response))}
    (built : Built body) : Built (catchImplicitBlock body) := by
  apply built.catchUnwind.bind
  rintro (payload | err | responses)
  · exact Built.abortCurrentTransaction.bind fun _ => .pure _
  · exact Built.abortCurrentTransaction.bind fun _ => .pure _
  · exact .pure _

theorem built_spiExecute (stmt : RawStmt E) : Built (spiExecute stmt) := by
  unfold spiExecute
  split
  · exact .pure _
  · exact built_callPg _ _

theorem built_runPortal (node : Node) (portal : Except ErrorReport (PortalRun E)) :
    Built (runPortal node portal) := by
  unfold runPortal
  split
  · next stmt => exact (Built.processUtility stmt).bind fun _ => .pure _
  · exact built_callPg _ _

section Rows

variable [TypeTable]

theorem built_runViaSpi (stmt : RawStmt E) (fetchPortalname : Option String) :
    Built (runViaSpi stmt fetchPortalname) := by
  apply Built.ite (.pure _)
  apply (built_spiExecute stmt).bind
  intro result
  apply Built.ite (.pure _)
  exact (built_liftPanic _).bind fun _ => .pure _

theorem built_executeOneStatement (stmt : RawStmt E) (stmtMeta : StmtMeta) :
    Built (executeOneStatement stmt stmtMeta) := by
  apply Built.isAborted.bind
  intro aborted
  apply Built.ite (.pure _)
  cases stmtMeta.xact with
  | some cmd => exact (built_handleXactControlOne cmd _).bind fun _ => .pure _
  | none => exact built_withSpi _ _ (built_runViaSpi _ _)

theorem built_executeStatements (statements : List (RawStmt E × StmtMeta)) :
    Built (executeStatements statements) := by
  induction statements with
  | nil => exact .pure _
  | cons entry rest inductionHypothesis =>
      apply Built.ite inductionHypothesis
      apply (built_executeOneStatement entry.1 entry.2).bind
      rintro (err | responses)
      · exact .pure _
      · exact inductionHypothesis.bind fun _ => .pure _

theorem built_implicitBlockLoopSpi (entries : List (RawStmt E × Option String)) :
    Built (implicitBlockLoopSpi entries) := by
  induction entries with
  | nil => exact .pure _
  | cons entry rest inductionHypothesis =>
      apply Built.isAborted.bind
      intro aborted
      apply Built.ite (.pure _)
      apply Built.startTransactionCommand.bind
      intro _
      apply Built.beginImplicitTransactionBlock.bind
      intro _
      apply Built.pushTransactionSnapshot.bind
      intro _
      apply (Built.spiConnect _).bind
      intro connectRc
      apply Built.ite (Built.popActiveSnapshot.bind fun _ => .pure _)
      apply (built_runViaSpi _ _).bind
      intro bodyResult
      apply (Built.spiFinish _).bind
      intro finishRc
      apply Built.popActiveSnapshot.bind
      intro _
      cases bodyResult with
      | error err => exact .pure _
      | ok responses =>
          apply Built.ite (.pure _)
          apply Built.ite
          · apply Built.endImplicitTransactionBlock.bind
            intro _
            apply (Built.commitTransactionCommand _).bind
            exact fun _ => inductionHypothesis.bind fun _ => .pure _
          · apply (built_raiseIf _).bind
            exact fun _ => inductionHypothesis.bind fun _ => .pure _

theorem built_executeSimpleQuery (query : SimpleQuery E) :
    Built (executeSimpleQuery query) := by
  apply Built.ite (.pure _)
  cases parseAndClassify query with
  | error err => exact .pure _
  | ok statements =>
      apply Built.ite
      · exact built_catchImplicitBlock (built_implicitBlockLoopSpi _)
      · exact built_executeStatements statements

theorem built_runOneDirect (stmt : RawStmt E) : Built (runOneDirect stmt) :=
  (built_runPortal _ _).bind fun _ => .pure _

theorem built_executeSingleDirect (stmts : List (RawStmt E)) :
    Built (executeSingleDirect stmts) := by
  induction stmts with
  | nil => exact .pure _
  | cons stmt rest inductionHypothesis =>
      apply Built.ite inductionHypothesis
      apply Built.isAborted.bind
      intro aborted
      apply Built.ite (.pure _)
      apply (built_withXact _ _ (built_runOneDirect stmt)).bind
      rintro (err | response)
      · exact .pure _
      · exact inductionHypothesis.bind fun _ => .pure _

theorem built_implicitBlockLoopDirect (stmts : List (RawStmt E)) :
    Built (implicitBlockLoopDirect stmts) := by
  induction stmts with
  | nil => exact .pure _
  | cons stmt rest inductionHypothesis =>
      apply Built.isAborted.bind
      intro aborted
      apply Built.ite (.pure _)
      apply Built.startTransactionCommand.bind
      intro _
      apply Built.beginImplicitTransactionBlock.bind
      intro _
      apply (built_pushIfNeeded _).bind
      intro _
      apply (built_runOneDirect stmt).bind
      intro resp
      apply (built_popIfNeeded _).bind
      intro _
      cases resp with
      | error err => exact .pure _
      | ok response =>
          apply Built.ite
          · apply Built.endImplicitTransactionBlock.bind
            intro _
            apply (Built.commitTransactionCommand _).bind
            exact fun _ => inductionHypothesis.bind fun _ => .pure _
          · apply Built.ite
            · apply (Built.commitTransactionCommand _).bind
              exact fun _ => inductionHypothesis.bind fun _ => .pure _
            · apply (built_raiseIf _).bind
              exact fun _ => inductionHypothesis.bind fun _ => .pure _

theorem built_executeSimpleQueryDirect (query : SimpleQuery E) :
    Built (executeSimpleQueryDirect query) := by
  unfold executeSimpleQueryDirect
  cases parseAndKeep query with
  | error err => exact .pure _
  | ok statements =>
      apply Built.ite
      · exact built_catchImplicitBlock (built_implicitBlockLoopDirect _)
      · exact built_executeSingleDirect statements

theorem built_simpleQuery (backend : ExecutionBackend) (query : SimpleQuery E) :
    Built (simpleQuery backend query) := by
  cases backend with
  | spi => exact built_executeSimpleQuery query
  | direct => exact built_executeSimpleQueryDirect query

/-! ## Prepared statements -/

omit [TypeTable] in
theorem built_spiArguments (request : ParseRequest) :
    Built (spiArguments request : PgM E _) := by
  apply Built.ite (.pure _)
  apply (built_callPg _ _).bind
  rintro (_ | ⟨_ | first, rest⟩)
  · exact .pure _
  · exact .pure _
  · dsimp only
    split
    · exact .pure _
    · exact (built_callPg _ _).bind fun _ => .pure _

theorem built_spiPrepareBody (request : ParseRequest)
    (clean : containsNul request.sql = false) :
    Built (spiPrepareBody request clean : PgM E _) := by
  apply (built_spiArguments request).bind
  rintro ⟨argOids, _ | cmd⟩
  · apply (built_callPg _ _).bind
    rintro (rc | plan)
    · exact .pure _
    · exact .ite (.pure _) (.pure _)
  · exact .pure _

theorem built_directPrepareBody (request : ParseRequest)
    (clean : containsNul request.sql = false) :
    Built (directPrepareBody request clean : PgM E _) := by
  apply (built_callPg _ _).bind
  rintro (_ | ⟨_ | first, rest⟩)
  · exact .pure _
  · exact .pure _
  · dsimp only
    split
    · exact .pure _
    · apply (built_callPg _ _).bind
      intro analysis
      apply Built.ite (.pure _)
      exact (built_callPg _ _).bind fun _ => .pure _

theorem built_prepare (backend : ExecutionBackend) (request : ParseRequest) :
    Built (prepare backend request : PgM E _) := by
  apply Built.ite (.pure _)
  cases backend with
  | spi =>
      change Built (spiPrepare request)
      unfold spiPrepare
      split
      · exact built_withSpi _ _ (built_spiPrepareBody _ _)
      · exact .pure _
  | direct =>
      change Built (directPrepare request)
      unfold directPrepare
      split
      · exact built_withXact _ _ (built_directPrepareBody _ _)
      · exact .pure _

end Rows

theorem built_decodeParameters (parameters : List (BoundParameter × Bool)) :
    Built (decodeParameters parameters : PgM E _) := by
  induction parameters with
  | nil => exact .pure _
  | cons entry rest inductionHypothesis =>
      unfold decodeParameters
      split
      · exact inductionHypothesis.bind fun _ => .pure _
      · apply Built.ite (.pure _)
        apply (built_callPg _ _).bind
        exact fun _ => inductionHypothesis.bind fun _ => .pure _

theorem built_spiExecuteImpl (plan : SpiBackendPlan) (request : ExecuteRequest E) :
    Built (spiExecuteImpl plan request) := by
  apply Built.ite (.pure _)
  apply (built_liftPanic _).bind
  intro formats
  apply built_withSpi
  apply (built_decodeParameters _).bind
  rintro (err | _)
  · exact .pure _
  · apply (built_callPg _ _).bind
    intro result
    apply Built.ite (.pure _)
    exact (built_liftPanic _).bind fun _ => .pure _

theorem built_getPlan (source : CachedPlanSource) (currentDesc : Option TupleDesc) :
    Built (source.getPlan currentDesc : PgM E Unit) :=
  .ite (.raise _) (.pure _)

theorem built_directExecuteImpl (plan : DirectBackendPlan) (request : ExecuteRequest E) :
    Built (directExecuteImpl plan request) := by
  apply Built.ite (.pure _)
  apply (built_liftPanic _).bind
  intro formats
  apply built_withXact
  apply (built_decodeParameters _).bind
  rintro (err | _)
  · exact .pure _
  · apply (built_getPlan _ _).bind
    exact fun _ => (built_runPortal _ _).bind fun _ => .pure _

theorem built_execute (statement : PreparedStatement) (request : ExecuteRequest E) :
    Built (statement.execute request) := by
  unfold PreparedStatement.execute
  split
  · exact built_spiExecuteImpl _ _
  · exact built_directExecuteImpl _ _
  · exact .ite (built_handleXactControlOne _ _) (.pure _)

end PgTransport.Backend
