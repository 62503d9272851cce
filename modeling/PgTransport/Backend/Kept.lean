import PgTransport.Backend.ImplicitBlock
import PgTransport.Backend.Works

/-!
# Relations that every step of a backend keeps

What holds of all runs of the bridge, whatever its statements do, is a relation
between the states before and after each server call.  The bridge consists of
few such calls.  A relation that they keep is kept by every bracket, by the
loops over statements and by the messages of the extended protocol.
-/

namespace PgTransport.Backend

open PgTransport.Computation
open PgTransport.Postgres
open PgTransport.Wire

variable {E : Type} {α : Type}

/-- The calls around the statements keep the relation. -/
structure Kept (rel : Pg E → Pg E → Prop) : Prop extends IsPreorder (Pg E) rel where
  work : ∀ pg effects, rel pg (pg.work effects)
  atSpiDepth : ∀ pg depth, rel pg (pg.atSpiDepth depth)
  start : Moves rel startTransactionCommand
  push : Moves rel pushTransactionSnapshot
  pop : Moves rel popActiveSnapshot
  commit : ∀ finish, Moves rel (commitTransactionCommand finish)
  abort : Moves rel abortCurrentTransaction
  beginImplicit : Moves rel beginImplicitTransactionBlock
  endImplicit : Moves rel endImplicitTransactionBlock

/-- The calls of the intercepted transaction control keep it too. -/
structure KeptByControl (rel : Pg E → Pg E → Prop) : Prop extends Kept rel where
  beginBlock : Moves rel beginTransactionBlock
  endBlock : Moves rel (endTransactionBlock false)
  userAbort : Moves rel (userAbortTransactionBlock false)

namespace Kept

variable {rel : Pg E → Pg E → Prop} (kept : Kept rel)

include kept

theorem worksOnly {step : PgM E α} (works : WorksOnly step) : Moves rel step := by
  intro pg
  obtain ⟨effects, ⟨value, run⟩ | ⟨payload, depth, run⟩⟩ := works pg
  · rw [run]
    exact kept.work pg effects
  · rw [run]
    exact kept.trans _ _ _ (kept.work pg effects) (kept.atSpiDepth _ depth)

theorem raiseIf (report : Option ErrorReport) : Moves rel (raiseIf report) := by
  have := kept.toIsPreorder
  cases report with
  | none => exact .pure ()
  | some report => exact .raise _

theorem pushIfNeeded (needsSnapshot : Bool) : Moves rel (pushIfNeeded needsSnapshot) :=
  have := kept.toIsPreorder
  .ite kept.push (.pure ())

theorem popIfNeeded (needsSnapshot : Bool) : Moves rel (popIfNeeded needsSnapshot) :=
  have := kept.toIsPreorder
  .ite kept.pop (.pure ())

/-- A bracket keeps what its body keeps. -/
theorem withXact {needsSnapshot : Bool} {finish : Option ErrorReport}
    {body : PgM E (PgWireResult α)} (inside : Moves rel body) :
    Moves rel (withXact needsSnapshot finish body) := by
  have := kept.toIsPreorder
  refine kept.start.bind fun _ => (kept.pushIfNeeded needsSnapshot).bind fun _ =>
    inside.catchUnwind.bind ?_
  rintro (payload | err | value)
  · exact kept.abort.bind fun _ => .pure _
  · exact (kept.popIfNeeded needsSnapshot).bind fun _ =>
      (kept.commit finish).bind fun _ => .pure _
  · exact (kept.popIfNeeded needsSnapshot).bind fun _ =>
      (kept.commit finish).bind fun _ => .pure _

theorem withSpi {rcs : SpiRcs} {finish : Option ErrorReport}
    {body : PgM E (PgWireResult α)} (works : WorksOnly body) :
    Moves rel (withSpi rcs finish body) := by
  rw [withSpi_eq_withXact]
  exact kept.withXact (kept.worksOnly (worksOnly_spiSession rcs works))

theorem catchImplicitBlock {body : PgM E (PgWireResult (List Response))}
    (inside : Moves rel body) : Moves rel (catchImplicitBlock body) := by
  have := kept.toIsPreorder
  apply inside.catchUnwind.bind
  rintro (payload | err | responses)
  · exact kept.abort.bind fun _ => .pure _
  · exact kept.abort.bind fun _ => .pure _
  · exact .pure _

section Rows

variable [TypeTable]

omit [TypeTable] in
/-- A statement of an implicit block whose body only adds work. -/
theorem implicitStep {needsSnapshot last : Bool} {finish : Option ErrorReport}
    {body : PgM E (PgWireResult α)} (works : WorksOnly body) :
    Moves rel (implicitStep needsSnapshot last finish body) := by
  have := kept.toIsPreorder
  refine kept.start.bind fun _ => kept.beginImplicit.bind fun _ =>
    (kept.pushIfNeeded _).bind fun _ => (kept.worksOnly works).bind fun result =>
      (kept.popIfNeeded _).bind fun _ => ?_
  cases result with
  | error err => exact .pure _
  | ok value =>
      exact Moves.bind (.ite (kept.endImplicit.bind fun _ => kept.commit _) (kept.raiseIf _))
        fun _ => .pure _

theorem implicitBlockLoopSpi (entries : List (RawStmt E × Option String)) :
    Moves rel (implicitBlockLoopSpi entries) := by
  have := kept.toIsPreorder
  induction entries with
  | nil => exact .pure _
  | cons entry rest inductionHypothesis =>
      intro pg
      by_cases aborted : pg.xact.blockState = .abort
      · simpa [Backend.implicitBlockLoopSpi, aborted] using kept.refl pg
      · rw [implicitBlockLoopSpi_cons entry.1 entry.2 rest aborted]
        have works := worksOnly_spiSession entry.1.spiRcs (worksOnly_runViaSpi entry.1 entry.2)
        refine (kept.implicitStep works).bind (fun result => ?_) pg
        cases result with
        | error err => exact .pure _
        | ok responses => exact inductionHypothesis.bind fun _ => .pure _

theorem implicitBlockLoopDirect {stmts : List (RawStmt E)}
    (bodies : ∀ stmt ∈ stmts, Moves rel (runOneDirect stmt)) :
    Moves rel (implicitBlockLoopDirect stmts) := by
  have := kept.toIsPreorder
  induction stmts with
  | nil => exact .pure _
  | cons stmt rest inductionHypothesis =>
      have later := inductionHypothesis fun stmt member => bodies stmt (.tail _ member)
      refine (Moves.read _).bind fun aborted => .ite (.pure _) ?_
      refine kept.start.bind fun _ => kept.beginImplicit.bind fun _ =>
        (kept.pushIfNeeded _).bind fun _ => (bodies stmt (.head _)).bind fun resp =>
          (kept.popIfNeeded _).bind fun _ => ?_
      cases resp with
      | error err => exact .pure _
      | ok response =>
          exact .ite
            (kept.endImplicit.bind fun _ => (kept.commit _).bind fun _ =>
              later.bind fun _ => .pure _)
            (.ite ((kept.commit _).bind fun _ => later.bind fun _ => .pure _)
              ((kept.raiseIf _).bind fun _ => later.bind fun _ => .pure _))

theorem prepare (backend : ExecutionBackend) (request : ParseRequest) :
    Moves rel (prepare backend request) := by
  have := kept.toIsPreorder
  unfold Backend.prepare
  split
  · exact .pure _
  · next text =>
    have clean : containsNul request.sql = false := by simpa using text
    cases backend with
    | spi =>
        simp only [spiPrepare, clean, dite_true]
        exact kept.withSpi (worksOnly_spiPrepareBody request clean)
    | direct =>
        simp only [directPrepare, clean, dite_true]
        exact kept.withXact (kept.worksOnly (worksOnly_directPrepareBody request clean))

end Rows

theorem spiExecuteImpl (backend : SpiBackendPlan) (request : ExecuteRequest E) :
    Moves rel (spiExecuteImpl backend request) :=
  have := kept.toIsPreorder
  .ite (.pure _) <| (kept.worksOnly (worksOnly_liftPanic _)).bind fun formats =>
    kept.withSpi (worksOnly_spiExecuteBody backend request formats)

end Kept

namespace KeptByControl

variable {rel : Pg E → Pg E → Prop} (kept : KeptByControl rel)

include kept

theorem handleXactControlOne (cmd : XactCmd) (finish : Option ErrorReport) :
    Moves rel (handleXactControlOne cmd finish) := by
  have := kept.toIsPreorder
  have body : ∀ inBlock, Moves rel (xactControlBody cmd inBlock finish) := by
    intro inBlock
    have close : Moves rel (commitTransactionCommand finish) := kept.commit finish
    cases cmd with
    | begin =>
        exact .ite (.pure _) <| kept.start.bind fun _ => kept.beginBlock.bind fun _ =>
          close.bind fun _ => .pure _
    | commit =>
        exact .ite (.pure _) <| kept.start.bind fun _ => kept.endBlock.bind fun _ =>
          close.bind fun _ => .pure _
    | rollback =>
        exact .ite (.pure _) <| kept.start.bind fun _ => kept.userAbort.bind fun _ =>
          close.bind fun _ => .pure _
  refine (Moves.read _).bind fun inBlock => (body inBlock).catchUnwind.bind ?_
  rintro (payload | tag)
  · exact kept.abort.bind fun _ => .pure _
  · exact .pure _

section Rows

variable [TypeTable]

theorem executeOneStatement (stmt : RawStmt E) (stmtMeta : StmtMeta) :
    Moves rel (executeOneStatement stmt stmtMeta) := by
  have := kept.toIsPreorder
  refine (Moves.read _).bind fun aborted => .ite (.pure _) ?_
  cases stmtMeta.xact with
  | some cmd => exact (kept.handleXactControlOne cmd stmt.finish).bind fun _ => .pure _
  | none => exact kept.withSpi (worksOnly_runViaSpi stmt stmtMeta.fetchPortalname)

theorem executeStatements (entries : List (RawStmt E × StmtMeta)) :
    Moves rel (executeStatements entries) := by
  have := kept.toIsPreorder
  induction entries with
  | nil => exact .pure _
  | cons entry rest inductionHypothesis =>
      refine .ite inductionHypothesis <| (kept.executeOneStatement entry.1 entry.2).bind ?_
      rintro (err | responses)
      · exact .pure _
      · exact inductionHypothesis.bind fun _ => .pure _

/-- The SPI bridge keeps the relation, whatever the query body. -/
theorem executeSimpleQuery (query : SimpleQuery E) :
    Moves rel (executeSimpleQuery query) := by
  have := kept.toIsPreorder
  refine .ite (.pure _) ?_
  cases parseAndClassify query with
  | error err => exact .pure _
  | ok statements =>
      exact .ite (kept.catchImplicitBlock (kept.implicitBlockLoopSpi _))
        (kept.executeStatements _)

end Rows

end KeptByControl

end PgTransport.Backend
