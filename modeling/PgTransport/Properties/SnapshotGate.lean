import PgTransport.Backend.ImplicitBlock
import PgTransport.Backend.Works

/-!
# Snapshots of aborted blocks

`GetTransactionSnapshot` must not be called while the block is aborted.  A
bracket calls it without a check, so that it is safe only from a block that is
not aborted; the simple-query loops check the block before every statement, so
that they are safe from every state.
-/

namespace PgTransport.Properties

open PgTransport.Backend
open PgTransport.Computation
open PgTransport.Postgres
open PgTransport.Transition
open PgTransport.Wire

variable {E : Type} {α β : Type}

/-! ## Computations that take no snapshot of an aborted block -/

/-- How often the backend took a snapshot of an aborted block. -/
def snapshotMisuses (pg : Pg E) : Nat :=
  pg.misuses.count .snapshotWhileAborted

/-- The second state has seen no more snapshots of aborted blocks. -/
def SameMisuses (before after : Pg E) : Prop :=
  snapshotMisuses after = snapshotMisuses before

@[simp]
theorem sameMisuses_self (pg : Pg E) : SameMisuses pg pg :=
  rfl

instance : IsPreorder (Pg E) SameMisuses where
  refl _ := rfl
  trans _ _ _ first second := Eq.trans second first

/-- The computation takes no snapshot of an aborted block. -/
abbrev KeepsGate (step : PgM E α) : Prop :=
  Moves SameMisuses step

namespace KeepsGate

theorem ofWorksOnly {step : PgM E α} (works : WorksOnly step) : KeepsGate step := by
  intro pg
  obtain ⟨effects, ⟨value, run⟩ | ⟨payload, depth, run⟩⟩ := works pg <;>
    rw [run] <;> rfl

theorem ofOnlyXact {step : PgM E α} (only : Moves OnlyXact step) : KeepsGate step := by
  intro pg
  rw [SameMisuses, snapshotMisuses, (only pg).misuses, snapshotMisuses]

end KeepsGate

theorem keepsGate_startTransactionCommand :
    KeepsGate (startTransactionCommand : PgM E Unit) := by
  intro pg
  unfold startTransactionCommand
  split <;> simp [SameMisuses, snapshotMisuses, Pg.record]

theorem keepsGate_popIfNeeded (needsSnapshot : Bool) :
    KeepsGate (popIfNeeded needsSnapshot : PgM E Unit) := by
  intro pg
  rcases pg with ⟨xact, _ | depth, spiDepth, misuses⟩ <;> cases needsSnapshot <;>
    simp [popIfNeeded, popActiveSnapshot, assertionFailure, SameMisuses, snapshotMisuses, Pg.record]

theorem keepsGate_raiseIf (report : Option ErrorReport) :
    KeepsGate (raiseIf report : PgM E Unit) := by
  cases report with
  | none => exact .pure ()
  | some report => exact .raise _

theorem keepsGate_setXact (update : Xact E → Xact E) : KeepsGate (setXact update) :=
  fun _ => rfl

theorem keepsGate_commitTransactionCommand (finish : Option ErrorReport) :
    KeepsGate (commitTransactionCommand finish : PgM E Unit) := by
  intro pg
  unfold commitTransactionCommand
  split
  case h_1 => simp [SameMisuses, snapshotMisuses, Pg.record]
  case h_2 => exact (keepsGate_raiseIf finish).bind (fun _ => keepsGate_setXact _) pg
  case h_4 | h_5 => exact keepsGate_raiseIf finish pg
  case h_6 => exact (keepsGate_raiseIf finish).bind (fun _ => keepsGate_setXact _) pg
  case h_10 => exact (keepsGate_raiseIf finish).bind (fun _ => keepsGate_setXact _) pg
  all_goals rfl

theorem keepsGate_abortCurrentTransaction :
    KeepsGate (abortCurrentTransaction : PgM E Unit) := by
  intro pg
  simp only [abortCurrentTransaction_apply, Pg.abortCurrent]
  split <;> rfl

theorem keepsGate_beginImplicitTransactionBlock :
    KeepsGate (beginImplicitTransactionBlock : PgM E Unit) := by
  intro pg
  unfold beginImplicitTransactionBlock
  split <;> rfl

theorem keepsGate_endImplicitTransactionBlock :
    KeepsGate (endImplicitTransactionBlock : PgM E Unit) := by
  intro pg
  unfold endImplicitTransactionBlock
  split <;> rfl

theorem keepsGate_runPortal (node : Node) (portal : Except ErrorReport (PortalRun E)) :
    KeepsGate (runPortal node portal) := by
  cases ordinary : isTransactionStmt node with
  | false => exact .ofWorksOnly (worksOnly_runPortal ordinary portal)
  | true =>
      cases node with
      | transactionStmt stmt =>
          exact (KeepsGate.ofOnlyXact (onlyXact_processUtility stmt)).bind fun _ => .pure _
      | fetchStmt ismove portalname => cases ordinary
      | other requiresAnalysis => cases ordinary

/-! ## The guarded snapshot -/

/-- Starting a command never aborts the block. -/
theorem startTransactionCommand_open {pg after : Pg E}
    (notAborted : pg.xact.blockState ≠ .abort)
    (run : startTransactionCommand pg = (.ret (), after)) :
    after.xact.blockState ≠ .abort := by
  unfold startTransactionCommand at run
  split at run <;> cases run
  case h_1 => exact fun impossible => TBlockState.noConfusion impossible
  all_goals exact notAborted

theorem pushIfNeeded_keepsGate (needsSnapshot : Bool) {pg : Pg E}
    (allowed : needsSnapshot = true → pg.xact.blockState ≠ .abort) :
    snapshotMisuses (pushIfNeeded needsSnapshot pg).2 = snapshotMisuses pg := by
  cases needsSnapshot with
  | false => rfl
  | true =>
      have notAborted := allowed rfl
      simp [pushIfNeeded, pushTransactionSnapshot, notAborted, snapshotMisuses]

/-- A bracket keeps the gate when it needs no snapshot or the block is not
aborted. -/
theorem withXact_keepsGate {needsSnapshot : Bool} {finish : Option ErrorReport}
    {body : PgM E (PgWireResult α)} (keeps : KeepsGate body) {pg : Pg E}
    (allowed : needsSnapshot = true → pg.xact.blockState ≠ .abort) :
    snapshotMisuses (withXact needsSnapshot finish body pg).2 = snapshotMisuses pg := by
  refine Moves.bind_at (keepsGate_startTransactionCommand pg) fun _ middle run =>
    Moves.bind_at (pushIfNeeded_keepsGate needsSnapshot fun needed =>
      startTransactionCommand_open (allowed needed) run) fun _ inside _ => ?_
  refine Moves.bind_at (keeps.catchUnwind inside) fun outcome after _ => ?_
  match outcome with
  | .ok (.ok value) =>
      exact (keepsGate_popIfNeeded needsSnapshot).bind (fun _ =>
        (keepsGate_commitTransactionCommand finish).bind fun _ => .pure _) after
  | .ok (.error err) =>
      exact (keepsGate_popIfNeeded needsSnapshot).bind (fun _ =>
        (keepsGate_commitTransactionCommand finish).bind fun _ => .pure _) after
  | .error payload =>
      exact keepsGate_abortCurrentTransaction.bind (fun _ => .pure _) after

theorem withSpi_keepsGate {rcs : SpiRcs} {finish : Option ErrorReport}
    {body : PgM E (PgWireResult α)} (works : WorksOnly body) {pg : Pg E}
    (notAborted : pg.xact.blockState ≠ .abort) :
    snapshotMisuses (withSpi rcs finish body pg).2 = snapshotMisuses pg := by
  rw [withSpi_eq_withXact]
  exact withXact_keepsGate (.ofWorksOnly (worksOnly_spiSession rcs works)) fun _ => notAborted

/-! ## The simple-query paths check before every statement -/

theorem keepsGate_handleXactControlOne (cmd : XactCmd) (finish : Option ErrorReport) :
    KeepsGate (handleXactControlOne cmd finish : PgM E _) := by
  have inBrackets {γ : Type} (step : PgM E γ) (tag : γ → Tag) (only : Moves OnlyXact step) :
      KeepsGate (do
        startTransactionCommand
        let value ← step
        commitTransactionCommand finish
        pure (tag value) : PgM E Tag) :=
    keepsGate_startTransactionCommand.bind fun _ => (KeepsGate.ofOnlyXact only).bind fun _ =>
      (keepsGate_commitTransactionCommand finish).bind fun _ => .pure _
  have body : ∀ inBlock, KeepsGate (xactControlBody cmd inBlock finish : PgM E Tag) := by
    intro inBlock
    cases cmd with
    | begin => exact .ite (.pure _) (inBrackets _ (fun _ => _) onlyXact_beginTransactionBlock)
    | commit => exact .ite (.pure _) (inBrackets _ _ (onlyXact_endTransactionBlock false))
    | rollback =>
        exact .ite (.pure _) (inBrackets _ (fun _ => _) (onlyXact_userAbortTransactionBlock false))
  refine (Moves.read _).bind fun inBlock => (body inBlock).catchUnwind.bind ?_
  rintro (payload | tag)
  · exact keepsGate_abortCurrentTransaction.bind fun _ => .pure _
  · exact .pure _

theorem keepsGate_catchImplicitBlock {body : PgM E (PgWireResult (List Response))}
    (keeps : KeepsGate body) : KeepsGate (catchImplicitBlock body) := by
  refine keeps.catchUnwind.bind fun outcome => ?_
  match outcome with
  | .ok (.ok _) => exact .pure _
  | .ok (.error _) => exact keepsGate_abortCurrentTransaction.bind fun _ => .pure _
  | .error _ => exact keepsGate_abortCurrentTransaction.bind fun _ => .pure _

/-- Opening the implicit block of a batch never aborts a block. -/
theorem beginImplicitTransactionBlock_open {pg after : Pg E}
    (notAborted : pg.xact.blockState ≠ .abort)
    (run : beginImplicitTransactionBlock pg = (.ret (), after)) :
    after.xact.blockState ≠ .abort := by
  unfold beginImplicitTransactionBlock at run
  split at run <;> cases run
  · exact fun impossible => TBlockState.noConfusion impossible
  · exact notAborted

section Rows

variable [TypeTable]

theorem keepsGate_executeOneStatement (stmt : RawStmt E) :
    KeepsGate (executeOneStatement stmt stmt.stmtMeta) := by
  intro pg
  refine Moves.bind_at rfl fun aborted middle run => ?_
  cases run
  cases control : stmt.stmtMeta.xact with
  | some cmd =>
      exact (Moves.ite (.pure _) <|
        (keepsGate_handleXactControlOne cmd stmt.finish).bind fun _ => .pure _) pg
  | none =>
      have exit : isXactExitStmt stmt.stmtMeta = false := by
        simp [isXactExitStmt, control]
      by_cases aborted : pg.xact.blockState = .abort
      · simp [aborted, exit]
      · simpa [aborted, runSpiStatement, SameMisuses] using
          withSpi_keepsGate (worksOnly_runViaSpi stmt stmt.stmtMeta.fetchPortalname) aborted

theorem keepsGate_executeStatements (stmts : List (RawStmt E)) :
    KeepsGate (executeStatements (stmts.map RawStmt.classified)) := by
  induction stmts with
  | nil => exact .pure _
  | cons stmt rest inductionHypothesis =>
      refine .ite inductionHypothesis <| (keepsGate_executeOneStatement stmt).bind ?_
      rintro (err | responses)
      · exact .pure _
      · exact inductionHypothesis.bind fun _ => .pure _

omit [TypeTable] in
/-- A statement of an implicit block that is not aborted. -/
theorem implicitStep_keepsGate (needsSnapshot last : Bool) (finish : Option ErrorReport)
    {body : PgM E (PgWireResult α)} (keeps : KeepsGate body) {pg : Pg E}
    (active : pg.xact.blockState ≠ .abort) :
    SameMisuses pg (implicitStep needsSnapshot last finish body pg).2 := by
  refine Moves.bind_at (keepsGate_startTransactionCommand pg) fun _ begun run => ?_
  have active := startTransactionCommand_open active run
  refine Moves.bind_at (keepsGate_beginImplicitTransactionBlock begun) fun _ implicit run => ?_
  have active := beginImplicitTransactionBlock_open active run
  refine Moves.bind_at (pushIfNeeded_keepsGate needsSnapshot fun _ => active) fun _ inside _ => ?_
  have closes : KeepsGate (closeStatement last finish : PgM E Unit) :=
    .ite (keepsGate_endImplicitTransactionBlock.bind fun _ =>
      keepsGate_commitTransactionCommand finish) (keepsGate_raiseIf finish)
  refine keeps.bind (fun result => (keepsGate_popIfNeeded needsSnapshot).bind fun _ => ?_) inside
  cases result with
  | error err => exact .pure _
  | ok value => exact closes.bind fun _ => .pure _

omit [TypeTable] in
theorem keepsGate_continueWith {rest : PgM E (PgWireResult (List Response))}
    (keeps : KeepsGate rest) (result : PgWireResult (List Response)) :
    KeepsGate (continueWith rest result) := by
  cases result with
  | error err => exact .pure _
  | ok responses => exact keeps.bind fun _ => .pure _

theorem keepsGate_implicitBlockLoopSpi (entries : List (RawStmt E × Option String)) :
    KeepsGate (implicitBlockLoopSpi entries) := by
  induction entries with
  | nil => exact .pure _
  | cons entry rest inductionHypothesis =>
      intro pg
      by_cases aborted : pg.xact.blockState = .abort
      · simp [implicitBlockLoopSpi, aborted]
      · have body : KeepsGate (spiSession entry.1.spiRcs (runViaSpi entry.1 entry.2)) :=
          .ofWorksOnly (worksOnly_spiSession _ (worksOnly_runViaSpi _ _))
        rw [implicitBlockLoopSpi_cons entry.1 entry.2 rest aborted, ← Comp.bind_apply]
        apply Moves.bind_at (implicitStep_keepsGate true rest.isEmpty entry.1.finish body aborted)
        exact fun result middle _ => keepsGate_continueWith inductionHypothesis result middle

omit [TypeTable] in
/-- Past the gate of a direct loop, a statement that needs a snapshot meets a
block that is not aborted. -/
theorem snapshot_allowed {pg : Pg E} {node : Node}
    (passed : ¬(pg.xact.isAbortedTransactionBlockState && !isTransactionExitStmt node) = true)
    (needed : node.analyzeRequiresSnapshot = true) : pg.xact.blockState ≠ .abort := by
  cases node with
  | other requiresAnalysis => simpa [isTransactionExitStmt] using passed
  | transactionStmt stmt => cases needed
  | fetchStmt ismove portalname => cases needed

theorem keepsGate_runOneDirect (stmt : RawStmt E) : KeepsGate (runOneDirect stmt) :=
  (keepsGate_runPortal _ _).bind fun _ => .pure _

theorem keepsGate_executeSingleDirect (stmts : List (RawStmt E)) :
    KeepsGate (executeSingleDirect stmts) := by
  induction stmts with
  | nil => exact .pure _
  | cons stmt rest inductionHypothesis =>
      refine .ite inductionHypothesis fun pg => ?_
      refine Moves.bind_at rfl fun aborted middle run => ?_
      cases run
      split
      · rfl
      · next passed =>
        refine Moves.bind_at (withXact_keepsGate (keepsGate_runOneDirect stmt)
          (snapshot_allowed passed)) fun result after _ => ?_
        cases result with
        | error err => rfl
        | ok response => exact inductionHypothesis.bind (fun _ => .pure _) after

theorem keepsGate_implicitBlockLoopDirect (stmts : List (RawStmt E)) :
    KeepsGate (implicitBlockLoopDirect stmts) := by
  induction stmts with
  | nil => exact .pure _
  | cons stmt rest inductionHypothesis =>
      intro pg
      refine Moves.bind_at rfl fun aborted middle run => ?_
      cases run
      split
      · rfl
      · next passed =>
        have allowed := snapshot_allowed passed
        refine Moves.bind_at (keepsGate_startTransactionCommand pg) fun _ begun run => ?_
        have allowed := fun needed => startTransactionCommand_open (allowed needed) run
        refine Moves.bind_at (keepsGate_beginImplicitTransactionBlock begun)
          fun _ implicit run => ?_
        have allowed := fun needed => beginImplicitTransactionBlock_open (allowed needed) run
        refine Moves.bind_at (pushIfNeeded_keepsGate _ allowed) fun _ inside _ => ?_
        refine (keepsGate_runOneDirect stmt).bind (fun resp =>
          (keepsGate_popIfNeeded _).bind fun _ => ?_) inside
        cases resp with
        | error err => exact .pure _
        | ok response =>
            exact .ite
              (keepsGate_endImplicitTransactionBlock.bind fun _ =>
                (keepsGate_commitTransactionCommand _).bind fun _ =>
                  inductionHypothesis.bind fun _ => .pure _)
              (.ite
                ((keepsGate_commitTransactionCommand _).bind fun _ =>
                  inductionHypothesis.bind fun _ => .pure _)
                ((keepsGate_raiseIf _).bind fun _ =>
                  inductionHypothesis.bind fun _ => .pure _))

/-- No simple-query body takes a snapshot of an aborted block, from any state
and on either backend. -/
theorem keepsGate_simpleQuery (backend : ExecutionBackend) (body : SimpleQuery E) :
    KeepsGate (simpleQuery backend body) := by
  cases backend with
  | spi =>
      refine .ite (.pure _) ?_
      unfold parseAndClassify
      split
      · exact .pure _
      · next statements parsed =>
        split at parsed
        · cases parsed
        · split at parsed <;> cases parsed
          exact .ite (keepsGate_catchImplicitBlock (keepsGate_implicitBlockLoopSpi _))
            (keepsGate_executeStatements _)
  | direct =>
      change KeepsGate (executeSimpleQueryDirect body)
      unfold executeSimpleQueryDirect
      split
      · exact .pure _
      · exact .ite (keepsGate_catchImplicitBlock (keepsGate_implicitBlockLoopDirect _))
          (keepsGate_executeSingleDirect _)

end Rows

end PgTransport.Properties
