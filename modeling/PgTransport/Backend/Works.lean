import PgTransport.Backend.Bracket

/-!
# The bodies that only add work

Every body the brackets are given, except the execution of a transaction
statement, leaves the block state to its bracket.  A transaction statement
changes nothing but the transaction state.
-/

namespace PgTransport.Backend

open PgTransport.Computation
open PgTransport.Postgres
open PgTransport.Wire

variable {E : Type}

theorem worksOnly_spiExecute (stmt : RawStmt E) : WorksOnly (spiExecute stmt) := by
  unfold spiExecute
  split
  · exact .pure _
  · exact worksOnly_callPg _ _

theorem worksOnly_runPortal {node : Node} (ordinary : isTransactionStmt node = false)
    (portal : Except ErrorReport (PortalRun E)) : WorksOnly (runPortal node portal) := by
  cases node with
  | transactionStmt stmt => cases ordinary
  | fetchStmt ismove portalname => exact worksOnly_callPg _ _
  | other requiresAnalysis => exact worksOnly_callPg _ _

theorem worksOnly_decodeParameters (parameters : List (BoundParameter × Bool)) :
    WorksOnly (decodeParameters parameters : PgM E _) := by
  induction parameters with
  | nil => exact .pure _
  | cons parameter parameters inductionHypothesis =>
      unfold decodeParameters
      split
      · exact inductionHypothesis.bind fun _ => .pure _
      · exact .ite (.pure _) <| .bind (worksOnly_callPg _ _) fun _ =>
          inductionHypothesis.bind fun _ => .pure _

theorem worksOnly_spiExecuteBody (backend : SpiBackendPlan) (request : ExecuteRequest E)
    (formats : BoundFormats) : WorksOnly (spiExecuteBody backend request formats) := by
  refine .bind (worksOnly_decodeParameters _) fun decoded => ?_
  cases decoded with
  | error err => exact .pure _
  | ok datums =>
      exact .bind (worksOnly_callPg _ _) fun _ =>
        .ite (.pure _) <| .bind (worksOnly_liftPanic _) fun _ => .pure _

theorem worksOnly_getPlan (source : CachedPlanSource) (currentDesc : Option TupleDesc) :
    WorksOnly (source.getPlan currentDesc : PgM E Unit) :=
  .ite (.raise _) (.pure _)

theorem worksOnly_inferParamTypesAndClassify (request : ParseRequest) :
    WorksOnly (inferParamTypesAndClassify request : PgM E _) := by
  refine .bind (worksOnly_callPg _ _) fun rawList => ?_
  match rawList with
  | [] => exact .pure _
  | none :: _ => exact .pure _
  | some first :: rest =>
      dsimp only
      split
      · exact .pure _
      · exact .bind (worksOnly_callPg _ _) fun _ => .pure _

/-! ## Transaction statements -/

/-- Only the transaction state has changed. -/
structure OnlyXact (before after : Pg E) : Prop where
  snapshots : after.activeSnapshots = before.activeSnapshots
  spiDepth : after.spiDepth = before.spiDepth
  misuses : after.misuses = before.misuses

instance : IsPreorder (Pg E) OnlyXact where
  refl _ := ⟨rfl, rfl, rfl⟩
  trans _ _ _ first second := ⟨second.snapshots.trans first.snapshots,
    second.spiDepth.trans first.spiDepth, second.misuses.trans first.misuses⟩

theorem onlyXact_beginTransactionBlock :
    Moves OnlyXact (beginTransactionBlock : PgM E Unit) := by
  intro pg
  unfold beginTransactionBlock
  split <;> exact ⟨rfl, rfl, rfl⟩

theorem onlyXact_endTransactionBlock (chain : Bool) :
    Moves OnlyXact (endTransactionBlock chain : PgM E Bool) := by
  intro pg
  unfold endTransactionBlock
  dsimp only
  split <;> try split
  all_goals exact ⟨rfl, rfl, rfl⟩

theorem onlyXact_userAbortTransactionBlock (chain : Bool) :
    Moves OnlyXact (userAbortTransactionBlock chain : PgM E Unit) := by
  intro pg
  unfold userAbortTransactionBlock
  dsimp only
  split <;> try split
  all_goals exact ⟨rfl, rfl, rfl⟩

theorem onlyXact_setPGVariables (options : List TransactionOption) :
    Moves OnlyXact (setPGVariables options : PgM E Unit) := by
  induction options with
  | nil => exact .pure ()
  | cons option options inductionHypothesis =>
      refine .bind (fun pg => ?_) fun _ => inductionHypothesis
      unfold setPGVariable
      split <;> exact ⟨rfl, rfl, rfl⟩

theorem onlyXact_requireTransactionBlock (command : String) :
    Moves OnlyXact (requireTransactionBlock command : PgM E Unit) := by
  intro pg
  unfold requireTransactionBlock
  split <;> exact ⟨rfl, rfl, rfl⟩

theorem onlyXact_preventInTransactionBlock (command : String) :
    Moves OnlyXact (preventInTransactionBlock command : PgM E Unit) := by
  intro pg
  unfold preventInTransactionBlock
  split <;> exact ⟨rfl, rfl, rfl⟩

theorem onlyXact_processUtility (command : TransactionStmt) :
    Moves OnlyXact (processUtility command : PgM E String) := by
  unfold processUtility
  split
  case h_1 | h_2 =>
    exact onlyXact_beginTransactionBlock.bind fun _ =>
      (onlyXact_setPGVariables _).bind fun _ => .pure _
  case h_3 => exact (onlyXact_endTransactionBlock _).bind fun _ => .pure _
  case h_4 => exact (onlyXact_userAbortTransactionBlock _).bind fun _ => .pure _
  case h_5 =>
    refine (onlyXact_requireTransactionBlock _).bind fun _ => .bind (fun pg => ?_)
      fun _ => .pure _
    unfold defineSavepoint
    split <;> exact ⟨rfl, rfl, rfl⟩
  case h_6 =>
    refine (onlyXact_requireTransactionBlock _).bind fun _ => .bind (fun pg => ?_)
      fun _ => .pure _
    unfold releaseSavepoint
    split <;> try split
    all_goals exact ⟨rfl, rfl, rfl⟩
  case h_7 =>
    refine (onlyXact_requireTransactionBlock _).bind fun _ => .bind (fun pg => ?_)
      fun _ => .pure _
    unfold rollbackToSavepoint
    split <;> try split
    all_goals exact ⟨rfl, rfl, rfl⟩
  case h_8 =>
    refine Moves.bind ?_ fun _ => .pure _
    refine (onlyXact_endTransactionBlock false).bind fun _ => .ite (fun pg => ?_) (.pure _)
    unfold markPrepare
    split <;> exact ⟨rfl, rfl, rfl⟩
  case h_9 | h_10 =>
    refine (onlyXact_preventInTransactionBlock _).bind fun _ => .bind (fun pg => ?_)
      fun _ => .pure _
    unfold finishPreparedTransaction
    split <;> exact ⟨rfl, rfl, rfl⟩

section Rows

variable [TypeTable]

theorem worksOnly_runViaSpi (stmt : RawStmt E) (fetchPortalname : Option String) :
    WorksOnly (runViaSpi stmt fetchPortalname) :=
  .ite (.pure _) <| .bind (worksOnly_spiExecute stmt) fun _ =>
    .ite (.pure _) <| .bind (worksOnly_liftPanic _) fun _ => .pure _

theorem worksOnly_runOneDirect {stmt : RawStmt E}
    (ordinary : isTransactionStmt stmt.node = false) : WorksOnly (runOneDirect stmt) :=
  .bind (worksOnly_runPortal ordinary _) fun _ => .pure _

/-- `run_one_direct` of a transaction statement answers with the tag that
`ProcessUtility` reports. -/
theorem runOneDirect_transactionStmt {stmt : RawStmt E} {command : TransactionStmt}
    {pg after : Pg E} {tag : String} (node : stmt.node = .transactionStmt command)
    (run : processUtility command pg = (.ret tag, after)) :
    runOneDirect stmt pg = (.ret (.ok (.execution (Tag.new tag))), after) := by
  simp [runOneDirect, runPortal, node, run, directResponse, PortalRun.command]

theorem worksOnly_spiPrepareBody (request : ParseRequest)
    (clean : containsNul request.sql = false) :
    WorksOnly (spiPrepareBody request clean : PgM E _) := by
  refine .bind (.ite (.pure _) (worksOnly_inferParamTypesAndClassify request)) ?_
  rintro ⟨argOids, _ | cmd⟩
  · refine .bind (worksOnly_callPg _ _) fun prepared => ?_
    cases prepared with
    | error rc => exact .pure _
    | ok plan => exact .ite (.pure _) (.pure _)
  · exact .pure _

theorem worksOnly_directComplete (request : ParseRequest)
    (clean : containsNul request.sql = false) (first : Node) :
    WorksOnly (directComplete request clean first : PgM E _) :=
  .bind (worksOnly_callPg _ _) fun _ =>
    .ite (.pure _) <| .bind (worksOnly_callPg _ _) fun _ => .pure _

theorem worksOnly_directPrepareBody (request : ParseRequest)
    (clean : containsNul request.sql = false) :
    WorksOnly (directPrepareBody request clean : PgM E _) := by
  refine .bind (worksOnly_callPg _ _) fun rawList => ?_
  match rawList with
  | [] => exact .pure _
  | none :: _ => exact .pure _
  | some first :: rest =>
      dsimp only
      split
      · exact .pure _
      · exact worksOnly_directComplete request clean first

end Rows

end PgTransport.Backend
