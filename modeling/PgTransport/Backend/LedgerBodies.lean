import PgTransport.Backend.Ledgers

/-!
# The books of the bodies

What `Parse`, `Execute` and a simple query list and give back between the brackets of the
server.
-/

namespace PgTransport.Backend

open PgTransport.Computation
open PgTransport.Postgres
open PgTransport.Wire

variable {E : Type} {kept owned : List Nat}

/-! ## Statements -/

/-- A statement that is dropped gives back its plan, and no other. -/
theorem releaseStatement_matches (statement : OwnedStatement) {resources : Resources}
    {front back : List Nat}
    (balance : resources.Matches (.quiet (front ++ statement.plans ++ back) owned)) :
    (Owning.releaseStatement statement resources).2.Matches (.quiet (front ++ back) owned) := by
  cases planned : statement.statement.plan with
  | spi plan | direct plan =>
      simp only [OwnedStatement.plans, Owning.releaseStatement, planned] at balance ⊢
      rw [List.append_assoc] at balance
      exact balance.dropKept rfl rfl List.not_mem_nil
  | xactControl cmd =>
      simp only [OwnedStatement.plans, Owning.releaseStatement, planned] at balance ⊢
      rwa [List.append_nil] at balance

theorem releaseStatement_last (statement : OwnedStatement) (resources : Resources)
    (balance : resources.Matches (.quiet (kept ++ statement.plans) owned)) :
    (Owning.releaseStatement statement resources).2.Matches (.quiet kept owned) := by
  have released := @releaseStatement_matches owned statement resources kept []
  rw [List.append_nil, List.append_nil] at released
  exact released balance

section Parse

variable [TypeTable]

/-- A plan source is listed with the statement that it is completed for, and is not where
its completion fails. -/
theorem completeSource_lists (request : ParseRequest) (failing : CompletionCall)
    (clean : containsNul request.sql = false) (first : Node) (resolvedOids : List Oid)
    (queryCtx : Nat) :
    Triple (Lists Anything { Ledger.quiet kept owned with scratch := [queryCtx] })
      (Owning.completeSource request failing clean first resolvedOids queryCtx : OwnM E _)
      (Yields OwnedStatement.plans kept owned) (Lists Anything (.quiet kept owned))
      Faultless := by
  let used : Ledger := { Ledger.quiet kept owned with scratch := [queryCtx] }
  let created (source : Nat) : Ledger := { used with unkept := [source] }
  let completed (source : Nat) : Ledger := { Ledger.quiet kept owned with unkept := [source] }
  apply Triple.bind
  · exact (raiseAt_lists _ _ _).consequence (fun _ here => here) (fun _ _ here => here)
      (fun _ here => ⟨here.1, here.2.leavingScratch⟩) fun _ here => here
  intro _
  have creates : Triple (Lists Anything used) (Comp.note Resources.createPlan : OwnM E Nat)
      (fun source => Lists Anything (created source)) (Lists Anything (.quiet kept owned))
      Faultless :=
    fun _ lists => ⟨lists.1, lists.2.createPlan⟩
  apply Triple.bind creates
  intro source
  have drops : Triple (Lists Anything (completed source))
      (Comp.note (Resources.dropPlan source) : OwnM E Unit)
      (fun _ => Lists Anything (.quiet kept owned)) Never Never :=
    note_lists fun _ balance => balance.dropUnkept rfl List.not_mem_nil
  apply Triple.onUnwind _ drops
  apply Triple.bind
  · exact (raiseAt_lists _ _ _).consequence (fun _ here => here) (fun _ _ here => here)
      (fun _ here => ⟨here.1, here.2.leavingScratch⟩) fun _ here => here
  intro _
  have completes : Triple (Lists Anything (created source))
      (Comp.note (Resources.completeCachedPlan source queryCtx) : OwnM E Unit)
      (fun _ => Lists Anything (completed source)) (Lists Anything (completed source))
      Faultless :=
    note_lists fun _ balance =>
      balance.completeCachedPlan (List.mem_singleton_self _) (List.mem_singleton_self _)
  apply Triple.bind completes
  intro _
  apply Triple.bind
  · exact onFirst_lists (anyStep _)
  intro shape
  have keeps : Triple (Lists Anything (completed source))
      (Comp.note (Resources.keepPlan source) : OwnM E Unit)
      (fun _ => Lists Anything (.quiet (kept ++ [source]) owned))
      (Lists Anything (completed source)) Faultless :=
    note_lists fun _ balance => balance.keepPlan rfl
  apply Triple.bind keeps
  intro _
  exact .pure fun _ lists => lists

/-- The context of the query is current while it is analyzed, in no aborted block. -/
theorem directComplete_lists (request : ParseRequest) (failing : CompletionCall)
    (clean : containsNul request.sql = false) (first : Node) :
    Triple (Lists NotAborted (.quiet kept owned))
      (Owning.directComplete request failing clean first : OwnM E _)
      (Yields OwnedStatement.plans kept owned) (Unwound kept owned) Faultless := by
  let used (queryCtx : Nat) : Ledger := { Ledger.quiet kept owned with scratch := [queryCtx] }
  let switched (queryCtx : Nat) : Ledger := { used queryCtx with current := some queryCtx }
  have allocates : Triple (Lists NotAborted (.quiet kept owned))
      (Comp.note (Resources.allocSetContextCreate .transaction) : OwnM E Nat)
      (fun queryCtx => Lists NotAborted (used queryCtx)) (Unwound kept owned) Faultless :=
    fun _ lists => ⟨lists.1, lists.2.allocSetContextCreate .transaction⟩
  apply Triple.bind allocates
  intro queryCtx
  have switches : Triple (Lists NotAborted (used queryCtx))
      (Comp.note (Resources.memoryContextSwitchTo (some queryCtx)) : OwnM E (Option Nat))
      (fun prevCtx state => prevCtx = none ∧ Lists NotAborted (switched queryCtx) state)
      (Unwound kept owned) Faultless :=
    switch_lists (by simp [used])
  apply Triple.bind switches
  intro prevCtx
  apply Triple.knowing (prevCtx = none) fun _ here => here.1
  rintro rfl
  have analyzes {result : Except ErrorReport Analysis} :
      Triple (fun state => (none : Option Nat) = none ∧ Lists NotAborted (switched queryCtx) state)
        (Comp.onFirst (callPg (fun _ => []) result) : OwnM E Analysis)
        (fun _ => Lists NotAborted (switched queryCtx)) (Unwound kept owned) Faultless :=
    (onFirst_lists (worksOnly_notAborted (worksOnly_callPg _ _))).consequence
      (fun _ here => here.2) (fun _ _ here => here)
      (fun _ here => ⟨some queryCtx, here.2.leavingScratch, fun aborted => absurd aborted here.1⟩)
      fun _ here => here
  apply Triple.bind analyzes
  intro analysis
  have restores : Triple (Lists NotAborted (switched queryCtx))
      (Comp.note (Resources.memoryContextSwitchTo none) : OwnM E (Option Nat))
      (fun _ => Lists Anything (used queryCtx)) (Unwound kept owned) Faultless :=
    (switch_lists (by simp)).concluding fun _ _ here => here.2.anything
  apply Triple.bind restores
  intro _
  apply Triple.ite
  · intro _
    exact .pure fun _ lists => ⟨trivial, lists.2.leavingScratch⟩
  · intro _
    exact (completeSource_lists request failing clean first _ queryCtx).consequence
      (fun _ here => here) (fun _ _ here => here) (fun _ here => here.unwound) fun _ here => here

theorem directPrepareBody_lists (request : ParseRequest) (failing : CompletionCall)
    (clean : containsNul request.sql = false) :
    Triple (Lists NotAborted (.quiet kept owned))
      (Owning.directPrepareBody request failing clean : OwnM E _)
      (Yields OwnedStatement.plans kept owned) (Unwound kept owned) Faultless := by
  apply Triple.bind
  · exact (onFirst_lists (worksOnly_notAborted (worksOnly_callPg _ _))).consequence
      (fun _ here => here) (fun _ _ here => here) (fun _ here => here.unwound) fun _ here => here
  intro rawList
  match rawList with
  | [] => exact .pure fun _ lists => lists.anything
  | none :: _ => exact .pure fun _ lists => lists.anything
  | some first :: rest =>
      dsimp only
      split
      · apply Triple.pure
        intro _ lists
        rw [Yields, withPlansOf, OwnedStatement.plans]
        exact (List.append_nil kept).symm ▸ lists.anything
      · exact directComplete_lists request failing clean first

/-- The plan of `SPI_prepare` is kept, or is left to its session. -/
theorem spiPrepareBody_lists (request : ParseRequest) (clean : containsNul request.sql = false) :
    Triple (Lists Anything (.quiet kept owned)) (Owning.spiPrepareBody request clean : OwnM E _)
      (Drafts OwnedStatement.plans kept owned) (Lists Anything (.quiet kept owned))
      Faultless := by
  have settled {statement : OwnedStatement} {state : Pg E × Resources}
      (lists : Lists Anything (.quiet (kept ++ statement.plans) owned) state) :
      Drafts OwnedStatement.plans kept owned (.ok statement) state :=
    ⟨trivial, [], lists.2⟩
  apply Triple.bind
  · exact onFirst_lists (anyStep _)
  intro arguments
  split
  · apply Triple.pure
    intro _ lists
    apply settled
    rw [OwnedStatement.plans]
    exact (List.append_nil kept).symm ▸ lists
  apply Triple.bind
  · exact onFirst_lists (anyStep _)
  intro prepared
  match prepared with
  | .error rc => exact .pure fun _ lists => ⟨trivial, [], lists.2⟩
  | .ok plan =>
      have creates : Triple (Lists Anything (.quiet kept owned))
          (Comp.note Resources.createPlan : OwnM E Nat)
          (fun number => Lists Anything { Ledger.quiet kept owned with unkept := [number] })
          (Lists Anything (.quiet kept owned)) Faultless :=
        fun _ lists => ⟨lists.1, lists.2.createPlan⟩
      apply Triple.bind creates
      intro number
      apply Triple.ite
      · intro _
        exact .pure fun _ lists => ⟨trivial, _, lists.2⟩
      intro _
      have keeps : Triple (Lists Anything { Ledger.quiet kept owned with unkept := [number] })
          (Comp.note (Resources.keepPlan number) : OwnM E Unit)
          (fun _ => Lists Anything (.quiet (kept ++ [number]) owned))
          (Lists Anything (.quiet kept owned)) Faultless :=
        note_lists fun _ balance => balance.keepPlan rfl
      apply Triple.bind keeps
      intro _
      exact .pure fun _ lists => settled lists

/-- A statement is listed with its plan, and nothing is where `Parse` fails. -/
theorem prepare_lists (backend : ExecutionBackend) (request : ParseRequest)
    (failing : CompletionCall) :
    Triple (Lists Anything (.quiet kept owned))
      (Owning.prepare backend request failing : OwnM E _)
      (Yields OwnedStatement.plans kept owned) (Lists Anything (.quiet kept owned))
      Faultless := by
  apply Triple.ite
  · intro _
    exact .pure fun _ lists => lists
  intro _
  cases backend with
  | spi =>
      dsimp only
      unfold Owning.spiPrepare
      split
      · next clean =>
          apply withXact_lists (anyStep _) pushSnapshot_notAborted _ releaseStatement_last
          exact (spiSession_lists (spiPrepareBody_lists request clean)
            releaseStatement_last).consequence (fun _ here => here.anything)
            (fun _ _ here => here) (fun _ here => here.unwound) fun _ here => here
      · exact .pure fun _ lists => lists
  | direct =>
      dsimp only
      unfold Owning.directPrepare
      split
      · next clean =>
          exact withXact_lists (anyStep _) pushSnapshot_notAborted
            (directPrepareBody_lists request failing clean) releaseStatement_last
      · exact .pure fun _ lists => lists

end Parse

/-! ## Execute -/

/-- A plan that is executed is listed, and its reference and its portal are given back before
the bracket ends. -/
theorem directExecuteBody_lists [TypeTable] (backend : DirectBackendPlan) {source : Nat}
    (listed : source ∈ kept) (request : ExecuteRequest E) {fate : PortalFate}
    (stays : fate.endsTransaction = false) (formats : BoundFormats) :
    Triple (Lists Anything (.quiet kept owned))
      (Owning.directExecuteBody backend source request fate formats)
      (fun _ => Lists Anything (.quiet kept owned)) (Lists Anything (.quiet kept owned))
      Faultless := by
  apply Triple.bind
  · exact onFirst_lists (anyStep _)
  intro decoded
  match decoded with
  | .error err => exact .pure fun _ lists => lists
  | .ok _ =>
  apply Triple.bind
  · exact onFirst_lists (anyStep _)
  intro _
  apply Triple.bind
  · exact raiseAt_lists _ _ _
  intro _
  let referenced : Ledger := { Ledger.quiet kept owned with references := [source] }
  let running (portal : Nat) : Ledger := { referenced with portals := [portal] }
  have fetches : Triple (Lists Anything (.quiet kept owned))
      (Comp.note (Resources.getCachedPlan source) : OwnM E Unit)
      (fun _ => Lists Anything referenced) (Lists Anything (.quiet kept owned)) Faultless :=
    note_lists fun _ balance => balance.getCachedPlan listed
  apply Triple.bind fetches
  intro _
  have releases {raised halted : Pg E × Resources → Prop} : Triple (Lists Anything referenced)
      (Comp.note (Resources.releaseCachedPlan source) : OwnM E Unit)
      (fun _ => Lists Anything (.quiet kept owned)) raised halted :=
    note_lists fun _ balance => balance.releaseCachedPlan rfl
  apply Triple.releasing _ (fun _ => releases) releases
  apply Triple.bind
  · exact raiseAt_lists _ _ _
  intro _
  have creates : Triple (Lists Anything referenced) (Comp.note Resources.createPortal : OwnM E Nat)
      (fun portal => Lists Anything (running portal)) (Lists Anything referenced) Faultless :=
    fun _ lists => ⟨lists.1, lists.2.createPortal⟩
  apply Triple.bind creates
  intro portal
  have drops {raised halted : Pg E × Resources → Prop} : Triple (Lists Anything (running portal))
      (Comp.note (Resources.portalDrop portal) : OwnM E Unit)
      (fun _ => Lists Anything referenced) raised halted :=
    note_lists fun _ balance => balance.portalDrop rfl
  apply Triple.releasing _ (fun _ => drops) drops
  have runs : Triple (Lists Anything (running portal))
      (Comp.note (Resources.usePortal portal) : OwnM E Unit)
      (fun _ => Lists Anything (running portal)) (Lists Anything (running portal)) Faultless :=
    note_lists fun _ balance => balance.usePortal (List.mem_singleton_self _)
  apply Triple.bind runs
  intro _
  rw [stays, Owning.portalRun_false]
  apply Triple.bind
  · exact onFirst_lists (anyStep _)
  intro run
  exact .pure fun _ lists => lists

theorem spiExecuteBody_lists [TypeTable] (backend : SpiBackendPlan) {number : Nat}
    (listed : number ∈ kept) (request : ExecuteRequest E) (formats : BoundFormats) :
    Triple (Lists Anything (.quiet kept owned))
      (Owning.spiExecuteBody backend number request formats)
      (fun _ => Lists Anything (.quiet kept owned)) (Lists Anything (.quiet kept owned))
      Faultless := by
  apply Triple.bind
  · exact onFirst_lists (anyStep _)
  intro decoded
  match decoded with
  | .error err => exact .pure fun _ lists => lists
  | .ok _ =>
  have uses : Triple (Lists Anything (.quiet kept owned))
      (Comp.note (Resources.usePlan number) : OwnM E Unit)
      (fun _ => Lists Anything (.quiet kept owned)) (Lists Anything (.quiet kept owned))
      Faultless :=
    note_lists fun _ balance => balance.usePlan listed
  apply Triple.bind uses
  intro _
  apply Triple.bind
  · exact onFirst_lists (anyStep _)
  intro result
  apply Triple.ite
  · intro _
    exact .pure fun _ lists => lists
  intro _
  apply Triple.bind
  · exact onFirst_lists (anyStep _)
  intro response
  exact .pure fun _ lists => lists

/-- Transaction control runs between a start and a commit, or does nothing. -/
theorem xactControlBody_lists (cmd : XactCmd) (inBlock : Bool) (finish : Option ErrorReport) :
    Triple (Lists Anything (.quiet kept owned))
      (Owning.xactControlBody cmd inBlock finish : OwnM E Tag)
      (fun _ => Lists Anything (.quiet kept owned)) (Lists Anything (.quiet kept owned))
      Faultless := by
  have brackets {α : Type} (step : PgM E α) (tag : Tag) :
      Triple (Lists Anything (.quiet kept owned)) (do
          Owning.startTransactionCommand
          let _ ← Comp.onFirst step
          Owning.commitTransactionCommand finish
          pure tag : OwnM E Tag)
        (fun _ => Lists Anything (.quiet kept owned)) (Lists Anything (.quiet kept owned))
        Faultless := by
    apply Triple.bind (start_lists (anyStep _))
    intro _
    apply Triple.bind (onFirst_lists (anyStep _))
    intro _
    apply Triple.bind (commit_lists finish)
    intro _
    exact .pure fun _ lists => lists
  cases cmd <;> apply Triple.ite <;> intro _
  · exact .pure fun _ lists => lists
  · exact brackets beginTransactionBlock _
  · exact .pure fun _ lists => lists
  · exact brackets (endTransactionBlock false) _
  · exact .pure fun _ lists => lists
  · exact brackets (userAbortTransactionBlock false) _

theorem handleXactControlOne_lists (cmd : XactCmd) (finish : Option ErrorReport) :
    Triple (Lists Anything (.quiet kept owned))
      (Owning.handleXactControlOne cmd finish : OwnM E _)
      (fun _ => Lists Anything (.quiet kept owned)) (Lists Anything (.quiet kept owned))
      Faultless := by
  apply Triple.bind
  · exact onFirst_lists (anyStep _)
  intro inBlock
  apply Triple.bind
  · exact .catchUnwind (xactControlBody_lists cmd inBlock finish)
  intro outcome
  match outcome with
  | .ok tag => exact .pure fun _ lists => lists
  | .error payload =>
      apply Triple.bind
      · exact (abort_lists.assuming fun _ lists => Lists.unwound lists).surely
      · intro _
        exact .pure fun _ lists => lists

/-- The plan of a statement that is executed is listed, and everything else is given back. -/
theorem execute_lists [TypeTable] (statement : OwnedStatement)
    (listed : ∀ number ∈ statement.plans, number ∈ kept) (request : ExecuteRequest E)
    {fate : PortalFate} (stays : fate.endsTransaction = false) :
    Triple (Lists Anything (.quiet kept owned)) (Owning.execute statement request fate)
      (fun _ => Lists Anything (.quiet kept owned)) (Lists Anything (.quiet kept owned))
      Faultless := by
  unfold Owning.execute
  cases planned : statement.statement.plan with
  | spi plan =>
      have number : statement.number ∈ kept := by
        apply listed
        simp [OwnedStatement.plans, planned]
      apply Triple.ite
      · intro _
        exact .pure fun _ lists => lists
      intro _
      apply Triple.bind (onFirst_lists (anyStep _))
      intro formats
      apply withXact_responds (anyStep _) (anyStep _)
      exact (spiSession_responds (spiExecuteBody_lists plan number request formats)).consequence
        (fun _ here => here) (fun _ _ here => here) (fun _ here => here.unwound)
        fun _ here => here
  | direct plan =>
      have number : statement.number ∈ kept := by
        apply listed
        simp [OwnedStatement.plans, planned]
      apply Triple.ite
      · intro _
        exact .pure fun _ lists => lists
      intro _
      apply Triple.bind (onFirst_lists (anyStep _))
      intro formats
      apply withXact_responds (anyStep _) (anyStep _)
      exact (directExecuteBody_lists plan number request stays formats).consequence
        (fun _ here => here) (fun _ _ here => here) (fun _ here => here.unwound)
        fun _ here => here
  | xactControl cmd =>
      apply Triple.ite
      · intro _
        exact handleXactControlOne_lists cmd request.finish
      · intro _
        exact .pure fun _ lists => lists

end PgTransport.Backend
