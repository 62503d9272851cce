import PgTransport.Backend.LedgerBodies

/-!
# The books of simple queries

A simple query on the direct path owns the context that its statements are in.  They are
analyzed and planned with that context current, which an error leaves so; in an aborted block
only transaction statements are let in, whose analysis does not fail.
-/

namespace PgTransport.Backend

open PgTransport.Computation
open PgTransport.Postgres
open PgTransport.Wire

variable {E : Type} [TypeTable] {kept owned : List Nat} {parseCtx : Nat}

/-- In an aborted block the statement is a transaction statement. -/
def Admits (node : Node) (pg : Pg E) : Prop :=
  pg.xact.blockState = .abort → isTransactionStmt node = true

omit [TypeTable] in
/-- A statement that fails ahead of its portal is let into no aborted block. -/
theorem planning_lists (node : Node) (here failing : PortalCall)
    (portal : Except ErrorReport (PortalRun E)) :
    Triple (Lists (Admits node) { Ledger.quiet kept owned with current := some parseCtx })
      (Owning.raiseAt here failing (Owning.portalAnswer node portal) : OwnM E Unit)
      (fun _ => Lists (Admits node) { Ledger.quiet kept owned with current := some parseCtx })
      (Unwound kept owned) Faultless := by
  by_cases command : isTransactionStmt node = true
  · cases node with
    | transactionStmt stmt => exact .pure fun _ lists => lists
    | fetchStmt ismove portalname => cases command
    | other requiresAnalysis => cases command
  · apply (raiseAt_lists here failing _).consequence (fun _ lists => lists)
      (fun _ _ lists => lists) _ fun _ faultless => faultless
    intro _ lists
    exact ⟨some parseCtx, lists.2, fun aborted => absurd (lists.1 aborted) command⟩

/-- The portal of a statement is dropped before the statement ends. -/
theorem runOneDirect_lists (stmt : RawStmt E) {fate : RawStmt E → PortalFate}
    (stays : (fate stmt).endsTransaction = false) (there : parseCtx ∈ owned) :
    Triple (Lists (Admits stmt.node) (.quiet kept owned))
      (Owning.runOneDirect parseCtx fate stmt) (fun _ => Lists Anything (.quiet kept owned))
      (Unwound kept owned) Faultless := by
  let switched : Ledger := { Ledger.quiet kept owned with current := some parseCtx }
  let defined (portal : Nat) : Ledger := { switched with portals := [portal] }
  let running (portal : Nat) : Ledger := { Ledger.quiet kept owned with portals := [portal] }
  have switches : Triple (Lists (Admits stmt.node) (.quiet kept owned))
      (Comp.note (Resources.memoryContextSwitchTo (some parseCtx)) : OwnM E (Option Nat))
      (fun prevCtx state => prevCtx = none ∧ Lists (Admits stmt.node) switched state)
      (Unwound kept owned) Faultless := by
    apply switch_lists
    rintro _ ⟨⟩
    exact .inr there
  apply Triple.bind switches
  intro prevCtx
  apply Triple.knowing (prevCtx = none) fun _ here => here.1
  rintro rfl
  apply Triple.bind
  · exact (planning_lists stmt.node _ _ _).assuming fun _ here => here.2
  intro _
  apply Triple.bind
  · exact planning_lists stmt.node _ _ _
  intro _
  have creates : Triple (Lists (Admits stmt.node) switched)
      (Comp.note Resources.createPortal : OwnM E Nat)
      (fun portal => Lists Anything (defined portal)) (Unwound kept owned) Faultless :=
    fun _ lists => ⟨trivial, lists.2.createPortal⟩
  apply Triple.bind creates
  intro portal
  have drops {raised halted : Pg E × Resources → Prop} : Triple (Lists Anything (running portal))
      (Comp.note (Resources.portalDrop portal) : OwnM E Unit)
      (fun _ => Lists Anything (.quiet kept owned)) raised halted :=
    note_lists fun _ balance => balance.portalDrop rfl
  have unwinds : Triple (Lists Anything (running portal))
      (Comp.note (Resources.portalDrop portal) : OwnM E Unit) (fun _ => Unwound kept owned)
      Never Never :=
    drops.concluding fun _ _ lists => lists.unwound
  apply Triple.releasing _ (fun _ => drops) unwinds
  have defines : Triple (Lists Anything (defined portal))
      (Comp.note (Resources.usePortal portal) : OwnM E Unit)
      (fun _ => Lists Anything (defined portal)) (Lists Anything (running portal)) Faultless :=
    note_lists fun _ balance => balance.usePortal (List.mem_singleton_self _)
  apply Triple.bind defines
  intro _
  have restores : Triple (Lists Anything (defined portal))
      (Comp.note (Resources.memoryContextSwitchTo none) : OwnM E (Option Nat))
      (fun _ => Lists Anything (running portal)) (Lists Anything (running portal)) Faultless :=
    (switch_lists (by simp)).concluding fun _ _ here => here.2
  apply Triple.bind restores
  intro _
  have runs : Triple (Lists Anything (running portal))
      (Comp.note (Resources.usePortal portal) : OwnM E Unit)
      (fun _ => Lists Anything (running portal)) (Lists Anything (running portal)) Faultless :=
    note_lists fun _ balance => balance.usePortal (List.mem_singleton_self _)
  apply Triple.bind runs
  intro _
  rw [stays, Owning.portalRun_false]
  apply Triple.bind (onFirst_lists (anyStep _))
  intro run
  exact .pure fun _ lists => lists

omit [TypeTable] in
/-- The gate in front of a statement. -/
theorem gate_lists {α : Type} (node : Node) {refused next : OwnM E α}
    {post : α → Pg E × Resources → Prop} {raised : Pg E × Resources → Prop} {ledger : Ledger}
    (quiet : ∀ state, Lists Anything ledger state → raised state)
    (refuses : Triple (Lists Anything ledger) refused post raised Faultless)
    (continues : Triple (Lists (Admits node) ledger) next post raised Faultless) :
    Triple (Lists Anything ledger) (do
        let aborted ← Comp.onFirst (Comp.read fun pg => pg.xact.isAbortedTransactionBlockState)
        if aborted && !isTransactionExitStmt node then refused else next)
      post raised Faultless := by
  have reads : Triple Anything
      (Comp.read fun pg => pg.xact.isAbortedTransactionBlockState : PgM E Bool)
      (fun aborted pg => pg.xact.isAbortedTransactionBlockState = aborted) Anything Anything :=
    fun _ _ => rfl
  apply Triple.bind
  · exact (onFirst_lists reads).consequence (fun _ here => here) (fun _ _ here => here)
      (fun _ here => quiet _ here) fun _ here => here
  intro aborted
  apply Triple.ite
  · intro _
    exact refuses.assuming fun _ lists => lists.anything
  · intro admitted
    apply continues.assuming
    rintro ⟨pg, resources⟩ ⟨read, balance⟩
    refine ⟨?_, balance⟩
    intro state
    have exits : isTransactionExitStmt node = true := by
      rw [← read, (Xact.isAbortedTransactionBlockState_iff _).mpr state] at admitted
      simpa using admitted
    cases node with
    | transactionStmt stmt => rfl
    | fetchStmt ismove portalname => cases exits
    | other requiresAnalysis => cases exits

omit [TypeTable] in
/-- Neither a start nor the start of an implicit block aborts a block or clears one. -/
theorem enter_admits (node : Node) :
    Triple (Admits node) (Postgres.startTransactionCommand : PgM E Unit) (fun _ => Admits node)
      Anything Anything := by
  intro pg admits
  unfold Postgres.startTransactionCommand
  split
  · intro impossible
    cases impossible
  · exact admits
  · exact admits
  · exact admits
  · trivial

omit [TypeTable] in
theorem beginImplicit_admits (node : Node) :
    Triple (Admits node) (beginImplicitTransactionBlock : PgM E Unit) (fun _ => Admits node)
      Anything Anything := by
  intro pg admits
  unfold beginImplicitTransactionBlock
  split
  · intro impossible
    cases impossible
  · exact admits

omit [TypeTable] in
theorem push_admits (node : Node) (needsSnapshot : Bool) :
    Triple (Admits node) (pushIfNeeded needsSnapshot : PgM E Unit) (fun _ => Admits node)
      Anything Anything := by
  apply Triple.ite
  · intro _ pg admits
    unfold pushTransactionSnapshot
    split
    · trivial
    · exact admits
  · intro _
    exact .pure fun _ admits => admits

/-- The loop over a batch of at most one statement with content. -/
theorem executeSingleDirect_lists (stmts : List (RawStmt E)) {fate : RawStmt E → PortalFate}
    (stays : ∀ stmt, (fate stmt).endsTransaction = false) (there : parseCtx ∈ owned) :
    Triple (Lists Anything (.quiet kept owned))
      (Owning.executeSingleDirect parseCtx fate stmts)
      (fun _ => Lists Anything (.quiet kept owned)) (Lists Anything (.quiet kept owned))
      Faultless := by
  induction stmts with
  | nil => exact .pure fun _ lists => lists
  | cons stmt rest inductionHypothesis =>
      apply Triple.ite
      · intro _
        exact inductionHypothesis
      intro _
      apply gate_lists stmt.node fun _ lists => lists
      · exact .pure fun _ lists => lists
      apply Triple.bind
      · exact withXact_responds (enter_admits stmt.node) (push_admits stmt.node _)
          (runOneDirect_lists stmt (stays stmt) there)
      intro result
      cases result with
      | error err => exact .pure fun _ lists => lists
      | ok response =>
          apply Triple.bind inductionHypothesis
          intro _
          exact .pure fun _ lists => lists

omit [TypeTable] in
theorem closeStatement_lists (last : Bool) (stmt : RawStmt E) :
    Triple (Lists Anything (.quiet kept owned)) (Owning.closeStatement last stmt)
      (fun _ => Lists Anything (.quiet kept owned)) (Lists Anything (.quiet kept owned))
      Faultless := by
  apply Triple.ite
  · intro _
    apply Triple.bind (onFirst_lists (anyStep _))
    intro _
    exact commit_lists stmt.finish
  intro _
  apply Triple.ite
  · intro _
    exact commit_lists stmt.finish
  · intro _
    exact onFirst_lists (anyStep _)

/-- The loop of an implicit block; an error leaves it for the abort. -/
theorem implicitBlockLoopDirect_lists (stmts : List (RawStmt E))
    {fate : RawStmt E → PortalFate} (stays : ∀ stmt, (fate stmt).endsTransaction = false)
    (there : parseCtx ∈ owned) :
    Triple (Lists Anything (.quiet kept owned))
      (Owning.implicitBlockLoopDirect parseCtx fate stmts)
      (fun _ => Lists Anything (.quiet kept owned)) (Unwound kept owned) Faultless := by
  have quietly {α : Type} {step : OwnM E α} {holds : Pg E → Prop}
      {post : α → Pg E × Resources → Prop}
      (triple : Triple (Lists holds (.quiet kept owned)) step post
        (Lists Anything (.quiet kept owned)) Faultless) :
      Triple (Lists holds (.quiet kept owned)) step post (Unwound kept owned) Faultless :=
    triple.consequence (fun _ here => here) (fun _ _ here => here) (fun _ here => here.unwound)
      fun _ here => here
  induction stmts with
  | nil => exact .pure fun _ lists => lists
  | cons stmt rest inductionHypothesis =>
      apply gate_lists stmt.node fun _ lists => lists.unwound
      · exact .pure fun _ lists => lists
      apply Triple.bind (quietly (start_lists (enter_admits stmt.node)))
      intro _
      apply Triple.bind (quietly (onFirst_lists (beginImplicit_admits stmt.node)))
      intro _
      apply Triple.bind (quietly (onFirst_lists (push_admits stmt.node _)))
      intro _
      apply Triple.bind (runOneDirect_lists stmt (stays stmt) there)
      intro resp
      apply Triple.bind (quietly (onFirst_lists (anyStep _)))
      intro _
      cases resp with
      | error err => exact .pure fun _ lists => lists
      | ok response =>
          apply Triple.bind (quietly (closeStatement_lists rest.isEmpty stmt))
          intro _
          apply Triple.bind inductionHypothesis
          intro _
          exact .pure fun _ lists => lists

omit [TypeTable] in
theorem catchImplicitBlock_lists {body : OwnM E (PgWireResult (List Response))}
    (balanced : Triple (Lists Anything (.quiet kept owned)) body
      (fun _ => Lists Anything (.quiet kept owned)) (Unwound kept owned) Faultless) :
    Triple (Lists Anything (.quiet kept owned)) (Owning.catchImplicitBlock body)
      (fun _ => Lists Anything (.quiet kept owned)) (Lists Anything (.quiet kept owned))
      Faultless := by
  apply Triple.bind (.catchUnwind balanced)
  intro outcome
  match outcome with
  | .ok (.ok responses) => exact .pure fun _ lists => lists
  | .ok (.error err) =>
      apply Triple.bind
      · exact (abort_lists.assuming fun _ lists => Lists.unwound lists).surely
      · intro _
        exact .pure fun _ lists => lists
  | .error payload =>
      apply Triple.bind
      · exact abort_lists.surely
      · intro _
        exact .pure fun _ lists => lists

omit [TypeTable] in
/-- The context of a query is listed with its statements, and nothing is where the parser
fails. -/
theorem parseAndKeep_lists (query : SimpleQuery E) :
    Triple (Lists Anything (.quiet kept [])) (Owning.parseAndKeep query)
      (fun parsed => match parsed with
        | .ok statements => Lists Anything (.quiet kept [statements.2])
        | .error _ => Lists Anything (.quiet kept []))
      (Lists Anything (.quiet kept [])) Faultless := by
  apply Triple.ite
  · intro _
    exact .pure fun _ lists => lists
  intro _
  have allocates : Triple (Lists Anything (.quiet kept []))
      (Comp.note (Resources.allocSetContextCreate .value) : OwnM E Nat)
      (fun parseCtx => Lists Anything (.quiet kept [parseCtx])) (Lists Anything (.quiet kept []))
      Faultless :=
    fun _ lists => ⟨lists.1, lists.2.allocSetContextCreate .value⟩
  apply Triple.bind allocates
  intro parseCtx
  let switched : Ledger := { Ledger.quiet kept [parseCtx] with current := some parseCtx }
  have switches : Triple (Lists Anything (.quiet kept [parseCtx]))
      (Comp.note (Resources.memoryContextSwitchTo (some parseCtx)) : OwnM E (Option Nat))
      (fun prev state => prev = none ∧ Lists Anything switched state)
      (Lists Anything (.quiet kept [])) Faultless :=
    switch_lists (by simp [Ledger.quiet])
  apply Triple.bind switches
  intro prev
  apply Triple.knowing (prev = none) fun _ here => here.1
  rintro rfl
  have restores : Triple (fun state => (none : Option Nat) = none ∧ Lists Anything switched state)
      (Comp.note (Resources.memoryContextSwitchTo none) : OwnM E (Option Nat))
      (fun _ => Lists Anything (.quiet kept [parseCtx])) (Lists Anything (.quiet kept []))
      Faultless :=
    (switch_lists (by simp)).consequence (fun _ here => here.2) (fun _ _ here => here.2)
      (fun _ here => here) fun _ here => here
  apply Triple.bind restores
  intro _
  cases query.parsed with
  | error report =>
      have deletes : Triple (Lists Anything (.quiet kept [parseCtx]))
          (Comp.note (Resources.memoryContextDelete parseCtx) : OwnM E Unit)
          (fun _ => Lists Anything (.quiet kept [])) (Lists Anything (.quiet kept []))
          Faultless :=
        note_lists fun _ balance => balance.memoryContextDelete rfl (by simp [Ledger.quiet])
      apply Triple.bind deletes
      intro _
      exact .pure fun _ lists => lists
  | ok stmts => exact .pure fun _ lists => lists

/-- A simple query gives back everything, however it ends. -/
theorem executeSimpleQueryDirect_lists (query : SimpleQuery E)
    {fate : RawStmt E → PortalFate} (stays : ∀ stmt, (fate stmt).endsTransaction = false) :
    Triple (Lists Anything (.quiet kept [])) (Owning.executeSimpleQueryDirect query fate)
      (fun _ => Lists Anything (.quiet kept [])) (Lists Anything (.quiet kept []))
      Faultless := by
  apply Triple.bind (parseAndKeep_lists query)
  intro parsed
  match parsed with
  | .error err => exact .pure fun _ lists => lists
  | .ok (statements, parseCtx) =>
      have deletes {raised halted : Pg E × Resources → Prop} :
          Triple (Lists Anything (.quiet kept [parseCtx]))
          (Comp.note (Resources.memoryContextDelete parseCtx) : OwnM E Unit)
          (fun _ => Lists Anything (.quiet kept [])) raised halted :=
        note_lists fun _ balance => balance.memoryContextDelete rfl (by simp [Ledger.quiet])
      apply Triple.releasing _ (fun _ => deletes) deletes
      apply Triple.ite
      · intro _
        exact catchImplicitBlock_lists
          (implicitBlockLoopDirect_lists _ stays (List.mem_singleton_self _))
      · intro _
        exact executeSingleDirect_lists _ stays (List.mem_singleton_self _)

end PgTransport.Backend
