import PgTransport.Backend.LedgerQueries

/-!
# What is left outside a block

Every message that returns ends with a commit or an abort, or has touched nothing.  Where
that leaves the session outside a block, the contexts of the transaction are gone with it.
-/

namespace PgTransport.Backend

open PgTransport.Computation
open PgTransport.Postgres
open PgTransport.Wire

variable {E : Type} {α : Type} {pre : Pg E × Resources → Prop}

/-- No condition. -/
def Anywhere (_ : Pg E × Resources) : Prop :=
  True

/-- Outside a block no context of a transaction is left. -/
def Cleared (state : Pg E × Resources) : Prop :=
  state.1.xact.blockState = .default → ∀ context ∈ state.2.contexts, context.owner = .value

/-- The step leaves no context of a transaction outside a block, where it returns. -/
abbrev Clearing (pre : Pg E × Resources → Prop) (step : OwnM E α) : Prop :=
  Triple pre step (fun _ => Cleared) Anywhere Anywhere

theorem anyCall (step : OwnM E α) : Triple pre step (fun _ => Anywhere) Anywhere Anywhere := by
  intro state _
  rcases step state with ⟨_ | _ | _, final⟩ <;> trivial

/-- The last step decides. -/
theorem Clearing.behind {β : Type} {step : OwnM E α} {next : α → OwnM E β}
    (clearing : ∀ value, Clearing Anywhere (next value)) : Clearing pre (step >>= next) :=
  .bind (anyCall step) clearing

/-- A value is returned. -/
theorem Clearing.returning {β : Type} {step : OwnM E α} (clearing : Clearing pre step)
    (change : α → β) : Clearing pre (do let value ← step; pure (change value)) :=
  .bind clearing fun _ => .pure fun _ cleared => cleared

/-! ## The ends of a transaction -/

/-- Only the end of a transaction leads out of it. -/
theorem commitEnds_of_default {finish : Option ErrorReport} {pg after : Pg E}
    (run : Postgres.commitTransactionCommand finish pg = (.ret (), after))
    (outside : after.xact.blockState = .default) : Owning.commitEnds pg = true := by
  unfold Postgres.commitTransactionCommand at run
  unfold Owning.commitEnds
  split at run
  case h_1 => cases run
  case h_3 => cases run; cases outside
  case h_4 state | h_5 state =>
    cases finish with
    | none => cases run; rw [state] at outside; cases outside
    | some report => cases run
  case h_7 state => cases run; rw [state] at outside; cases outside
  case h_11 => cases run; cases outside
  case h_12 => cases run; cases outside
  case h_13 depth state =>
    cases run
    revert outside
    simp only [Pg.mapXact, Xact.restartSavepoint]
    split
    · intro impossible
      cases impossible
    · rw [state]
      intro impossible
      cases impossible
  all_goals next state => rw [state]

theorem commit_clears (finish : Option ErrorReport) :
    Clearing pre (Owning.commitTransactionCommand finish : OwnM E Unit) := by
  rintro ⟨pg, resources⟩ _
  rcases run : Postgres.commitTransactionCommand finish pg with ⟨_ | _ | _, after⟩
  · simp only [Owning.commitTransactionCommand, Comp.bind_apply, Comp.onFirst, Comp.read_apply,
      resume_ret, run]
    split
    · intro _ context member
      have kept := List.of_mem_filter member
      cases owner : context.owner with
      | transaction => simp [owner] at kept
      | value => rfl
    · next stays => exact fun outside => absurd (commitEnds_of_default run outside) stays
  · simp only [Owning.commitTransactionCommand, Comp.bind_apply, Comp.onFirst, Comp.read_apply,
      resume_ret, run]
    trivial
  · simp only [Owning.commitTransactionCommand, Comp.bind_apply, Comp.onFirst, Comp.read_apply,
      resume_ret, run]
    trivial

theorem abort_leaves : Clearing pre (Owning.abortCurrentTransaction : OwnM E Unit) := by
  rintro ⟨pg, resources⟩ _
  simp only [Owning.abortCurrentTransaction, Comp.bind_apply, Comp.onFirst, Comp.read_apply,
    resume_ret, abortCurrentTransaction_apply]
  split
  · next aborted =>
      have state := (Xact.isAbortedTransactionBlockState_iff _).mp aborted
      intro outside
      simp only [Pg.abortCurrent, state] at outside
      cases outside
  · intro outside context member
    have ended : decide (pg.abortCurrent.xact.blockState = .default) = true :=
      decide_eq_true outside
    simp only [Resources.abortTransaction, ended, if_true] at member
    have kept := List.of_mem_filter member
    cases owner : context.owner with
    | transaction => simp [owner] at kept
    | value => rfl

theorem withXact_clears {needsSnapshot : Bool} {finish : Option ErrorReport}
    {release : α → Resources → Unit × Resources} {body : OwnM E (PgWireResult α)} :
    Clearing pre (Owning.withXact needsSnapshot finish release body) := by
  apply Clearing.behind
  intro _
  apply Clearing.behind
  intro _
  apply Clearing.behind
  intro outcome
  have closes {result : PgWireResult α} : Clearing Anywhere (do
      Comp.onFirst (popIfNeeded needsSnapshot)
      Owning.commitTransactionCommand finish
      pure result : OwnM E (PgWireResult α)) :=
    .behind fun _ => (commit_clears finish).returning fun _ => result
  match outcome with
  | .ok (.ok value) =>
      apply Triple.onUnwind closes
      exact fun _ _ => trivial
  | .ok (.error err) => exact closes
  | .error payload => exact abort_leaves.returning fun _ => _

/-! ## Messages -/

theorem handleXactControlOne_clears (cmd : XactCmd) (finish : Option ErrorReport) :
    Clearing Cleared (Owning.handleXactControlOne cmd finish : OwnM E _) := by
  have brackets {β : Type} (step : PgM E β) (tag : Tag) : Clearing Cleared (do
      Owning.startTransactionCommand
      let _ ← Comp.onFirst step
      Owning.commitTransactionCommand finish
      pure tag : OwnM E Tag) :=
    .behind fun _ => .behind fun _ => (commit_clears finish).returning fun _ => tag
  have controls (inBlock : Bool) :
      Clearing Cleared (Owning.xactControlBody cmd inBlock finish : OwnM E Tag) := by
    cases cmd <;> apply Triple.ite <;> intro _
    · exact .pure fun _ cleared => cleared
    · exact brackets beginTransactionBlock _
    · exact .pure fun _ cleared => cleared
    · exact brackets (endTransactionBlock false) _
    · exact .pure fun _ cleared => cleared
    · exact brackets (userAbortTransactionBlock false) _
  have reads : Clearing Cleared (Comp.onFirst
      (Comp.read fun pg => pg.xact.isTransactionBlock) : OwnM E Bool) :=
    fun _ cleared => cleared
  apply Triple.bind reads
  intro inBlock
  apply Triple.bind (.catchUnwind (controls inBlock))
  intro outcome
  match outcome with
  | .ok tag => exact .pure fun _ cleared => cleared
  | .error payload => exact abort_leaves.returning fun _ => _

/-- `Parse` runs in a transaction of its own or of the block. -/
theorem prepare_clears [TypeTable] (backend : ExecutionBackend) (request : ParseRequest)
    (failing : CompletionCall) :
    Clearing Cleared (Owning.prepare backend request failing : OwnM E _) := by
  apply Triple.ite
  · intro _
    exact .pure fun _ cleared => cleared
  intro _
  cases backend with
  | spi =>
      dsimp only
      unfold Owning.spiPrepare
      split
      · exact withXact_clears
      · exact .pure fun _ cleared => cleared
  | direct =>
      dsimp only
      unfold Owning.directPrepare
      split
      · exact withXact_clears
      · exact .pure fun _ cleared => cleared

theorem execute_clears [TypeTable] (statement : OwnedStatement) (request : ExecuteRequest E)
    (fate : PortalFate) : Clearing Cleared (Owning.execute statement request fate) := by
  unfold Owning.execute
  split
  · apply Triple.ite
    · intro _
      exact .pure fun _ cleared => cleared
    · intro _
      exact Clearing.behind fun _ => withXact_clears
  · apply Triple.ite
    · intro _
      exact .pure fun _ cleared => cleared
    · intro _
      exact Clearing.behind fun _ => withXact_clears
  · apply Triple.ite
    · intro _
      exact handleXactControlOne_clears _ request.finish
    · intro _
      exact .pure fun _ cleared => cleared

section Queries

variable [TypeTable] {parseCtx : Nat} {fate : RawStmt E → PortalFate}

theorem executeSingleDirect_clears (stmts : List (RawStmt E)) :
    Clearing Cleared (Owning.executeSingleDirect parseCtx fate stmts) := by
  induction stmts with
  | nil => exact .pure fun _ cleared => cleared
  | cons stmt rest inductionHypothesis =>
      apply Triple.ite
      · intro _
        exact inductionHypothesis
      intro _
      have reads : Clearing Cleared (Comp.onFirst
          (Comp.read fun pg => pg.xact.isAbortedTransactionBlockState) : OwnM E Bool) :=
        fun _ cleared => cleared
      apply Triple.bind reads
      intro aborted
      apply Triple.ite
      · intro _
        exact .pure fun _ cleared => cleared
      intro _
      apply Triple.bind withXact_clears
      intro result
      cases result with
      | error err => exact .pure fun _ cleared => cleared
      | ok response => exact inductionHypothesis.returning fun _ => _

/-- The loop returns responses only behind the commit of the last statement. -/
theorem implicitBlockLoopDirect_clears {stmts : List (RawStmt E)} (some : stmts ≠ []) :
    Triple pre (Owning.implicitBlockLoopDirect parseCtx fate stmts)
      (fun result state => ∀ responses, result = .ok responses → Cleared state)
      Anywhere Anywhere := by
  induction stmts generalizing pre with
  | nil => exact absurd rfl some
  | cons stmt rest inductionHypothesis =>
      have refuses (err : PgWireError) : Triple Anywhere
          (pure (.error err) : OwnM E (PgWireResult (List Response)))
          (fun result state => ∀ responses, result = .ok responses → Cleared state)
          Anywhere Anywhere := by
        intro _ _ responses impossible
        cases impossible
      apply Triple.bind (anyCall _)
      intro aborted
      apply Triple.ite
      · intro _
        exact refuses _
      intro _
      apply Triple.bind (anyCall _)
      intro _
      apply Triple.bind (anyCall _)
      intro _
      apply Triple.bind (anyCall _)
      intro _
      apply Triple.bind (anyCall _)
      intro resp
      apply Triple.bind (anyCall _)
      intro _
      cases resp with
      | error err => exact refuses err
      | ok response =>
          cases rest with
          | nil =>
              have closes : Clearing Anywhere (Owning.closeStatement true stmt) :=
                .behind fun _ => commit_clears stmt.finish
              apply Triple.bind closes
              intro _ _ cleared _ _
              exact cleared
          | cons next later =>
              apply Triple.bind (anyCall _)
              intro _
              apply Triple.bind (inductionHypothesis (List.cons_ne_nil next later))
              intro more
              apply Triple.pure
              intro _ cleared responses same
              cases more with
              | error err => cases same
              | ok others => exact cleared others rfl

omit [TypeTable] in
/-- A call that makes contexts of values only. -/
theorem note_clears {change : Resources → α × Resources}
    (made : ∀ resources, ∀ context ∈ (change resources).2.contexts,
      context ∈ resources.contexts ∨ context.owner = .value) :
    Clearing Cleared (Comp.note change : OwnM E α) := by
  intro state cleared outside context member
  rcases made state.2 context member with earlier | value
  · exact cleared outside context earlier
  · exact value

omit [TypeTable] in
theorem delete_clears (number : Nat) :
    Clearing Cleared (Comp.note (Resources.memoryContextDelete number) : OwnM E Unit) := by
  apply note_clears
  intro resources context member
  have earlier := List.mem_of_mem_filter member
  unfold Resources.demand at earlier
  split at earlier <;> split at earlier <;> exact .inl earlier

omit [TypeTable] in
theorem switch_clears (target : Option Nat) :
    Clearing Cleared
      (Comp.note (Resources.memoryContextSwitchTo target) : OwnM E (Option Nat)) := by
  apply note_clears
  intro resources context member
  simp only [Resources.memoryContextSwitchTo, Resources.demand] at member
  split at member <;> exact .inl member

omit [TypeTable] in
theorem parseAndKeep_clears (query : SimpleQuery E) :
    Clearing Cleared (Owning.parseAndKeep query) := by
  apply Triple.ite
  · intro _
    exact .pure fun _ cleared => cleared
  intro _
  have allocates : Clearing Cleared
      (Comp.note (Resources.allocSetContextCreate .value) : OwnM E Nat) := by
    apply note_clears
    intro resources context member
    rcases List.mem_append.mp member with earlier | last
    · exact .inl earlier
    · rw [List.mem_singleton.mp last]
      exact .inr rfl
  apply Triple.bind allocates
  intro parseCtx
  apply Triple.bind (switch_clears _)
  intro prev
  apply Triple.bind (switch_clears _)
  intro _
  cases query.parsed with
  | error report => exact (delete_clears parseCtx).returning fun _ => _
  | ok stmts => exact .pure fun _ cleared => cleared

theorem executeSimpleQueryDirect_clears (query : SimpleQuery E) :
    Clearing Cleared (Owning.executeSimpleQueryDirect query fate) := by
  apply Triple.bind (parseAndKeep_clears query)
  intro parsed
  match parsed with
  | .error err => exact .pure fun _ cleared => cleared
  | .ok (statements, parseCtx) =>
      have discards : Triple Anywhere (Comp.note (Resources.memoryContextDelete parseCtx) :
          OwnM E Unit) (fun _ => Anywhere) Never Never := fun _ _ => trivial
      apply Triple.releasing _ (fun _ => delete_clears parseCtx) discards
      apply Triple.ite
      · intro several
        have some : nonEmpty statements ≠ [] := by
          intro none
          rw [none] at several
          cases several
        apply Triple.bind (.catchUnwind (implicitBlockLoopDirect_clears some))
        intro outcome
        match outcome with
        | .ok (.ok responses) => exact .pure fun _ cleared => cleared responses rfl
        | .ok (.error err) => exact abort_leaves.returning fun _ => _
        | .error payload => exact abort_leaves.returning fun _ => _
      · intro _
        exact executeSingleDirect_clears statements

end Queries

end PgTransport.Backend
