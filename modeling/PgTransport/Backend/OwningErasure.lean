import PgTransport.Backend.Owning

/-!
# Without the notes

The backends that keep account of what they own do what the backends do: the call that is
named to raise raises nothing else, and nothing depends on what is handed out.
-/

namespace PgTransport.Backend

open PgTransport.Computation
open PgTransport.Postgres
open PgTransport.Wire

variable {E : Type} {α β γ : Type}

/-- A call that raises what the step behind it raises makes no difference. -/
theorem raiseAt_shadows {call : Type} [DecidableEq call] {here failing : call}
    {result : Except ErrorReport γ} {view : α → β} {next : Unit → OwnM E α} {plain : PgM E β}
    (raises : ∀ report, result = .error report → plain = ereport report)
    (shadows : ∀ value, Shadows view (next value) plain) :
    Shadows view (Owning.raiseAt here failing result >>= next) plain := by
  cases result with
  | ok value => exact shadows ()
  | error report =>
      rw [Owning.raiseAt]
      split
      · rw [raises report rfl]
        exact fun _ => rfl
      · exact shadows ()

/-! ## Brackets -/

theorem start_shadows :
    Shadows id (Owning.startTransactionCommand : OwnM E Unit) startTransactionCommand :=
  .bind_silent (.onFirst _) fun _ => .note _

theorem commit_shadows (finish : Option ErrorReport) :
    Shadows id (Owning.commitTransactionCommand finish : OwnM E Unit)
      (commitTransactionCommand finish) := by
  apply Shadows.silent_bind (.read _)
  intro ended
  apply Shadows.bind_silent (.onFirst _)
  intro _
  exact .ite (.note _) (.pure _)

theorem abort_shadows :
    Shadows id (Owning.abortCurrentTransaction : OwnM E Unit) abortCurrentTransaction := by
  apply Shadows.silent_bind (.read _)
  intro stays
  apply Shadows.bind_silent (.onFirst _)
  intro _
  apply Silent.bind (.read _)
  intro ended
  exact .ite (.pure _) (.note _)

theorem withXact_shadows {needsSnapshot : Bool} {finish : Option ErrorReport}
    {release : α → Resources → Unit × Resources} {view : α → β}
    {body : OwnM E (PgWireResult α)} {plain : PgM E (PgWireResult β)}
    (shadows : Shadows (Except.map view) body plain) :
    Shadows (Except.map view) (Owning.withXact needsSnapshot finish release body)
      (withXact needsSnapshot finish plain) := by
  apply Shadows.bind start_shadows
  intro _
  apply Shadows.bind (.onFirst _)
  intro _
  apply Shadows.bind (.catchUnwind shadows)
  intro outcome
  have closes (result : PgWireResult α) : Shadows (Except.map view) (do
      Comp.onFirst (popIfNeeded needsSnapshot)
      Owning.commitTransactionCommand finish
      pure result : OwnM E (PgWireResult α)) (do
      popIfNeeded needsSnapshot
      commitTransactionCommand finish
      pure (result.map view)) :=
    .bind (.onFirst _) fun _ => .bind (commit_shadows finish) fun _ => .pure _ _
  match outcome with
  | .ok (.ok value) => exact .onUnwind (.note _) (closes (.ok value))
  | .ok (.error err) => exact closes (.error err)
  | .error payload => exact .bind abort_shadows fun _ => .pure _ _

theorem withXact_responds_shadows {needsSnapshot : Bool} {finish : Option ErrorReport}
    {body : OwnM E (PgWireResult α)} {plain : PgM E (PgWireResult α)}
    (shadows : Shadows id body plain) :
    Shadows id (Owning.withXact needsSnapshot finish Owning.releaseResponse body)
      (withXact needsSnapshot finish plain) := by
  rw [← Except.map_id] at shadows ⊢
  exact withXact_shadows shadows

theorem spiSession_shadows {rcs : SpiRcs} {release : α → Resources → Unit × Resources}
    {view : α → β} {body : OwnM E (PgWireResult α)} {plain : PgM E (PgWireResult β)}
    (shadows : Shadows (Except.map view) body plain) :
    Shadows (Except.map view) (Owning.spiSession rcs release body) (spiSession rcs plain) := by
  apply Shadows.bind (.onFirst _)
  intro connectRc
  apply Shadows.ite
  · exact .pure _ _
  apply Shadows.bind shadows
  intro bodyResult
  apply Shadows.bind (.onFirst _)
  intro finishRc
  apply Shadows.silent_bind (.note _)
  intro _
  apply Shadows.ite
  · apply Shadows.silent_bind (.note _)
    intro _
    cases bodyResult <;> exact .pure _ _
  · exact .pure _ _

/-! ## Parse -/

section Parse

variable [TypeTable]

theorem completeSource_shadows (request : ParseRequest) (failing : CompletionCall)
    (clean : containsNul request.sql = false) (first : Node) (resolvedOids : List Oid)
    (queryCtx : Nat) :
    Shadows (Except.map OwnedStatement.statement)
      (Owning.completeSource request failing clean first resolvedOids queryCtx : OwnM E _)
      (do
        let shape ← callPg (fun _ => []) (request.complete resolvedOids)
        pure (.ok (.ofSource request.sql clean first resolvedOids shape))) := by
  have raises (report : ErrorReport) (fails : request.complete resolvedOids = .error report) :
      (do
        let shape ← callPg (fun _ => []) (request.complete resolvedOids)
        pure (.ok (.ofSource request.sql clean first resolvedOids shape)) :
          PgM E (PgWireResult PreparedStatement)) = ereport report := by
    rw [fails]
    rfl
  apply raiseAt_shadows raises
  intro _
  apply Shadows.silent_bind (.note _)
  intro source
  apply Shadows.onUnwind (.note _)
  apply raiseAt_shadows raises
  intro _
  apply Shadows.silent_bind (.note _)
  intro _
  apply Shadows.bind (.onFirst _)
  intro shape
  apply Shadows.silent_bind (.note _)
  intro _
  exact .pure _ _

theorem directPrepareBody_shadows (request : ParseRequest) (failing : CompletionCall)
    (clean : containsNul request.sql = false) :
    Shadows (Except.map OwnedStatement.statement)
      (Owning.directPrepareBody request failing clean : OwnM E _)
      (directPrepareBody request clean) := by
  apply Shadows.bind (.onFirst _)
  intro rawList
  match rawList with
  | [] => exact .pure _ _
  | none :: _ => exact .pure _ _
  | some first :: rest =>
      simp only [id]
      cases (if rest.isEmpty then classifyRawStmt first else none) with
      | some cmd => exact .pure _ _
      | none =>
      apply Shadows.silent_bind (.note _)
      intro queryCtx
      apply Shadows.silent_bind (.note _)
      intro prevCtx
      apply Shadows.bind (.onFirst _)
      intro analysis
      apply Shadows.silent_bind (.note _)
      intro _
      apply Shadows.ite
      · exact .pure _ _
      · exact completeSource_shadows request failing clean first _ queryCtx

theorem spiPrepareBody_shadows (request : ParseRequest)
    (clean : containsNul request.sql = false) :
    Shadows (Except.map OwnedStatement.statement)
      (Owning.spiPrepareBody request clean : OwnM E _) (spiPrepareBody request clean) := by
  apply Shadows.bind (.onFirst _)
  rintro ⟨argOids, classification⟩
  cases classification with
  | some cmd => exact .pure _ _
  | none =>
  apply Shadows.bind (.onFirst _)
  intro prepared
  match prepared with
  | .error rc => exact .pure _ _
  | .ok plan =>
      apply Shadows.silent_bind (.note _)
      intro number
      apply Shadows.ite
      · exact .pure _ _
      apply Shadows.silent_bind (.note _)
      intro _
      exact .pure _ _

/-- `Parse` with its account does what it does without. -/
theorem prepare_shadows (backend : ExecutionBackend) (request : ParseRequest)
    (failing : CompletionCall) :
    Shadows (Except.map OwnedStatement.statement)
      (Owning.prepare backend request failing : OwnM E _) (prepare backend request) := by
  apply Shadows.ite
  · exact .pure _ _
  cases backend with
  | spi =>
      dsimp only
      unfold Owning.spiPrepare spiPrepare
      split
      · next clean =>
          exact withXact_shadows (spiSession_shadows (spiPrepareBody_shadows request clean))
      · exact .pure _ _
  | direct =>
      dsimp only
      unfold Owning.directPrepare directPrepare
      split
      · next clean => exact withXact_shadows (directPrepareBody_shadows request failing clean)
      · exact .pure _ _

end Parse

/-! ## Execute -/

/-- Planning and portals raise what running the portal raises. -/
theorem portalAnswer_raises {node : Node} {portal : Except ErrorReport (PortalRun E)}
    (next : PortalRun E → PgM E α) (report : ErrorReport)
    (fails : Owning.portalAnswer node portal = .error report) :
    runPortal node portal >>= next = ereport report := by
  cases node with
  | transactionStmt stmt => cases fails
  | fetchStmt ismove portalname | other requiresAnalysis =>
      cases portal with
      | error first =>
          cases fails
          rfl
      | ok run => cases fails

theorem directExecuteBody_shadows [TypeTable] (backend : DirectBackendPlan) (source : Nat)
    (request : ExecuteRequest E) {fate : PortalFate} (stays : fate.endsTransaction = false)
    (formats : BoundFormats) :
    Shadows id (Owning.directExecuteBody backend source request fate formats)
      (directExecuteBody backend request formats) := by
  apply Shadows.bind (.onFirst _)
  intro decoded
  match decoded with
  | .error err => exact .pure _ _
  | .ok _ =>
  apply Shadows.bind (.onFirst _)
  intro _
  apply raiseAt_shadows (portalAnswer_raises _)
  intro _
  apply Shadows.silent_bind (.note _)
  intro _
  apply Shadows.releasing (.note _)
  apply raiseAt_shadows (portalAnswer_raises _)
  intro _
  apply Shadows.silent_bind (.note _)
  intro portal
  apply Shadows.releasing (.note _)
  apply Shadows.silent_bind (.note _)
  intro _
  rw [stays, Owning.portalRun_false]
  apply Shadows.bind (.onFirst _)
  intro run
  exact .pure _ _

theorem spiExecuteBody_shadows (backend : SpiBackendPlan) (number : Nat)
    (request : ExecuteRequest E) (formats : BoundFormats) :
    Shadows id (Owning.spiExecuteBody backend number request formats)
      (spiExecuteBody backend request formats) := by
  apply Shadows.bind (.onFirst _)
  intro decoded
  match decoded with
  | .error err => exact .pure _ _
  | .ok _ =>
  apply Shadows.silent_bind (.note _)
  intro _
  apply Shadows.bind (.onFirst _)
  intro result
  apply Shadows.ite
  · exact .pure _ _
  apply Shadows.bind (.onFirst _)
  intro response
  exact .pure _ _

theorem xactControlBody_shadows (cmd : XactCmd) (inBlock : Bool) (finish : Option ErrorReport) :
    Shadows id (Owning.xactControlBody cmd inBlock finish : OwnM E Tag)
      (xactControlBody cmd inBlock finish) := by
  have brackets {γ : Type} (step : PgM E γ) (tag : Tag) : Shadows id (do
      Owning.startTransactionCommand
      let _ ← Comp.onFirst step
      Owning.commitTransactionCommand finish
      pure tag : OwnM E Tag) (do
      startTransactionCommand
      let _ ← step
      commitTransactionCommand finish
      pure tag) :=
    .bind start_shadows fun _ => .bind (.onFirst _) fun _ =>
      .bind (commit_shadows finish) fun _ => .pure _ _
  cases cmd
  · exact .ite (.pure _ _) (brackets beginTransactionBlock _)
  · exact .ite (.pure _ _) (brackets (endTransactionBlock false) _)
  · exact .ite (.pure _ _) (brackets (userAbortTransactionBlock false) _)

theorem handleXactControlOne_shadows (cmd : XactCmd) (finish : Option ErrorReport) :
    Shadows id (Owning.handleXactControlOne cmd finish : OwnM E _)
      (handleXactControlOne cmd finish) := by
  apply Shadows.bind (.onFirst _)
  intro inBlock
  apply Shadows.bind (.catchUnwind (xactControlBody_shadows cmd inBlock finish))
  intro outcome
  match outcome with
  | .ok tag => exact .pure _ _
  | .error payload => exact .bind abort_shadows fun _ => .pure _ _

/-- `Execute` with its account does what it does without. -/
theorem execute_shadows [TypeTable] (statement : OwnedStatement) (request : ExecuteRequest E)
    {fate : PortalFate} (stays : fate.endsTransaction = false) :
    Shadows id (Owning.execute statement request fate)
      (statement.statement.execute request) := by
  unfold Owning.execute PreparedStatement.execute
  cases statement.statement.plan with
  | spi plan =>
      apply Shadows.ite
      · exact .pure _ _
      apply Shadows.bind (.onFirst _)
      intro formats
      have session := spiExecuteBody_shadows plan statement.number request formats
      rw [← Except.map_id] at session
      have sessions := @spiSession_shadows _ _ _ request.spiRcs Owning.releaseResponse _ _ _ session
      rw [Except.map_id] at sessions
      exact withXact_responds_shadows sessions
  | direct plan =>
      apply Shadows.ite
      · exact .pure _ _
      apply Shadows.bind (.onFirst _)
      intro formats
      exact withXact_responds_shadows
        (directExecuteBody_shadows plan statement.number request stays formats)
  | xactControl cmd =>
      apply Shadows.ite
      · exact handleXactControlOne_shadows cmd request.finish
      · exact .pure _ _

/-! ## Simple queries -/

section Queries

variable [TypeTable] {fate : RawStmt E → PortalFate}
  (stays : ∀ stmt, (fate stmt).endsTransaction = false) (parseCtx : Nat)

include stays

theorem runOneDirect_shadows (stmt : RawStmt E) :
    Shadows id (Owning.runOneDirect parseCtx fate stmt) (runOneDirect stmt) := by
  apply Shadows.silent_bind (.note _)
  intro prevCtx
  apply raiseAt_shadows (portalAnswer_raises _)
  intro _
  apply raiseAt_shadows (portalAnswer_raises _)
  intro _
  apply Shadows.silent_bind (.note _)
  intro portal
  apply Shadows.releasing (.note _)
  apply Shadows.silent_bind (.note _)
  intro _
  apply Shadows.silent_bind (.note _)
  intro _
  apply Shadows.silent_bind (.note _)
  intro _
  rw [stays, Owning.portalRun_false]
  exact .bind (.onFirst _) fun _ => .pure _ _

theorem executeSingleDirect_shadows (stmts : List (RawStmt E)) :
    Shadows id (Owning.executeSingleDirect parseCtx fate stmts)
      (executeSingleDirect stmts) := by
  induction stmts with
  | nil => exact .pure _ _
  | cons stmt rest inductionHypothesis =>
      apply Shadows.ite inductionHypothesis
      apply Shadows.bind (.onFirst _)
      intro aborted
      apply Shadows.ite
      · exact .pure _ _
      apply Shadows.bind
        (withXact_responds_shadows (runOneDirect_shadows stays parseCtx stmt))
      intro result
      cases result with
      | error err => exact .pure _ _
      | ok response => exact .bind inductionHypothesis fun _ => .pure _ _

theorem implicitBlockLoopDirect_shadows (stmts : List (RawStmt E)) :
    Shadows id (Owning.implicitBlockLoopDirect parseCtx fate stmts)
      (implicitBlockLoopDirect stmts) := by
  induction stmts with
  | nil => exact .pure _ _
  | cons stmt rest inductionHypothesis =>
      apply Shadows.bind (.onFirst _)
      intro aborted
      apply Shadows.ite
      · exact .pure _ _
      apply Shadows.bind start_shadows
      intro _
      apply Shadows.bind (.onFirst _)
      intro _
      apply Shadows.bind (.onFirst _)
      intro _
      apply Shadows.bind (runOneDirect_shadows stays parseCtx stmt)
      intro resp
      apply Shadows.bind (.onFirst _)
      intro _
      cases resp with
      | error err => exact .pure _ _
      | ok response =>
          have later : Shadows id (do
              let more ← Owning.implicitBlockLoopDirect parseCtx fate rest
              pure (more.map fun later => response :: later)) (do
              let more ← implicitBlockLoopDirect rest
              pure (more.map fun later => response :: later)) :=
            .bind inductionHypothesis fun _ => .pure _ _
          simp only [id, Owning.closeStatement]
          by_cases last : rest.isEmpty = true
          · rw [if_pos last, if_pos last, bind_assoc]
            exact .bind (.onFirst _) fun _ => .bind (commit_shadows _) fun _ => later
          rw [if_neg last, if_neg last]
          by_cases command : isTransactionStmt stmt.node = true
          · rw [if_pos command, if_pos command]
            exact .bind (commit_shadows _) fun _ => later
          · rw [if_neg command, if_neg command]
            exact .bind (.onFirst _) fun _ => later

/-- A simple query with its account does what it does without. -/
theorem executeSimpleQueryDirect_shadows (query : SimpleQuery E) :
    Shadows id (Owning.executeSimpleQueryDirect query fate)
      (executeSimpleQueryDirect query) := by
  have parses : Shadows (Except.map Prod.fst) (Owning.parseAndKeep query)
      (pure (parseAndKeep query)) := by
    unfold Owning.parseAndKeep parseAndKeep
    split
    · exact .pure _ _
    apply Shadows.silent_bind (.note _)
    intro parseCtx
    apply Shadows.silent_bind (.note _)
    intro prev
    apply Shadows.silent_bind (.note _)
    intro _
    cases query.parsed with
    | error report => exact .silent_bind (.note _) fun _ => .pure _ _
    | ok stmts => exact .pure _ _
  apply Shadows.bind_known parses
  intro parsed same
  cases parsed with
  | error err =>
      rw [executeSimpleQueryDirect, ← same]
      exact .pure _ _
  | ok kept =>
      rw [executeSimpleQueryDirect, ← same]
      apply Shadows.releasing (.note _)
      apply Shadows.ite
      · apply Shadows.bind (.catchUnwind (implicitBlockLoopDirect_shadows stays kept.2 _))
        rintro (payload | err | responses)
        · exact .bind abort_shadows fun _ => .pure _ _
        · exact .bind abort_shadows fun _ => .pure _ _
        · exact .pure _ _
      · exact executeSingleDirect_shadows stays kept.2 kept.1

end Queries

end PgTransport.Backend
