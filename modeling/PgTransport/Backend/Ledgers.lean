import PgTransport.Backend.OpenBlocks
import PgTransport.Backend.Owning

/-!
# Balanced books

Every body that a bracket is given leaves the books with what it returns and, where it
unwinds, as it found them, so that the bracket does so too.  Only the memory context may be
left switched where a body unwinds; the abort behind it switches back, but in an aborted
block, where nothing that may fail runs in a context of its own.
-/

namespace PgTransport.Backend

open PgTransport.Computation
open PgTransport.Postgres
open PgTransport.Wire

variable {E : Type} {α β : Type} {kept owned : List Nat} {ledger : Ledger}
  {holds before inside : Pg E → Prop}

/-- The books balance with this ledger, in a state of the server with `holds`. -/
def Lists (holds : Pg E → Prop) (ledger : Ledger) : Pg E × Resources → Prop :=
  Both holds fun resources => resources.Matches ledger

/-- Nothing is listed but what was there before, and if a context was left current, an abort
switches back. -/
def Unwound (kept owned : List Nat) (state : Pg E × Resources) : Prop :=
  ∃ current, state.2.Matches { Ledger.quiet kept owned with current } ∧
    (state.1.xact.blockState = .abort → current = none)

/-- No call was outside its contract. -/
def Faultless (state : Pg E × Resources) : Prop :=
  state.2.faults = []

/-- The block is not aborted. -/
def NotAborted (pg : Pg E) : Prop :=
  pg.xact.blockState ≠ .abort

/-- The kept plans with those that a result hands to its owner. -/
def withPlansOf (plansOf : α → List Nat) (kept : List Nat) : PgWireResult α → List Nat
  | .ok value => kept ++ plansOf value
  | .error _ => kept

/-- What the result hands to its owner is listed. -/
def Yields (plansOf : α → List Nat) (kept owned : List Nat) (result : PgWireResult α) :
    Pg E × Resources → Prop :=
  Lists Anything (.quiet (withPlansOf plansOf kept result) owned)

/-- Before the end of its session a plan may be listed that is not kept. -/
def Drafts (plansOf : α → List Nat) (kept owned : List Nat) (result : PgWireResult α) :
    Pg E × Resources → Prop :=
  Both Anything fun resources => ∃ unkept, resources.Matches
    { Ledger.quiet (withPlansOf plansOf kept result) owned with unkept }

theorem Lists.anything {state : Pg E × Resources} (lists : Lists holds ledger state) :
    Lists Anything ledger state :=
  ⟨trivial, lists.2⟩

theorem Lists.faultless {state : Pg E × Resources} (lists : Lists holds ledger state) :
    Faultless state :=
  lists.2.faultless

theorem Lists.unwound {state : Pg E × Resources} (lists : Lists holds (.quiet kept owned) state) :
    Unwound kept owned state :=
  ⟨none, lists.2, fun _ => rfl⟩

/-! ## Steps -/

/-- A step of the server changes no books. -/
theorem onFirst_lists {step : PgM E α} {post : α → Pg E → Prop} {raised halted : Pg E → Prop}
    (triple : Triple holds step post raised halted) :
    Triple (Lists holds ledger) (Comp.onFirst step) (fun value => Lists (post value) ledger)
      (Lists raised ledger) Faultless :=
  (Triple.onFirst triple _).consequence (fun _ here => here) (fun _ _ here => here)
    (fun _ here => here) fun _ here => here.2.faultless

/-- A call on the resources leads from one ledger to another. -/
theorem note_lists {change : Resources → α × Resources} {pre : Resources → Prop}
    {raised halted : Pg E × Resources → Prop}
    (changes : ∀ resources, pre resources → (change resources).2.Matches ledger) :
    Triple (Both holds pre) (Comp.note change : OwnM E α) (fun _ => Lists holds ledger)
      raised halted :=
  fun state here => ⟨here.1, changes state.2 here.2⟩

/-- Another context is made current; the one that was current before is returned. -/
theorem switch_lists {target : Option Nat} {raised halted : Pg E × Resources → Prop}
    (there : ∀ number ∈ target, number ∈ ledger.scratch ∨ number ∈ ledger.owned) :
    Triple (Lists holds ledger)
      (Comp.note (Resources.memoryContextSwitchTo target) : OwnM E (Option Nat))
      (fun previous state =>
        previous = ledger.current ∧ Lists holds { ledger with current := target } state)
      raised halted := by
  intro state lists
  obtain ⟨previous, balance⟩ := lists.2.memoryContextSwitchTo target there
  exact ⟨previous, lists.1, balance⟩

theorem anyStep (step : PgM E α) :
    Triple holds step (fun _ => Anything) Anything Anything := by
  intro pg _
  rcases step pg with ⟨_ | _ | _, final⟩ <;> trivial

/-- A body that only adds work leaves the block state alone. -/
theorem worksOnly_notAborted {body : PgM E α} (works : WorksOnly body) :
    Triple NotAborted body (fun _ => NotAborted) NotAborted Anything := by
  intro pg here
  obtain ⟨effects, ⟨value, run⟩ | ⟨payload, depth, run⟩⟩ := works pg <;> rw [run] <;> exact here

/-- A call that raises changes nothing. -/
theorem raiseAt_lists {call : Type} [DecidableEq call] (here failing : call)
    (result : Except ErrorReport β) :
    Triple (Lists holds ledger) (Owning.raiseAt here failing result)
      (fun _ => Lists holds ledger) (Lists holds ledger) Faultless := by
  unfold Owning.raiseAt
  cases result with
  | ok value => exact .pure fun _ lists => lists
  | error report =>
      apply Triple.ite
      · intro _
        have raises : Triple holds (ereport report : PgM E Unit) (fun _ => holds) holds Anything :=
          fun _ here => here
        exact onFirst_lists raises
      · intro _
        exact .pure fun _ lists => lists

/-! ## Transaction commands -/

/-- A transaction that needs a snapshot is not an aborted one. -/
theorem pushSnapshot_notAborted :
    Triple Anything (pushIfNeeded true : PgM E Unit) (fun _ => NotAborted) Anything Anything := by
  intro pg _
  rw [pushIfNeeded, if_pos rfl, pushTransactionSnapshot]
  split
  · trivial
  · next active =>
      intro aborted
      exact active ((Xact.isAbortedTransactionBlockState_iff _).mpr aborted)

theorem start_lists
    (starts : Triple before Postgres.startTransactionCommand (fun _ => inside) Anything Anything) :
    Triple (Lists before (.quiet kept owned)) Owning.startTransactionCommand
      (fun _ => Lists inside (.quiet kept owned)) (Lists Anything (.quiet kept owned))
      Faultless := by
  apply Triple.bind
  · exact onFirst_lists starts
  · intro _
    exact note_lists fun _ balance => balance.serverContext

theorem commit_lists (finish : Option ErrorReport) :
    Triple (Lists holds (.quiet kept owned)) (Owning.commitTransactionCommand finish)
      (fun _ => Lists Anything (.quiet kept owned)) (Lists Anything (.quiet kept owned))
      Faultless := by
  apply Triple.bind
  · exact onFirst_lists (anyStep _)
  · intro ended
    apply Triple.bind
    · exact onFirst_lists (anyStep _)
    · intro _
      apply Triple.ite
      · intro _
        exact note_lists fun _ balance => balance.commitTransaction rfl
      · intro _
        exact .pure fun _ lists => lists

/-- An abort switches back. -/
theorem abort_lists :
    Triple (Unwound kept owned) (Owning.abortCurrentTransaction : OwnM E Unit)
      (fun _ => Lists Anything (.quiet kept owned)) Never Never := by
  rintro ⟨pg, resources⟩ ⟨current, balance, switched⟩
  by_cases aborted : pg.xact.blockState = .abort
  · obtain rfl := switched aborted
    have stays : pg.xact.isAbortedTransactionBlockState = true :=
      (Xact.isAbortedTransactionBlockState_iff _).mpr aborted
    simp only [Owning.abortCurrentTransaction, Comp.bind_apply, Comp.onFirst, Comp.read_apply,
      resume_ret, stays, abortCurrentTransaction_apply, if_true]
    exact ⟨trivial, balance⟩
  · have goes : pg.xact.isAbortedTransactionBlockState = false :=
      Bool.eq_false_iff.mpr fun stays =>
        aborted ((Xact.isAbortedTransactionBlockState_iff _).mp stays)
    simp only [Owning.abortCurrentTransaction, Comp.bind_apply, Comp.onFirst, Comp.read_apply,
      resume_ret, goes, abortCurrentTransaction_apply, Bool.false_eq_true, if_false]
    exact ⟨trivial, balance.abortTransaction _ rfl⟩

/-! ## Brackets -/

/-- A bracket around a body that returns with books of its result. -/
theorem withXact_lists {needsSnapshot : Bool} {finish : Option ErrorReport}
    {release : α → Resources → Unit × Resources} {plansOf : α → List Nat}
    {body : OwnM E (PgWireResult α)}
    (starts : Triple before Postgres.startTransactionCommand (fun _ => before) Anything Anything)
    (pushes : Triple before (pushIfNeeded needsSnapshot) (fun _ => inside) Anything Anything)
    (balanced : Triple (Lists inside (.quiet kept owned)) body (Yields plansOf kept owned)
      (Unwound kept owned) Faultless)
    (released : ∀ value resources, resources.Matches (.quiet (kept ++ plansOf value) owned) →
      (release value resources).2.Matches (.quiet kept owned)) :
    Triple (Lists before (.quiet kept owned))
      (Owning.withXact needsSnapshot finish release body) (Yields plansOf kept owned)
      (Lists Anything (.quiet kept owned)) Faultless := by
  have popped {listed : List Nat} :
      Triple (Lists Anything (.quiet listed owned))
        (Comp.onFirst (popIfNeeded needsSnapshot) : OwnM E Unit)
        (fun _ => Lists Anything (.quiet listed owned))
        (Lists Anything (.quiet listed owned)) Faultless :=
    onFirst_lists (anyStep _)
  apply Triple.bind
  · exact start_lists starts
  intro _
  apply Triple.bind
  · exact onFirst_lists pushes
  intro _
  apply Triple.bind
  · exact .catchUnwind balanced
  intro outcome
  match outcome with
  | .ok (.ok value) =>
      -- The value is dropped where the commit fails.
      apply Triple.onUnwind
      · apply Triple.bind popped
        intro _
        apply Triple.bind (commit_lists finish)
        intro _
        exact .pure fun _ lists => lists
      · exact note_lists (released value)
  | .ok (.error err) =>
      apply Triple.bind popped
      intro _
      apply Triple.bind (commit_lists finish)
      intro _
      exact .pure fun _ lists => lists
  | .error payload =>
      apply Triple.bind
      · exact abort_lists.surely
      · intro _
        exact .pure fun _ lists => lists

theorem withPlansOf_nil (result : PgWireResult α) :
    withPlansOf (fun _ => []) kept result = kept := by
  cases result with
  | ok _ => exact List.append_nil kept
  | error _ => rfl

/-- A bracket around a body whose result owns no plan. -/
theorem withXact_responds {needsSnapshot : Bool} {finish : Option ErrorReport}
    {body : OwnM E (PgWireResult α)}
    (starts : Triple before Postgres.startTransactionCommand (fun _ => before) Anything Anything)
    (pushes : Triple before (pushIfNeeded needsSnapshot) (fun _ => inside) Anything Anything)
    (balanced : Triple (Lists inside (.quiet kept owned)) body
      (fun _ => Lists Anything (.quiet kept owned)) (Unwound kept owned) Faultless) :
    Triple (Lists before (.quiet kept owned))
      (Owning.withXact needsSnapshot finish Owning.releaseResponse body)
      (fun _ => Lists Anything (.quiet kept owned)) (Lists Anything (.quiet kept owned))
      Faultless := by
  have yields : Yields (fun _ : α => []) kept owned =
      fun _ => (Lists Anything (.quiet kept owned) : Pg E × Resources → Prop) := by
    funext result
    rw [Yields, withPlansOf_nil]
  rw [← yields] at balanced ⊢
  apply withXact_lists starts pushes balanced
  intro _ _ balance
  rw [List.append_nil] at balance
  exact balance

/-- A result that is dropped gives back what it owns. -/
theorem dropResult_lists {release : α → Resources → Unit × Resources} {plansOf : α → List Nat}
    (released : ∀ value resources, resources.Matches (.quiet (kept ++ plansOf value) owned) →
      (release value resources).2.Matches (.quiet kept owned)) (result : PgWireResult α) :
    Triple (Yields plansOf kept owned result)
      (Comp.note (Owning.dropResult release result) : OwnM E Unit)
      (fun _ => Lists Anything (.quiet kept owned)) (Lists Anything (.quiet kept owned))
      Faultless := by
  cases result with
  | ok value => exact note_lists (released value)
  | error err => exact fun _ lists => lists

/-- A session around a body that may leave a plan that it has not kept. -/
theorem spiSession_lists {rcs : SpiRcs} {release : α → Resources → Unit × Resources}
    {plansOf : α → List Nat} {body : OwnM E (PgWireResult α)}
    (balanced : Triple (Lists Anything (.quiet kept owned)) body
      (Drafts plansOf kept owned) (Lists Anything (.quiet kept owned)) Faultless)
    (released : ∀ value resources, resources.Matches (.quiet (kept ++ plansOf value) owned) →
      (release value resources).2.Matches (.quiet kept owned)) :
    Triple (Lists Anything (.quiet kept owned)) (Owning.spiSession rcs release body)
      (Yields plansOf kept owned) (Lists Anything (.quiet kept owned)) Faultless := by
  apply Triple.bind
  · exact onFirst_lists (anyStep _)
  intro connectRc
  apply Triple.ite
  · intro _
    exact .pure fun _ lists => lists
  intro _
  apply Triple.bind balanced
  intro bodyResult
  apply Triple.bind
  · have finishes : Triple Anything (spiFinish rcs.finish : PgM E Int) (fun _ => Anything)
        Never Never := fun _ _ => trivial
    exact (Triple.onFirst finishes _).consequence (fun _ here => here) (fun _ _ here => here)
      (fun _ here => here.1.elim) fun _ here => here.1.elim
  intro finishRc
  have finished : Triple (Drafts plansOf kept owned bodyResult)
      (Comp.note Resources.spiFinish : OwnM E Unit) (fun _ => Yields plansOf kept owned bodyResult)
      (Lists Anything (.quiet kept owned)) Faultless :=
    note_lists fun _ ⟨_, balance⟩ => balance.spiFinish
  apply Triple.bind finished
  intro _
  apply Triple.ite
  · intro _
    apply Triple.bind
    · exact dropResult_lists released bodyResult
    · intro _
      cases bodyResult <;> exact .pure fun _ lists => lists
  · intro _
    exact .pure fun _ lists => lists

/-- A session around a body whose result owns no plan. -/
theorem spiSession_responds {rcs : SpiRcs} {body : OwnM E (PgWireResult α)}
    (balanced : Triple (Lists Anything (.quiet kept owned)) body
      (fun _ => Lists Anything (.quiet kept owned)) (Lists Anything (.quiet kept owned))
      Faultless) :
    Triple (Lists Anything (.quiet kept owned)) (Owning.spiSession rcs Owning.releaseResponse body)
      (fun _ => Lists Anything (.quiet kept owned)) (Lists Anything (.quiet kept owned))
      Faultless := by
  have drafts : Triple (Lists Anything (.quiet kept owned)) body
      (Drafts (fun _ => []) kept owned) (Lists Anything (.quiet kept owned)) Faultless := by
    apply balanced.concluding
    intro result _ lists
    rw [Drafts, withPlansOf_nil]
    exact ⟨trivial, [], lists.2⟩
  have released (value : α) (resources : Resources)
      (balance : resources.Matches (.quiet (kept ++ []) owned)) :
      (Owning.releaseResponse value resources).2.Matches (.quiet kept owned) := by
    rw [List.append_nil] at balance
    exact balance
  apply (spiSession_lists drafts released).concluding
  intro result _ lists
  rwa [Yields, withPlansOf_nil] at lists

end PgTransport.Backend
