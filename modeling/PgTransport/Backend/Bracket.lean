import PgTransport.Backend.Session

/-!
# What the transaction brackets do

The body of a bracket almost always does nothing to the transaction beside
adding work to it.  For such bodies the effect of `withXact` is determined by
the block state it starts in: outside a block the bracket is a transaction of
its own, inside one it is a step of the block, and an aborted block is never
entered with a snapshot.
-/

namespace PgTransport.Postgres

open PgTransport.Computation

variable {E : Type} {α β : Type}

/-- The computation only adds work to the running transaction; when it unwinds
it may leave SPI sessions open. -/
def WorksOnly (step : PgM E α) : Prop :=
  ∀ pg, ∃ effects,
    (∃ value, step pg = (.ret value, pg.work effects)) ∨
    ∃ payload depth, step pg =
      (.unwind payload, (pg.work effects).atSpiDepth depth)

namespace Pg

@[simp]
theorem work_nil (pg : Pg E) : pg.work [] = pg := by
  simp [work, mapXact]

theorem work_work (first second : List E) (pg : Pg E) :
    (pg.work first).work second = pg.work (first ++ second) := by
  simp [work, mapXact, Xact.work_work]

@[simp]
theorem work_blockState (effects : List E) (pg : Pg E) :
    (pg.work effects).xact.blockState = pg.xact.blockState :=
  rfl

@[simp]
theorem work_activeSnapshots (effects : List E) (pg : Pg E) :
    (pg.work effects).activeSnapshots = pg.activeSnapshots :=
  rfl

@[simp]
theorem mapXact_xact (update : Xact E → Xact E) (pg : Pg E) :
    (pg.mapXact update).xact = update pg.xact :=
  rfl

@[simp]
theorem releaseAll_xact (pg : Pg E) : pg.releaseAll.xact = pg.xact :=
  rfl

@[simp]
theorem mapXact_misuses (update : Xact E → Xact E) (pg : Pg E) :
    (pg.mapXact update).misuses = pg.misuses :=
  rfl

@[simp]
theorem releaseAll_misuses (pg : Pg E) : pg.releaseAll.misuses = pg.misuses :=
  rfl

@[simp]
theorem atSpiDepth_xact (depth : Nat) (pg : Pg E) : (pg.atSpiDepth depth).xact = pg.xact :=
  rfl

@[simp]
theorem work_misuses (effects : List E) (pg : Pg E) :
    (pg.work effects).misuses = pg.misuses :=
  rfl

/-- The state in which a bracket entered outside a block runs its body, before
the snapshot is pushed. -/
def begun (needsSnapshot : Bool) (pg : Pg E) : Pg E :=
  pg.mapXact fun xact =>
    { xact.startTransaction with firstSnapshotSet := needsSnapshot }

/-- The state in which a bracket entered inside a block runs its body, before
the snapshot is pushed. -/
def joined (needsSnapshot : Bool) (pg : Pg E) : Pg E :=
  pg.mapXact fun xact =>
    { xact with firstSnapshotSet := xact.firstSnapshotSet || needsSnapshot }

/-- With the snapshot of a bracket pushed. -/
def hold (needsSnapshot : Bool) (pg : Pg E) : Pg E :=
  { pg with activeSnapshots := pg.activeSnapshots + needsSnapshot.toNat }

@[simp]
theorem hold_xact (needsSnapshot : Bool) (pg : Pg E) :
    (pg.hold needsSnapshot).xact = pg.xact :=
  rfl

@[simp]
theorem joined_false (pg : Pg E) : pg.joined false = pg := by
  simp [joined, mapXact]

@[simp]
theorem hold_false (pg : Pg E) : pg.hold false = pg :=
  rfl

@[simp]
theorem begun_blockState (needsSnapshot : Bool) (pg : Pg E) :
    (pg.begun needsSnapshot).xact.blockState = .started :=
  rfl

@[simp]
theorem joined_blockState (needsSnapshot : Bool) (pg : Pg E) :
    (pg.joined needsSnapshot).xact.blockState = pg.xact.blockState :=
  rfl

end Pg

namespace WorksOnly

theorem pure (value : α) : WorksOnly (Pure.pure value : PgM E α) :=
  fun pg => ⟨[], .inl ⟨value, by simp⟩⟩

theorem raise (payload : Payload) : WorksOnly (Comp.raise payload : PgM E α) :=
  fun pg => ⟨[], .inr ⟨payload, pg.spiDepth, by simp [Pg.atSpiDepth]⟩⟩

theorem perform (effects : List E) : WorksOnly (perform effects : PgM E Unit) :=
  fun _ => ⟨effects, .inl ⟨(), rfl⟩⟩

theorem bind {step : PgM E α} {next : α → PgM E β} (first : WorksOnly step)
    (second : ∀ value, WorksOnly (next value)) : WorksOnly (step >>= next) := by
  intro pg
  obtain ⟨effects, ⟨value, run⟩ | ⟨payload, depth, run⟩⟩ := first pg
  · obtain ⟨more, ⟨result, rest⟩ | ⟨payload, depth, rest⟩⟩ :=
      second value (pg.work effects)
    · exact ⟨effects ++ more, .inl ⟨result, by simp [run, rest, Pg.work_work]⟩⟩
    · exact ⟨effects ++ more, .inr ⟨payload, depth, by simp [run, rest, Pg.work_work]⟩⟩
  · exact ⟨effects, .inr ⟨payload, depth, by simp [run]⟩⟩

theorem ite {condition : Prop} [Decidable condition] {positive negative : PgM E α}
    (first : WorksOnly positive) (second : WorksOnly negative) :
    WorksOnly (if condition then positive else negative) := by
  split
  · exact first
  · exact second

end WorksOnly

end PgTransport.Postgres

namespace PgTransport.Backend

open PgTransport.Computation
open PgTransport.Postgres
open PgTransport.Wire

variable {E : Type} {α : Type}

@[simp]
theorem callPg_error (effects : α → List E) (report : ErrorReport) (pg : Pg E) :
    callPg effects (.error report) pg = (.unwind (.caughtError report), pg) :=
  rfl

@[simp]
theorem callPg_ok (effects : α → List E) (value : α) (pg : Pg E) :
    callPg effects (.ok value) pg = (.ret value, pg.work (effects value)) :=
  rfl

theorem worksOnly_callPg (effects : α → List E) (result : Except ErrorReport α) :
    WorksOnly (callPg effects result) := by
  cases result with
  | error report => exact .raise _
  | ok value => exact .bind (.perform _) fun _ => .pure value

theorem worksOnly_liftPanic (result : Except Payload α) :
    WorksOnly (liftPanic result : PgM E α) := by
  cases result with
  | error payload => exact .raise payload
  | ok value => exact .pure value

theorem worksOnly_spiSession (rcs : SpiRcs) {body : PgM E (PgWireResult α)}
    (works : WorksOnly body) : WorksOnly (spiSession rcs body) := by
  intro pg
  by_cases connected : rcs.connect = SPI_OK_CONNECT
  · obtain ⟨effects, ⟨value, run⟩ | ⟨payload, depth, run⟩⟩ :=
      works { pg with spiDepth := pg.spiDepth + 1 }
    · refine ⟨effects, .inl ⟨if rcs.finish ≠ SPI_OK_FINISH then
        value.andError (spiRcError "SPI_finish" rcs.finish) else value, ?_⟩⟩
      by_cases finished : rcs.finish = SPI_OK_FINISH <;>
        simp [spiSession, spiConnect, spiFinish, Pg.closeSession, connected, run, finished, Pg.work,
          Pg.mapXact]
    · exact ⟨effects, .inr ⟨payload, depth, by
        simp [spiSession, spiConnect, connected, run, Pg.work, Pg.mapXact,
          Pg.atSpiDepth]⟩⟩
  · exact ⟨[], .inl ⟨.error (spiRcError "SPI_connect" rcs.connect), by
      simp [spiSession, spiConnect, connected]⟩⟩

/-! ## Entering and leaving a bracket -/

/-- What a bracket does after its body: pop and commit, or abort. -/
def leaveBracket (needsSnapshot : Bool) (finish : Option ErrorReport) :
    Outcome Payload (PgWireResult α) × Pg E → Outcome Payload (PgWireResult α) × Pg E
  | (.ret result, pg) =>
      resume (popIfNeeded needsSnapshot pg) fun _ => do
        commitTransactionCommand finish
        pure result
  | (.unwind payload, pg) => (.ret (Except.error (panicToPgwire payload)), pg.abortCurrent)
  | (.halt, pg) => (.halt, pg)

section Bracket

variable {needsSnapshot : Bool} {finish : Option ErrorReport}
  {body : PgM E (PgWireResult α)} {pg inside : Pg E} {effects : List E}

theorem withXact_of_enter
    (enter : (do startTransactionCommand; pushIfNeeded needsSnapshot) pg =
      (.ret (), inside)) :
    withXact needsSnapshot finish body pg =
      leaveBracket needsSnapshot finish (body inside) := by
  rw [Comp.bind_apply] at enter
  rcases started : startTransactionCommand pg with ⟨_ | _ | _, mid⟩ <;>
    simp only [started, resume_ret, resume_unwind, resume_halt, Prod.mk.injEq,
      reduceCtorEq, false_and] at enter
  simp only [withXact, Comp.bind_apply, started, resume_ret, enter]
  rcases ended : body inside with ⟨outcome, final⟩
  cases outcome with
  | ret result =>
      rw [Comp.catchUnwind_of_ret ended]
      cases result <;> rfl
  | unwind payload =>
      rw [Comp.catchUnwind_of_unwind ended]
      rfl
  | halt =>
      rw [Comp.catchUnwind_of_halt ended]
      rfl

theorem enter_default (outside : pg.xact.blockState = .default) :
    (do startTransactionCommand; pushIfNeeded needsSnapshot) pg =
      (.ret (), (pg.begun needsSnapshot).hold needsSnapshot) := by
  cases needsSnapshot <;>
    simp [startTransactionCommand, outside, pushIfNeeded, pushTransactionSnapshot,
      Xact.isAbortedTransactionBlockState, Pg.begun, Pg.hold, Pg.mapXact,
      Xact.startTransaction]

theorem enter_inprogress (inBlock : pg.xact.blockState = .inprogress) :
    (do startTransactionCommand; pushIfNeeded needsSnapshot) pg =
      (.ret (), (pg.joined needsSnapshot).hold needsSnapshot) := by
  cases needsSnapshot with
  | false => simp [startTransactionCommand, inBlock, pushIfNeeded]
  | true => simp [startTransactionCommand, inBlock, pushIfNeeded,
      pushTransactionSnapshot, Xact.isAbortedTransactionBlockState, Pg.joined, Pg.hold,
      Pg.mapXact]

@[simp]
theorem popIfNeeded_hold (pg : Pg E) :
    popIfNeeded needsSnapshot (pg.hold needsSnapshot) = (.ret (), pg) := by
  cases needsSnapshot <;> simp [popIfNeeded, popActiveSnapshot, Pg.hold]

theorem hold_work (effects : List E) (pg : Pg E) :
    (pg.hold needsSnapshot).work effects = (pg.work effects).hold needsSnapshot :=
  rfl

/-- The end of a bracket whose body returned: the state after the step or the
commit that the block state calls for, or the error raised on the way. -/
def concludeBracket (result : PgWireResult α) (raised concluded : Pg E) :
    Option ErrorReport → Outcome Payload (PgWireResult α) × Pg E
  | none => (.ret result, concluded)
  | some report => (.unwind (.caughtError report), raised)

/-- Outside a block, a returning body makes a transaction of its own. -/
theorem withXact_default_ret (outside : pg.xact.blockState = .default)
    {result : PgWireResult α}
    (run : body ((pg.begun needsSnapshot).hold needsSnapshot) =
      (.ret result, ((pg.begun needsSnapshot).hold needsSnapshot).work effects)) :
    withXact needsSnapshot finish body pg =
      concludeBracket result ((pg.begun needsSnapshot).work effects)
        (((pg.begun needsSnapshot).work effects).mapXact Xact.commitTransaction)
        finish := by
  rw [withXact_of_enter (enter_default outside), run, hold_work]
  cases finish <;> simp [leaveBracket, commitTransactionCommand, concludeBracket]

/-- Outside a block, an unwinding body is rolled back. -/
theorem withXact_default_unwind (outside : pg.xact.blockState = .default)
    {payload : Payload} {depth : Nat}
    (run : body ((pg.begun needsSnapshot).hold needsSnapshot) =
      (.unwind payload,
        (((pg.begun needsSnapshot).hold needsSnapshot).work effects).atSpiDepth depth)) :
    withXact needsSnapshot finish body pg =
      (.ret (.error (panicToPgwire payload)),
        ((pg.begun needsSnapshot).work effects).releaseAll.mapXact Xact.rollback) := by
  rw [withXact_of_enter (enter_default outside), run, hold_work]
  simp [leaveBracket, Pg.abortCurrent]
  rfl

/-- Inside a block, a returning body is a step of the block. -/
theorem withXact_inprogress_ret (inBlock : pg.xact.blockState = .inprogress)
    {result : PgWireResult α}
    (run : body ((pg.joined needsSnapshot).hold needsSnapshot) =
      (.ret result, ((pg.joined needsSnapshot).hold needsSnapshot).work effects)) :
    withXact needsSnapshot finish body pg =
      concludeBracket result ((pg.joined needsSnapshot).work effects)
        ((pg.joined needsSnapshot).work effects) finish := by
  rw [withXact_of_enter (enter_inprogress inBlock), run, hold_work]
  cases finish <;>
    simp [leaveBracket, commitTransactionCommand, commandCounterIncrement,
      concludeBracket, inBlock]

/-- Inside a block, an unwinding body aborts the block. -/
theorem withXact_inprogress_unwind (inBlock : pg.xact.blockState = .inprogress)
    {payload : Payload} {depth : Nat}
    (run : body ((pg.joined needsSnapshot).hold needsSnapshot) =
      (.unwind payload,
        (((pg.joined needsSnapshot).hold needsSnapshot).work effects).atSpiDepth depth)) :
    withXact needsSnapshot finish body pg =
      (.ret (.error (panicToPgwire payload)),
        ((pg.joined needsSnapshot).work effects).releaseAll.mapXact Xact.abortLevel) := by
  rw [withXact_of_enter (enter_inprogress inBlock), run, hold_work]
  simp [leaveBracket, Pg.abortCurrent, inBlock]
  rfl

/-- In an aborted block a bracket with a snapshot is a misuse: it halts the
process before its body runs. -/
theorem withXact_abort (aborted : pg.xact.blockState = .abort) :
    withXact true finish body pg = (.halt, pg.record .snapshotWhileAborted) := by
  simp [withXact, startTransactionCommand, aborted, pushIfNeeded,
    pushTransactionSnapshot, assertionFailure]

end Bracket

end PgTransport.Backend
