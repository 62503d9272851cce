import PgTransport.Computation.Uniform
import PgTransport.Postgres.Utility

/-!
# Backends with a past

A backend that has served transactions before differs from a fresh one in its
ledgers, which only grow, and in what the last transaction left behind, which the
next one overwrites.  No entry point of the server API can tell the two apart.
-/

namespace PgTransport.Postgres

open PgTransport.Computation

variable {E : Type} {committed rolledBack : List E}

/-- The block is marked for an end that may be chained. -/
def TBlockState.mayChain : TBlockState → Bool
  | .endBlock | .abortEnd | .abortPending => true
  | _ => false

/-- The second transaction state is the first one behind these ledgers.  What a
finished transaction leaves behind is not compared. -/
structure Behind (committed rolledBack : List E) (first second : Xact E) : Prop where
  blockState : second.blockState = first.blockState
  defaults : second.defaults = first.defaults
  prepared : second.prepared = first.prepared
  committed : second.committed = committed ++ first.committed
  rolledBack : second.rolledBack = rolledBack ++ first.rolledBack
  savepoints : first.blockState ≠ .default → second.savepoints = first.savepoints
  pending : first.blockState ≠ .default → second.pending = first.pending
  discarded : first.blockState ≠ .default → second.discarded = first.discarded
  characteristics : first.blockState ≠ .default →
    second.characteristics = first.characteristics
  firstSnapshotSet : first.blockState ≠ .default →
    second.firstSnapshotSet = first.firstSnapshotSet
  chain : first.blockState.mayChain = true → second.chain = first.chain

/-- The second backend is the first one behind these ledgers. -/
structure Alike (committed rolledBack : List E) (first second : Pg E) : Prop where
  xact : Behind committed rolledBack first.xact second.xact
  activeSnapshots : second.activeSnapshots = first.activeSnapshots
  spiDepth : second.spiDepth = first.spiDepth

/-- A backend that has served others cannot be told from one that has not. -/
abbrev Unaware (step : PgM E α) : Prop :=
  ∀ committed rolledBack, Uniform (Alike committed rolledBack) step

namespace Unaware

variable {α β : Type} {step : PgM E α} {next : α → PgM E β}

theorem pure (value : α) : Unaware (Pure.pure value : PgM E α) :=
  fun _ _ => .pure value

theorem raise (payload : Payload) : Unaware (Comp.raise payload : PgM E α) :=
  fun _ _ => .raise payload

theorem ite {condition : Prop} [Decidable condition] {positive negative : PgM E α}
    (first : Unaware positive) (second : Unaware negative) :
    Unaware (if condition then positive else negative) :=
  fun committed rolledBack => .ite (first committed rolledBack) (second committed rolledBack)

theorem bind (first : Unaware step) (second : ∀ value, Unaware (next value)) :
    Unaware (step >>= next) :=
  fun committed rolledBack =>
    (first committed rolledBack).bind fun value => second value committed rolledBack

theorem catchUnwind (unaware : Unaware step) : Unaware (Comp.catchUnwind step) :=
  fun committed rolledBack => (unaware committed rolledBack).catchUnwind

end Unaware

/-! ## The transaction state -/

namespace Behind

variable {first second : Xact E}

theorem isTransactionBlock (behind : Behind committed rolledBack first second) :
    second.isTransactionBlock = first.isTransactionBlock := by
  rw [Xact.isTransactionBlock, Xact.isTransactionBlock, behind.blockState]

theorem isAborted (behind : Behind committed rolledBack first second) :
    second.isAbortedTransactionBlockState = first.isAbortedTransactionBlockState := by
  rw [Xact.isAbortedTransactionBlockState, Xact.isAbortedTransactionBlockState,
    behind.blockState]

theorem isSubTransaction (behind : Behind committed rolledBack first second)
    (running : first.blockState ≠ .default) :
    second.isSubTransaction = first.isSubTransaction := by
  rw [Xact.isSubTransaction, Xact.isSubTransaction, behind.savepoints running]

theorem savepointDepth (behind : Behind committed rolledBack first second)
    (running : first.blockState ≠ .default) (name : String) :
    second.savepointDepth name = first.savepointDepth name := by
  rw [Xact.savepointDepth, Xact.savepointDepth, behind.savepoints running]

theorem work (behind : Behind committed rolledBack first second) (effects : List E) :
    Behind committed rolledBack (first.work effects) (second.work effects) := by
  obtain ⟨_, _, _, _, _, _, _, _, _, _, _⟩ := behind
  constructor <;> simp_all [Xact.work]

/-- Another block state, with the mark of a chained end where one is set. -/
theorem setBlockState (behind : Behind committed rolledBack first second)
    (running : first.blockState ≠ .default) (blockState : TBlockState)
    (unmarked : blockState.mayChain = false) :
    Behind committed rolledBack { first with blockState } { second with blockState } := by
  obtain ⟨_, _, _, _, _, _, _, _, _, _, _⟩ := behind
  constructor <;> simp_all

theorem mark (behind : Behind committed rolledBack first second)
    (running : first.blockState ≠ .default) (blockState : TBlockState) (chain : Bool) :
    Behind committed rolledBack { first with blockState, chain }
      { second with blockState, chain } := by
  obtain ⟨_, _, _, _, _, _, _, _, _, _, _⟩ := behind
  constructor <;> simp_all

theorem startTransaction (behind : Behind committed rolledBack first second) :
    Behind committed rolledBack first.startTransaction second.startTransaction := by
  obtain ⟨_, _, _, _, _, _, _, _, _, _, _⟩ := behind
  constructor <;> simp_all [Xact.startTransaction, TBlockState.mayChain]

theorem commitTransaction (behind : Behind committed rolledBack first second)
    (running : first.blockState ≠ .default) :
    Behind committed rolledBack first.commitTransaction second.commitTransaction := by
  obtain ⟨_, _, _, _, _, _, _, _, _, _, _⟩ := behind
  constructor <;> simp_all [Xact.commitTransaction, TBlockState.mayChain]

theorem prepareTransaction (behind : Behind committed rolledBack first second)
    (running : first.blockState ≠ .default) (gid : String) :
    Behind committed rolledBack (first.prepareTransaction gid)
      (second.prepareTransaction gid) := by
  obtain ⟨_, _, _, _, _, _, _, _, _, _, _⟩ := behind
  constructor <;> simp_all [Xact.prepareTransaction, TBlockState.mayChain]

theorem discard (behind : Behind committed rolledBack first second)
    (running : first.blockState ≠ .default) (keep : Nat) :
    Behind committed rolledBack (first.discard keep) (second.discard keep) := by
  obtain ⟨_, _, _, _, _, _, _, _, _, _, _⟩ := behind
  constructor <;> simp_all [Xact.discard]

theorem cleanupTransaction (behind : Behind committed rolledBack first second) :
    Behind committed rolledBack first.cleanupTransaction second.cleanupTransaction := by
  obtain ⟨_, _, _, _, _, _, _, _, _, _, _⟩ := behind
  constructor <;> simp_all [Xact.cleanupTransaction, TBlockState.mayChain]

theorem rollback (behind : Behind committed rolledBack first second)
    (running : first.blockState ≠ .default) :
    Behind committed rolledBack first.rollback second.rollback :=
  (behind.discard running 0).cleanupTransaction

theorem abortLevel (behind : Behind committed rolledBack first second)
    (running : first.blockState ≠ .default) :
    Behind committed rolledBack first.abortLevel second.abortLevel := by
  have same : second.levelMark = first.levelMark := by
    rw [Xact.levelMark, Xact.levelMark, behind.savepoints running]
  rw [Xact.abortLevel, Xact.abortLevel, same]
  exact (behind.discard running _).setBlockState running .abort rfl

/-- The end of a block that may be chained. -/
theorem startChained (finished : Behind committed rolledBack first second)
    (marked : second.chain = first.chain) {saved other : Characteristics}
    (same : other = saved) :
    Behind committed rolledBack (first.startChained saved) (second.startChained other) := by
  subst same
  rw [Xact.startChained, Xact.startChained, marked]
  split
  · obtain ⟨_, _, _, _, _, _, _, _, _, _, _⟩ := finished
    constructor <;> simp_all [Xact.startTransaction]
  · exact finished

theorem popSavepoints (behind : Behind committed rolledBack first second)
    (running : first.blockState ≠ .default) (depth : Nat) :
    Behind committed rolledBack (first.popSavepoints depth) (second.popSavepoints depth) := by
  obtain ⟨_, _, _, _, _, _, _, _, _, _, _⟩ := behind
  constructor <;> simp_all [Xact.popSavepoints]

theorem pushSavepoint (behind : Behind committed rolledBack first second)
    (running : first.blockState ≠ .default) (name : String) :
    Behind committed rolledBack (first.pushSavepoint name) (second.pushSavepoint name) := by
  obtain ⟨_, _, _, _, _, _, _, _, _, _, _⟩ := behind
  constructor <;> simp_all [Xact.pushSavepoint, TBlockState.mayChain]

theorem restartSavepoint (behind : Behind committed rolledBack first second)
    (running : first.blockState ≠ .default) (depth : Nat) :
    Behind committed rolledBack (first.restartSavepoint depth)
      (second.restartSavepoint depth) := by
  rw [Xact.restartSavepoint, Xact.restartSavepoint, behind.savepoints running]
  split
  · exact ((behind.discard running _).popSavepoints running depth).pushSavepoint running _
  · exact behind

end Behind

/-! ## The server API -/

namespace Alike

variable {first second : Pg E}

theorem mapXact (alike : Alike committed rolledBack first second)
    {update change : Xact E → Xact E}
    (behind : Behind committed rolledBack (update first.xact) (change second.xact)) :
    Alike committed rolledBack (first.mapXact update) (second.mapXact change) :=
  ⟨behind, alike.activeSnapshots, alike.spiDepth⟩

/-- An update of the transaction state that returns. -/
theorem returns {α : Type} {value : α} (alike : Alike committed rolledBack first second)
    {update : Xact E → Xact E}
    (behind : Behind committed rolledBack (update first.xact) (update second.xact)) :
    Agree (Alike committed rolledBack)
      ((.ret value, first.mapXact update) : Outcome Payload α × Pg E)
      (.ret value, second.mapXact update) :=
  ⟨rfl, alike.mapXact behind⟩

theorem record (alike : Alike committed rolledBack first second) (misuse : Misuse) :
    Alike committed rolledBack (first.record misuse) (second.record misuse) :=
  ⟨alike.xact, alike.activeSnapshots, alike.spiDepth⟩

theorem releaseAll (alike : Alike committed rolledBack first second) :
    Alike committed rolledBack first.releaseAll second.releaseAll :=
  ⟨alike.xact, rfl, rfl⟩

theorem abortCurrent (alike : Alike committed rolledBack first second) :
    Alike committed rolledBack first.abortCurrent second.abortCurrent := by
  have same := alike.xact.blockState
  unfold Pg.abortCurrent
  cases there : first.xact.blockState <;> rw [there] at same <;> simp only [same]
  case default => exact alike
  case abort => exact alike
  case abortEnd => exact alike.releaseAll.mapXact alike.xact.cleanupTransaction
  case inprogress => exact alike.releaseAll.mapXact (alike.xact.abortLevel (by simp [there]))
  case subbegin => exact alike.releaseAll.mapXact (alike.xact.abortLevel (by simp [there]))
  case subrelease depth =>
      exact alike.releaseAll.mapXact
        ((alike.xact.popSavepoints (by simp [there]) depth).abortLevel
          (by simp [Xact.popSavepoints, there]))
  case subrestart depth =>
      exact alike.releaseAll.mapXact
        ((alike.xact.popSavepoints (by simp [there]) depth).abortLevel
          (by simp [Xact.popSavepoints, there]))
  all_goals exact alike.releaseAll.mapXact (alike.xact.rollback (by simp [there]))

end Alike

theorem unaware_raiseIf (report : Option ErrorReport) :
    Unaware (raiseIf report : PgM E Unit) := by
  cases report with
  | none => exact .pure ()
  | some report => exact .raise _

theorem unaware_perform (effects : List E) : Unaware (perform effects) :=
  fun _ _ _ _ alike => ⟨rfl, alike.mapXact (alike.xact.work effects)⟩

theorem unaware_pushTransactionSnapshot : Unaware (pushTransactionSnapshot : PgM E Unit) := by
  intro committed rolledBack first second alike
  unfold pushTransactionSnapshot
  rw [alike.xact.isAborted]
  split
  · exact ⟨rfl, alike.record _⟩
  · obtain ⟨⟨_, _, _, _, _, _, _, _, _, _, _⟩, snapshots, depth⟩ := alike
    constructor
    · rfl
    · constructor
      · constructor <;> simp_all
      · exact congrArg (· + 1) snapshots
      · exact depth

theorem unaware_popActiveSnapshot : Unaware (popActiveSnapshot : PgM E Unit) := by
  intro committed rolledBack first second alike
  unfold popActiveSnapshot
  rw [alike.activeSnapshots]
  split
  · exact ⟨rfl, alike.record _⟩
  · exact ⟨rfl, alike.xact, rfl, alike.spiDepth⟩

theorem unaware_spiConnect (rc : Int) : Unaware (spiConnect rc : PgM E Int) := by
  intro committed rolledBack first second alike
  unfold spiConnect
  split
  · exact ⟨rfl, alike.xact, alike.activeSnapshots, congrArg (· + 1) alike.spiDepth⟩
  · exact ⟨rfl, alike⟩

theorem unaware_spiFinish (rc : Int) : Unaware (spiFinish rc : PgM E Int) := by
  intro committed rolledBack first second alike
  unfold spiFinish Pg.closeSession
  rw [alike.spiDepth]
  split
  · exact ⟨rfl, alike.record _⟩
  · exact ⟨rfl, alike.xact, alike.activeSnapshots, rfl⟩

theorem unaware_abortCurrentTransaction : Unaware (abortCurrentTransaction : PgM E Unit) :=
  fun _ _ _ _ alike => ⟨rfl, alike.abortCurrent⟩

theorem unaware_startTransactionCommand : Unaware (startTransactionCommand : PgM E Unit) := by
  intro committed rolledBack first second alike
  have same := alike.xact.blockState
  unfold startTransactionCommand
  cases there : first.xact.blockState <;> rw [there] at same <;> simp only [same]
  case default => exact ⟨rfl, alike.mapXact alike.xact.startTransaction⟩
  case inprogress => exact ⟨rfl, alike⟩
  case implicitInprogress => exact ⟨rfl, alike⟩
  case abort => exact ⟨rfl, alike⟩
  all_goals exact ⟨rfl, alike.record _⟩

theorem unaware_commitTransactionCommand (finish : Option ErrorReport) :
    Unaware (commitTransactionCommand finish : PgM E Unit) := by
  intro committed rolledBack first second alike
  have same := alike.xact.blockState
  have behind := alike.xact
  unfold commitTransactionCommand
  cases there : first.xact.blockState <;> rw [there] at same <;> simp only [same]
  case default => exact ⟨rfl, alike.record _⟩
  case started =>
      cases finish with
      | some report => exact ⟨rfl, alike⟩
      | none => exact alike.returns (behind.commitTransaction (by simp [there]))
  case begin =>
      exact alike.returns (behind.setBlockState (by simp [there]) .inprogress rfl)
  case inprogress => exact unaware_raiseIf finish committed rolledBack alike
  case implicitInprogress => exact unaware_raiseIf finish committed rolledBack alike
  case endBlock =>
      cases finish with
      | some report => exact ⟨rfl, alike⟩
      | none =>
          apply alike.returns
          apply (behind.commitTransaction (by simp [there])).startChained
          · exact behind.chain (by simp [there, TBlockState.mayChain])
          · exact behind.characteristics (by simp [there])
  case abort => exact ⟨rfl, alike⟩
  case abortEnd =>
      apply alike.returns
      apply behind.cleanupTransaction.startChained
      · exact behind.chain (by simp [there, TBlockState.mayChain])
      · exact behind.characteristics (by simp [there])
  case abortPending =>
      apply alike.releaseAll.returns
      apply (behind.rollback (by simp [there])).startChained
      · exact behind.chain (by simp [there, TBlockState.mayChain])
      · exact behind.characteristics (by simp [there])
  case prepare gid =>
      cases finish with
      | some report => exact ⟨rfl, alike⟩
      | none => exact alike.returns (behind.prepareTransaction (by simp [there]) gid)
  case subbegin name =>
      exact alike.returns (behind.pushSavepoint (by simp [there]) name)
  case subrelease depth =>
      exact alike.returns ((behind.popSavepoints (by simp [there]) depth).setBlockState
        (by simp [Xact.popSavepoints, there]) .inprogress rfl)
  case subrestart depth =>
      exact alike.returns (behind.restartSavepoint (by simp [there]) depth)

/-! ## Transaction blocks -/

section Blocks

theorem unaware_beginTransactionBlock : Unaware (beginTransactionBlock : PgM E Unit) := by
  intro committed rolledBack first second alike
  have same := alike.xact.blockState
  unfold beginTransactionBlock
  cases there : first.xact.blockState <;> rw [there] at same <;> simp only [same]
  case started => exact alike.returns (alike.xact.setBlockState (by simp [there]) .begin rfl)
  case implicitInprogress =>
      exact alike.returns (alike.xact.setBlockState (by simp [there]) .begin rfl)
  all_goals exact ⟨rfl, alike⟩

theorem unaware_endTransactionBlock (chain : Bool) :
    Unaware (endTransactionBlock chain : PgM E Bool) := by
  intro committed rolledBack first second alike
  have same := alike.xact.blockState
  unfold endTransactionBlock
  cases there : first.xact.blockState <;> rw [there] at same <;> simp only [same]
  case inprogress => exact alike.returns (alike.xact.mark (by simp [there]) .endBlock chain)
  case implicitInprogress =>
      cases chain with
      | true => exact ⟨rfl, alike⟩
      | false => exact alike.returns (alike.xact.mark (by simp [there]) .endBlock false)
  case started =>
      cases chain with
      | true => exact ⟨rfl, alike⟩
      | false => exact alike.returns (alike.xact.mark (by simp [there]) .started false)
  case abort =>
      rw [alike.xact.isSubTransaction (by simp [there])]
      exact alike.returns (alike.xact.mark (by simp [there]) _ chain)
  all_goals exact ⟨rfl, alike⟩

theorem unaware_userAbortTransactionBlock (chain : Bool) :
    Unaware (userAbortTransactionBlock chain : PgM E Unit) := by
  intro committed rolledBack first second alike
  have same := alike.xact.blockState
  unfold userAbortTransactionBlock
  cases there : first.xact.blockState <;> rw [there] at same <;> simp only [same]
  case inprogress => exact alike.returns (alike.xact.mark (by simp [there]) .abortPending chain)
  case abort =>
      rw [alike.xact.isSubTransaction (by simp [there])]
      exact alike.returns (alike.xact.mark (by simp [there]) _ chain)
  case implicitInprogress =>
      cases chain with
      | true => exact ⟨rfl, alike⟩
      | false => exact alike.returns (alike.xact.mark (by simp [there]) .abortPending false)
  case started =>
      cases chain with
      | true => exact ⟨rfl, alike⟩
      | false => exact alike.returns (alike.xact.mark (by simp [there]) .abortPending false)
  all_goals exact ⟨rfl, alike⟩

theorem unaware_markPrepare (gid : String) : Unaware (markPrepare gid : PgM E Bool) := by
  intro committed rolledBack first second alike
  have same := alike.xact.blockState
  unfold markPrepare
  cases there : first.xact.blockState <;> rw [there] at same <;> simp only [same]
  case endBlock => exact alike.returns (alike.xact.setBlockState (by simp [there]) _ rfl)
  all_goals exact ⟨rfl, alike⟩

theorem unaware_prepareTransactionBlock (gid : String) :
    Unaware (prepareTransactionBlock gid : PgM E Bool) :=
  (unaware_endTransactionBlock false).bind fun _ => .ite (unaware_markPrepare gid) (.pure _)

theorem unaware_beginImplicitTransactionBlock :
    Unaware (beginImplicitTransactionBlock : PgM E Unit) := by
  intro committed rolledBack first second alike
  have same := alike.xact.blockState
  unfold beginImplicitTransactionBlock
  cases there : first.xact.blockState <;> rw [there] at same <;> simp only [same]
  case started =>
      exact alike.returns (alike.xact.setBlockState (by simp [there]) .implicitInprogress rfl)
  all_goals exact ⟨rfl, alike⟩

theorem unaware_endImplicitTransactionBlock :
    Unaware (endImplicitTransactionBlock : PgM E Unit) := by
  intro committed rolledBack first second alike
  have same := alike.xact.blockState
  unfold endImplicitTransactionBlock
  cases there : first.xact.blockState <;> rw [there] at same <;> simp only [same]
  case implicitInprogress =>
      exact alike.returns (alike.xact.setBlockState (by simp [there]) .started rfl)
  all_goals exact ⟨rfl, alike⟩

theorem unaware_requireTransactionBlock (command : String) :
    Unaware (requireTransactionBlock command : PgM E Unit) := by
  intro committed rolledBack first second alike
  unfold requireTransactionBlock
  rw [alike.xact.isTransactionBlock]
  split
  · exact ⟨rfl, alike⟩
  · exact ⟨rfl, alike⟩

theorem unaware_defineSavepoint (name : String) : Unaware (defineSavepoint name : PgM E Unit) := by
  intro committed rolledBack first second alike
  have same := alike.xact.blockState
  unfold defineSavepoint
  cases there : first.xact.blockState <;> rw [there] at same <;> simp only [same]
  case inprogress => exact alike.returns (alike.xact.setBlockState (by simp [there]) _ rfl)
  all_goals exact ⟨rfl, alike⟩

theorem unaware_releaseSavepoint (name : String) :
    Unaware (releaseSavepoint name : PgM E Unit) := by
  intro committed rolledBack first second alike
  have same := alike.xact.blockState
  unfold releaseSavepoint
  cases there : first.xact.blockState <;> rw [there] at same <;> simp only [same]
  case inprogress =>
      rw [alike.xact.savepointDepth (by simp [there]) name]
      cases first.xact.savepointDepth name with
      | none => exact ⟨rfl, alike⟩
      | some depth => exact alike.returns (alike.xact.setBlockState (by simp [there]) _ rfl)
  all_goals exact ⟨rfl, alike⟩

theorem unaware_rollbackToSavepoint (name : String) :
    Unaware (rollbackToSavepoint name : PgM E Unit) := by
  intro committed rolledBack first second alike
  have same := alike.xact.blockState
  unfold rollbackToSavepoint
  cases there : first.xact.blockState <;> rw [there] at same <;> simp only [same]
  case inprogress =>
      rw [alike.xact.savepointDepth (by simp [there]) name]
      cases first.xact.savepointDepth name with
      | none => exact ⟨rfl, alike⟩
      | some depth => exact alike.returns (alike.xact.setBlockState (by simp [there]) _ rfl)
  case abort =>
      rw [alike.xact.savepointDepth (by simp [there]) name]
      cases first.xact.savepointDepth name with
      | none => exact ⟨rfl, alike⟩
      | some depth => exact alike.returns (alike.xact.setBlockState (by simp [there]) _ rfl)
  all_goals exact ⟨rfl, alike⟩

end Blocks

/-! ## Transaction statements -/

/-- Options are set in a running transaction. -/
theorem agree_setPGVariables (options : List TransactionOption) {first second : Pg E}
    (alike : Alike committed rolledBack first second)
    (running : first.xact.blockState ≠ .default) :
    Agree (Alike committed rolledBack) (setPGVariables options first)
      (setPGVariables options second) := by
  induction options generalizing first second with
  | nil => exact ⟨rfl, alike⟩
  | cons option options inductionHypothesis =>
      have same : option.refused second.xact = option.refused first.xact := by
        unfold TransactionOption.refused
        rw [alike.xact.firstSnapshotSet running, alike.xact.isSubTransaction running,
          alike.xact.characteristics running]
      rw [setPGVariables, Comp.bind_apply, Comp.bind_apply, setPGVariable, setPGVariable, same]
      split
      · exact ⟨rfl, alike⟩
      · have assigned : Behind committed rolledBack
            { first.xact with characteristics := option.assign first.xact.characteristics }
            { second.xact with characteristics := option.assign second.xact.characteristics } := by
          obtain ⟨_, _, _, _, _, _, _, _, _, _, _⟩ := alike.xact
          constructor <;> simp_all
        exact inductionHypothesis ⟨assigned, alike.activeSnapshots, alike.spiDepth⟩ running

/-- `BEGIN` with its options, which are only set in a transaction. -/
theorem unaware_beginWith (options : List TransactionOption) (tag : String) :
    Unaware (do
      beginTransactionBlock
      setPGVariables options
      pure tag : PgM E String) := by
  intro committed rolledBack first second alike
  apply (unaware_beginTransactionBlock committed rolledBack alike).resume
  intro value left right begun _ reached
  have running : left.xact.blockState ≠ .default := by
    unfold beginTransactionBlock at begun
    split at begun
    · cases begun
      exact fun impossible => TBlockState.noConfusion impossible
    · cases begun
      exact fun impossible => TBlockState.noConfusion impossible
    · next inBlock =>
      cases begun
      rw [inBlock]
      exact fun impossible => TBlockState.noConfusion impossible
    · next aborted =>
      cases begun
      rw [aborted]
      exact fun impossible => TBlockState.noConfusion impossible
    · cases begun
  apply (agree_setPGVariables options reached running).resume
  exact fun _ _ _ _ _ ended => ⟨rfl, ended⟩

theorem unaware_preventInTransactionBlock (command : String) :
    Unaware (preventInTransactionBlock command : PgM E Unit) := by
  intro committed rolledBack first second alike
  unfold preventInTransactionBlock
  rw [alike.xact.isTransactionBlock]
  split
  · exact ⟨rfl, alike⟩
  · exact ⟨rfl, alike⟩

theorem unaware_finishPreparedTransaction (gid : String) (isCommit : Bool) :
    Unaware (finishPreparedTransaction gid isCommit : PgM E Unit) := by
  intro committed rolledBack first second alike
  unfold finishPreparedTransaction
  rw [alike.xact.prepared]
  split
  · exact ⟨rfl, alike⟩
  · apply alike.returns
    obtain ⟨_, _, _, _, _, _, _, _, _, _, _⟩ := alike.xact
    cases isCommit <;> constructor <;> simp_all

theorem unaware_processUtility (stmt : TransactionStmt) :
    Unaware (processUtility stmt : PgM E String) := by
  unfold processUtility
  cases stmt.kind with
  | begin => exact unaware_beginWith _ _
  | start => exact unaware_beginWith _ _
  | commit => exact (unaware_endTransactionBlock _).bind fun _ => .pure _
  | rollback =>
      exact (unaware_userAbortTransactionBlock _).bind fun _ => .pure _
  | savepoint =>
      exact (unaware_requireTransactionBlock _).bind fun _ =>
        (unaware_defineSavepoint _).bind fun _ => .pure _
  | release =>
      exact (unaware_requireTransactionBlock _).bind fun _ =>
        (unaware_releaseSavepoint _).bind fun _ => .pure _
  | rollbackTo =>
      exact (unaware_requireTransactionBlock _).bind fun _ =>
        (unaware_rollbackToSavepoint _).bind fun _ => .pure _
  | prepare =>
      exact (unaware_prepareTransactionBlock _).bind fun _ => .pure _
  | commitPrepared =>
      exact (unaware_preventInTransactionBlock _).bind fun _ =>
        (unaware_finishPreparedTransaction _ _).bind fun _ => .pure _
  | rollbackPrepared =>
      exact (unaware_preventInTransactionBlock _).bind fun _ =>
        (unaware_finishPreparedTransaction _ _).bind fun _ => .pure _

end PgTransport.Postgres
