import PgTransport.Backend.Autocommit
import PgTransport.Backend.Extended.Outcome
import PgTransport.Computation.Ending

/-!
# Reading the end of a block off a message

Whether a message leaves a transaction block open is read off its statements and the
server's answers to them.  A block is opened by `BEGIN`, closed by the end of the
transaction, and left open where a statement inside it fails.  A `BEGIN` may be refused
for its options, and a savepoint command for its name, so that the reading follows the
characteristics, the first snapshot and the savepoints of the transaction.
-/

namespace PgTransport.Backend

open PgTransport.Computation
open PgTransport.Postgres
open PgTransport.Wire

variable {E : Type} {α : Type}

/-! ## The transaction as a message sees it -/

/-- What decides which transaction statements are refused: whether a block is open, and the
state that options and savepoints depend on.  A savepoint has its name and the read-only
flag that its end restores. -/
structure Block where
  isOpen : Bool
  defaults : Characteristics
  characteristics : Characteristics
  firstSnapshotSet : Bool
  savepoints : List (String × Bool)
  deriving DecidableEq, Repr

namespace Block

/-- No block, in a transaction that has just started. -/
def outside (defaults : Characteristics) : Block :=
  ⟨false, defaults, defaults, false, []⟩

/-- The check hook of an option refuses it. -/
def refuses (option : TransactionOption) (block : Block) : Bool :=
  (block.firstSnapshotSet || !block.savepoints.isEmpty) &&
    match option with
    | .isolation level => level != block.characteristics.isolation
    | .readOnly value => !value && block.characteristics.readOnly
    | .deferrable _ => true

/-- Behind an option list, unless one of the options is refused. -/
def setOptions : List TransactionOption → Block → Option Block
  | [], block => some block
  | option :: options, block =>
      if block.refuses option then
        none
      else
        setOptions options
          { block with characteristics := option.assign block.characteristics }

/-- Behind `BEGIN`. -/
def opened (block : Block) : Block :=
  { block with isOpen := true }

/-- Behind the end of the transaction. -/
def ended (chain : Bool) (block : Block) : Block :=
  if chain then
    { (outside block.defaults).opened with characteristics := block.characteristics }
  else
    outside block.defaults

/-- Behind a statement that may have taken a snapshot. -/
def observed (needsSnapshot : Bool) (block : Block) : Block :=
  { block with firstSnapshotSet := block.firstSnapshotSet || needsSnapshot }

/-- Behind `SAVEPOINT`. -/
def push (name : String) (block : Block) : Block :=
  { block with savepoints := (name, block.characteristics.readOnly) :: block.savepoints }

/-- Behind `RELEASE SAVEPOINT`, where there is a savepoint with this name. -/
def release (name : String) (block : Block) : Option Block :=
  match block.savepoints.dropWhile fun savepoint => savepoint.1 != name with
  | [] => none
  | (_, readOnly) :: outer =>
      some { block with
        characteristics := { block.characteristics with readOnly }
        savepoints := outer }

/-- Behind `ROLLBACK TO SAVEPOINT`, which opens the savepoint again. -/
def rollbackTo (name : String) (block : Block) : Option Block :=
  (block.release name).map (push name)

end Block

/-! ## Reading a message -/

/-- A statement that is no transaction statement succeeds on a backend, and so
does what follows it. -/
def RawStmt.completes (stmt : RawStmt E) (backend : ExecutionBackend) : Bool :=
  stmt.verdict backend = .succeeds && stmt.finish = none

/-- A transaction statement executed by `ProcessUtility` leaves a block open, where `rest`
says so of what follows it. -/
def TransactionStmt.leavesBlock (command : TransactionStmt) (finish : Option ErrorReport)
    (block : Block) (rest : Block → Bool) : Bool :=
  match command.kind with
  | .begin | .start =>
      match block.setOptions command.options with
      | none => block.isOpen
      | some next =>
          if block.isOpen && finish.isSome then true else rest next.opened
  | .commit =>
      if (command.chain && !block.isOpen) || finish.isSome then false
      else rest (block.ended command.chain)
  | .rollback =>
      if command.chain && !block.isOpen then false else rest (block.ended command.chain)
  | .prepare => if finish.isSome then false else rest (block.ended false)
  | .savepoint => block.isOpen && rest (block.push command.name)
  | .release => block.isOpen && ((block.release command.name).map rest).getD true
  | .rollbackTo => block.isOpen && ((block.rollbackTo command.name).map rest).getD true
  | .commitPrepared | .rollbackPrepared => block.isOpen

/-- The direct path leaves a block open behind these statements. -/
def leavesBlockDirect : Block → List (RawStmt E) → Bool
  | block, [] => block.isOpen
  | block, stmt :: rest =>
      match stmt.node with
      | .transactionStmt command =>
          TransactionStmt.leavesBlock command stmt.finish block
            fun next => leavesBlockDirect next rest
      | _ =>
          if stmt.completes .direct then
            leavesBlockDirect (block.observed stmt.node.analyzeRequiresSnapshot) rest
          else
            block.isOpen

/-- The SPI bridge leaves a block open behind these statements.  An error that the commit
of a statement raises ends the process, unless the statement has raised itself. -/
def leavesBlockSpi : Bool → List (RawStmt E) → Bool
  | inBlock, [] => inBlock
  | inBlock, stmt :: rest =>
      match classifyRawStmt stmt.node with
      | some .begin => leavesBlockSpi true rest
      | some .commit =>
          if inBlock && stmt.finish.isSome then false else leavesBlockSpi false rest
      | some .rollback => leavesBlockSpi false rest
      | none =>
          if stmt.completes .spi then
            leavesBlockSpi inBlock rest
          else
            inBlock && (stmt.verdict .spi = .raises || stmt.finish = none)

/-- A query to a session with these defaults leaves a block open behind it. -/
def SimpleQuery.leavesBlock (query : SimpleQuery E) (backend : ExecutionBackend)
    (defaults : Characteristics) : Bool :=
  match query.parsed with
  | .error _ => false
  | .ok stmts =>
      !containsNul query.text &&
        match backend with
        | .spi => leavesBlockSpi false (nonEmpty stmts)
        | .direct => leavesBlockDirect (.outside defaults) (nonEmpty stmts)

/-- An execution of a prepared statement leaves a block open behind it.  The bracket of a
plan has taken its snapshot before a transaction statement is executed. -/
def PreparedStatement.leavesBlock (statement : PreparedStatement) (request : ExecuteRequest E)
    (defaults : Characteristics) : Bool :=
  decide (request.Binds statement.plan) &&
    match statement.plan with
    | .spi _ => false
    | .direct plan =>
        let formats := request.formats plan.baseSchema.length
        match plan.source.node with
        | .transactionStmt command =>
            decodeVerdict (request.parameters.zip formats.paramIsBinary) = .succeeds &&
              TransactionStmt.leavesBlock command request.finish
                ((Block.outside defaults).observed true) Block.isOpen
        | _ => false
    | .xactControl cmd => cmd = .begin

/-! ## Block states -/

/-- The transaction of the server, as a message sees it. -/
def Block.ofXact (isOpen : Bool) (xact : Xact E) : Block :=
  ⟨isOpen, xact.defaults, xact.characteristics, xact.firstSnapshotSet,
    xact.savepoints.map fun savepoint => (savepoint.name, savepoint.readOnly)⟩

/-- The backend is in this block state. -/
def InState (state : TBlockState) (pg : Pg E) : Prop :=
  pg.xact.blockState = state

/-- No condition. -/
def Anything (_ : Pg E) : Prop :=
  True

/-- A block is left open, aborted or not, or none is. -/
def Left (leaves : Bool) (pg : Pg E) : Prop :=
  if leaves then InState .inprogress pg ∨ InState .abort pg else InState .default pg

/-- An abort leaves a block open, or it does not. -/
def Aborts (leaves : Bool) (pg : Pg E) : Prop :=
  Left leaves pg.abortCurrent

/-- A statement has just ended with this block. -/
def Standing (block : Block) (pg : Pg E) : Prop :=
  if block.isOpen then InState .inprogress pg ∧ Block.ofXact true pg.xact = block
  else InState .default pg ∧ Block.outside pg.xact.defaults = block

/-- A message stands where it may go on. -/
def StandsAs (goes : Block → Prop) (pg : Pg E) : Prop :=
  ∃ block, goes block ∧ Standing block pg

/-- An abort from this block state leaves no block open. -/
def clears : TBlockState → Bool
  | .inprogress | .abort | .subbegin _ | .subrelease _ | .subrestart _ => false
  | _ => true

theorem aborts_of_clears {leaves : Bool} {pg : Pg E}
    (marked : clears pg.xact.blockState = !leaves) : Aborts leaves pg := by
  have same : leaves = !clears pg.xact.blockState := by rw [marked, Bool.not_not]
  subst same
  cases state : pg.xact.blockState <;>
    simp [Aborts, Left, InState, clears, Pg.abortCurrent, state, Xact.rollback,
      Xact.cleanupTransaction, Xact.abortLevel]

section Standing

variable {block : Block} {pg : Pg E}

theorem Standing.inside (standing : Standing block pg) (opened : block.isOpen = true) :
    InState .inprogress pg ∧ Block.ofXact true pg.xact = block := by
  rwa [Standing, if_pos opened] at standing

theorem Standing.outside (standing : Standing block pg) (closed : block.isOpen = false) :
    InState .default pg ∧ Block.outside pg.xact.defaults = block := by
  rwa [Standing, closed, if_neg Bool.false_ne_true] at standing

/-- The reading of an open block follows the transaction. -/
theorem standing_of_sees (opened : block.isOpen = true) (state : InState .inprogress pg)
    (seen : Block.ofXact block.isOpen pg.xact = block) : Standing block pg := by
  rw [opened] at seen
  rw [Standing, if_pos opened]
  exact ⟨state, seen⟩

theorem Standing.left (standing : Standing block pg) : Left block.isOpen pg := by
  cases opened : block.isOpen with
  | false => exact (standing.outside opened).1
  | true => exact .inl (standing.inside opened).1

end Standing

/-! ## The commit of a statement -/

/-- The message goes on from this block behind a commit, or leaves none open where the
commit raises. -/
def Commits (goes : Block → Prop) (leaves : Bool) (finish : Option ErrorReport)
    (next : Block) : Prop :=
  if finish = none then goes next else leaves = false

/-- Committing a statement that has returned leaves a block from which the message goes on,
or it raises what an abort clears or leaves. -/
def Marked (inBlock : Bool) (goes : Block → Prop) (leaves : Bool) (finish : Option ErrorReport)
    (pg : Pg E) : Prop :=
  let seen : Xact E → Block := Block.ofXact true
  match pg.xact.blockState with
  | .started | .prepare _ => Commits goes leaves finish (.outside pg.xact.defaults)
  | .endBlock => Commits goes leaves finish ((seen pg.xact).ended pg.xact.chain)
  | .abortPending => goes ((seen pg.xact).ended pg.xact.chain)
  | .begin => goes (seen pg.xact)
  | .inprogress => inBlock = true ∧ if finish = none then goes (seen pg.xact) else leaves = true
  | .subbegin name => goes (seen (pg.xact.pushSavepoint name))
  | .subrelease depth => goes (seen (pg.xact.popSavepoints depth))
  | .subrestart depth =>
      goes (seen (pg.xact.restartSavepoint depth)) ∧
        (pg.xact.restartSavepoint depth).blockState = .inprogress
  | _ => False

/-- What a statement raises outside a block leaves none open. -/
def Raised (inBlock leaves : Bool) (pg : Pg E) : Prop :=
  Aborts leaves pg ∧ (inBlock = false → leaves = false)

theorem standing_open {xact : Xact E} {pg : Pg E} (state : xact.blockState = .inprogress) :
    Standing (Block.ofXact true xact) (pg.mapXact fun _ => xact) := by
  simp [Standing, Block.ofXact, InState, state]

theorem standing_chained (pg : Pg E) (xact : Xact E) {ended : Xact E}
    (state : ended.blockState = .default) (defaults : ended.defaults = xact.defaults)
    (chain : ended.chain = xact.chain) :
    Standing ((Block.ofXact true xact).ended xact.chain)
      (pg.mapXact fun _ => ended.startChained xact.characteristics) := by
  unfold Block.ended Xact.startChained
  rw [chain]
  cases xact.chain with
  | false => simp [Standing, Block.outside, Block.ofXact, InState, state, defaults]
  | true =>
      simp [Standing, Block.opened, Block.outside, Block.ofXact, InState, Xact.startTransaction,
        defaults]

theorem commit_marked (inBlock : Bool) (goes : Block → Prop) (leaves : Bool)
    (finish : Option ErrorReport) :
    Triple (Marked inBlock goes leaves finish) (commitTransactionCommand finish : PgM E Unit)
      (fun _ => StandsAs goes) (Raised inBlock leaves) Never := by
  intro pg marked
  have raised (report : ErrorReport) {next : Block} (clear : clears pg.xact.blockState = true)
      (marked : Commits goes leaves (some report) next) : Raised inBlock leaves pg := by
    have closed : leaves = false := marked
    exact ⟨aborts_of_clears (by rw [clear, closed]; rfl), fun _ => closed⟩
  cases state : pg.xact.blockState <;> simp only [Marked, state] at marked <;>
    simp only [commitTransactionCommand, state]
  case started =>
    cases finish with
    | none => exact ⟨_, marked, rfl, rfl⟩
    | some report => exact raised report (by rw [state]; rfl) marked
  case begin => exact ⟨_, marked, standing_open rfl⟩
  case inprogress =>
    obtain ⟨rfl, marked⟩ := marked
    cases finish with
    | none => exact ⟨_, marked, state, rfl⟩
    | some report => exact ⟨aborts_of_clears (by simp_all [clears]), by simp⟩
  case endBlock =>
    cases finish with
    | none => exact ⟨_, marked, standing_chained pg pg.xact rfl rfl rfl⟩
    | some report => exact raised report (by rw [state]; rfl) marked
  case abortPending => exact ⟨_, marked, standing_chained pg.releaseAll pg.xact rfl rfl rfl⟩
  case prepare gid =>
    cases finish with
    | none => exact ⟨_, marked, rfl, rfl⟩
    | some report => exact raised report (by rw [state]; rfl) marked
  case subbegin name => exact ⟨_, marked, standing_open rfl⟩
  case subrelease depth => exact ⟨_, marked, standing_open rfl⟩
  case subrestart depth => exact ⟨_, marked.1, standing_open marked.2⟩

/-! ## Options and savepoints -/

theorem Block.refuses_ofXact (isOpen : Bool) (option : TransactionOption) (xact : Xact E) :
    (Block.ofXact isOpen xact).refuses option = option.refused xact := by
  cases option <;>
    simp [Block.refuses, Block.ofXact, TransactionOption.refused, Xact.isSubTransaction]

/-- The settings of `BEGIN` follow the reading. -/
theorem setPGVariables_follows (isOpen : Bool) (options : List TransactionOption) (pg : Pg E) :
    match (Block.ofXact isOpen pg.xact).setOptions options with
    | none => ∃ payload refused, setPGVariables options pg = (.unwind payload, refused) ∧
        refused.xact.blockState = pg.xact.blockState
    | some next => ∃ after, setPGVariables options pg = (.ret (), after) ∧
        after.xact.blockState = pg.xact.blockState ∧ Block.ofXact isOpen after.xact = next := by
  induction options generalizing pg with
  | nil => exact ⟨pg, rfl, rfl, rfl⟩
  | cons option options inductionHypothesis =>
      rw [Block.setOptions, Block.refuses_ofXact]
      cases refused : option.refused pg.xact with
      | true =>
          refine ⟨.caughtError option.refusal, pg, ?_, rfl⟩
          simp [setPGVariables, setPGVariable, refused]
      | false =>
          have later := inductionHypothesis (pg.mapXact fun xact =>
            { xact with characteristics := option.assign xact.characteristics })
          have step : setPGVariables (option :: options) pg = setPGVariables options
              (pg.mapXact fun xact =>
                { xact with characteristics := option.assign xact.characteristics }) := by
            simp [setPGVariables, setPGVariable, refused]
          rw [step]
          exact later

/-- The innermost savepoint with a name, and what is read of the stack around it. -/
theorem dropWhile_savepoints (name : String) (savepoints : List Savepoint) :
    match savepoints.findIdx? fun savepoint => savepoint.name = name with
    | none => (savepoints.map fun savepoint => (savepoint.name, savepoint.readOnly)).dropWhile
        (fun savepoint => savepoint.1 != name) = []
    | some index => ∃ found, savepoints[index]? = some found ∧ found.name = name ∧
        (savepoints.map fun savepoint => (savepoint.name, savepoint.readOnly)).dropWhile
            (fun savepoint => savepoint.1 != name) =
          (found.name, found.readOnly) :: (savepoints.drop (index + 1)).map
            fun savepoint => (savepoint.name, savepoint.readOnly) := by
  induction savepoints with
  | nil => rfl
  | cons first rest inductionHypothesis =>
      rw [List.findIdx?_cons]
      by_cases same : first.name = name
      · simp [same]
      · cases found : rest.findIdx? fun savepoint => savepoint.name = name with
        | none => simpa [same, found] using inductionHypothesis
        | some index => simpa [same, found] using inductionHypothesis

/-- The mark of a savepoint command makes no difference to the savepoint. -/
theorem ofXact_restartSavepoint_mark (mark : TBlockState) (depth : Nat) (xact : Xact E) :
    Block.ofXact true (Xact.restartSavepoint depth { xact with blockState := mark }) =
      .ofXact true (xact.restartSavepoint depth) := by
  unfold Xact.restartSavepoint
  dsimp only
  split <;> rfl

theorem restartSavepoint_mark (mark : TBlockState) {depth : Nat} {xact : Xact E}
    (found : xact.savepoints[depth - 1]?.isSome) :
    (Xact.restartSavepoint depth { xact with blockState := mark }).blockState = .inprogress := by
  obtain ⟨savepoint, there⟩ := Option.isSome_iff_exists.mp found
  simp [Xact.restartSavepoint, there, Xact.pushSavepoint]

/-- `RELEASE` and `ROLLBACK TO` follow the reading. -/
theorem Block.release_ofXact (name : String) (xact : Xact E) :
    match xact.savepointDepth name with
    | none => (Block.ofXact true xact).release name = none
    | some depth =>
        (Block.ofXact true xact).release name = some (.ofXact true (xact.popSavepoints depth)) ∧
          (Block.ofXact true xact).rollbackTo name =
            some (.ofXact true (xact.restartSavepoint depth)) ∧
          xact.savepoints[depth - 1]?.isSome := by
  have stack := dropWhile_savepoints name xact.savepoints
  unfold Xact.savepointDepth
  cases found : xact.savepoints.findIdx? fun savepoint => savepoint.name = name with
  | none =>
      rw [found] at stack
      simp only [Option.map_none, Block.release, Block.ofXact, stack]
  | some index =>
      rw [found] at stack
      obtain ⟨savepoint, there, named, dropped⟩ := stack
      have released : (Block.ofXact true xact).release name =
          some (.ofXact true (xact.popSavepoints (index + 1))) := by
        simp only [Block.release, Block.ofXact, dropped, Xact.popSavepoints, Nat.add_sub_cancel,
          there]
      refine ⟨released, ?_, ?_⟩
      · rw [Block.rollbackTo, released]
        simp [Block.push, Block.ofXact, Xact.restartSavepoint, there, Xact.popSavepoints,
          Xact.pushSavepoint, Xact.discard, named]
      · simp [there]

/-! ## Transaction statements -/

/-- The reading has followed the transaction so far. -/
def Sees (block : Block) (pg : Pg E) : Prop :=
  Block.ofXact block.isOpen pg.xact = block

/-- A statement is about to be executed in a block, in an implicit block, or in
a transaction of its own, where `alone` holds. -/
def Executing (alone : Prop) : Bool → Pg E → Prop
  | true, pg => InState .inprogress pg
  | false, pg => InState .implicitInprogress pg ∨ InState .started pg ∧ alone

section Control

variable {isOpen leaves : Bool} {goes : Block → Prop} {finish : Option ErrorReport} {pg : Pg E}
  {alone : Prop}

/-- The ending of a statement: its mark, or an error. -/
abbrev Marks (inBlock : Bool) (goes : Block → Prop) (leaves : Bool)
    (finish : Option ErrorReport) : Outcome Payload α × Pg E → Prop :=
  Meets (fun _ => Marked inBlock goes leaves finish) (Aborts leaves) Never

theorem begin_marks (options : List TransactionOption) (tag : String)
    (refused : (Block.ofXact isOpen pg.xact).setOptions options = none → leaves = isOpen)
    (accepted : ∀ next, (Block.ofXact isOpen pg.xact).setOptions options = some next →
      if isOpen = true ∧ finish ≠ none then leaves = true else goes next.opened)
    (executing : Executing alone isOpen pg) :
    Marks isOpen goes leaves finish ((do
      beginTransactionBlock
      setPGVariables options
      pure tag : PgM E String) pg) := by
  have begun : ∃ after, beginTransactionBlock pg = (.ret (), after) ∧
      after.xact.blockState = (if isOpen then .inprogress else .begin) ∧
      Block.ofXact isOpen after.xact = .ofXact isOpen pg.xact := by
    cases isOpen with
    | true =>
        have state : pg.xact.blockState = .inprogress := executing
        exact ⟨pg, by simp only [beginTransactionBlock, state], state, rfl⟩
    | false =>
        refine ⟨pg.mapXact fun xact => { xact with blockState := .begin }, ?_, rfl, rfl⟩
        rcases executing with state | ⟨state, _⟩ <;> rw [InState] at state <;>
          simp only [beginTransactionBlock, state]
  obtain ⟨after, run, state, seen⟩ := begun
  have follows := setPGVariables_follows isOpen options after
  rw [Comp.bind_apply, run, resume_ret, Comp.bind_apply]
  rw [seen] at follows
  cases sets : (Block.ofXact isOpen pg.xact).setOptions options with
  | none =>
      rw [sets] at follows
      obtain ⟨payload, stopped, raised, same⟩ := follows
      rw [raised]
      apply aborts_of_clears
      rw [same, state, refused sets]
      cases isOpen <;> rfl
  | some next =>
      rw [sets] at follows
      obtain ⟨last, set, same, rfl⟩ := follows
      have going := accepted _ sets
      rw [set, resume_ret, Comp.pure_apply]
      rw [state] at same
      cases isOpen with
      | true =>
          have inBlock : last.xact.blockState = .inprogress := same
          simp only [Meets, Marked, inBlock, true_and]
          cases finish with
          | none => exact going
          | some report => exact going
      | false =>
          have opening : last.xact.blockState = .begin := same
          simp only [Meets, Marked, opening]
          exact going

theorem commit_marks (chain : Bool) (refused : chain = true → isOpen = false → leaves = false)
    (ends : ¬(chain = true ∧ isOpen = false) →
      Commits goes leaves finish ((Block.ofXact isOpen pg.xact).ended chain))
    (executing : Executing alone isOpen pg) :
    Marks isOpen goes leaves finish (endTransactionBlock chain pg) := by
  cases isOpen with
  | true =>
      have state : pg.xact.blockState = .inprogress := executing
      simp only [endTransactionBlock, state]
      exact ends (by simp)
  | false =>
      rcases executing with state | ⟨state, _⟩ <;> rw [InState] at state <;> cases chain <;>
        simp only [endTransactionBlock, state, if_true, Bool.false_eq_true, if_false]
      · exact ends (by simp)
      · exact aborts_of_clears (by rw [state, refused rfl rfl]; rfl)
      · exact ends (by simp)
      · exact aborts_of_clears (by rw [state, refused rfl rfl]; rfl)

theorem rollback_marks (chain : Bool) (refused : chain = true → isOpen = false → leaves = false)
    (ends : ¬(chain = true ∧ isOpen = false) →
      goes ((Block.ofXact isOpen pg.xact).ended chain))
    (executing : Executing alone isOpen pg) :
    Marks isOpen goes leaves finish (userAbortTransactionBlock chain pg) := by
  cases isOpen with
  | true =>
      have state : pg.xact.blockState = .inprogress := executing
      simp only [userAbortTransactionBlock, state]
      exact ends (by simp)
  | false =>
      rcases executing with state | ⟨state, _⟩ <;> rw [InState] at state <;> cases chain <;>
        simp only [userAbortTransactionBlock, state, if_true, Bool.false_eq_true, if_false]
      · exact ends (by simp)
      · exact aborts_of_clears (by rw [state, refused rfl rfl]; rfl)
      · exact ends (by simp)
      · exact aborts_of_clears (by rw [state, refused rfl rfl]; rfl)

theorem prepare_marks (gid : String)
    (ends : Commits goes leaves finish (.outside pg.xact.defaults))
    (executing : Executing alone isOpen pg) :
    Marks isOpen goes leaves finish (prepareTransactionBlock gid pg) := by
  have running : pg.xact.blockState = .inprogress ∨
      pg.xact.blockState = .implicitInprogress ∨ pg.xact.blockState = .started := by
    cases isOpen with
    | true => exact .inl executing
    | false => exact .inr (executing.imp_right And.left)
  rcases running with state | state | state <;>
    simp only [prepareTransactionBlock, endTransactionBlock, markPrepare, state, Comp.bind_apply,
      Bool.false_eq_true, if_false, if_true, resume_ret] <;>
    exact ends

/-- A savepoint command runs in a block only. -/
theorem requireTransactionBlock_marks {command : String} {step : PgM E Unit} (tag : String)
    (outside : isOpen = false → leaves = false)
    (refused : pg.xact.blockState = .implicitInprogress →
      ∃ payload, step pg = (.unwind payload, pg))
    (inside : isOpen = true → pg.xact.blockState = .inprogress →
      Marks isOpen goes leaves finish (step pg))
    (executing : Executing alone isOpen pg) :
    Marks isOpen goes leaves finish ((do
      requireTransactionBlock command
      step
      pure tag : PgM E String) pg) := by
  cases isOpen with
  | true =>
      have state : pg.xact.blockState = .inprogress := executing
      have marks := inside rfl state
      simp only [Comp.bind_apply, requireTransactionBlock, Xact.isTransactionBlock, state, if_true,
        resume_ret]
      exact marks.map fun _ => tag
  | false =>
      rcases executing with state | ⟨state, _⟩ <;> rw [InState] at state
      · obtain ⟨payload, raised⟩ := refused state
        simp only [Comp.bind_apply, requireTransactionBlock, Xact.isTransactionBlock, state,
          if_true, resume_ret, raised]
        exact aborts_of_clears (by rw [state, outside rfl]; rfl)
      · simp only [Comp.bind_apply, requireTransactionBlock, Xact.isTransactionBlock, state,
          Bool.false_eq_true, if_false]
        exact aborts_of_clears (by rw [state, outside rfl]; rfl)

/-- The end of a prepared transaction, which runs outside any block. -/
theorem finishPrepared_marks (command gid : String) (isCommit : Bool) (kept : leaves = isOpen)
    (executing : Executing (leaves = false → goes (.outside pg.xact.defaults)) isOpen pg) :
    Marks isOpen goes leaves finish ((do
      preventInTransactionBlock command
      finishPreparedTransaction gid isCommit
      pure command : PgM E String) pg) := by
  subst kept
  have refuses (block : pg.xact.isTransactionBlock = true)
      (clear : clears pg.xact.blockState = !leaves) :
      Marks leaves goes leaves finish ((do
        preventInTransactionBlock command
        finishPreparedTransaction gid isCommit
        pure command : PgM E String) pg) := by
    simp only [Comp.bind_apply, preventInTransactionBlock, block, if_true]
    exact aborts_of_clears clear
  cases leaves with
  | true =>
      have state : pg.xact.blockState = .inprogress := executing
      exact refuses (by simp [Xact.isTransactionBlock, state]) (by rw [state]; rfl)
  | false =>
      rcases executing with state | ⟨state, alone⟩ <;> rw [InState] at state
      · exact refuses (by simp [Xact.isTransactionBlock, state]) (by rw [state]; rfl)
      · simp only [Comp.bind_apply, preventInTransactionBlock, Xact.isTransactionBlock, state,
          Bool.false_eq_true, if_false, resume_ret]
        cases found : pg.xact.prepared.find? fun entry => entry.1 = gid with
        | none =>
            simp only [finishPreparedTransaction, found]
            exact aborts_of_clears (by rw [state]; rfl)
        | some entry =>
            simp only [finishPreparedTransaction, found, resume_ret, Comp.pure_apply, Meets, Marked,
              Pg.mapXact_xact, state]
            simpa [Commits] using fun _ => alone rfl

/-- A transaction statement marks the block for an end from which the message goes on, or
raises what an abort clears or leaves. -/
theorem processUtility_marked (command : TransactionStmt) (finish : Option ErrorReport)
    (block : Block) {rest : Block → Bool} {leaves : Bool}
    (reads : TransactionStmt.leavesBlock command finish block rest = leaves) :
    Triple (fun pg : Pg E => Executing
        (leaves = false → rest (.outside pg.xact.defaults) = leaves) block.isOpen pg ∧
          Sees block pg)
      (processUtility command)
      (fun _ => Marked block.isOpen (fun next => rest next = leaves) leaves finish)
      (Aborts leaves) Never := by
  rintro pg ⟨executing, seen⟩
  obtain ⟨isOpen, rfl⟩ : ∃ isOpen, block = Block.ofXact isOpen pg.xact := ⟨_, seen.symm⟩
  change Executing _ isOpen pg at executing
  unfold TransactionStmt.leavesBlock at reads
  unfold processUtility
  cases kind : command.kind <;> simp only [kind] at reads ⊢
  case begin | start =>
    apply begin_marks command.options _ _ _ executing
    · intro refused
      rw [refused] at reads
      exact reads.symm
    · intro next accepted
      rw [accepted] at reads
      cases isOpen <;> cases finish <;> simpa [Block.ofXact] using reads
  case commit =>
    apply Meets.map
    apply commit_marks command.chain _ _ executing
    · rintro chained rfl
      simpa [chained, Block.ofXact] using reads.symm
    · intro inside
      unfold Commits
      cases finish with
      | none =>
          rw [if_neg (by simpa [Block.ofXact] using inside)] at reads
          exact reads
      | some report => simpa using reads.symm
  case rollback =>
    apply Meets.map
    apply rollback_marks command.chain _ _ executing
    · rintro chained rfl
      simpa [chained, Block.ofXact] using reads.symm
    · intro inside
      rw [if_neg (by simpa [Block.ofXact] using inside)] at reads
      exact reads
  case prepare =>
    apply Meets.map
    apply prepare_marks command.name _ executing
    unfold Commits
    cases finish with
    | none => exact reads
    | some report => simpa using reads.symm
  case savepoint =>
    apply requireTransactionBlock_marks _ _ _ _ executing
    · rintro rfl
      exact reads.symm
    · intro state
      exact ⟨_, by rw [defineSavepoint, state]; rfl⟩
    · rintro rfl state
      simp only [defineSavepoint, state]
      exact reads
  case release =>
    have follows := Block.release_ofXact command.name pg.xact
    apply requireTransactionBlock_marks _ _ _ _ executing
    · rintro rfl
      exact reads.symm
    · intro state
      exact ⟨_, by rw [releaseSavepoint, state]; rfl⟩
    · rintro rfl state
      simp only [releaseSavepoint, state]
      cases found : pg.xact.savepointDepth command.name with
      | none =>
          rw [found] at follows
          rw [follows] at reads
          exact aborts_of_clears (by rw [state, ← reads]; rfl)
      | some depth =>
          rw [found] at follows
          rw [follows.1] at reads
          exact reads
  case rollbackTo =>
    have follows := Block.release_ofXact command.name pg.xact
    apply requireTransactionBlock_marks _ _ _ _ executing
    · rintro rfl
      exact reads.symm
    · intro state
      exact ⟨_, by rw [rollbackToSavepoint, state]; rfl⟩
    · rintro rfl state
      simp only [rollbackToSavepoint, state]
      cases found : pg.xact.savepointDepth command.name with
      | none =>
          rw [found] at follows
          rw [Block.rollbackTo, follows] at reads
          exact aborts_of_clears (by rw [state, ← reads]; rfl)
      | some depth =>
          rw [found] at follows
          rw [follows.2.1, ← ofXact_restartSavepoint_mark (.subrestart depth)] at reads
          exact ⟨reads, restartSavepoint_mark (.subrestart depth) follows.2.2⟩
  case commitPrepared =>
    exact finishPrepared_marks _ command.name true reads.symm executing
  case rollbackPrepared =>
    exact finishPrepared_marks _ command.name false reads.symm executing

end Control

end PgTransport.Backend
