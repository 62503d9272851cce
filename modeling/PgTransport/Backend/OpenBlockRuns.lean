import PgTransport.Backend.OpenBlocks

/-!
# Blocks that a message leaves open

A message that finds no block open leaves one open exactly if its statements are read so.
A statement that is no transaction statement is a step of the block that it runs in; a
transaction statement is marked for its end before its commit; and the abort behind an
error leaves the block aborted, or none.
-/

namespace PgTransport.Backend

open PgTransport.Computation
open PgTransport.Postgres
open PgTransport.Transaction
open PgTransport.Wire

variable {E : Type} {α : Type}

/-! ## Brackets -/

/-- A message leaves a block open or not, and one that ends the process leaves none. -/
abbrev LeavesBlock (leaves : Bool) : Outcome Payload α × Pg E → Prop :=
  Meets (fun _ => Left leaves) (fun _ => leaves = false) Never

/-- The snapshot of the bracket is there to be popped. -/
def Holding (needsSnapshot : Bool) (pg : Pg E) : Prop :=
  needsSnapshot.toNat ≤ pg.activeSnapshots

/-- The end of a body outside a block. -/
abbrev Concludes (needsSnapshot leaves : Bool) (finish : Option ErrorReport) :
    Outcome Payload α × Pg E → Prop :=
  Meets (fun _ pg => Marked false (fun next => next.isOpen = leaves) leaves finish pg ∧
    Holding needsSnapshot pg) (Aborts leaves) Never

section Bracket

variable {needsSnapshot leaves : Bool} {finish : Option ErrorReport} {pg : Pg E}

theorem popIfNeeded_holding (holding : Holding needsSnapshot pg) :
    ∃ depth, popIfNeeded needsSnapshot pg = (.ret (), { pg with activeSnapshots := depth }) := by
  rcases pg with ⟨xact, _ | depth, spiDepth, misuses⟩ <;> cases needsSnapshot
  · exact ⟨0, rfl⟩
  · exact absurd holding (Nat.not_succ_le_zero 0)
  · exact ⟨depth + 1, rfl⟩
  · exact ⟨depth, rfl⟩

/-- A bracket entered outside a block. -/
theorem withXact_leaves {body : PgM E (PgWireResult α)} (outside : InState .default pg)
    (concludes : Concludes needsSnapshot leaves finish
      (body ((pg.begun needsSnapshot).hold needsSnapshot))) :
    LeavesBlock leaves (withXact needsSnapshot finish body pg) := by
  rw [withXact_of_enter (enter_default outside)]
  rcases ended : body ((pg.begun needsSnapshot).hold needsSnapshot) with
    ⟨result | payload | _, after⟩ <;> rw [ended] at concludes
  · obtain ⟨marked, holding⟩ := concludes
    obtain ⟨depth, popped⟩ := popIfNeeded_holding holding
    have committed := commit_marked _ _ _ finish { after with activeSnapshots := depth } marked
    simp only [leaveBracket, popped, resume_ret, Comp.bind_apply]
    rcases committing : commitTransactionCommand finish { after with activeSnapshots := depth } with
      ⟨_ | payload | _, last⟩ <;> rw [committing] at committed
    · obtain ⟨block, rfl, standing⟩ := committed
      exact standing.left
    · exact committed.2 rfl
    · exact committed.elim
  · exact concludes
  · exact concludes.elim

/-- A body that only adds work opens no block. -/
theorem worksOnly_concludes {body : PgM E (PgWireResult α)} (works : WorksOnly body) :
    Concludes needsSnapshot false finish
      (body ((pg.begun needsSnapshot).hold needsSnapshot)) := by
  obtain ⟨effects, ⟨value, run⟩ | ⟨payload, depth, run⟩⟩ :=
    works ((pg.begun needsSnapshot).hold needsSnapshot)
  · rw [run]
    refine ⟨?_, Nat.le_add_left _ _⟩
    simp [Marked, Commits, Block.outside]
  · rw [run]
    exact aborts_of_clears rfl

theorem withXact_leaves_none {body : PgM E (PgWireResult α)} (works : WorksOnly body)
    (outside : InState .default pg) :
    LeavesBlock false (withXact needsSnapshot finish body pg) :=
  withXact_leaves outside (worksOnly_concludes works)

end Bracket

/-! ## The SPI bridge -/

/-- A statement stands in a block or outside. -/
def Place (inBlock : Bool) : Pg E → Prop :=
  InState (if inBlock then .inprogress else .default)

theorem Place.left {inBlock : Bool} {pg : Pg E} (place : Place inBlock pg) : Left inBlock pg := by
  cases inBlock with
  | false => exact place
  | true => exact .inl place

/-- A statement of a batch ends where the batch goes on, or leaves a block open or not. -/
def GoesOn (goes : Bool → Prop) (leaves : Bool) (result : PgWireResult α) (pg : Pg E) : Prop :=
  match result with
  | .ok _ => ∃ inBlock, goes inBlock ∧ Place inBlock pg
  | .error _ => Left leaves pg

/-- A statement with its bracket, and what follows it. -/
abbrev Steps (goes : Bool → Prop) (leaves : Bool) :
    Outcome Payload (PgWireResult α) × Pg E → Prop :=
  Meets (GoesOn goes leaves) (fun _ => leaves = false) Never

/-- Intercepted control leaves a block open if it is `BEGIN`, and fails only
where a commit does. -/
theorem handleXactControlOne_steps (cmd : XactCmd) (finish : Option ErrorReport) {inBlock : Bool}
    {goes : Bool → Prop} {leaves : Bool} {pg : Pg E}
    (going : ¬(cmd = .commit ∧ inBlock = true ∧ finish.isSome = true) → goes (cmd = .begin))
    (stopped : cmd = .commit ∧ inBlock = true ∧ finish.isSome = true → leaves = false)
    (place : Place inBlock pg) : Steps goes leaves (handleXactControlOne cmd finish pg) := by
  have answers := handleXactControlOne_answers cmd finish place
  cases raises : cmd == .commit && inBlock && finish.isSome with
  | true =>
      rw [if_pos raises] at answers
      obtain ⟨err, after, run, ended⟩ := answers
      rw [run, stopped (by simpa [and_assoc] using raises)]
      exact ended
  | false =>
      rw [if_neg (by simp [raises])] at answers
      obtain ⟨response, after, run, state⟩ := answers
      rw [run]
      refine ⟨cmd = .begin, going (by simpa using raises), ?_⟩
      rw [Place, InState, state]
      cases cmd <;> rfl

section Rows

variable [TypeTable]

section Spi

variable {stmt : RawStmt E} {goes : Bool → Prop} {leaves : Bool} {pg : Pg E}

/-- A statement of a batch inside a block, which stays open unless the commit raises. -/
theorem withSpi_steps_inside (clean : containsNul stmt.text = false)
    (going : stmt.completes .spi = true → goes true)
    (stopped : stmt.completes .spi = false →
      (stmt.verdict .spi = .raises || stmt.finish = none : Bool) = leaves)
    (state : pg.xact.blockState = .inprogress) :
    Steps goes leaves (withXact true stmt.finish (spiSession stmt.spiRcs
      (runViaSpi stmt stmt.stmtMeta.fetchPortalname)) pg) := by
  have inside := endsAs_runViaSpi clean ((pg.joined true).hold true)
  unfold RawStmt.completes at going stopped
  cases verdict : stmt.verdict .spi with
  | succeeds =>
      rw [verdict] at inside going stopped
      obtain ⟨value, _, run⟩ := inside
      rw [withXact_inprogress_ret state run]
      cases finish : stmt.finish with
      | none => exact ⟨true, going (by simp [finish]), state⟩
      | some report =>
          have none := stopped (by simp [finish])
          rw [finish] at none
          exact none.symm
  | refuses =>
      rw [verdict] at inside stopped
      obtain ⟨err, run⟩ := inside
      rw [withXact_inprogress_ret state run]
      have leaves := stopped rfl
      cases finish : stmt.finish with
      | none =>
          rw [← leaves, finish]
          exact .inl state
      | some report =>
          rw [finish] at leaves
          exact leaves.symm
  | raises =>
      rw [verdict] at inside stopped
      obtain ⟨payload, depth, run⟩ := inside
      rw [withXact_inprogress_unwind state run, ← stopped rfl]
      exact .inr rfl

/-- A statement of a batch outside a block, which opens none. -/
theorem withSpi_steps_outside (clean : containsNul stmt.text = false)
    (going : stmt.completes .spi = true → goes false)
    (stopped : stmt.completes .spi = false → leaves = false)
    (state : pg.xact.blockState = .default) :
    Steps goes leaves (withXact true stmt.finish (spiSession stmt.spiRcs
      (runViaSpi stmt stmt.stmtMeta.fetchPortalname)) pg) := by
  have inside := endsAs_runViaSpi clean ((pg.begun true).hold true)
  unfold RawStmt.completes at going stopped
  cases verdict : stmt.verdict .spi with
  | succeeds =>
      rw [verdict] at inside going stopped
      obtain ⟨value, _, run⟩ := inside
      rw [withXact_default_ret state run]
      cases finish : stmt.finish with
      | none => exact ⟨false, going (by simp [finish]), rfl⟩
      | some report => exact stopped (by simp [finish])
  | refuses =>
      rw [verdict] at inside stopped
      obtain ⟨err, run⟩ := inside
      rw [withXact_default_ret state run, stopped rfl]
      cases stmt.finish with
      | none => exact rfl
      | some report => exact rfl
  | raises =>
      rw [verdict] at inside stopped
      obtain ⟨payload, depth, run⟩ := inside
      rw [withXact_default_unwind state run, stopped rfl]
      exact rfl

end Spi

/-- A statement of a batch that the SPI bridge does not intercept. -/
theorem withSpi_steps {stmt : RawStmt E} (clean : containsNul stmt.text = false)
    {inBlock : Bool} {goes : Bool → Prop} {leaves : Bool} {pg : Pg E}
    (going : stmt.completes .spi = true → goes inBlock)
    (stopped : stmt.completes .spi = false →
      (inBlock && (stmt.verdict .spi = .raises || stmt.finish = none)) = leaves)
    (place : Place inBlock pg) :
    Steps goes leaves (withXact true stmt.finish (spiSession stmt.spiRcs
      (runViaSpi stmt stmt.stmtMeta.fetchPortalname)) pg) := by
  cases inBlock with
  | true => exact withSpi_steps_inside clean going stopped place
  | false => exact withSpi_steps_outside clean going (fun stops => (stopped stops).symm) place

/-- A statement that SPI executes leaves a block open only inside one. -/
theorem executeOneStatement_steps {stmt : RawStmt E} (clean : containsNul stmt.text = false)
    {inBlock : Bool} {rest : List (RawStmt E)} {leaves : Bool} {pg : Pg E}
    (reads : leavesBlockSpi inBlock (stmt :: rest) = leaves) (place : Place inBlock pg) :
    Steps (fun next => leavesBlockSpi next rest = leaves) leaves
      (executeOneStatement stmt stmt.stmtMeta pg) := by
  have active : pg.xact.blockState ≠ .abort := by
    rw [place]
    cases inBlock <;> simp
  rw [executeOneStatement_admitted (gate_admits fun aborted => absurd aborted active)]
  rw [leavesBlockSpi] at reads
  cases classified : classifyRawStmt stmt.node with
  | some cmd =>
      simp only [classified] at reads
      have control : Steps (fun next => leavesBlockSpi next rest = leaves) leaves
          (handleXactControlOne cmd stmt.finish pg) := by
        apply handleXactControlOne_steps cmd stmt.finish _ _ place
        · intro finished
          cases cmd with
          | begin => exact reads
          | commit => rwa [if_neg (by simpa using finished)] at reads
          | rollback => exact reads
        · rintro ⟨rfl, rfl, raised⟩
          simpa [raised] using reads.symm
      simp only [handleXactControl, Comp.bind_apply]
      rcases ended : handleXactControlOne cmd stmt.finish pg with
        ⟨(err | value) | payload | _, after⟩ <;> rw [ended] at control <;> exact control
  | none =>
      simp only [classified] at reads
      apply withSpi_steps clean _ _ place
      · intro completes
        rwa [if_pos completes] at reads
      · intro stops
        rwa [if_neg (by simp [stops])] at reads

theorem executeStatements_leaves {stmts : List (RawStmt E)}
    (content : ∀ stmt ∈ stmts, isBlank stmt.text = false)
    (clean : ∀ stmt ∈ stmts, containsNul stmt.text = false) {inBlock leaves : Bool} {pg : Pg E}
    (reads : leavesBlockSpi inBlock stmts = leaves) (place : Place inBlock pg) :
    LeavesBlock leaves (executeStatements (stmts.map RawStmt.classified) pg) := by
  induction stmts generalizing inBlock pg with
  | nil =>
      cases reads
      exact place.left
  | cons stmt rest inductionHypothesis =>
      rw [executeStatements_cons (content stmt (.head _))]
      have first := executeOneStatement_steps (clean stmt (.head _)) reads place
      rcases ended : executeOneStatement stmt stmt.stmtMeta pg with
        ⟨(err | responses) | payload | _, after⟩ <;> rw [ended] at first
      · exact first
      · obtain ⟨next, reads, place⟩ := first
        have later := inductionHypothesis (fun stmt member => content stmt (.tail _ member))
          (fun stmt member => clean stmt (.tail _ member)) reads place
        exact later.map _
      · exact first
      · exact first

end Rows

/-! ## Implicit blocks -/

/-- What a part of an implicit block leaves: a state behind its statements, or
one that the abort clears. -/
def Passes (leaves : Bool) (holds : Pg E → Prop) (result : PgWireResult α) (pg : Pg E) : Prop :=
  match result with
  | .ok _ => holds pg
  | .error _ => Aborts leaves pg

/-- Between the statements of a batch. -/
def Within (block : Block) (last : Bool) (pg : Pg E) : Prop :=
  if last then
    Place block.isOpen pg
  else
    Standing block pg ∨ block.isOpen = false ∧ InState .implicitInprogress pg ∧ Sees block pg

/-- Whether a batch leaves a block open is settled by its abort. -/
abbrev Settles (leaves : Bool) (holds : Pg E → Prop) :
    Outcome Payload (PgWireResult α) × Pg E → Prop :=
  Meets (Passes leaves holds) (Aborts leaves) Never

section Steps

variable {block : Block} {leaves last : Bool} {pg : Pg E}

theorem Standing.place (standing : Standing block pg) : Place block.isOpen pg := by
  cases opened : block.isOpen with
  | false => exact (standing.outside opened).1
  | true => exact (standing.inside opened).1

theorem Standing.within (standing : Standing block pg) (last : Bool) : Within block last pg := by
  cases last with
  | false => exact .inl standing
  | true => exact standing.place

theorem Within.left (within : Within block true pg) : Left block.isOpen pg :=
  Place.left within

theorem Within.active (within : Within block last pg) : pg.xact.blockState ≠ .abort := by
  have placed (place : Place block.isOpen pg) : pg.xact.blockState ≠ .abort := by
    rw [place]
    cases block.isOpen <;> simp
  cases last with
  | true => exact placed within
  | false =>
      rcases within with standing | ⟨_, state, _⟩
      · exact placed standing.place
      · rw [state]
        simp

/-- The books between two statements. -/
theorem Within.shows (within : Within block false pg) :
    ∃ books : Books E, Shows pg.xact books ∧ books.phase ≠ .failed ∧
      books.enter.phase = if block.isOpen then .explicit else .implicit := by
  rcases within with standing | ⟨closed, state, _⟩
  · have place := standing.place
    cases opened : block.isOpen <;> rw [Place, opened] at place
    · exact ⟨_, .outside place, by simp, rfl⟩
    · exact ⟨_, .inside .explicit (by simp) place, by simp [booksIn], rfl⟩
  · rw [closed]
    exact ⟨_, .inside .implicit (by simp) state, by simp [booksIn], rfl⟩

/-- The state in which a statement of a batch runs. -/
theorem Within.enters (within : Within block false pg) :
    Sees block (enterImplicit pg) ∧
      InState (if block.isOpen then .inprogress else .implicitInprogress) (enterImplicit pg) := by
  rcases within with standing | ⟨closed, state, seen⟩
  · cases opened : block.isOpen with
    | false =>
        obtain ⟨state, rfl⟩ := standing.outside opened
        have here : pg.xact.blockState = .default := state
        simp only [enterImplicit, here]
        exact ⟨rfl, rfl⟩
    | true =>
        obtain ⟨state, seen⟩ := standing.inside opened
        have here : pg.xact.blockState = .inprogress := state
        simp only [enterImplicit, here]
        refine ⟨?_, here⟩
        rw [Sees, opened]
        exact seen
  · have here : pg.xact.blockState = .implicitInprogress := state
    simp only [enterImplicit, here, closed]
    exact ⟨seen, here⟩

theorem catchImplicitBlock_leaves {body : PgM E (PgWireResult (List Response))}
    (settles : Settles leaves (Left leaves) (body pg)) :
    LeavesBlock leaves (catchImplicitBlock body pg) := by
  unfold catchImplicitBlock
  rcases ended : body pg with ⟨(err | responses) | payload | _, after⟩ <;> rw [ended] at settles
  · simp only [Comp.bind_apply, Comp.catchUnwind_of_ret ended, resume_ret]
    exact settles
  · simp only [Comp.bind_apply, Comp.catchUnwind_of_ret ended, resume_ret]
    exact settles
  · simp only [Comp.bind_apply, Comp.catchUnwind_of_unwind ended, resume_ret]
    exact settles
  · exact settles.elim

/-- Go on behind a statement with the rest of the batch. -/
theorem continueWith_settles {holds : Pg E → Prop} {rest : PgM E (PgWireResult (List Response))}
    {step : Outcome Payload (PgWireResult (List Response)) × Pg E}
    (settles : Settles leaves holds step)
    (later : ∀ pg, holds pg → Settles leaves (Left leaves) (rest pg)) :
    Settles leaves (Left leaves) (resume step (continueWith rest)) := by
  rcases step with ⟨(err | responses) | payload | _, after⟩
  · exact settles
  · have ending := later after settles
    simp only [resume_ret, continueWith, Comp.bind_apply]
    rcases ended : rest after with ⟨(err | more) | payload | _, last⟩ <;> rw [ended] at ending <;>
      exact ending
  · exact settles
  · exact settles

/-- Outside a block, between the statements of a batch. -/
def Apart (last : Bool) (pg : Pg E) : Prop :=
  InState .default pg ∨ last = false ∧ InState .implicitInprogress pg

theorem closeStatement_apart (last : Bool) (finish : Option ErrorReport)
    (state : pg.xact.blockState = .implicitInprogress) :
    Meets (fun _ => Apart last) (Aborts false) Never (closeStatement last finish pg) := by
  cases last <;> cases finish <;>
    simp [closeStatement, commandCounterIncrement, endImplicitTransactionBlock, state,
      commitTransactionCommand, Meets]
  · exact .inr ⟨rfl, state⟩
  · exact aborts_of_clears (by rw [state]; rfl)
  · exact .inl rfl
  · exact aborts_of_clears rfl

/-- Outside a block, a statement that only adds work opens none. -/
theorem implicitStep_apart (needsSnapshot last : Bool) (finish : Option ErrorReport)
    {body : PgM E (PgWireResult α)} (works : WorksOnly body) (apart : Apart false pg) :
    Settles false (Apart last) (implicitStep needsSnapshot last finish body pg) := by
  obtain ⟨books, shown, active, entered⟩ : ∃ books : Books E, Shows pg.xact books ∧
      books.phase ≠ .failed ∧ books.enter.phase = .implicit := by
    rcases apart with state | ⟨_, state⟩
    · exact ⟨_, .outside state, by simp, rfl⟩
    · exact ⟨_, .inside .implicit (by simp) state, by simp [booksIn], rfl⟩
  have state : (insideStep needsSnapshot pg).xact.blockState = .implicitInprogress := by
    rw [(insideStep_shows shown).phase_eq, entered]
    rfl
  rw [implicitStep_enter shown active]
  obtain ⟨effects, ⟨result, run⟩ | ⟨payload, depth, run⟩⟩ :=
    works ((insideStep needsSnapshot pg).hold needsSnapshot)
  · rw [run, hold_work]
    cases result with
    | error err =>
        simp only [resume_ret, finishStep, Comp.bind_apply, popIfNeeded_hold, Comp.pure_apply]
        change Aborts false _
        exact aborts_of_clears (by rw [Pg.work_blockState, state]; rfl)
    | ok value =>
        have closes := closeStatement_apart last finish
          ((Pg.work_blockState effects _).trans state)
        simp only [resume_ret, finishStep, Comp.bind_apply, popIfNeeded_hold]
        rcases closed : closeStatement last finish ((insideStep needsSnapshot pg).work effects)
          with ⟨_ | payload | _, after⟩ <;> rw [closed] at closes <;> exact closes
  · rw [run]
    exact aborts_of_clears (by simp [state, clears])

end Steps

/-! ## A statement of a batch on the direct path -/

theorem implicitStep_goesOn {body : PgM E (PgWireResult α)} {effects : List E}
    {answers : α → Prop} {pg : Pg E} {books : Books E} (needsSnapshot : Bool)
    (ends : EndsAs body .succeeds effects answers) (shown : Shows pg.xact books)
    (active : books.phase ≠ .failed) :
    ∃ value, implicitStep needsSnapshot false none body pg =
      (.ret (.ok value), (insideStep needsSnapshot pg).work effects) := by
  obtain ⟨value, _, run⟩ := ends ((insideStep needsSnapshot pg).hold needsSnapshot)
  refine ⟨value, ?_⟩
  rw [implicitStep_enter shown active, run, hold_work]
  simp [finishStep, closeStatement, commandCounterIncrement]

theorem leavesBlockDirect_ordinary {stmt : RawStmt E}
    (ordinary : isTransactionStmt stmt.node = false) (block : Block) (rest : List (RawStmt E)) :
    leavesBlockDirect block (stmt :: rest) =
      if stmt.completes .direct then
        leavesBlockDirect (block.observed stmt.node.analyzeRequiresSnapshot) rest
      else
        block.isOpen := by
  rw [leavesBlockDirect]
  split
  · next command node =>
    rw [node] at ordinary
    cases ordinary
  · rfl

section Rows

variable [TypeTable] {block : Block} {leaves : Bool} {pg : Pg E}

omit [TypeTable] in
/-- A statement that succeeds leaves the block as it was, but for its snapshot. -/
theorem within_observed (within : Within block false pg) (needsSnapshot : Bool)
    (effects : List E) :
    Within (block.observed needsSnapshot) false ((insideStep needsSnapshot pg).work effects) := by
  obtain ⟨seen, state⟩ := within.enters
  have observed : Sees (block.observed needsSnapshot)
      ((insideStep needsSnapshot pg).work effects) :=
    congrArg (Block.observed needsSnapshot) seen
  cases opened : block.isOpen with
  | false =>
      rw [opened] at state
      exact .inr ⟨opened, state, observed⟩
  | true =>
      rw [opened] at state
      exact .inl (standing_of_sees opened state observed)

/-- A statement of the direct loop that is no transaction statement. -/
theorem directStep_settles {stmt : RawStmt E} (clean : containsNul stmt.text = false)
    (ordinary : isTransactionStmt stmt.node = false) (last : Bool) {goes : Block → Prop}
    (going : stmt.completes .direct = true →
      goes (block.observed stmt.node.analyzeRequiresSnapshot))
    (stopped : stmt.completes .direct = false → block.isOpen = leaves)
    (within : Within block false pg) :
    Settles leaves (fun pg => ∃ next, goes next ∧ Within next last pg)
      (implicitStep (stmt.needsSnapshot .direct) last stmt.finish (stmt.body .direct) pg) := by
  have ends := endsAs_body .direct clean ordinary
  obtain ⟨books, shown, active, entered⟩ := within.shows
  cases completes : stmt.completes .direct with
  | true =>
      have settled : stmt.verdict .direct = .succeeds ∧ stmt.finish = none := by
        simpa [RawStmt.completes] using completes
      rw [settled.1] at ends
      rw [settled.2]
      cases last with
      | false =>
          obtain ⟨value, run⟩ := implicitStep_goesOn (stmt.needsSnapshot .direct) ends shown active
          rw [run]
          exact ⟨_, going completes, within_observed within _ _⟩
      | true =>
          obtain ⟨value, after, _, run, shows⟩ :=
            implicitStep_succeeds (stmt.needsSnapshot .direct) true ends shown active
          have phase := shows.phase_eq
          rw [run]
          refine ⟨_, going completes, ?_⟩
          change Place block.isOpen after
          rw [Place, InState, phase]
          cases opened : block.isOpen <;> rw [opened] at entered <;>
            simp [Books.close, Books.perform, entered, blockStateOf, Books.commit]
  | false =>
      have failing : ¬(stmt.verdict .direct = .succeeds ∧ stmt.finish = none) := by
        simpa [RawStmt.completes] using completes
      obtain ⟨outcome, after, run, fails, shows⟩ :=
        implicitStep_fails (stmt.needsSnapshot .direct) last ends failing shown active
      have phase := shows.phase_eq
      have aborts : Aborts leaves after := by
        rw [← stopped completes, Aborts, Left]
        cases opened : block.isOpen <;> rw [opened] at entered <;>
          simp [InState, phase, Books.abandon, Books.perform, entered, blockStateOf,
            Books.rollback]
      rw [run]
      rcases outcome with (err | value) | payload | _
      · exact aborts
      · exact fails.elim
      · exact aborts
      · exact fails.elim

/-- A transaction statement on the direct path has a response or raises. -/
theorem runOneDirect_marked {stmt : RawStmt E} {command : TransactionStmt}
    (node : stmt.node = .transactionStmt command) (finish : Option ErrorReport)
    {rest : Block → Bool}
    (reads : TransactionStmt.leavesBlock command finish block rest = leaves) :
    Triple (fun pg : Pg E => Executing
        (leaves = false → rest (.outside pg.xact.defaults) = leaves) block.isOpen pg ∧
          Sees block pg)
      (runOneDirect stmt)
      (fun result pg => (∃ response, result = .ok response) ∧
        Marked block.isOpen (fun next => rest next = leaves) leaves finish pg)
      (Aborts leaves) Never := by
  rw [runOneDirect, node, runPortal, bind_assoc]
  apply (processUtility_marked command finish block reads).bind
  exact fun run => .pure fun _ marked => ⟨⟨_, rfl⟩, marked⟩

omit [TypeTable] in
theorem endImplicit_marked {inBlock : Bool} {goes : Block → Prop} {finish : Option ErrorReport} :
    Triple (Marked (E := E) inBlock goes leaves finish) endImplicitTransactionBlock
      (fun _ => Marked inBlock goes leaves finish) (Aborts leaves) Never := by
  intro pg marked
  unfold endImplicitTransactionBlock
  split
  · next state => simp [Marked, state] at marked
  · exact marked

omit [TypeTable] in
/-- The start of a statement of a batch. -/
theorem enterImplicit_executes (alone : Pg E → Prop) {next : PgM E α} {post : α → Pg E → Prop}
    {raised : Pg E → Prop}
    (executes : Triple (fun pg => Executing (alone pg) block.isOpen pg ∧ Sees block pg) next post
      raised Never) :
    Triple (Within block false) (do startTransactionCommand; beginImplicitTransactionBlock; next)
      post raised Never := by
  intro pg within
  obtain ⟨books, shown, _, _⟩ := within.shows
  obtain ⟨seen, state⟩ := within.enters
  obtain ⟨started, start, enter⟩ := enter_implicitBlock shown
  simp only [Comp.bind_apply, start, enter, resume_ret]
  apply executes
  refine ⟨?_, seen⟩
  cases opened : block.isOpen <;> rw [opened] at state
  · exact .inl state
  · exact state

/-- A transaction statement of a batch, and what follows it. -/
theorem controlStep_settles {stmt : RawStmt E} {command : TransactionStmt}
    (node : stmt.node = .transactionStmt command) {rest : List (RawStmt E)}
    (reads : leavesBlockDirect block (stmt :: rest) = leaves)
    (later : ∀ next, leavesBlockDirect next rest = leaves →
      Triple (Within next rest.isEmpty) (implicitBlockLoopDirect rest)
        (Passes leaves (Left leaves)) (Aborts leaves) Never) :
    Triple (Within block false) (implicitBlockLoopDirect (stmt :: rest))
      (Passes leaves (Left leaves)) (Aborts leaves) Never := by
  have control : isTransactionStmt stmt.node = true := by rw [node]; rfl
  have noSnapshot : stmt.node.analyzeRequiresSnapshot = false := by rw [node]; rfl
  simp only [leavesBlockDirect, node] at reads
  let goes (next : Block) : Prop := leavesBlockDirect next rest = leaves
  have goOn (response : Response) : Triple (StandsAs (E := E) goes)
      (do let more ← implicitBlockLoopDirect rest
          pure (more.map fun later => response :: later))
      (Passes leaves (Left leaves)) (Aborts leaves) Never := by
    rintro pg ⟨next, reads, standing⟩
    have ending := later next reads pg (standing.within _)
    rw [Comp.bind_apply]
    rcases ended : implicitBlockLoopDirect rest pg with ⟨(err | more) | payload | _, last⟩ <;>
      rw [ended] at ending <;> exact ending
  have commits (response : Response) : Triple (Marked (E := E) block.isOpen goes leaves stmt.finish)
      (do commitTransactionCommand stmt.finish
          let more ← implicitBlockLoopDirect rest
          pure (more.map fun later => response :: later))
      (Passes leaves (Left leaves)) (Aborts leaves) Never := by
    have committed := (commit_marked (E := E) block.isOpen goes leaves stmt.finish).consequence
      (fun _ here => here) (fun _ _ here => here) (fun _ here => here.1) fun _ here => here
    exact committed.bind fun _ => goOn response
  apply (Triple.read _).bind
  intro aborted
  apply Triple.ite
  · rintro refuses pg ⟨here, rfl⟩
    rw [Bool.and_eq_true, Xact.isAbortedTransactionBlockState_iff] at refuses
    exact absurd refuses.1 here.active
  · intro _
    rw [noSnapshot, control]
    apply Triple.assuming (enterImplicit_executes
      (fun pg => leaves = false → goes (.outside pg.xact.defaults)) ?_) fun _ here => here.1
    simp only [pushIfNeeded, popIfNeeded, Bool.false_eq_true, if_false, pure_bind]
    apply (runOneDirect_marked node stmt.finish reads).bind
    rintro (err | response)
    · rintro pg ⟨⟨_, impossible⟩, _⟩
      cases impossible
    · refine Triple.assuming ?_ fun _ here => here.2
      apply Triple.ite
      · exact fun _ => endImplicit_marked.bind fun _ => commits response
      · exact fun _ => commits response

/-- The direct loop leaves a block open exactly if its statements are read so. -/
theorem implicitBlockLoopDirect_settles {stmts : List (RawStmt E)}
    (clean : ∀ stmt ∈ stmts, containsNul stmt.text = false) :
    ∀ (block : Block), leavesBlockDirect block stmts = leaves →
      Triple (Within block stmts.isEmpty) (implicitBlockLoopDirect stmts)
        (Passes leaves (Left leaves)) (Aborts leaves) Never := by
  induction stmts with
  | nil =>
      rintro block rfl
      exact .pure fun _ within => within.left
  | cons stmt rest inductionHypothesis =>
      intro block reads
      have later := inductionHypothesis fun stmt member => clean stmt (.tail _ member)
      by_cases ordinary : isTransactionStmt stmt.node = false
      · intro pg within
        rw [leavesBlockDirect_ordinary ordinary] at reads
        have head := implicitBlockLoop_cons .direct rest ordinary within.active
        simp only [implicitBlockLoop] at head
        rw [head]
        have step : Settles leaves
            (fun pg => ∃ next, leavesBlockDirect next rest = leaves ∧ Within next rest.isEmpty pg)
            (implicitStep (stmt.needsSnapshot .direct) rest.isEmpty stmt.finish
              (stmt.body .direct) pg) := by
          apply directStep_settles (clean stmt (.head _)) ordinary rest.isEmpty _ _ within
          · intro completes
            rwa [if_pos completes] at reads
          · intro stops
            rwa [if_neg (by simp [stops])] at reads
        apply continueWith_settles step
        rintro after ⟨next, reads, within⟩
        exact later next reads after within
      · obtain ⟨command, node⟩ := exists_command_of_transactionStmt ordinary
        exact controlStep_settles node reads later

/-! ## Messages -/

omit [TypeTable] in
theorem begun_sees (needsSnapshot : Bool) (pg : Pg E) :
    Sees ((Block.outside pg.xact.defaults).observed needsSnapshot)
      ((pg.begun needsSnapshot).hold needsSnapshot) :=
  rfl

/-- A single statement on the direct path. -/
theorem executeSingleDirect_leaves {stmt : RawStmt E} (content : isBlank stmt.text = false)
    (reads : leavesBlockDirect (.outside pg.xact.defaults) [stmt] = leaves)
    (outside : InState .default pg) : LeavesBlock leaves (executeSingleDirect [stmt] pg) := by
  have bracket : LeavesBlock leaves
      (withXact stmt.node.analyzeRequiresSnapshot stmt.finish (runOneDirect stmt) pg) := by
    by_cases ordinary : isTransactionStmt stmt.node = false
    · have none : leaves = false := by
        rw [leavesBlockDirect_ordinary ordinary] at reads
        rw [← reads]
        split <;> rfl
      rw [none]
      exact withXact_leaves_none (worksOnly_runOneDirect ordinary) outside
    · obtain ⟨command, node⟩ := exists_command_of_transactionStmt ordinary
      have noSnapshot : stmt.node.analyzeRequiresSnapshot = false := by rw [node]; rfl
      simp only [leavesBlockDirect, node] at reads
      rw [noSnapshot]
      apply withXact_leaves outside
      apply (runOneDirect_marked node stmt.finish reads _ ?_).imp
      · exact fun _ _ ending => ⟨ending.2, Nat.zero_le _⟩
      · exact fun _ aborts => aborts
      · exact fun _ never => never
      · exact ⟨.inr ⟨rfl, fun none => none.symm⟩, begun_sees false pg⟩
  have active : pg.xact.blockState ≠ .abort := by
    rw [outside]
    simp
  rw [executeSingleDirect_cons content [] (gate_admits fun aborted => absurd aborted active)]
  rcases ended : withXact stmt.node.analyzeRequiresSnapshot stmt.finish (runOneDirect stmt) pg with
    ⟨(err | value) | payload | _, after⟩ <;> rw [ended] at bracket <;> exact bracket

/-- Without control, the loop over SPI opens no block. -/
theorem implicitBlockLoopSpi_settles (entries : List (RawStmt E × Option String))
    (apart : Apart entries.isEmpty pg) :
    Settles false (Left false) (implicitBlockLoopSpi entries pg) := by
  induction entries generalizing pg with
  | nil =>
      rcases apart with state | ⟨impossible, _⟩
      · exact state
      · cases impossible
  | cons entry rest inductionHypothesis =>
      have active : pg.xact.blockState ≠ .abort := by
        rcases apart with state | ⟨_, state⟩ <;> rw [state] <;> simp
      rw [implicitBlockLoopSpi_cons entry.1 entry.2 rest active]
      have step := implicitStep_apart true rest.isEmpty entry.1.finish
        (worksOnly_spiSession entry.1.spiRcs (worksOnly_runViaSpi entry.1 entry.2)) apart
      exact continueWith_settles step fun _ => inductionHypothesis

omit [TypeTable] in
theorem leavesBlockSpi_ordinary {stmts : List (RawStmt E)}
    (ordinary : ∀ stmt ∈ stmts, classifyRawStmt stmt.node = none) :
    leavesBlockSpi false stmts = false := by
  induction stmts with
  | nil => rfl
  | cons stmt rest inductionHypothesis =>
      obtain ⟨first, others⟩ := List.forall_mem_cons.mp ordinary
      simp [leavesBlockSpi, first, inductionHypothesis others]

/-- A query that finds no block open leaves one open exactly if it is read so. -/
theorem simpleQuery_leaves (backend : ExecutionBackend) (query : SimpleQuery E)
    (reads : query.leavesBlock backend pg.xact.defaults = leaves) (outside : InState .default pg) :
    LeavesBlock leaves (simpleQuery backend query pg) := by
  by_cases unparsed : containsNul query.text = true ∨ ∃ report, query.parsed = .error report
  · obtain ⟨err, refused⟩ := simpleQuery_unparsed backend pg unparsed
    have none : leaves = false := by
      rw [← reads, SimpleQuery.leavesBlock]
      rcases unparsed with text | ⟨report, parsed⟩
      · rw [text]
        cases query.parsed <;> rfl
      · rw [parsed]
    rw [refused, none]
    exact outside
  · rw [not_or, Bool.not_eq_true] at unparsed
    obtain ⟨clean, parses⟩ := unparsed
    rcases parsed : query.parsed with report | stmts
    · exact absurd ⟨report, parsed⟩ parses
    · have noNul : ∀ stmt ∈ nonEmpty stmts, containsNul stmt.text = false := fun stmt member =>
        query.containsNul_slice clean parsed (mem_of_mem_nonEmpty member)
      rw [simpleQuery_eq_batchLoop backend clean parsed]
      simp only [SimpleQuery.leavesBlock, parsed, clean, Bool.not_false, Bool.true_and] at reads
      cases backend with
      | spi =>
          dsimp only [batchLoop]
          split
          · next implicit =>
            have none : leaves = false := by
              rw [← reads]
              apply leavesBlockSpi_ordinary
              intro stmt member
              have free := List.any_eq_false.mp implicit.2 stmt (mem_of_mem_nonEmpty member)
              simpa using free
            rw [none]
            exact catchImplicitBlock_leaves (implicitBlockLoopSpi_settles _ (.inl outside))
          · exact executeStatements_leaves (fun stmt member => not_blank_of_mem_nonEmpty member)
              noNul reads outside
      | direct =>
          dsimp only [batchLoop]
          split
          · have within : Within (.outside pg.xact.defaults) (nonEmpty stmts).isEmpty pg := by
              have standing : Standing (.outside pg.xact.defaults) pg := ⟨outside, rfl⟩
              exact standing.within _
            exact catchImplicitBlock_leaves
              (implicitBlockLoopDirect_settles noNul _ reads pg within)
          · next short =>
            match remaining : nonEmpty stmts with
            | [] =>
                rw [remaining] at reads
                rw [← reads]
                exact outside
            | [stmt] =>
                rw [remaining] at reads
                have member : stmt ∈ nonEmpty stmts := by simp [remaining]
                exact executeSingleDirect_leaves (not_blank_of_mem_nonEmpty member) reads outside
            | _ :: _ :: _ => simp [remaining] at short

theorem prepare_leaves (backend : ExecutionBackend) (request : ParseRequest)
    (outside : InState .default pg) :
    LeavesBlock false (prepare backend request pg) := by
  unfold prepare
  split
  · exact outside
  · next text =>
    have clean : containsNul request.sql = false := by simpa using text
    cases backend with
    | spi =>
        simp only [spiPrepare, clean, dite_true, withSpi_eq_withXact]
        exact withXact_leaves_none
          (worksOnly_spiSession _ (worksOnly_spiPrepareBody request clean)) outside
    | direct =>
        simp only [directPrepare, clean, dite_true]
        exact withXact_leaves_none (worksOnly_directPrepareBody request clean) outside

end Rows

section Execute

variable {leaves : Bool} {pg : Pg E}

theorem worksOnly_directExecuteBody {plan : DirectBackendPlan}
    (ordinary : isTransactionStmt plan.source.node = false) (request : ExecuteRequest E)
    (formats : BoundFormats) : WorksOnly (directExecuteBody plan request formats) := by
  refine (worksOnly_decodeParameters _).bind ?_
  rintro (err | datums)
  · exact .pure _
  · exact (worksOnly_getPlan _ _).bind fun _ =>
      (worksOnly_runPortal ordinary _).bind fun _ => .pure _

/-- The closure of a direct `Execute` of a transaction statement, outside a block. -/
theorem directExecuteBody_concludes {plan : DirectBackendPlan} {command : TransactionStmt}
    (node : plan.source.node = .transactionStmt command) (request : ExecuteRequest E)
    (formats : BoundFormats)
    (reads : (decodeVerdict (request.parameters.zip formats.paramIsBinary) = .succeeds &&
      TransactionStmt.leavesBlock command request.finish
        ((Block.outside pg.xact.defaults).observed true) Block.isOpen) = leaves) :
    Concludes true leaves request.finish
      (directExecuteBody plan request formats ((pg.begun true).hold true)) := by
  have body := directExecuteBody_command node request formats ((pg.begun true).hold true)
  cases decided : decodeVerdict (request.parameters.zip formats.paramIsBinary) with
  | succeeds =>
      rw [decided] at body reads
      obtain ⟨shape, run⟩ := body
      have marks := processUtility_marked command request.finish _ reads
        ((pg.begun true).hold true) ⟨.inr ⟨rfl, fun none => none.symm⟩, begun_sees true pg⟩
      have moved := onlyXact_processUtility command ((pg.begun true).hold true)
      rw [run]
      rcases ended : processUtility command ((pg.begun true).hold true) with
        ⟨tag | payload | _, after⟩ <;> rw [ended] at marks moved
      · refine ⟨marks, ?_⟩
        rw [Holding, moved.snapshots]
        exact Nat.le_add_left _ _
      · exact marks
      · exact marks
  | raises =>
      rw [decided] at body reads
      obtain ⟨payload, depth, run⟩ := body
      rw [run, ← reads]
      exact aborts_of_clears rfl
  | refuses =>
      rw [decided] at body reads
      obtain ⟨err, run⟩ := body
      rw [run, ← reads]
      refine ⟨?_, Nat.le_add_left _ _⟩
      simp [Marked, Commits, Block.outside]

/-- An `Execute` that finds no block open leaves one open exactly if it is read so. -/
theorem execute_leaves (statement : PreparedStatement) (request : ExecuteRequest E)
    (reads : statement.leavesBlock request pg.xact.defaults = leaves)
    (outside : InState .default pg) : LeavesBlock leaves (statement.execute request pg) := by
  unfold PreparedStatement.leavesBlock at reads
  by_cases binds : request.Binds statement.plan
  · simp only [binds, decide_true, Bool.true_and] at reads
    cases choice : statement.plan with
    | spi plan =>
        rw [choice] at reads
        rw [statement.execute_spi choice binds, withSpi_eq_withXact, ← reads]
        exact withXact_leaves_none
          (worksOnly_spiSession _ (worksOnly_spiExecuteBody plan request _)) outside
    | direct plan =>
        simp only [choice] at reads
        rw [statement.execute_direct choice binds]
        by_cases ordinary : isTransactionStmt plan.source.node = false
        · have none : leaves = false := by
            rw [← reads]
            cases node : plan.source.node with
            | transactionStmt command =>
                rw [node] at ordinary
                cases ordinary
            | fetchStmt | other => rfl
          rw [none]
          exact withXact_leaves_none (worksOnly_directExecuteBody ordinary request _) outside
        · obtain ⟨command, node⟩ := exists_command_of_transactionStmt ordinary
          simp only [node] at reads
          exact withXact_leaves outside (directExecuteBody_concludes node request _ reads)
    | xactControl cmd =>
        rw [statement.execute_xactControl choice binds]
        simp only [choice] at reads
        have place : Place false pg := outside
        have steps : Steps (fun inBlock => inBlock = leaves) leaves
            (handleXactControlOne cmd request.finish pg) :=
          handleXactControlOne_steps cmd request.finish (fun _ => reads) (by simp) place
        rcases ended : handleXactControlOne cmd request.finish pg with
          ⟨(err | value) | payload | _, after⟩ <;> rw [ended] at steps
        · exact steps
        · obtain ⟨inBlock, rfl, stands⟩ := steps
          exact stands.left
        · exact steps
        · exact steps
  · simp only [binds, decide_false, Bool.false_and] at reads
    rw [← reads]
    by_cases counted : request.parameters.length = statement.plan.paramCount
    · have uncovered : request.formatsCover statement.plan.columnCount = false := by
        simpa [ExecuteRequest.Binds, counted] using binds
      obtain ⟨len, index, panics⟩ := statement.execute_of_uncovered pg counted uncovered
      rw [panics]
      exact rfl
    · obtain ⟨err, refused⟩ := statement.execute_of_miscounted pg counted
      rw [refused]
      exact outside

end Execute

end PgTransport.Backend
