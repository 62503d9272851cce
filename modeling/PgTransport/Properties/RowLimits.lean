import PgTransport.Backend.Extended.PortalRuns

/-!
# Row limits

An `Execute` message with a limit should return the next rows of the portal and
leave the others for the messages after it.  The bridge hands the limit to a run
that ends with the message, so that the rows beyond it are lost: the law holds
exactly where the first limit does not cut the result short.
-/

namespace PgTransport.Properties

open PgTransport.Backend
open PgTransport.Computation
open PgTransport.Postgres
open PgTransport.Wire

variable {E : Type}

/-! ## The law -/

/-- A sequence of `Execute` messages returns consecutive segments of the result
of the query, each within its limit, the portal still holds the others, and the
work of the query was done once.  Rows are told apart by their positions: this
holds whatever the rows contain. -/
def LosesNoRow [TypeTable] (serving : Serving) (portal : BoundPortal E)
    (limits : List Int32) : Prop :=
  ∀ (rows : List Row) (shape : portal.SameShape rows) (pg : Pg E), Awaits pg →
    ∃ pages rest after,
      executes serving (portal.holding rows shape) none limits pg =
          (.ret (.ok (pages, rest)), after) ∧
        Segments (portal.holding rows shape).dataRows limits pages rest ∧
        workOnBooks after = workOnBooks pg ++ portal.effects

/-! ## Its condition -/

/-- The messages that reach `do_query`. -/
def queryLimits (serving : Serving) (first : Int32) (later : List Int32) : List Int32 :=
  match serving with
  | .restOfStream => [first]
  | .doQueryAgain => first :: later

/-- The first message is not limited below the size of the result, or SPI
returns all of it to a stream that serves the others; a later message that runs
the query again returns nothing, since its count is negative. -/
structure Uncut (serving : Serving) (portal : BoundPortal E) (first : Int32)
    (later : List Int32) : Prop where
  whole : portal.rows ≠ [] → first.toInt = 0 ∨ (portal.rows.length : Int) ≤ first.toInt ∨
    serving = .restOfStream ∧ portal.uncounted = true
  spent : portal.rows ≠ [] → serving = .doQueryAgain → ∀ limit ∈ later, limit.toInt < 0

/-- The limits of these messages lose no row.  SPI is given no negative limit, a
result with rows has columns and is not cut short, and of the messages that run
the query one works, to the end. -/
structure LimitsFit (serving : Serving) (portal : BoundPortal E) (first : Int32)
    (later : List Int32) : Prop extends Uncut serving portal first later where
  takes : ∀ limit ∈ queryLimits serving first later, portal.TakesLimit limit
  columns : portal.rows ≠ [] → portal.resultDesc.getD [] ≠ []
  once : portal.effects ≠ [] →
    ((queryLimits serving first later).filter portal.worksUnder).length = 1
  finished : portal.rows ≠ [] → first.toInt = portal.rows.length → portal.worksWhole = false →
    portal.stopped portal.rows.length = portal.effects

/-! ## A sequence of executions -/

section Sequence

variable [TypeTable] {portal : BoundPortal E}

omit [TypeTable] in
/-- Messages that are served from a stream send its pages and do nothing else. -/
theorem executes_held (serving : Serving) (limits : List Int32) (stream : List DataRow)
    (pg : Pg E) :
    executes serving portal (some stream) limits pg =
      (.ret (.ok (sendPages limits stream)), pg) := by
  induction limits generalizing stream with
  | nil => rfl
  | cons limit limits inductionHypothesis =>
      simp only [executes, onExecute, Comp.bind_apply, Comp.pure_apply, resume_ret,
        inductionHypothesis]
      rfl

/-- The rows that are sent for a run under this limit. -/
def pageUnder (portal : BoundPortal E) (limit : Int32) : List DataRow :=
  (sendRows (usizeOf limit) (portal.answeredRows (portal.rowsUnder limit))).1

/-- The pages that a sequence of messages sends, and the rows the portal holds. -/
def pagesUnder (serving : Serving) (portal : BoundPortal E) (first : Int32)
    (later : List Int32) : List (List DataRow) × List DataRow :=
  match serving with
  | .restOfStream => sendPages (first :: later) (portal.answeredRows (portal.rowsUnder first))
  | .doQueryAgain => ((first :: later).map (pageUnder portal), [])

/-- Every message runs the query. -/
theorem executes_doQueryAgain (runnable : portal.Runnable) {limits : List Int32}
    (takes : ∀ limit ∈ limits, portal.TakesLimit limit) {pg : Pg E} (awaits : Awaits pg) :
    ∃ after, executes .doQueryAgain portal none limits pg =
        (.ret (.ok (limits.map (pageUnder portal), [])), after) ∧
      workOnBooks after = workOnBooks pg ++ limits.flatMap portal.workUnder := by
  induction limits generalizing pg with
  | nil => exact ⟨pg, rfl, (List.append_nil _).symm⟩
  | cons limit limits inductionHypothesis =>
      rw [List.forall_mem_cons] at takes
      obtain ⟨response, middle, run, rows, waiting, work⟩ :=
        BoundPortal.doQuery_answers runnable takes.1 awaits
      obtain ⟨after, rest, total⟩ := inductionHypothesis takes.2 waiting
      refine ⟨after, ?_, ?_⟩
      · simp only [executes, onExecute, Comp.bind_apply, run, resume_ret, Comp.pure_apply,
          Serving.keep, rest, rows]
        rfl
      · rw [total, work, List.flatMap_cons, List.append_assoc]

theorem executes_answers (runnable : portal.Runnable) {serving : Serving} {first : Int32}
    {later : List Int32}
    (takes : ∀ limit ∈ queryLimits serving first later, portal.TakesLimit limit)
    {pg : Pg E} (awaits : Awaits pg) :
    ∃ after, executes serving portal none (first :: later) pg =
        (.ret (.ok (pagesUnder serving portal first later)), after) ∧
      workOnBooks after =
        workOnBooks pg ++ (queryLimits serving first later).flatMap portal.workUnder := by
  cases serving with
  | doQueryAgain => exact executes_doQueryAgain runnable takes awaits
  | restOfStream =>
      obtain ⟨response, after, run, rows, _, work⟩ :=
        BoundPortal.doQuery_answers runnable (takes first (List.mem_singleton.mpr rfl)) awaits
      refine ⟨after, ?_, ?_⟩
      · simp only [executes, onExecute, Comp.bind_apply, run, resume_ret, Comp.pure_apply,
          Serving.keep, executes_held, rows]
        rfl
      · rw [work, queryLimits, List.flatMap_singleton]

/-- A message that SPI refuses ends the sequence with an error. -/
theorem executes_fails (runnable : portal.Runnable) (serving : Serving) {limit : Int32}
    (limits : List Int32) (refused : ¬portal.TakesLimit limit) {pg : Pg E} (awaits : Awaits pg) :
    ∃ err after, executes serving portal none (limit :: limits) pg =
      (.ret (.error err), after) := by
  obtain ⟨err, after, run⟩ := BoundPortal.doQuery_refused runnable refused awaits
  refine ⟨err, after, ?_⟩
  simp only [executes, onExecute, Comp.bind_apply, run, resume_ret, Comp.pure_apply]

/-- So does one behind messages that run the query. -/
theorem executes_doQueryAgain_refused (runnable : portal.Runnable) {limits : List Int32}
    (refused : ¬∀ limit ∈ limits, portal.TakesLimit limit) {pg : Pg E} (awaits : Awaits pg) :
    ∃ err after, executes .doQueryAgain portal none limits pg = (.ret (.error err), after) := by
  induction limits generalizing pg with
  | nil => simp at refused
  | cons limit limits inductionHypothesis =>
      by_cases takes : portal.TakesLimit limit
      · rw [List.forall_mem_cons, and_iff_right takes] at refused
        obtain ⟨response, middle, run, _, waiting, _⟩ :=
          BoundPortal.doQuery_answers runnable takes awaits
        obtain ⟨err, after, rest⟩ := inductionHypothesis refused waiting
        refine ⟨err, after, ?_⟩
        simp only [executes, onExecute, Comp.bind_apply, run, resume_ret, Comp.pure_apply,
          Serving.keep, rest]
        rfl
      · exact executes_fails runnable .doQueryAgain limits takes awaits

theorem executes_refused (runnable : portal.Runnable) {serving : Serving} {first : Int32}
    {later : List Int32}
    (refused : ¬∀ limit ∈ queryLimits serving first later, portal.TakesLimit limit)
    {pg : Pg E} (awaits : Awaits pg) :
    ∃ err after, executes serving portal none (first :: later) pg =
      (.ret (.error err), after) := by
  cases serving with
  | doQueryAgain => exact executes_doQueryAgain_refused runnable refused awaits
  | restOfStream =>
      apply executes_fails runnable .restOfStream later _ awaits
      simpa [queryLimits] using refused

end Sequence

/-! ## The work -/

section Work

variable {portal : BoundPortal E} {serving : Serving} {first : Int32} {later : List Int32}

/-- Doing some work whenever a condition holds does it once if it holds once. -/
theorem flatMap_ite_eq_iff {α β : Type} (items : List α) (condition : α → Bool) (work : List β) :
    (items.flatMap fun item => if condition item then work else []) = work ↔
      (work ≠ [] → (items.filter condition).length = 1) := by
  have repeated : (items.flatMap fun item => if condition item then work else []) =
      (List.replicate (items.filter condition).length work).flatten := by
    induction items with
    | nil => rfl
    | cons item items inductionHypothesis =>
        rw [List.flatMap_cons, inductionHypothesis, List.filter_cons]
        cases condition item <;> simp [List.replicate_succ]
  rw [repeated]
  constructor
  · intro same filled
    have total := congrArg List.length same
    have positive := List.length_pos_iff.mpr filled
    rw [List.length_flatten, List.map_replicate, List.sum_replicate_nat] at total
    exact Nat.eq_of_mul_eq_mul_right positive (total.trans (Nat.one_mul _).symm)
  · intro once
    by_cases filled : work = []
    · simp [filled]
    · simp [once filled]

/-- A later message that runs the query does no work unless every run works. -/
theorem work_of_spent (uncut : Uncut .doQueryAgain portal first later)
    (filled : portal.rows ≠ []) (partly : portal.worksWhole = false) :
    later.flatMap portal.workUnder = [] := by
  rw [List.flatMap_eq_nil_iff]
  intro limit member
  have negative := uncut.spent filled rfl limit member
  rw [BoundPortal.workUnder, partly, if_neg (by simp), if_pos negative]

/-- A run that is cut at the last row does the whole work only if no work is
left behind that row. -/
theorem finished_of_work (uncut : Uncut serving portal first later)
    (work : (queryLimits serving first later).flatMap portal.workUnder = portal.effects)
    (filled : portal.rows ≠ []) (last : first.toInt = portal.rows.length)
    (partly : portal.worksWhole = false) :
    portal.stopped portal.rows.length = portal.effects := by
  have positive := List.length_pos_iff.mpr filled
  have one : portal.workUnder first = portal.stopped portal.rows.length := by
    rw [BoundPortal.workUnder, partly, last, if_neg (by simp), if_neg (by omega),
      if_neg (by omega), BoundPortal.executorRun, Int.toNat_natCast, if_pos (Nat.le_refl _)]
  rw [← one, ← work]
  cases serving with
  | restOfStream => rw [queryLimits, List.flatMap_singleton]
  | doQueryAgain =>
      rw [queryLimits, List.flatMap_cons, work_of_spent uncut filled partly, List.append_nil]

/-- Every run does the whole work or none. -/
theorem workUnder_of_uncut (uncut : Uncut serving portal first later)
    (finished : portal.rows ≠ [] → first.toInt = portal.rows.length →
      portal.worksWhole = false → portal.stopped portal.rows.length = portal.effects)
    {limit : Int32} (member : limit ∈ queryLimits serving first later) :
    portal.workUnder limit = if portal.worksUnder limit then portal.effects else [] := by
  apply BoundPortal.workUnder_of_whole
  intro positive short partly
  have filled : portal.rows ≠ [] := by
    intro empty
    rw [empty, List.length_nil] at short
    omega
  have cut : limit = first := by
    cases serving with
    | restOfStream => exact List.mem_singleton.mp member
    | doQueryAgain =>
        rcases List.mem_cons.mp member with here | there
        · exact here
        · have negative := uncut.spent filled rfl limit there
          omega
  subst cut
  rcases uncut.whole filled with unlimited | fits | ⟨_, free⟩
  · omega
  · have last : limit.toInt = portal.rows.length := by omega
    rw [last]
    exact finished filled last partly
  · rw [BoundPortal.worksWhole_of_uncounted free] at partly
    cases partly

/-- Where no message cuts the result short, the work is done once exactly if one
run works and it works to the end. -/
theorem work_iff (uncut : Uncut serving portal first later) :
    (queryLimits serving first later).flatMap portal.workUnder = portal.effects ↔
      (portal.effects ≠ [] →
        ((queryLimits serving first later).filter portal.worksUnder).length = 1) ∧
      (portal.rows ≠ [] → first.toInt = portal.rows.length → portal.worksWhole = false →
        portal.stopped portal.rows.length = portal.effects) := by
  constructor
  · intro work
    have finished := finished_of_work uncut work
    constructor
    · apply (flatMap_ite_eq_iff _ _ _).mp
      rw [← List.flatMap_congr fun limit member => workUnder_of_uncut uncut finished member]
      exact work
    · exact finished
  · rintro ⟨once, finished⟩
    rw [List.flatMap_congr fun limit member => workUnder_of_uncut uncut finished member]
    exact (flatMap_ite_eq_iff _ _ _).mpr once

end Work

/-! ## The rows -/

section Rows

variable [TypeTable] {portal : BoundPortal E} {serving : Serving} {first : Int32}
  {later : List Int32}

/-- The page of a run under a limit that the backend accepts. -/
theorem pageUnder_eq (columns : portal.rows ≠ [] → portal.resultDesc.getD [] ≠ [])
    {limit : Int32} (takes : portal.TakesLimit limit) :
    pageUnder portal limit = if limit.toInt = 0 then portal.dataRows
      else portal.dataRows.take limit.toInt.toNat := by
  rw [pageUnder, BoundPortal.answeredRows_rowsUnder columns]
  by_cases unlimited : limit.toInt = 0
  · rw [sendRows, if_pos (usizeOf_eq_zero_iff.mpr unlimited), if_pos (.inl unlimited),
      if_pos unlimited]
  · rw [sendRows, if_neg (mt usizeOf_eq_zero_iff.mp unlimited), if_neg unlimited]
    by_cases free : portal.uncounted = true
    · rw [if_pos (.inr free)]
      rw [BoundPortal.uncounted, Bool.and_eq_true] at free
      rw [usizeOf_of_nonneg (takes free.1)]
    · rw [if_neg (by simp [unlimited, free])]
      by_cases negative : limit.toInt < 0
      · have none : limit.toInt.toNat = 0 := by omega
        simp [none]
      · rw [usizeOf_of_nonneg (Int.not_lt.mp negative), List.take_take, Nat.min_self]

theorem dataRows_of_empty (empty : portal.rows = []) : portal.dataRows = [] := by
  rw [BoundPortal.dataRows, empty, receiveAll, List.map_nil]

/-- The stream that the first message leaves is the whole result. -/
theorem stream_of_uncut (columns : portal.rows ≠ [] → portal.resultDesc.getD [] ≠ [])
    (uncut : Uncut serving portal first later) :
    portal.answeredRows (portal.rowsUnder first) = portal.dataRows := by
  rw [BoundPortal.answeredRows_rowsUnder columns]
  split
  · rfl
  · next cut =>
    apply List.take_of_length_le
    by_cases empty : portal.rows = []
    · simp [dataRows_of_empty empty]
    · rw [BoundPortal.length_dataRows]
      rcases uncut.whole empty with unlimited | fits | ⟨_, free⟩
      · exact absurd (.inl unlimited) cut
      · omega
      · exact absurd (.inr free) cut

/-- So is the page of the first of several messages that run the query. -/
theorem firstPage_of_uncut (columns : portal.rows ≠ [] → portal.resultDesc.getD [] ≠ [])
    (uncut : Uncut .doQueryAgain portal first later) (takes : portal.TakesLimit first) :
    pageUnder portal first = portal.dataRows := by
  rw [pageUnder_eq columns takes]
  by_cases empty : portal.rows = []
  · simp [dataRows_of_empty empty]
  · have length := BoundPortal.length_dataRows portal
    rcases uncut.whole empty with unlimited | fits | ⟨impossible, _⟩
    · rw [if_pos unlimited]
    · rw [List.take_of_length_le (by omega), ite_self]
    · cases impossible

/-- The pages of the others are empty. -/
theorem laterPages_of_uncut (columns : portal.rows ≠ [] → portal.resultDesc.getD [] ≠ [])
    (uncut : Uncut .doQueryAgain portal first later)
    (takes : ∀ limit ∈ later, portal.TakesLimit limit) :
    later.map (pageUnder portal) = later.map fun _ => [] := by
  apply List.map_congr_left
  intro limit member
  rw [pageUnder_eq columns (takes limit member)]
  by_cases empty : portal.rows = []
  · simp [dataRows_of_empty empty]
  · have negative := uncut.spent empty rfl limit member
    rw [if_neg (by omega), show limit.toInt.toNat = 0 by omega, List.take_zero]

/-- Limits that do not cut the result short return it in segments. -/
theorem segments_pagesUnder
    (takes : ∀ limit ∈ queryLimits serving first later, portal.TakesLimit limit)
    (columns : portal.rows ≠ [] → portal.resultDesc.getD [] ≠ [])
    (uncut : Uncut serving portal first later) :
    Segments portal.dataRows (first :: later) (pagesUnder serving portal first later).1
      (pagesUnder serving portal first later).2 := by
  have length := BoundPortal.length_dataRows portal
  cases serving with
  | restOfStream =>
      rw [pagesUnder, stream_of_uncut columns uncut]
      apply segments_sendPages
      rw [length]
      exact portal.counted
  | doQueryAgain =>
      rw [queryLimits, List.forall_mem_cons] at takes
      rw [pagesUnder, List.map_cons, firstPage_of_uncut columns uncut takes.1,
        laterPages_of_uncut columns uncut takes.2]
      have bounded (positive : 0 < first.toInt) :
          (portal.dataRows.length : Int) ≤ first.toInt := by
        rw [length]
        by_cases empty : portal.rows = []
        · rw [empty, List.length_nil]
          exact Int.le_of_lt positive
        · rcases uncut.whole empty with unlimited | fits | ⟨impossible, _⟩
          · omega
          · exact fits
          · cases impossible
      exact ⟨[], (List.append_nil _).symm, ⟨bounded, fun _ => rfl⟩, segments_spent later⟩

/-- A result without columns answers nothing at all. -/
theorem pagesUnder_of_noColumns (hidden : portal.resultDesc.getD [] = []) :
    (pagesUnder serving portal first later).1.flatten ++
      (pagesUnder serving portal first later).2 = [] := by
  have nothing (limit : Int32) : portal.answeredRows (portal.rowsUnder limit) = [] := by
    rw [BoundPortal.answeredRows, hidden]
    rfl
  cases serving with
  | restOfStream =>
      rw [pagesUnder, nothing]
      exact sendPages_append _ _
  | doQueryAgain =>
      have page (limit : Int32) : pageUnder portal limit = [] := by
        rw [pageUnder, nothing, sendRows]
        split <;> simp
      simp [pagesUnder, page]

/-- Messages that run the query again return the same rows again, so that the
first one has to return them all and the others none. -/
theorem uncut_of_segments (columns : portal.rows ≠ [] → portal.resultDesc.getD [] ≠ [])
    (filled : portal.rows ≠ []) (takes : ∀ limit ∈ first :: later, portal.TakesLimit limit)
    (distinct : ∀ index < portal.rows.length, 0 < index →
      portal.dataRows[index]? ≠ portal.dataRows[0]?)
    (segments : Segments portal.dataRows (first :: later)
      ((first :: later).map (pageUnder portal)) []) :
    (first.toInt = 0 ∨ (portal.rows.length : Int) ≤ first.toInt) ∧
      ∀ limit ∈ later, limit.toInt < 0 := by
  rw [List.forall_mem_cons] at takes
  have length := BoundPortal.length_dataRows portal
  have some := List.length_pos_iff.mpr filled
  obtain ⟨left, split, fits, tail⟩ := segments
  have rest : left = (later.map (pageUnder portal)).flatten := by
    rw [tail.eq_flatten, List.append_nil]
  rw [pageUnder_eq columns takes.1] at split
  have spent : left = [] := by
    by_cases limited : 0 < first.toInt
    · by_contra nonempty
      rw [if_neg (by omega)] at split
      have dropped : left = portal.dataRows.drop first.toInt.toNat :=
        (List.append_cancel_left ((List.take_append_drop _ _).trans split)).symm
      have short : first.toInt.toNat < portal.rows.length := by
        rw [dropped, List.drop_eq_nil_iff] at nonempty
        omega
      -- the rows that are left begin behind the first one, the pages of them at it
      apply distinct _ short (by omega)
      rw [← List.head?_drop, ← dropped, rest, ← List.head?_eq_getElem?]
      apply head?_flatten_of_prefixes
      · intro page member
        obtain ⟨limit, sent, rfl⟩ := List.mem_map.mp member
        rw [pageUnder_eq columns (takes.2 limit sent)]
        split
        · exact List.prefix_refl _
        · exact List.take_prefix _ _
      · exact rest ▸ nonempty
    · exact fits.unlimited (Int.not_lt.mp limited)
  constructor
  · by_cases unlimited : first.toInt = 0
    · exact .inl unlimited
    · rw [if_neg unlimited, spent, List.append_nil] at split
      have count := congrArg List.length split
      rw [List.length_take] at count
      exact .inr (by omega)
  · intro limit member
    have page : pageUnder portal limit = [] := by
      rw [spent] at rest
      exact List.flatten_eq_nil_iff.mp rest.symm _ (List.mem_map_of_mem member)
    rw [pageUnder_eq columns (takes.2 limit member)] at page
    have count := congrArg List.length page
    split at count
    · rw [length, List.length_nil] at count
      omega
    · rw [List.length_take, List.length_nil] at count
      omega

/-- A content of the result that tells the rows apart by their first column. -/
def numberedRows (count width : Nat) : List Row :=
  (List.range count).map fun index => some index :: List.replicate (width - 1) none

omit [TypeTable] in
theorem sameShape_numberedRows (columns : portal.resultDesc.getD [] ≠ []) :
    portal.SameShape
      (numberedRows portal.rows.length (portal.resultDesc.getD []).length) := by
  constructor
  · simp [numberedRows]
  · intro row member
    obtain ⟨index, _, rfl⟩ := List.mem_map.mp member
    have wide := List.length_pos_iff.mpr columns
    rw [List.length_cons, List.length_replicate]
    omega

theorem numberedRows_distinct (runnable : portal.Runnable)
    (columns : portal.resultDesc.getD [] ≠ []) {index : Nat}
    (inside : index < portal.rows.length) (positive : 0 < index) :
    ((portal.holding _ (sameShape_numberedRows columns)).dataRows)[index]? ≠
      ((portal.holding _ (sameShape_numberedRows columns)).dataRows)[0]? := by
  have written (position : Nat) (here : position < portal.rows.length) :
      ((portal.holding _ (sameShape_numberedRows columns)).dataRows)[position]? =
        some (receiveSlot (some position :: List.replicate
          ((portal.resultDesc.getD []).length - 1) none) 0 portal.encoders) := by
    simp [BoundPortal.dataRows, receiveAll, BoundPortal.holding, numberedRows, here,
      BoundPortal.encoders]
  rw [written index inside, written 0 (by omega)]
  have wide : portal.encoders ≠ [] := by
    rw [← List.length_pos_iff, BoundPortal.length_encoders runnable.covers]
    exact List.length_pos_iff.mpr columns
  cases encoders : portal.encoders with
  | nil => exact absurd encoders wide
  | cons encoder encoders =>
      intro same
      cases same
      exact absurd positive (Nat.lt_irrefl _)

end Rows

/-! ## The law and its condition -/

section Law

variable [TypeTable] {portal : BoundPortal E} {serving : Serving} {first : Int32}
  {later : List Int32}

/-- The law says that the backend takes the limits that reach it, that the pages
are segments of every content and that the work is done once. -/
theorem losesNoRow_iff_parts (runnable : portal.Runnable) :
    LosesNoRow serving portal (first :: later) ↔
      (∀ limit ∈ queryLimits serving first later, portal.TakesLimit limit) ∧
      (∀ (rows : List Row) (shape : portal.SameShape rows),
        Segments (portal.holding rows shape).dataRows (first :: later)
          (pagesUnder serving (portal.holding rows shape) first later).1
          (pagesUnder serving (portal.holding rows shape) first later).2) ∧
      (queryLimits serving first later).flatMap portal.workUnder = portal.effects := by
  have waiting : Awaits (Pg.fresh .standard : Pg E) :=
    ⟨Xact.fresh_idle _, by simp [Pg.fresh, Xact.fresh]⟩
  have same : portal.SameShape portal.rows := ⟨rfl, portal.width⟩
  -- the run is determined, so that the law speaks of the pages that it sends
  have answers (takes : ∀ limit ∈ queryLimits serving first later, portal.TakesLimit limit)
      {rows : List Row} (shape : portal.SameShape rows) {pg : Pg E} (awaits : Awaits pg) :
      ∃ after, executes serving (portal.holding rows shape) none (first :: later) pg =
          (.ret (.ok (pagesUnder serving (portal.holding rows shape) first later)), after) ∧
        workOnBooks after =
          workOnBooks pg ++ (queryLimits serving first later).flatMap portal.workUnder := by
    obtain ⟨after, run, work⟩ := executes_answers (runnable.holding shape) takes awaits
    refine ⟨after, run, ?_⟩
    rw [work, List.flatMap_congr fun limit _ => BoundPortal.workUnder_holding shape limit]
  constructor
  · intro law
    have takes : ∀ limit ∈ queryLimits serving first later, portal.TakesLimit limit := by
      by_contra refused
      obtain ⟨pages, rest, after, run, _⟩ := law _ same _ waiting
      obtain ⟨err, final, failed⟩ := executes_refused (runnable.holding same) refused waiting
      rw [run] at failed
      cases failed
    refine ⟨takes, ?_, ?_⟩
    · intro rows shape
      obtain ⟨pages, rest, after, run, segments, _⟩ := law rows shape _ waiting
      obtain ⟨final, other, _⟩ := answers takes shape waiting
      rw [other] at run
      simp only [Prod.mk.injEq, Outcome.ret.injEq, Except.ok.injEq] at run
      rw [run.1]
      exact segments
    · obtain ⟨pages, rest, after, run, _, work⟩ := law _ same _ waiting
      obtain ⟨final, other, total⟩ := answers takes same waiting
      rw [other, Prod.mk.injEq] at run
      rw [run.2] at total
      exact (List.append_cancel_left (work.symm.trans total)).symm
  · rintro ⟨takes, segments, once⟩ rows shape pg awaits
    obtain ⟨after, run, work⟩ := answers takes shape awaits
    rw [once] at work
    exact ⟨_, _, after, run, segments rows shape, work⟩

/-- A result with rows is returned only with columns. -/
theorem columns_of_segments
    (segments : Segments portal.dataRows (first :: later)
      (pagesUnder serving portal first later).1 (pagesUnder serving portal first later).2)
    (filled : portal.rows ≠ []) : portal.resultDesc.getD [] ≠ [] := by
  intro hidden
  have length := BoundPortal.length_dataRows portal
  rw [segments.eq_flatten, pagesUnder_of_noColumns hidden] at length
  exact filled (List.length_eq_zero_iff.mp length.symm)

/-- Where every content of the result is returned in segments, no message cuts
it short. -/
theorem uncut_of_contents (runnable : portal.Runnable)
    (takes : ∀ limit ∈ queryLimits serving first later, portal.TakesLimit limit)
    (columns : portal.rows ≠ [] → portal.resultDesc.getD [] ≠ [])
    (segments : ∀ (rows : List Row) (shape : portal.SameShape rows),
      Segments (portal.holding rows shape).dataRows (first :: later)
        (pagesUnder serving (portal.holding rows shape) first later).1
        (pagesUnder serving (portal.holding rows shape) first later).2) :
    Uncut serving portal first later := by
  cases serving with
  | restOfStream =>
      refine ⟨fun filled => ?_, fun _ impossible => by cases impossible⟩
      have own := (segments portal.rows ⟨rfl, portal.width⟩).eq_flatten
      have all : portal.dataRows = portal.answeredRows (portal.rowsUnder first) :=
        own.trans (sendPages_append _ _)
      have count := congrArg List.length all
      rw [BoundPortal.answeredRows_rowsUnder columns] at count
      split at count
      · next free => exact free.imp id fun free => .inr ⟨rfl, free⟩
      · have positive := List.length_pos_iff.mpr filled
        rw [List.length_take, BoundPortal.length_dataRows] at count
        exact .inr (.inl (by omega))
  | doQueryAgain =>
      have uncut (filled : portal.rows ≠ []) :
          (first.toInt = 0 ∨ (portal.rows.length : Int) ≤ first.toInt) ∧
            ∀ limit ∈ later, limit.toInt < 0 := by
        have shape := sameShape_numberedRows (columns filled)
        have count : (portal.holding _ shape).rows.length = portal.rows.length := shape.length
        rw [← count]
        apply @uncut_of_segments E _ (portal.holding _ shape) first later
          (fun _ => columns filled) _ takes
        · intro index inside positive
          exact numberedRows_distinct runnable (columns filled) (count ▸ inside) positive
        · exact segments _ shape
        · rw [← List.length_pos_iff, count]
          exact List.length_pos_iff.mpr filled
      constructor
      · intro filled
        rcases (uncut filled).1 with unlimited | fits
        · exact .inl unlimited
        · exact .inr (.inl fits)
      · intro filled _
        exact (uncut filled).2

/-- The messages lose no row exactly where their limits fit. -/
theorem losesNoRow_iff_limitsFit (runnable : portal.Runnable) (serving : Serving) (first : Int32)
    (later : List Int32) :
    LosesNoRow serving portal (first :: later) ↔ LimitsFit serving portal first later := by
  rw [losesNoRow_iff_parts runnable]
  constructor
  · rintro ⟨takes, segments, work⟩
    have columns : portal.rows ≠ [] → portal.resultDesc.getD [] ≠ [] :=
      columns_of_segments (segments portal.rows ⟨rfl, portal.width⟩)
    have uncut := uncut_of_contents runnable takes columns segments
    obtain ⟨once, finished⟩ := (work_iff uncut).mp work
    exact ⟨uncut, takes, columns, once, finished⟩
  · rintro ⟨uncut, takes, columns, once, finished⟩
    refine ⟨takes, ?_, (work_iff uncut).mpr ⟨once, finished⟩⟩
    intro rows shape
    apply @segments_pagesUnder E _ (portal.holding rows shape) serving first later takes
    · intro filled
      exact columns (BoundPortal.rows_ne_nil_of_shape shape filled)
    · constructor
      · intro filled
        rw [show (portal.holding rows shape).rows.length = portal.rows.length from shape.length]
        exact uncut.whole (BoundPortal.rows_ne_nil_of_shape shape filled)
      · intro filled
        exact uncut.spent (BoundPortal.rows_ne_nil_of_shape shape filled)

end Law

/-! ## Two rows -/

section Example

variable [TypeTable]

/-- `SELECT nextval('s') AS n FROM t` on the direct backend, for two rows. -/
def twoNumbers : BoundPortal Nat where
  statement := .ofSource "SELECT nextval('s') AS n FROM t" (by decide) (.other true) []
    ⟨some [⟨"n", 20⟩], ⟨"SELECT", true⟩⟩
  parameters := []
  parameterFormat := .unifiedText
  resultFormat := .unifiedText
  strategy := .oneSelect
  resultDesc := some [⟨"n", 20⟩]
  rows := [[some 1], [some 2]]
  processed := 0
  commandTag := ⟨"SELECT", true⟩
  rc := 5
  effects := [1, 2]
  stopped count := [1, 2].take count
  width := by simp
  counted := by decide
  returned := by decide

theorem runnable_twoNumbers : twoNumbers.Runnable :=
  ⟨⟨rfl, rfl⟩, rfl, rfl, rfl, rfl, rfl⟩

end Example

/-- Without a limit on the first message both numbers are returned by it. -/
theorem twoNumbers_unlimited :
    @LosesNoRow Nat (.knowing [20]) .restOfStream (@twoNumbers (.knowing [20])) [0, 1] :=
  (@losesNoRow_iff_limitsFit Nat (.knowing [20]) _ (@runnable_twoNumbers (.knowing [20]))
    .restOfStream 0 [1]).mpr
    { whole := fun _ => .inl rfl
      spent := fun _ impossible => by cases impossible
      takes := fun _ _ impossible => by cases impossible
      columns := fun _ => by simp [twoNumbers]
      once := fun _ => rfl
      finished := fun _ impossible => by cases impossible }

/-- A limit of one row on the first message discards the second number. -/
theorem second_number_discarded :
    ¬∀ [TypeTable] (portal : BoundPortal Nat) (serving : Serving) (first : Int32)
      (later : List Int32), portal.Runnable → LosesNoRow serving portal (first :: later) := by
  intro always
  let _ : TypeTable := .knowing [20]
  have law := always twoNumbers .restOfStream 1 [0] runnable_twoNumbers
  obtain ⟨_, segments, _⟩ := (losesNoRow_iff_parts runnable_twoNumbers).mp law
  have count := congrArg List.length (segments _ ⟨rfl, twoNumbers.width⟩).eq_flatten
  revert count
  decide

end PgTransport.Properties
