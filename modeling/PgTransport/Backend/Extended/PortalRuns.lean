import PgTransport.Backend.Extended.BoundPortal
import PgTransport.Backend.Extended.Outcome
import PgTransport.Backend.RowEncoding

/-!
# The runs of a bound portal

What a `do_query` of a bound portal returns is decided by the backend of its
plan and by the limit: the rows that the run returns, the work that it does,
and the refusal of a limit that SPI does not take.
-/

namespace PgTransport.Backend

open PgTransport.Computation
open PgTransport.Postgres
open PgTransport.Wire

variable {E : Type}

/-! ## Between two commands -/

/-- The backend waits for a command, and not in an aborted block. -/
structure Awaits (pg : Pg E) : Prop where
  idle : pg.xact.Idle
  unaborted : pg.xact.blockState ≠ .abort

/-- The work that was done and not undone. -/
def workOnBooks (pg : Pg E) : List E :=
  pg.xact.committed ++ pg.xact.pending

/-- A bracket that succeeds leaves the backend waiting, with the work done. -/
theorem withXact_awaits {α : Type} {body : PgM E (PgWireResult α)} {effects : List E}
    {answers : α → Prop} {pg : Pg E} (ends : EndsAs body .succeeds effects answers)
    (awaits : Awaits pg) :
    ∃ value after, answers value ∧ withXact true none body pg = (.ret (.ok value), after) ∧
      Awaits after ∧ workOnBooks after = workOnBooks pg ++ effects := by
  -- outside a block the bracket commits the work, inside one the work stays pending
  rcases awaits.idle.blockState with state | state | state
  · obtain ⟨value, answer, run⟩ := ends ((pg.begun true).hold true)
    refine ⟨value, _, answer, withXact_default_ret state run, ⟨⟨.inl rfl, ?_, ?_⟩, ?_⟩, ?_⟩
    · exact fun _ => ⟨rfl, rfl⟩
    · rintro ⟨⟩
    · rintro ⟨⟩
    · have closed := (awaits.idle.closed state).1
      simp [workOnBooks, closed, Pg.mapXact, Pg.work, Xact.commitTransaction, Xact.work, Pg.begun,
        Xact.startTransaction]
  · obtain ⟨value, answer, run⟩ := ends ((pg.joined true).hold true)
    refine ⟨value, _, answer, withXact_inprogress_ret state run, ⟨⟨.inr (.inl state), ?_, ?_⟩, ?_⟩,
      ?_⟩
    · intro outside
      exact absurd (state.symm.trans outside) (by simp)
    · intro aborted
      exact absurd (state.symm.trans aborted) (by simp)
    · intro aborted
      exact absurd (state.symm.trans aborted) (by simp)
    · exact (List.append_assoc _ _ _).symm
  · exact absurd state awaits.unaborted

/-! ## Portals that run -/

/-- The plan is an SPI plan. -/
def BackendPlan.throughSpi : BackendPlan → Bool
  | .spi _ => true
  | _ => false

section Types

variable [TypeTable]

/-- An ordinary plan with the column types of this descriptor. -/
def BackendPlan.ParsedWith (desc : Option TupleDesc) : BackendPlan → Prop
  | .spi plan =>
      plan.baseSchema = baseSchemaOf desc ∧ plan.columnOids = columnOidsOf (baseSchemaOf desc)
  | .direct plan =>
      plan.baseSchema = baseSchemaOf desc ∧ plan.columnOids = columnOidsOf (baseSchemaOf desc) ∧
        plan.source.resultDesc = desc ∧ isTransactionStmt plan.source.node = false
  | .xactControl _ => False

/-- A `Parse` that makes an ordinary plan reads the column types of a descriptor. -/
theorem MadeBy.parsedWith {request : ParseRequest} {backend : ExecutionBackend}
    {statement : PreparedStatement} (made : MadeBy request backend statement)
    (ordinary : statement.plan.ordinary = true) : ∃ desc, statement.plan.ParsedWith desc := by
  cases made with
  | xactControl backend clean cmd => cases ordinary
  | @spi argOids plan clean _ => exact ⟨planResultColumns plan, rfl, rfl⟩
  | @direct paramOids shape clean first _ =>
      refine ⟨shape.resultDesc, rfl, rfl, rfl, ?_⟩
      simpa [PreparedStatement.ofSource, BackendPlan.ordinary] using ordinary

end Types

namespace BoundPortal

/-- SPI returns all rows of the query whatever the count. -/
def uncounted (portal : BoundPortal E) : Bool :=
  portal.statement.plan.throughSpi && portal.strategy == .utilSelect

/-- A run does all the work of the query whatever the count. -/
def worksWhole (portal : BoundPortal E) : Bool :=
  if portal.statement.plan.throughSpi then portal.strategy == .utilSelect
  else portal.strategy != .oneSelect

/-- The work of a run under this limit. -/
def workUnder (portal : BoundPortal E) (limit : Int32) : List E :=
  if portal.worksWhole then portal.effects
  else if limit.toInt < 0 then []
  else if limit.toInt = 0 then portal.effects
  else portal.executorRun limit.toInt.toNat

/-- The rows that a run under this limit returns. -/
def rowsUnder (portal : BoundPortal E) (limit : Int32) : List Row :=
  if limit.toInt = 0 ∨ portal.uncounted = true then portal.rows
  else portal.rows.take limit.toInt.toNat

/-- A run under this limit works. -/
def worksUnder (portal : BoundPortal E) (limit : Int32) : Bool :=
  0 ≤ limit.toInt || portal.worksWhole

/-- The limit is one that the backend of the portal accepts. -/
def TakesLimit (portal : BoundPortal E) (limit : Int32) : Prop :=
  portal.statement.plan.throughSpi = true → 0 ≤ limit.toInt

section Work

variable {portal : BoundPortal E}

theorem worksWhole_of_uncounted (free : portal.uncounted = true) : portal.worksWhole = true := by
  rw [uncounted, Bool.and_eq_true] at free
  rw [worksWhole, if_pos free.1, free.2]

/-- A run that is not cut short does the whole work or none. -/
theorem workUnder_of_whole {limit : Int32}
    (uncut : 0 < limit.toInt → limit.toInt ≤ portal.rows.length → portal.worksWhole = false →
      portal.stopped limit.toInt.toNat = portal.effects) :
    portal.workUnder limit = if portal.worksUnder limit then portal.effects else [] := by
  rw [workUnder, worksUnder]
  cases whole : portal.worksWhole with
  | true => simp
  | false =>
      by_cases negative : limit.toInt < 0
      · have idle : ¬0 ≤ limit.toInt := Int.not_le.mpr negative
        simp [negative, idle]
      · have works : 0 ≤ limit.toInt := Int.not_lt.mp negative
        simp only [negative, works, decide_true, Bool.true_or, Bool.false_eq_true, if_false,
          if_true]
        by_cases unlimited : limit.toInt = 0
        · rw [if_pos unlimited]
        · rw [if_neg unlimited, executorRun]
          by_cases short : limit.toInt.toNat ≤ portal.rows.length
          · rw [if_pos short]
            exact uncut (by omega) (by omega) whole
          · rw [if_neg short]

end Work

section Execution

variable [TypeTable] {portal : BoundPortal E}

/-- The statement of the portal runs: its parameters bind and decode, and the
result has the descriptor that was read at `Parse`. -/
structure Runnable (portal : BoundPortal E) : Prop where
  binds : (portal.request 0).Binds portal.statement.plan
  decodes : decodeVerdict (portal.parameters.zip ((portal.request 0).formats
    portal.statement.plan.columnCount).paramIsBinary) = .succeeds
  parsed : portal.statement.plan.ParsedWith portal.resultDesc

/-- The encoders of the columns of a portal. -/
def encoders (portal : BoundPortal E) : List ColumnEncoder :=
  cachedEncoders (columnOidsOf (baseSchemaOf portal.resultDesc))
    (portal.resultFormat.codes (baseSchemaOf portal.resultDesc).length)

/-- The result of the query of a portal, as it is written on the wire. -/
def dataRows (portal : BoundPortal E) : List DataRow :=
  receiveAll portal.encoders portal.rows

/-- The rows of an answer that carries these tuples; none for a result without
columns. -/
def answeredRows (portal : BoundPortal E) (tuples : List Row) : List DataRow :=
  if (portal.resultDesc.getD []).isEmpty then [] else receiveAll portal.encoders tuples

theorem isEmpty_baseSchemaOf (desc : Option TupleDesc) :
    (baseSchemaOf desc).isEmpty = (desc.getD []).isEmpty := by
  simp [baseSchemaOf]

/-- There is one encoder for each column of the result. -/
theorem length_encoders
    (covered : portal.resultFormat.covers (baseSchemaOf portal.resultDesc).length = true) :
    portal.encoders.length = (portal.resultDesc.getD []).length := by
  rw [encoders, cachedEncoders, List.length_zipWith, Format.codes_length covered]
  simp [columnOidsOf, baseSchemaOf]

/-- The formats of a portal that runs cover the columns of its result. -/
theorem Runnable.covers (runnable : portal.Runnable) :
    portal.resultFormat.covers (baseSchemaOf portal.resultDesc).length = true := by
  obtain ⟨binds, _, parsed⟩ := runnable
  have covered := binds.2
  rw [ExecuteRequest.formatsCover, Bool.and_eq_true] at covered
  cases choice : portal.statement.plan with
  | spi plan =>
      rw [choice] at covered parsed
      exact parsed.1 ▸ covered.1
  | direct plan =>
      rw [choice] at covered parsed
      exact parsed.1 ▸ covered.1
  | xactControl cmd =>
      rw [choice] at parsed
      exact absurd parsed id

/-- An SPI plan answers with the rows of the tuple table. -/
theorem spiPlanResponse_spiResult {plan : SpiBackendPlan}
    (schema : plan.baseSchema = baseSchemaOf portal.resultDesc)
    (oids : plan.columnOids = columnOidsOf (baseSchemaOf portal.resultDesc))
    (covered : portal.resultFormat.covers (baseSchemaOf portal.resultDesc).length = true)
    {vals : List Row} (width : ∀ row ∈ vals, row.length = (portal.resultDesc.getD []).length)
    (effects : List E) :
    ∃ response, spiPlanResponse plan portal.resultFormat
        (portal.resultFormat.codes plan.baseSchema.length) (portal.spiResult vals effects) =
          .ok response ∧ responseRows response = portal.answeredRows vals := by
  have columns := length_encoders covered
  unfold spiPlanResponse spiResult answeredRows
  rw [schema, oids, isEmpty_baseSchemaOf]
  cases described : portal.resultDesc with
  | none => exact ⟨_, rfl, rfl⟩
  | some desc =>
      rw [described] at columns width
      by_cases shown : desc.isEmpty
      · simp only [Option.getD_some, shown, if_true]
        exact ⟨_, rfl, rfl⟩
      · have all : (TupTable.mk desc vals).encodeRows portal.encoders 0 vals =
            .ok (receiveAll portal.encoders vals) := by
          apply encodeRows_eq_receiveAll
          · exact Nat.le_of_eq columns
          · intro row member
            exact Nat.le_of_eq (columns.trans (width row member).symm)
        rw [encoders, described] at all
        simp only [Option.getD_some, shown, Bool.false_eq_true, if_false, all]
        refine ⟨_, rfl, ?_⟩
        rw [responseRows, encoders, described]

omit [TypeTable] in
/-- `SPI_execute_plan` under a limit that it accepts. -/
theorem spiExecutePlan_eq (spi : portal.statement.plan.throughSpi = true) {limit : Int32}
    (nonneg : 0 ≤ limit.toInt) :
    portal.spiExecutePlan limit.toInt =
      portal.spiResult (portal.rowsUnder limit) (portal.workUnder limit) := by
  have accepted : ¬limit.toInt < 0 := Int.not_lt.mpr nonneg
  simp only [spiExecutePlan, rowsUnder, workUnder, uncounted, worksWhole, spi,
    accepted, if_true, if_false, Bool.true_and, beq_iff_eq]
  by_cases unlimited : limit.toInt = 0 <;> by_cases utility : portal.strategy = .utilSelect <;>
    simp [unlimited, utility]

omit [TypeTable] in
/-- The tuples of `PortalRun` under a limit. -/
theorem tuples_portalRun (direct : portal.statement.plan.throughSpi = false) (limit : Int32) :
    (portal.portalRun (asI64 (portalCount (usizeOf limit)))).tuples = portal.rowsUnder limit := by
  have below := limit.toInt_lt
  rw [asI64_portalCount]
  simp only [portalRun, portalRows, rowsUnder, uncounted, direct,
    Bool.false_and, Bool.false_eq_true, or_false]
  by_cases unlimited : limit.toInt = 0
  · simp [unlimited]
  · have finite : limit.toInt ≠ FETCH_ALL := by
      unfold FETCH_ALL
      omega
    simp [unlimited, finite]

omit [TypeTable] in
/-- The work of `PortalRun` under a limit. -/
theorem effects_portalRun (direct : portal.statement.plan.throughSpi = false) (limit : Int32) :
    (portal.portalRun (asI64 (portalCount (usizeOf limit)))).effects = portal.workUnder limit := by
  have below := limit.toInt_lt
  rw [asI64_portalCount]
  simp only [portalRun, workUnder, worksWhole, direct, Bool.false_eq_true, if_false,
    bne_iff_ne]
  by_cases whole : portal.strategy ≠ .oneSelect
  · simp [whole]
  · by_cases unlimited : limit.toInt = 0
    · simp [unlimited]
    · have finite : limit.toInt ≠ FETCH_ALL := by
        unfold FETCH_ALL
        omega
      have sign : limit.toInt ≤ 0 ↔ limit.toInt < 0 := by omega
      simp [whole, unlimited, finite, sign]

/-- The closure of the SPI `execute_impl` under a limit that SPI accepts. -/
theorem endsAs_spiPortal (runnable : portal.Runnable) {plan : SpiBackendPlan}
    (choice : portal.statement.plan = .spi plan) {limit : Int32} (nonneg : 0 ≤ limit.toInt) :
    EndsAs (spiExecuteBody plan (portal.request (usizeOf limit))
        ((portal.request (usizeOf limit)).formats plan.baseSchema.length)) .succeeds
      (portal.workUnder limit)
      fun response => responseRows response = portal.answeredRows (portal.rowsUnder limit) := by
  have covered := runnable.covers
  obtain ⟨_, decodes, parsed⟩ := runnable
  rw [choice] at decodes parsed
  obtain ⟨schema, oids⟩ := parsed
  have width : ∀ row ∈ portal.rowsUnder limit,
      row.length = (portal.resultDesc.getD []).length := by
    intro row member
    apply portal.width row
    unfold rowsUnder at member
    split at member
    · exact member
    · exact List.mem_of_mem_take member
  obtain ⟨response, shaped, rows⟩ :=
    spiPlanResponse_spiResult schema oids covered width (portal.workUnder limit)
  let request := portal.request (usizeOf limit)
  let formats := request.formats plan.baseSchema.length
  have answer : request.spi request.maxRows =
      .ok (portal.spiResult (portal.rowsUnder limit) (portal.workUnder limit)) := by
    have spi : portal.statement.plan.throughSpi = true := by
      rw [choice]
      rfl
    rw [← spiExecutePlan_eq spi nonneg, ← asI64_usizeOf]
    rfl
  have decoded : decodeVerdict (request.parameters.zip formats.paramIsBinary) = .succeeds :=
    decodes
  have answered : spiPlanResponse plan request.resultFormat formats.resultFormatPerCol
      (portal.spiResult (portal.rowsUnder limit) (portal.workUnder limit)) = .ok response := shaped
  have succeeds : request.spiBodyVerdict plan formats = .succeeds := by
    have kept : ¬portal.rc < 0 := Int.not_lt.mpr portal.returned
    simp only [ExecuteRequest.spiBodyVerdict, decoded, answer, rc_spiResult, kept,
      if_false, answered]
  have work : request.spiBodyEffects formats = portal.workUnder limit := by
    simp only [ExecuteRequest.spiBodyEffects, decoded, answer, effects_spiResult]
  have ends := endsAs_spiExecuteBody plan request formats
  rw [succeeds, work] at ends
  apply ends.imp
  rintro other ⟨result, returned, sent⟩
  cases answer.symm.trans returned
  cases answered.symm.trans sent
  exact rows

/-- The closure of the direct `execute_impl` under any limit. -/
theorem endsAs_directPortal (runnable : portal.Runnable) {plan : DirectBackendPlan}
    (choice : portal.statement.plan = .direct plan) (limit : Int32) :
    EndsAs (directExecuteBody plan (portal.request (usizeOf limit))
        ((portal.request (usizeOf limit)).formats plan.baseSchema.length)) .succeeds
      (portal.workUnder limit)
      fun response => responseRows response = portal.answeredRows (portal.rowsUnder limit) := by
  obtain ⟨_, decodes, parsed⟩ := runnable
  rw [choice] at decodes parsed
  obtain ⟨schema, oids, kept, ordinary⟩ := parsed
  have direct : portal.statement.plan.throughSpi = false := by
    rw [choice]
    rfl
  let request := portal.request (usizeOf limit)
  let formats := request.formats plan.baseSchema.length
  have answer : request.portal (portalCount request.maxRows) =
      .ok (portal.portalRun (asI64 (portalCount (usizeOf limit)))) := rfl
  have decoded : decodeVerdict (request.parameters.zip formats.paramIsBinary) = .succeeds :=
    decodes
  have unchanged : plan.source.refusesChange request.currentDesc = false := by
    have current : request.currentDesc = portal.resultDesc := rfl
    simp [CachedPlanSource.refusesChange, kept, current]
  have succeeds : request.directBodyVerdict plan formats = .succeeds := by
    simp only [ExecuteRequest.directBodyVerdict, decoded, unchanged, answer, Bool.false_eq_true,
      if_false]
  have work : request.directBodyEffects plan formats = portal.workUnder limit := by
    simp only [ExecuteRequest.directBodyEffects, decoded, unchanged, answer, Bool.false_eq_true,
      if_false, effects_portalRun direct]
  have ends := endsAs_directExecuteBody ordinary request formats
  rw [succeeds, work] at ends
  apply ends.imp
  rintro response ⟨run, returned, rfl⟩
  cases answer.symm.trans returned
  rw [directPlanResponse, schema, isEmpty_baseSchemaOf, answeredRows]
  by_cases shown : (portal.resultDesc.getD []).isEmpty
  · simp only [shown, if_true]
    rfl
  · have codes : formats.resultFormatPerCol =
        portal.resultFormat.codes (baseSchemaOf portal.resultDesc).length := by
      rw [← schema]
      rfl
    simp only [shown, Bool.false_eq_true, if_false, responseRows, tuples_portalRun direct, oids,
      codes]
    rfl

/-- A `do_query` under a limit that the backend accepts. -/
theorem doQuery_answers (runnable : portal.Runnable) {limit : Int32}
    (takes : portal.TakesLimit limit) {pg : Pg E} (awaits : Awaits pg) :
    ∃ response after, portal.doQuery (usizeOf limit) pg = (.ret (.ok response), after) ∧
      responseRows response = portal.answeredRows (portal.rowsUnder limit) ∧ Awaits after ∧
        workOnBooks after = workOnBooks pg ++ portal.workUnder limit := by
  have binds : (portal.request (usizeOf limit)).Binds portal.statement.plan := runnable.binds
  cases choice : portal.statement.plan with
  | spi plan =>
      have nonneg : 0 ≤ limit.toInt := by
        apply takes
        rw [choice]
        rfl
      have ends := (endsAs_spiPortal runnable choice nonneg).spiSession SpiRcs.clean
      obtain ⟨response, after, rows, run, later, work⟩ := withXact_awaits ends awaits
      refine ⟨response, after, ?_, rows, later, work⟩
      rw [doQuery, PreparedStatement.execute_spi choice binds,
        withSpi_eq_withXact]
      exact run
  | direct plan =>
      have ends := endsAs_directPortal runnable choice limit
      obtain ⟨response, after, rows, run, later, work⟩ := withXact_awaits ends awaits
      refine ⟨response, after, ?_, rows, later, work⟩
      rw [doQuery, PreparedStatement.execute_direct choice binds]
      exact run
  | xactControl cmd =>
      have parsed := runnable.parsed
      rw [choice] at parsed
      exact absurd parsed id

/-- SPI refuses a negative limit. -/
theorem doQuery_refused (runnable : portal.Runnable) {limit : Int32}
    (refused : ¬portal.TakesLimit limit) {pg : Pg E} (awaits : Awaits pg) :
    ∃ err after, portal.doQuery (usizeOf limit) pg = (.ret (.error err), after) := by
  have binds : (portal.request (usizeOf limit)).Binds portal.statement.plan := runnable.binds
  cases choice : portal.statement.plan with
  | direct plan => exact absurd (by simp [TakesLimit, choice, BackendPlan.throughSpi]) refused
  | xactControl cmd => exact absurd (by simp [TakesLimit, choice, BackendPlan.throughSpi]) refused
  | spi plan =>
      have negative : limit.toInt < 0 := by
        rw [TakesLimit, choice] at refused
        simpa [BackendPlan.throughSpi] using refused
      let request := portal.request (usizeOf limit)
      let formats := request.formats plan.baseSchema.length
      have answer : request.spi request.maxRows = .ok (.withoutTable SPI_ERROR_ARGUMENT []) := by
        have plan : request.spi request.maxRows = .ok (portal.spiExecutePlan limit.toInt) := by
          rw [← asI64_usizeOf]
          rfl
        rw [plan, spiExecutePlan, if_pos negative]
      have decodes := runnable.decodes
      rw [choice] at decodes
      have decoded : decodeVerdict (request.parameters.zip formats.paramIsBinary) = .succeeds :=
        decodes
      have refuses : request.spiBodyVerdict plan formats = .refuses := by
        have failed : SPI_ERROR_ARGUMENT < 0 := by decide
        simp only [ExecuteRequest.spiBodyVerdict, decoded, answer, SpiResult.withoutTable, failed,
          if_true]
      have ends := (endsAs_spiExecuteBody plan request formats).spiSession SpiRcs.clean
      rw [refuses] at ends
      have serves : Serves pg.xact.blockState := by
        rcases awaits.idle.blockState with state | state | state
        · exact .inl state
        · exact .inr (.inl state)
        · exact absurd state awaits.unaborted
      obtain ⟨err, after, run⟩ := withXact_of_fails ends (by decide) serves
      refine ⟨err, after, ?_⟩
      rw [doQuery, PreparedStatement.execute_spi choice binds,
        withSpi_eq_withXact]
      exact run

theorem length_dataRows (portal : BoundPortal E) :
    portal.dataRows.length = portal.rows.length := by
  rw [dataRows, receiveAll, List.length_map]

/-- The rows that are answered to a run under this limit, where rows are shown. -/
theorem answeredRows_rowsUnder
    (columns : portal.rows ≠ [] → portal.resultDesc.getD [] ≠ []) (limit : Int32) :
    portal.answeredRows (portal.rowsUnder limit) =
      if limit.toInt = 0 ∨ portal.uncounted = true then portal.dataRows
      else portal.dataRows.take limit.toInt.toNat := by
  have shown : portal.answeredRows (portal.rowsUnder limit) =
      receiveAll portal.encoders (portal.rowsUnder limit) := by
    rw [answeredRows]
    by_cases empty : portal.rows = []
    · simp [rowsUnder, empty, receiveAll]
    · rw [if_neg (by simpa using columns empty)]
  rw [shown, rowsUnder]
  split
  · rfl
  · rw [dataRows, receiveAll, receiveAll, List.map_take]

end Execution

/-! ## Other contents -/

/-- Another content of the result of a portal: as many rows, of the same width. -/
structure SameShape (portal : BoundPortal E) (rows : List Row) : Prop where
  length : rows.length = portal.rows.length
  width : ∀ row ∈ rows, row.length = (portal.resultDesc.getD []).length

/-- The portal with another content of its result. -/
def holding (portal : BoundPortal E) (rows : List Row) (shape : portal.SameShape rows) :
    BoundPortal E :=
  { portal with
    rows
    width := shape.width
    counted := shape.length ▸ portal.counted }

section Contents

variable {portal : BoundPortal E} {rows : List Row}

theorem Runnable.holding [TypeTable] (runnable : portal.Runnable) (shape : portal.SameShape rows) :
    (portal.holding rows shape).Runnable :=
  ⟨runnable.binds, runnable.decodes, runnable.parsed⟩

/-- The work of a run does not depend on the content of the result. -/
theorem workUnder_holding (shape : portal.SameShape rows) (limit : Int32) :
    (portal.holding rows shape).workUnder limit = portal.workUnder limit := by
  have run (count : Nat) :
      (portal.holding rows shape).executorRun count = portal.executorRun count := by
    rw [executorRun, executorRun]
    simp only [holding, shape.length]
  rw [workUnder, workUnder, run]
  rfl

theorem rows_ne_nil_of_shape (shape : portal.SameShape rows) (filled : rows ≠ []) :
    portal.rows ≠ [] := by
  rw [← List.length_pos_iff, ← shape.length]
  exact List.length_pos_iff.mpr filled

end Contents

end BoundPortal

end PgTransport.Backend
