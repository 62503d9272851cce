import PgTransport.Backend.Extended.Plans

/-!
# The rows of an `Execute`

An `Execute` that is answered shapes its answer from what the plan returned: a
cell of a row is the encoder of its column applied to the value in the same
position of the tuple.
-/

namespace PgTransport.Backend

open PgTransport.Computation
open PgTransport.Postgres
open PgTransport.Wire

variable {E : Type} {α : Type}

/-! ## Encoded rows -/

theorem TupTable.encodeRow_ok {table : TupTable} {rowIdx : Nat} {row : Row}
    {encoders : List ColumnEncoder} :
    ∀ {col : Nat} {dataRow : DataRow},
      table.encodeRow rowIdx row col encoders = .ok dataRow →
        col + encoders.length ≤ max col table.tupdesc.length ∧
          dataRow = encoders.mapIdx fun column encoder =>
            encodeCell encoder row[col + column]?.join := by
  induction encoders with
  | nil =>
      intro col dataRow run
      cases run
      exact ⟨Nat.le_max_left _ _, rfl⟩
  | cons encoder encoders inductionHypothesis =>
      intro col dataRow run
      by_cases inside : col < table.tupdesc.length
      · cases later : table.encodeRow rowIdx row (col + 1) encoders with
        | error payload =>
            simp only [TupTable.encodeRow, TupTable.cell, inside, if_true, later] at run
            cases run
        | ok rest =>
            simp only [TupTable.encodeRow, TupTable.cell, inside, if_true, later] at run
            cases run
            obtain ⟨fits, rfl⟩ := inductionHypothesis later
            constructor
            · rw [List.length_cons]
              omega
            · rw [List.mapIdx_cons]
              simp only [Nat.add_zero, Nat.add_assoc, Nat.add_comm 1]
      · simp only [TupTable.encodeRow, TupTable.cell, inside, if_false] at run
        cases run

/-- The rows of a tuple table are encoded one by one, and none is narrower than
the encoders. -/
theorem TupTable.encodeRows_ok {table : TupTable} {encoders : List ColumnEncoder}
    {rows : List Row} :
    ∀ {rowIdx : Nat} {dataRows : List DataRow},
      table.encodeRows encoders rowIdx rows = .ok dataRows →
        (rows ≠ [] → encoders.length ≤ table.tupdesc.length) ∧
          dataRows = rows.map fun row => encoders.mapIdx fun column encoder =>
            encodeCell encoder row[column]?.join := by
  induction rows with
  | nil =>
      intro rowIdx dataRows run
      cases run
      simp
  | cons row rows inductionHypothesis =>
      intro rowIdx dataRows run
      cases first : table.encodeRow rowIdx row 0 encoders with
      | error payload =>
          simp only [TupTable.encodeRows, first] at run
          cases run
      | ok dataRow =>
          cases later : table.encodeRows encoders (rowIdx + 1) rows with
          | error payload =>
              simp only [TupTable.encodeRows, first, later] at run
              cases run
          | ok rest =>
              simp only [TupTable.encodeRows, first, later] at run
              cases run
              obtain ⟨fits, rfl⟩ := TupTable.encodeRow_ok first
              obtain ⟨_, rfl⟩ := inductionHypothesis later
              constructor
              · intro _
                omega
              · simp

theorem receiveSlot_eq {tuple : Row} {encoders : List ColumnEncoder} :
    ∀ col, receiveSlot tuple col encoders =
      encoders.mapIdx fun column encoder => receiveCell encoder tuple[col + column]? := by
  induction encoders with
  | nil => exact fun _ => rfl
  | cons encoder encoders inductionHypothesis =>
      intro col
      rw [receiveSlot, inductionHypothesis, List.mapIdx_cons]
      simp only [Nat.add_zero, Nat.add_assoc, Nat.add_comm 1]

section Shapes

variable {format : Format} {codes : List FieldFormat} {schema : List FieldInfo}
  {rows : List DataRow} {tag : Option String}

/-- A row set from SPI comes from a tuple table that is wide enough. -/
theorem spiPlanResponse_query {backend : SpiBackendPlan} {result : SpiResult E}
    (shaped : spiPlanResponse backend format codes result = .ok (.query schema rows tag)) :
    ∃ table, result.tuptable = some table ∧
      schema = requestedSchema backend.baseSchema format codes ∧
      (table.vals ≠ [] →
        (cachedEncoders backend.columnOids codes).length ≤ table.tupdesc.length) ∧
      rows = table.vals.map fun row => (cachedEncoders backend.columnOids codes).mapIdx
        fun column encoder => encodeCell encoder row[column]?.join := by
  unfold spiPlanResponse at shaped
  cases kept : result.tuptable with
  | none =>
      rw [kept] at shaped
      cases shaped
  | some table =>
      simp only [kept] at shaped
      split at shaped
      · cases shaped
      · cases encoded : table.encodeRows (cachedEncoders backend.columnOids codes) 0
            table.vals with
        | error payload =>
            rw [encoded] at shaped
            cases shaped
        | ok dataRows =>
            rw [encoded] at shaped
            cases shaped
            obtain ⟨fits, written⟩ := TupTable.encodeRows_ok encoded
            exact ⟨table, rfl, rfl, fits, written⟩

/-- Whatever the response to a plan is, its cell lookups were in range. -/
theorem spiPlanResponse_inRange {backend : SpiBackendPlan} {result : SpiResult E}
    {response : Response} {table : TupTable}
    (shaped : spiPlanResponse backend format (format.codes backend.baseSchema.length) result =
      .ok response)
    (kept : result.tuptable = some table) (filled : table.vals ≠ []) :
    (cachedEncoders backend.columnOids (format.codes backend.baseSchema.length)).length ≤
      table.tupdesc.length := by
  cases columns : backend.baseSchema with
  | nil => cases format <;> simp [cachedEncoders, Format.codes]
  | cons field fields =>
      rw [← columns]
      simp only [spiPlanResponse, kept] at shaped
      rw [if_neg (by simp [columns])] at shaped
      cases encoded : table.encodeRows (cachedEncoders backend.columnOids
          (format.codes backend.baseSchema.length)) 0 table.vals with
      | error payload =>
          rw [encoded] at shaped
          cases shaped
      | ok dataRows => exact (TupTable.encodeRows_ok encoded).1 filled

theorem directPlanResponse_query {backend : DirectBackendPlan} {run : PortalRun E}
    (shaped : Response.query schema rows tag = directPlanResponse backend format codes run) :
    schema = requestedSchema backend.baseSchema format codes ∧
      rows = run.tuples.map fun tuple => (cachedEncoders backend.columnOids codes).mapIdx
        fun column encoder => receiveCell encoder tuple[column]? := by
  unfold directPlanResponse at shaped
  split at shaped
  · cases shaped
  · cases shaped
    constructor
    · rfl
    · simp only [receiveAll, receiveSlot_eq, Nat.zero_add]

end Shapes

/-! ## What an `Execute` returns -/

/-- The run a portal delivers for a statement. -/
def Delivers (node : Node) (portal : Except ErrorReport (PortalRun E))
    (run : PortalRun E) : Prop :=
  if isTransactionStmt node then run.tuples = [] else portal = .ok run

/-- How a plan shapes the answer to an `Execute`. -/
def BackendPlan.Answers (request : ExecuteRequest E) (response : Response) :
    BackendPlan → Prop
  | .spi plan => ∃ result, request.spi request.maxRows = .ok result ∧
      spiPlanResponse plan request.resultFormat
        (request.resultFormat.codes plan.baseSchema.length) result = .ok response
  | .direct plan => ∃ run,
      Delivers plan.source.node (request.portal (portalCount request.maxRows)) run ∧
        response = directPlanResponse plan request.resultFormat
          (request.resultFormat.codes plan.baseSchema.length) run
  | .xactControl _ => ∃ tag, response = .execution tag

theorem returns_liftPanic (result : Except Payload α) :
    Returns (liftPanic result : PgM E α) fun value => result = .ok value := by
  cases result with
  | error payload => exact .raise _
  | ok value => exact .pure rfl

theorem returns_runPortal (node : Node) (portal : Except ErrorReport (PortalRun E)) :
    Returns (runPortal node portal) fun run => Delivers node portal run := by
  cases node with
  | transactionStmt stmt => exact (Returns.any _).bind fun _ _ => .pure rfl
  | fetchStmt ismove portalname => exact returns_callPg _ _
  | other requiresAnalysis => exact returns_callPg _ _

theorem returns_spiExecuteBody (backend : SpiBackendPlan) (request : ExecuteRequest E)
    (formats : BoundFormats) :
    Returns (spiExecuteBody backend request formats) fun answer => ∀ response,
      answer = .ok response → ∃ result, request.spi request.maxRows = .ok result ∧
        spiPlanResponse backend request.resultFormat formats.resultFormatPerCol result =
          .ok response := by
  refine (Returns.any _).bind ?_
  rintro (err | datums) _
  · exact .pure (by simp)
  · refine (returns_callPg _ _).bind fun result answered => .ite (.pure (by simp)) ?_
    refine (returns_liftPanic _).bind fun response shaped => .pure ?_
    rintro _ ⟨⟩
    exact ⟨result, answered, shaped⟩

theorem returns_directExecuteBody (backend : DirectBackendPlan) (request : ExecuteRequest E)
    (formats : BoundFormats) :
    Returns (directExecuteBody backend request formats) fun answer => ∀ response,
      answer = .ok response → ∃ run, Delivers backend.source.node
          (request.portal (portalCount request.maxRows)) run ∧
        response = directPlanResponse backend request.resultFormat
          formats.resultFormatPerCol run := by
  refine (Returns.any _).bind ?_
  rintro (err | datums) _
  · exact .pure (by simp)
  · refine (Returns.any _).bind fun _ _ =>
      (returns_runPortal _ _).bind fun run delivered => .pure ?_
    rintro _ ⟨⟩
    exact ⟨run, delivered, rfl⟩

theorem returns_handleXactControlOne (cmd : XactCmd) (finish : Option ErrorReport) :
    Returns (handleXactControlOne cmd finish : PgM E _) fun answer => ∀ response,
      answer = .ok response → ∃ tag, response = .execution tag := by
  refine (Returns.any _).bind ?_
  intro inBlock _
  refine (Returns.any _).bind ?_
  rintro (payload | tag) _
  · exact (Returns.any _).bind fun _ _ => .pure (by simp)
  · exact .pure (by simp)

/-- An `Execute` that is answered was answered by its plan. -/
theorem returns_execute (statement : PreparedStatement) (request : ExecuteRequest E) :
    Returns (statement.execute request) fun answer => ∀ response, answer = .ok response →
      statement.plan.Answers request response := by
  intro pg answer after run response same
  subst same
  have binds := PreparedStatement.binds_of_returns run
  have returns : Returns (statement.execute request) fun answer => ∀ response,
      answer = .ok response → statement.plan.Answers request response := by
    cases choice : statement.plan with
    | spi plan =>
        rw [PreparedStatement.execute_spi choice binds, withSpi_eq_withXact]
        exact returns_withXact (returns_spiSession (returns_spiExecuteBody plan request _))
    | direct plan =>
        rw [PreparedStatement.execute_direct choice binds]
        exact returns_withXact (returns_directExecuteBody plan request _)
    | xactControl cmd =>
        rw [PreparedStatement.execute_xactControl choice binds]
        exact returns_handleXactControlOne cmd request.finish
  exact returns pg _ after run response rfl

end PgTransport.Backend
