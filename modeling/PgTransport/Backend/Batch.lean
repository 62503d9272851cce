import PgTransport.Backend.Works

/-!
# Batches without their blank statements

Both backends drop statements without executable content, each in its own
place.  The lemmas here state the dispatch of a parsed batch over the
statements that remain.
-/

namespace PgTransport.Backend

open PgTransport.Computation
open PgTransport.Postgres
open PgTransport.Wire

variable {E : Type}

/-- A statement paired with the cursor it fetches from. -/
def RawStmt.withPortalname (stmt : RawStmt E) : RawStmt E × Option String :=
  (stmt, stmt.stmtMeta.fetchPortalname)

/-- The batch contains transaction control that the bridge intercepts. -/
def hasXactControl (stmts : List (RawStmt E)) : Bool :=
  stmts.any fun stmt => (classifyRawStmt stmt.node).isSome

theorem nonEmpty_cons_of_blank {stmt : RawStmt E} (blank : isBlank stmt.text = true)
    (rest : List (RawStmt E)) : nonEmpty (stmt :: rest) = nonEmpty rest := by
  simp [nonEmpty, blank]

theorem nonEmpty_cons_of_not_blank {stmt : RawStmt E} (blank : isBlank stmt.text = false)
    (rest : List (RawStmt E)) : nonEmpty (stmt :: rest) = stmt :: nonEmpty rest := by
  simp [nonEmpty, blank]

theorem not_blank_of_mem_nonEmpty {stmts : List (RawStmt E)} {stmt : RawStmt E}
    (member : stmt ∈ nonEmpty stmts) : isBlank stmt.text = false := by
  simpa [nonEmpty] using (List.mem_filter.mp member).2

theorem mem_of_mem_nonEmpty {stmts : List (RawStmt E)} {stmt : RawStmt E}
    (member : stmt ∈ nonEmpty stmts) : stmt ∈ stmts :=
  (List.mem_filter.mp member).1

/-- Go on with the rest of a batch behind the responses to its head. -/
def continueWith (rest : PgM E (PgWireResult (List Response)))
    (result : PgWireResult (List Response)) : PgM E (PgWireResult (List Response)) :=
  match result with
  | .error err => pure (.error err)
  | .ok responses => do
      let more ← rest
      pure (more.map fun later => responses ++ later)

/-- The check in front of a statement lets it through outside an aborted block,
and inside one where the statement counts as an exit of the block. -/
theorem gate_admits {pg : Pg E} {exit : Bool}
    (admitted : pg.xact.blockState = .abort → exit = true) :
    (pg.xact.isAbortedTransactionBlockState && !exit) = false := by
  rw [Bool.and_eq_false_imp, Xact.isAbortedTransactionBlockState_iff]
  intro aborted
  simp [admitted aborted]

section Rows

variable [TypeTable]

/-! ## One statement of a loop -/

section Head

variable {stmt : RawStmt E} {pg : Pg E}

/-- A statement that the check lets through is intercepted or runs in a
bracket. -/
theorem executeOneStatement_admitted
    (gate : (pg.xact.isAbortedTransactionBlockState && !isXactExitStmt stmt.stmtMeta) =
      false) :
    executeOneStatement stmt stmt.stmtMeta pg =
      match classifyRawStmt stmt.node with
      | some cmd => handleXactControl cmd stmt.finish pg
      | none => withXact true stmt.finish (spiSession stmt.spiRcs
          (runViaSpi stmt stmt.stmtMeta.fetchPortalname)) pg := by
  have intercepted : stmt.stmtMeta.xact = classifyRawStmt stmt.node := rfl
  simp only [executeOneStatement, Comp.bind_apply, Comp.read_apply, resume_ret, gate,
    Bool.false_eq_true, if_false, intercepted]
  cases classifyRawStmt stmt.node <;> rfl

theorem executeStatements_cons (content : isBlank stmt.text = false)
    (rest : List (RawStmt E)) :
    executeStatements ((stmt :: rest).map RawStmt.classified) pg =
      resume (executeOneStatement stmt stmt.stmtMeta pg)
        (continueWith (executeStatements (rest.map RawStmt.classified))) := by
  simp only [List.map_cons, RawStmt.classified.eq_1 stmt, executeStatements, content,
    Bool.false_eq_true, if_false, Comp.bind_apply]
  apply resume_congr
  intro result _
  cases result <;> rfl

theorem executeSingleDirect_cons (content : isBlank stmt.text = false)
    (rest : List (RawStmt E))
    (gate : (pg.xact.isAbortedTransactionBlockState && !isTransactionExitStmt stmt.node) =
      false) :
    executeSingleDirect (stmt :: rest) pg =
      resume (withXact stmt.node.analyzeRequiresSnapshot stmt.finish (runOneDirect stmt) pg)
        fun result => continueWith (executeSingleDirect rest)
          (result.map fun response => [response]) := by
  simp only [executeSingleDirect, content, Comp.bind_apply, Comp.read_apply, resume_ret,
    gate, Bool.false_eq_true, if_false]
  apply resume_congr
  intro result _
  cases result <;> rfl

end Head

/-! ## Whole batches -/

theorem executeStatements_nonEmpty (stmts : List (RawStmt E)) :
    executeStatements (stmts.map RawStmt.classified) =
      executeStatements ((nonEmpty stmts).map RawStmt.classified) := by
  induction stmts with
  | nil => rfl
  | cons stmt rest inductionHypothesis =>
      cases blank : isBlank stmt.text with
      | true =>
          simp only [nonEmpty_cons_of_blank blank, List.map_cons, RawStmt.classified.eq_1 stmt,
            executeStatements, blank, if_true]
          exact inductionHypothesis
      | false =>
          simp only [nonEmpty_cons_of_not_blank blank, List.map_cons,
            RawStmt.classified.eq_1 stmt, executeStatements, blank, inductionHypothesis]

theorem executeSingleDirect_nonEmpty (stmts : List (RawStmt E)) :
    executeSingleDirect stmts = executeSingleDirect (nonEmpty stmts) := by
  induction stmts with
  | nil => rfl
  | cons stmt rest inductionHypothesis =>
      cases blank : isBlank stmt.text with
      | true => simp [nonEmpty_cons_of_blank blank, executeSingleDirect, blank,
          inductionHypothesis]
      | false => simp [nonEmpty_cons_of_not_blank blank, executeSingleDirect, blank,
          inductionHypothesis]

variable {query : SimpleQuery E} {stmts : List (RawStmt E)}

/-- The SPI bridge on a parsed batch. -/
theorem executeSimpleQuery_of_parsed (clean : containsNul query.text = false)
    (parsed : query.parsed = .ok stmts) :
    executeSimpleQuery query =
      if 1 < (nonEmpty stmts).length ∧ hasXactControl stmts = false then
        catchImplicitBlock (implicitBlockLoopSpi ((nonEmpty stmts).map RawStmt.withPortalname))
      else
        executeStatements ((nonEmpty stmts).map RawStmt.classified) := by
  have filtered : (stmts.map RawStmt.classified).filter
      (fun entry => !isBlank entry.1.text) = (nonEmpty stmts).map RawStmt.classified := by
    simp [List.filter_map, nonEmpty, Function.comp_def, RawStmt.classified]
  have control : ((stmts.map RawStmt.classified).any fun entry => entry.2.xact.isSome) =
      hasXactControl stmts := by
    simp [hasXactControl, Function.comp_def, RawStmt.classified, RawStmt.stmtMeta]
  have statements : parseAndClassify query = .ok (stmts.map RawStmt.classified) := by
    simp [parseAndClassify, clean, parsed]
  simp only [executeSimpleQuery, clean, statements, filtered, control, List.length_map,
    executeWithImplicitBlockSpi, List.map_map, Bool.not_eq_true, Bool.false_eq_true,
    if_false]
  rw [executeStatements_nonEmpty]
  rfl

/-- The direct backend on a parsed batch. -/
theorem executeSimpleQueryDirect_of_parsed (clean : containsNul query.text = false)
    (parsed : query.parsed = .ok stmts) :
    executeSimpleQueryDirect query =
      if 1 < (nonEmpty stmts).length then
        catchImplicitBlock (implicitBlockLoopDirect (nonEmpty stmts))
      else
        executeSingleDirect (nonEmpty stmts) := by
  simp only [executeSimpleQueryDirect, parseAndKeep, clean, parsed,
    executeWithImplicitBlock, Bool.false_eq_true, if_false]
  rw [executeSingleDirect_nonEmpty]

/-- The loop a backend chooses for a parsed batch, over the statements that are
still to be executed. -/
def batchLoop (backend : ExecutionBackend) (stmts rest : List (RawStmt E)) :
    PgM E (PgWireResult (List Response)) :=
  match backend with
  | .spi =>
      if 1 < (nonEmpty stmts).length ∧ hasXactControl stmts = false then
        catchImplicitBlock (implicitBlockLoopSpi (rest.map RawStmt.withPortalname))
      else
        executeStatements (rest.map RawStmt.classified)
  | .direct =>
      if 1 < (nonEmpty stmts).length then
        catchImplicitBlock (implicitBlockLoopDirect rest)
      else
        executeSingleDirect rest

/-- A query body that parses is executed by the loop chosen for it. -/
theorem simpleQuery_eq_batchLoop (backend : ExecutionBackend)
    (clean : containsNul query.text = false) (parsed : query.parsed = .ok stmts) :
    simpleQuery backend query = batchLoop backend stmts (nonEmpty stmts) := by
  cases backend with
  | spi => exact executeSimpleQuery_of_parsed clean parsed
  | direct => exact executeSimpleQueryDirect_of_parsed clean parsed

/-- A query body that does not parse is answered with an error, and nothing else
happens. -/
theorem simpleQuery_unparsed (backend : ExecutionBackend) (pg : Pg E)
    (unparsed : containsNul query.text = true ∨ ∃ report, query.parsed = .error report) :
    ∃ err, simpleQuery backend query pg = (.ret (.error err), pg) := by
  rcases unparsed with text | ⟨report, parsed⟩
  · cases backend <;> simp [simpleQuery, executeSimpleQuery, executeSimpleQueryDirect,
      parseAndKeep, text]
  · cases text : containsNul query.text <;> cases backend <;>
      simp [simpleQuery, executeSimpleQuery, executeSimpleQueryDirect, parseAndClassify,
        parseAndKeep, text, parsed]

/-- The batch arrives at `rest` in state `middle`, with `responses` to the
statements before. -/
def Arrives (backend : ExecutionBackend) (stmts : List (RawStmt E)) (pg : Pg E)
    (responses : List Response) (rest : List (RawStmt E)) (middle : Pg E) : Prop :=
  rest <:+ nonEmpty stmts ∧
    batchLoop backend stmts (nonEmpty stmts) pg =
      resume (batchLoop backend stmts rest middle) fun more =>
        pure (more.map fun later => responses ++ later)

omit [TypeTable] in
/-- A response at the head of an implicit block passes its `catch_unwind`. -/
theorem catchImplicitBlock_prepend {body rest : PgM E (PgWireResult (List Response))}
    {pg after : Pg E} {response : Response}
    (run : body pg = resume (rest after) fun more =>
      pure (more.map fun later => response :: later)) :
    catchImplicitBlock body pg = resume (catchImplicitBlock rest after) fun more =>
      pure (more.map fun later => response :: later) := by
  rcases ended : rest after with ⟨(_ | _) | _ | _, final⟩ <;>
    simp [catchImplicitBlock, Comp.catchUnwind, run, ended] <;> rfl

end Rows

end PgTransport.Backend
