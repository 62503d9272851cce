import PgTransport.Postgres.Backend

/-!
# Transaction statements and their execution by `ProcessUtility`

`ProcessUtility` is the reference meaning of a `TransactionStmt`: the direct
backend executes one through it, and the SPI bridge replaces it for the kinds
that the bridge intercepts.
-/

namespace PgTransport.Postgres

open PgTransport.Computation

/-- `TransactionStmtKind`. -/
inductive TransactionStmtKind where
  | begin
  | start
  | commit
  | rollback
  | savepoint
  | release
  | rollbackTo
  | prepare
  | commitPrepared
  | rollbackPrepared
  deriving DecidableEq, Repr

/-- One entry of the option list of `BEGIN` and `START TRANSACTION`. -/
inductive TransactionOption where
  | isolation (level : IsolationLevel)
  | readOnly (value : Bool)
  | deferrable (value : Bool)
  deriving DecidableEq, Repr

/-- `TransactionStmt`; `name` is the savepoint name or the prepared
transaction's identifier. -/
structure TransactionStmt where
  kind : TransactionStmtKind
  options : List TransactionOption
  name : String
  chain : Bool
  deriving DecidableEq, Repr

/-- A transaction statement without options. -/
def TransactionStmt.plain (kind : TransactionStmtKind) : TransactionStmt :=
  ⟨kind, [], "", false⟩

variable {E : Type}

/-! ## Options of `BEGIN` -/

/-- The value an option gives to the characteristics. -/
def TransactionOption.assign (option : TransactionOption)
    (characteristics : Characteristics) : Characteristics :=
  match option with
  | .isolation level => { characteristics with isolation := level }
  | .readOnly value => { characteristics with readOnly := value }
  | .deferrable value => { characteristics with deferrable := value }

/-- The check hooks of the three settings: a change the transaction's progress
no longer allows, or a deferrability set after the first snapshot. -/
def TransactionOption.refused (option : TransactionOption) (xact : Xact E) : Bool :=
  (xact.firstSnapshotSet || xact.isSubTransaction) &&
    match option with
    | .isolation level => level != xact.characteristics.isolation
    | .readOnly value => !value && xact.characteristics.readOnly
    | .deferrable _ => true

/-- The error the check hook of an option reports. -/
def TransactionOption.refusal (option : TransactionOption) : ErrorReport :=
  ⟨"ERROR", "ERRCODE_ACTIVE_SQL_TRANSACTION",
    match option with
    | .isolation _ => "SET TRANSACTION ISOLATION LEVEL must be called before any query"
    | .readOnly _ => "transaction read-write mode must be set before any query"
    | .deferrable _ =>
        "SET TRANSACTION [NOT] DEFERRABLE must be called before any query"⟩

/-- `SetPGVariable` for one transaction option. -/
def setPGVariable (option : TransactionOption) : PgM E Unit := fun pg =>
  if option.refused pg.xact then
    ereport option.refusal pg
  else
    (.ret (), pg.mapXact fun xact =>
      { xact with characteristics := option.assign xact.characteristics })

/-- Apply an option list from left to right. -/
def setPGVariables : List TransactionOption → PgM E Unit
  | [] => pure ()
  | option :: options => do
      setPGVariable option
      setPGVariables options

/-- The characteristics an option list leaves behind. -/
def assignAll (options : List TransactionOption)
    (characteristics : Characteristics) : Characteristics :=
  options.foldl (fun current option => option.assign current) characteristics

/-- The check hooks let every option of the list pass. -/
def Accepted : List TransactionOption → Xact E → Prop
  | [], _ => True
  | option :: options, xact =>
      option.refused xact = false ∧
        Accepted options { xact with characteristics := option.assign xact.characteristics }

theorem setPGVariables_of_accepted {options : List TransactionOption} :
    ∀ {pg : Pg E}, Accepted options pg.xact → setPGVariables options pg =
      (.ret (), pg.mapXact fun xact =>
        { xact with characteristics := assignAll options xact.characteristics }) := by
  induction options with
  | nil => exact fun _ => rfl
  | cons option options inductionHypothesis =>
      rintro pg ⟨passes, accepted⟩
      simp only [setPGVariables, Comp.bind_apply, setPGVariable, passes, Bool.false_eq_true,
        if_false, resume_ret]
      exact inductionHypothesis accepted

/-- A refused option raises, in the block state it found. -/
theorem setPGVariables_of_refused {options : List TransactionOption} :
    ∀ {pg : Pg E}, ¬Accepted options pg.xact → ∃ payload refused,
      setPGVariables options pg = (.unwind payload, refused) ∧
        refused.xact.blockState = pg.xact.blockState := by
  induction options with
  | nil => exact fun refused => absurd trivial refused
  | cons option options inductionHypothesis =>
      intro pg refused
      cases passes : option.refused pg.xact with
      | true =>
          refine ⟨.caughtError option.refusal, pg, ?_, rfl⟩
          simp [setPGVariables, setPGVariable, passes]
      | false =>
          obtain ⟨payload, after, run, state⟩ := @inductionHypothesis
            (pg.mapXact fun xact =>
              { xact with characteristics := option.assign xact.characteristics })
            fun accepted => refused ⟨passes, accepted⟩
          refine ⟨payload, after, ?_, state⟩
          simp [setPGVariables, setPGVariable, passes, run]

/-- Before the first snapshot of a transaction every option passes. -/
theorem accepted_of_noSnapshot {options : List TransactionOption} :
    ∀ {xact : Xact E}, xact.firstSnapshotSet = false → xact.savepoints = [] →
      Accepted options xact := by
  induction options with
  | nil => exact fun _ _ => trivial
  | cons option options inductionHypothesis =>
      intro xact early flat
      refine ⟨?_, inductionHypothesis early flat⟩
      simp [TransactionOption.refused, early, Xact.isSubTransaction, flat]

/-! ## Prepared transactions -/

/-- `PreventInTransactionBlock`. -/
def preventInTransactionBlock (command : String) : PgM E Unit := fun pg =>
  if pg.xact.isTransactionBlock then
    ereport ⟨"ERROR", "ERRCODE_ACTIVE_SQL_TRANSACTION",
      command ++ " cannot run inside a transaction block"⟩ pg
  else
    (.ret (), pg)

/-- `FinishPreparedTransaction`: move a prepared transaction's work to the
ledger it ends on. -/
def finishPreparedTransaction (gid : String) (isCommit : Bool) : PgM E Unit := fun pg =>
  match pg.xact.prepared.find? fun entry => entry.1 = gid with
  | none =>
      ereport ⟨"ERROR", "ERRCODE_UNDEFINED_OBJECT",
        "prepared transaction with identifier \"" ++ gid ++ "\" does not exist"⟩ pg
  | some entry =>
      (.ret (), pg.mapXact fun xact =>
        { xact with
          prepared := xact.prepared.filter fun other => other.1 ≠ gid
          committed := if isCommit then xact.committed ++ entry.2 else xact.committed
          rolledBack := if isCommit then xact.rolledBack else xact.rolledBack ++ entry.2 })

/-! ## `ProcessUtility` -/

/-- Execute a transaction statement and return its command tag. -/
def processUtility (stmt : TransactionStmt) : PgM E String :=
  match stmt.kind with
  | .begin => do
      beginTransactionBlock
      setPGVariables stmt.options
      pure "BEGIN"
  | .start => do
      beginTransactionBlock
      setPGVariables stmt.options
      pure "START TRANSACTION"
  | .commit => do
      let committed ← endTransactionBlock stmt.chain
      pure (if committed then "COMMIT" else "ROLLBACK")
  | .rollback => do
      userAbortTransactionBlock stmt.chain
      pure "ROLLBACK"
  | .savepoint => do
      requireTransactionBlock "SAVEPOINT"
      defineSavepoint stmt.name
      pure "SAVEPOINT"
  | .release => do
      requireTransactionBlock "RELEASE SAVEPOINT"
      releaseSavepoint stmt.name
      pure "RELEASE"
  | .rollbackTo => do
      requireTransactionBlock "ROLLBACK TO SAVEPOINT"
      rollbackToSavepoint stmt.name
      pure "ROLLBACK"
  | .prepare => do
      let prepared ← prepareTransactionBlock stmt.name
      pure (if prepared then "PREPARE TRANSACTION" else "ROLLBACK")
  | .commitPrepared => do
      preventInTransactionBlock "COMMIT PREPARED"
      finishPreparedTransaction stmt.name true
      pure "COMMIT PREPARED"
  | .rollbackPrepared => do
      preventInTransactionBlock "ROLLBACK PREPARED"
      finishPreparedTransaction stmt.name false
      pure "ROLLBACK PREPARED"

end PgTransport.Postgres
