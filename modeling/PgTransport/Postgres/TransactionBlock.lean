import Mathlib.Data.List.Basic

/-!
# The transaction-block state of a backend

This module fixes the data behind `CurrentTransactionState`: the block state,
the savepoint stack, the characteristics of the transaction and the work it has
done.  Work is a list of effects of an arbitrary type; the ledgers `committed`,
`rolledBack` and `prepared` say what became of it.

The states of a nested transaction are the states of the enclosing block
together with a nonempty savepoint stack: `TBLOCK_SUBINPROGRESS` is
`inprogress` and `TBLOCK_SUBABORT` is `abort` with a savepoint on the stack.
-/

namespace PgTransport.Postgres

/-- `TBlockState`.  The three states of a pending savepoint command carry what
that command recorded on the transaction stack. -/
inductive TBlockState where
  | default
  | started
  | begin
  | inprogress
  | implicitInprogress
  | endBlock
  | abort
  | abortEnd
  | abortPending
  | prepare (gid : String)
  | subbegin (name : String)
  | subrelease (depth : Nat)
  | subrestart (depth : Nat)
  deriving DecidableEq, Repr

/-- The transaction isolation levels. -/
inductive IsolationLevel where
  | readUncommitted
  | readCommitted
  | repeatableRead
  | serializable
  deriving DecidableEq, Repr

/-- `XactIsoLevel`, `XactReadOnly` and `XactDeferrable`. -/
structure Characteristics where
  isolation : IsolationLevel
  readOnly : Bool
  deferrable : Bool
  deriving DecidableEq, Repr

/-- The characteristics a session starts with. -/
def Characteristics.standard : Characteristics :=
  ⟨.readCommitted, false, false⟩

/-- One level of the savepoint stack: its name, the amount of work done before
it, and the read-only flag that is restored when it ends. -/
structure Savepoint where
  name : String
  mark : Nat
  readOnly : Bool
  deriving DecidableEq, Repr

/-- The transaction state of one session.  `discarded` is the work of the
current transaction that has already been undone. -/
structure Xact (E : Type) where
  blockState : TBlockState
  savepoints : List Savepoint
  pending : List E
  discarded : List E
  characteristics : Characteristics
  defaults : Characteristics
  firstSnapshotSet : Bool
  chain : Bool
  committed : List E
  rolledBack : List E
  prepared : List (String × List E)
  deriving DecidableEq, Repr

namespace Xact

variable {E : Type}

/-- A fresh session: no transaction and nothing on any ledger. -/
def fresh (defaults : Characteristics) : Xact E where
  blockState := .default
  savepoints := []
  pending := []
  discarded := []
  characteristics := defaults
  defaults := defaults
  firstSnapshotSet := false
  chain := false
  committed := []
  rolledBack := []
  prepared := []

/-- `IsTransactionBlock`. -/
def isTransactionBlock (xact : Xact E) : Bool :=
  match xact.blockState with
  | .default | .started => false
  | _ => true

/-- `IsAbortedTransactionBlockState`. -/
def isAbortedTransactionBlockState (xact : Xact E) : Bool :=
  xact.blockState == .abort

@[simp]
theorem isAbortedTransactionBlockState_iff (xact : Xact E) :
    xact.isAbortedTransactionBlockState = true ↔ xact.blockState = .abort := by
  simp [isAbortedTransactionBlockState]

/-- `IsSubTransaction`. -/
def isSubTransaction (xact : Xact E) : Bool :=
  !xact.savepoints.isEmpty

/-- The amount of work done before the innermost transaction level. -/
def levelMark (xact : Xact E) : Nat :=
  match xact.savepoints with
  | [] => 0
  | savepoint :: _ => savepoint.mark

/-- The characteristics of the running transaction, if there is one. -/
def current (xact : Xact E) : Option Characteristics :=
  match xact.blockState with
  | .default => none
  | _ => some xact.characteristics

/-! ## What a transaction does with its work -/

/-- The innermost level performs some work. -/
def work (effects : List E) (xact : Xact E) : Xact E :=
  { xact with pending := xact.pending ++ effects }

/-- `StartTransaction`. -/
def startTransaction (xact : Xact E) : Xact E :=
  { xact with
    blockState := .started
    savepoints := []
    pending := []
    discarded := []
    characteristics := xact.defaults
    firstSnapshotSet := false }

/-- `CommitTransaction` with the return to `TBLOCK_DEFAULT`. -/
def commitTransaction (xact : Xact E) : Xact E :=
  { xact with
    blockState := .default
    savepoints := []
    pending := []
    committed := xact.committed ++ xact.pending }

/-- `PrepareTransaction` with the return to `TBLOCK_DEFAULT`. -/
def prepareTransaction (gid : String) (xact : Xact E) : Xact E :=
  { xact with
    blockState := .default
    savepoints := []
    pending := []
    prepared := xact.prepared ++ [(gid, xact.pending)] }

/-- Undo all work after the first `keep` effects. -/
def discard (keep : Nat) (xact : Xact E) : Xact E :=
  { xact with
    pending := xact.pending.take keep
    discarded := xact.discarded ++ xact.pending.drop keep
    rolledBack := xact.rolledBack ++ xact.pending.drop keep }

/-- `CleanupTransaction` with the return to `TBLOCK_DEFAULT`. -/
def cleanupTransaction (xact : Xact E) : Xact E :=
  { xact with
    blockState := .default
    savepoints := [] }

/-- `AbortTransaction` and `CleanupTransaction`. -/
def rollback (xact : Xact E) : Xact E :=
  (xact.discard 0).cleanupTransaction

/-- `AbortTransaction` or `AbortSubTransaction`, leaving the block to be ended
by the client. -/
def abortLevel (xact : Xact E) : Xact E :=
  { xact.discard xact.levelMark with blockState := .abort }

/-- Begin the chained transaction of `AND CHAIN` with the characteristics of
the one that just ended. -/
def startChained (saved : Characteristics) (xact : Xact E) : Xact E :=
  if xact.chain then
    { xact.startTransaction with
      blockState := .inprogress
      characteristics := saved
      chain := false }
  else
    xact

/-- Leave `depth` levels of the savepoint stack. -/
def popSavepoints (depth : Nat) (xact : Xact E) : Xact E :=
  { xact with
    savepoints := xact.savepoints.drop depth
    characteristics :=
      match xact.savepoints[depth - 1]? with
      | some savepoint =>
          { xact.characteristics with readOnly := savepoint.readOnly }
      | none => xact.characteristics }

/-- Open a savepoint at the current amount of work. -/
def pushSavepoint (name : String) (xact : Xact E) : Xact E :=
  { xact with
    blockState := .inprogress
    savepoints :=
      ⟨name, xact.pending.length, xact.characteristics.readOnly⟩ :: xact.savepoints }

/-- Roll back to the savepoint `depth` levels down and open it again. -/
def restartSavepoint (depth : Nat) (xact : Xact E) : Xact E :=
  match xact.savepoints[depth - 1]? with
  | some savepoint =>
      ((xact.discard savepoint.mark).popSavepoints depth).pushSavepoint savepoint.name
  | none => xact

/-- The number of levels down to the innermost savepoint with this name. -/
def savepointDepth (name : String) (xact : Xact E) : Option Nat :=
  (xact.savepoints.findIdx? fun savepoint => savepoint.name = name).map (· + 1)

/-! ## The state between two commands -/

/-- The block state is one in which a backend waits for the next command, and
the work on the books is what that state allows. -/
structure Idle (xact : Xact E) : Prop where
  blockState : xact.blockState = .default ∨ xact.blockState = .inprogress ∨
    xact.blockState = .abort
  closed : xact.blockState = .default → xact.pending = [] ∧ xact.savepoints = []
  undone : xact.blockState = .abort → xact.savepoints = [] → xact.pending = []

theorem fresh_idle (defaults : Characteristics) : (fresh defaults : Xact E).Idle where
  blockState := .inl rfl
  closed _ := ⟨rfl, rfl⟩
  undone impossible := by cases impossible

@[simp]
theorem work_nil (xact : Xact E) : xact.work [] = xact := by
  simp [work]

theorem work_work (first second : List E) (xact : Xact E) :
    (xact.work first).work second = xact.work (first ++ second) := by
  simp [work]

end Xact

end PgTransport.Postgres
