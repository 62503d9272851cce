import PgTransport.Computation.Core
import PgTransport.Postgres.TransactionBlock

/-!
# The server API the bridge calls

Each entry point is a computation over the backend state.  A PG `ERROR` is an
unwinding computation, as `pg_guard` turns the longjmp into a Rust panic; a
failed assertion or a `FATAL` halts the process.

`GetTransactionSnapshot` asserts that the block is not aborted.  Calling it
there is recorded before the process halts, so that the record outlives the
process and a session can be asked whether it ever happened.
-/

namespace PgTransport.Postgres

open PgTransport.Computation

/-- The fields of an `ErrorReportWithLevel` that reach the wire. -/
structure ErrorReport where
  level : String
  sqlErrorCode : String
  message : String
  deriving DecidableEq, Repr

/-- What unwinds through Rust frames: a caught PG error, or the message of a
Rust panic. -/
inductive Payload where
  | caughtError (report : ErrorReport)
  | message (text : String)
  deriving DecidableEq, Repr

/-- Calls of the server API outside its contract. -/
inductive Misuse where
  | snapshotWhileAborted
  | popWithoutSnapshot
  | finishWithoutConnect
  | startFrom (blockState : TBlockState)
  | commitFrom (blockState : TBlockState)
  deriving DecidableEq, Repr

/-- The backend state: the transaction state, the depth of the active snapshot
stack, the depth of the SPI stack, and the recorded misuses. -/
structure Pg (E : Type) where
  xact : Xact E
  activeSnapshots : Nat
  spiDepth : Nat
  misuses : List Misuse
  deriving DecidableEq, Repr

/-- Computations of one backend process. -/
abbrev PgM (E : Type) (α : Type) : Type :=
  Comp Payload (Pg E) α

variable {E : Type}

namespace Pg

/-- A freshly started backend. -/
def fresh (defaults : Characteristics) : Pg E :=
  ⟨Xact.fresh defaults, 0, 0, []⟩

/-- Change the transaction state only. -/
def mapXact (update : Xact E → Xact E) (pg : Pg E) : Pg E :=
  { pg with xact := update pg.xact }

/-- The running transaction performs some work. -/
def work (effects : List E) (pg : Pg E) : Pg E :=
  pg.mapXact (Xact.work effects)

/-- Record a misuse. -/
def record (misuse : Misuse) (pg : Pg E) : Pg E :=
  { pg with misuses := pg.misuses ++ [misuse] }

/-- The snapshot and SPI stacks as an abort leaves them. -/
def releaseAll (pg : Pg E) : Pg E :=
  { pg with activeSnapshots := 0, spiDepth := 0 }

/-- The same backend with another depth of the SPI stack. -/
def atSpiDepth (depth : Nat) (pg : Pg E) : Pg E :=
  { pg with spiDepth := depth }

end Pg

/-- Raise the PG `ERROR` described by `report`. -/
def ereport {α : Type} (report : ErrorReport) : PgM E α :=
  Comp.raise (.caughtError report)

/-- Raise `report` if there is one. -/
def raiseIf (report : Option ErrorReport) : PgM E Unit :=
  match report with
  | none => pure ()
  | some report => ereport report

@[simp]
theorem raiseIf_none : (raiseIf none : PgM E Unit) = pure () :=
  rfl

@[simp]
theorem raiseIf_some (report : ErrorReport) :
    (raiseIf (some report) : PgM E Unit) = ereport report :=
  rfl

/-- Record a misuse and halt the process. -/
def assertionFailure {α : Type} (misuse : Misuse) : PgM E α :=
  fun pg => (.halt, pg.record misuse)

/-- Update the transaction state. -/
def setXact (update : Xact E → Xact E) : PgM E Unit :=
  fun pg => (.ret (), pg.mapXact update)

@[simp]
theorem setXact_apply (update : Xact E → Xact E) (pg : Pg E) :
    setXact update pg = (.ret (), pg.mapXact update) :=
  rfl

@[simp]
theorem ereport_apply {α : Type} (report : ErrorReport) (pg : Pg E) :
    (ereport report : PgM E α) pg = (.unwind (.caughtError report), pg) :=
  rfl

/-! ## Snapshots -/

/-- `PushActiveSnapshot(GetTransactionSnapshot())`. -/
def pushTransactionSnapshot : PgM E Unit := fun pg =>
  if pg.xact.isAbortedTransactionBlockState then
    assertionFailure .snapshotWhileAborted pg
  else
    (.ret (), { pg with
      xact := { pg.xact with firstSnapshotSet := true }
      activeSnapshots := pg.activeSnapshots + 1 })

/-- `PopActiveSnapshot`. -/
def popActiveSnapshot : PgM E Unit := fun pg =>
  match pg.activeSnapshots with
  | 0 => assertionFailure .popWithoutSnapshot pg
  | depth + 1 => (.ret (), { pg with activeSnapshots := depth })

/-! ## Transaction commands -/

/-- `StartTransactionCommand`: begins a transaction from `TBLOCK_DEFAULT` and
does nothing inside a block, aborted or not. -/
def startTransactionCommand : PgM E Unit := fun pg =>
  match pg.xact.blockState with
  | .default => (.ret (), pg.mapXact Xact.startTransaction)
  | .inprogress | .implicitInprogress | .abort => (.ret (), pg)
  | blockState =>
      (.unwind (.caughtError ⟨"ERROR", "ERRCODE_INTERNAL_ERROR",
        "StartTransactionCommand: unexpected state"⟩), pg.record (.startFrom blockState))

/-- `CommandCounterIncrement`, which raises what `finish` says. -/
def commandCounterIncrement (finish : Option ErrorReport) : PgM E Unit :=
  raiseIf finish

/-- `CommitTransactionCommand`.  `finish` is the error, if any, that the commit
proper raises: a deferred constraint, a failing pre-commit callback. -/
def commitTransactionCommand (finish : Option ErrorReport) : PgM E Unit := fun pg =>
  match pg.xact.blockState with
  | .default => (.halt, pg.record (.commitFrom .default))
  | .started => (do raiseIf finish; setXact Xact.commitTransaction) pg
  | .begin => (.ret (), pg.mapXact fun xact => { xact with blockState := .inprogress })
  | .inprogress | .implicitInprogress => commandCounterIncrement finish pg
  | .endBlock =>
      (do
        raiseIf finish
        setXact fun xact =>
          xact.commitTransaction.startChained xact.characteristics) pg
  | .abort => (.ret (), pg)
  | .abortEnd =>
      (.ret (), pg.mapXact fun xact =>
        xact.cleanupTransaction.startChained xact.characteristics)
  | .abortPending =>
      (.ret (), pg.releaseAll.mapXact fun xact =>
        xact.rollback.startChained xact.characteristics)
  | .prepare gid => (do raiseIf finish; setXact (Xact.prepareTransaction gid)) pg
  | .subbegin name => (.ret (), pg.mapXact (Xact.pushSavepoint name))
  | .subrelease depth =>
      (.ret (), pg.mapXact fun xact =>
        { xact.popSavepoints depth with blockState := .inprogress })
  | .subrestart depth => (.ret (), pg.mapXact (Xact.restartSavepoint depth))

/-- The state `AbortCurrentTransaction` leaves: the block rolled back or, inside
an explicit block, aborted and waiting for its end. -/
def Pg.abortCurrent (pg : Pg E) : Pg E :=
  match pg.xact.blockState with
  | .default | .abort => pg
  | .started | .implicitInprogress | .begin | .endBlock | .abortPending | .prepare _ =>
      pg.releaseAll.mapXact Xact.rollback
  | .abortEnd => pg.releaseAll.mapXact Xact.cleanupTransaction
  | .inprogress | .subbegin _ => pg.releaseAll.mapXact Xact.abortLevel
  | .subrelease depth | .subrestart depth =>
      pg.releaseAll.mapXact fun xact => (xact.popSavepoints depth).abortLevel

/-- `AbortCurrentTransaction`. -/
def abortCurrentTransaction : PgM E Unit :=
  fun pg => (.ret (), pg.abortCurrent)

@[simp]
theorem abortCurrentTransaction_apply (pg : Pg E) :
    abortCurrentTransaction pg = (.ret (), pg.abortCurrent) :=
  rfl

/-! ## Transaction blocks -/

/-- The error of a command that needs a transaction block. -/
def noActiveTransaction (command : String) : ErrorReport :=
  ⟨"ERROR", "ERRCODE_NO_ACTIVE_SQL_TRANSACTION",
    command ++ " can only be used in transaction blocks"⟩

/-- `BeginTransactionBlock`: in a block it only warns. -/
def beginTransactionBlock : PgM E Unit := fun pg =>
  match pg.xact.blockState with
  | .started | .implicitInprogress =>
      (.ret (), pg.mapXact fun xact => { xact with blockState := .begin })
  | .inprogress | .abort => (.ret (), pg)
  | _ => (.halt, pg)

/-- `EndTransactionBlock`: mark the block for its end and report whether that
end is a commit. -/
def endTransactionBlock (chain : Bool) : PgM E Bool := fun pg =>
  let mark (blockState : TBlockState) :=
    pg.mapXact fun xact => { xact with blockState, chain }
  match pg.xact.blockState with
  | .inprogress => (.ret true, mark .endBlock)
  | .implicitInprogress =>
      if chain then ereport (noActiveTransaction "COMMIT AND CHAIN") pg
      else (.ret true, mark .endBlock)
  | .started =>
      if chain then ereport (noActiveTransaction "COMMIT AND CHAIN") pg
      else (.ret true, mark .started)
  | .abort =>
      (.ret false, mark (if pg.xact.isSubTransaction then .abortPending else .abortEnd))
  | _ => (.halt, pg)

/-- `UserAbortTransactionBlock`. -/
def userAbortTransactionBlock (chain : Bool) : PgM E Unit := fun pg =>
  let mark (blockState : TBlockState) :=
    pg.mapXact fun xact => { xact with blockState, chain }
  match pg.xact.blockState with
  | .inprogress => (.ret (), mark .abortPending)
  | .abort =>
      (.ret (), mark (if pg.xact.isSubTransaction then .abortPending else .abortEnd))
  | .started | .implicitInprogress =>
      if chain then ereport (noActiveTransaction "ROLLBACK AND CHAIN") pg
      else (.ret (), mark .abortPending)
  | _ => (.halt, pg)

/-- Turn a block marked for its commit into one marked for its preparation. -/
def markPrepare (gid : String) : PgM E Bool := fun pg =>
  match pg.xact.blockState with
  | .endBlock =>
      (.ret true, pg.mapXact fun xact => { xact with blockState := .prepare gid })
  | _ => (.ret false, pg)

/-- `PrepareTransactionBlock`. -/
def prepareTransactionBlock (gid : String) : PgM E Bool := do
  let result ← endTransactionBlock false
  if result then
    markPrepare gid
  else
    pure false

/-- `BeginImplicitTransactionBlock`: only from a transaction outside a block. -/
def beginImplicitTransactionBlock : PgM E Unit := fun pg =>
  match pg.xact.blockState with
  | .started =>
      (.ret (), pg.mapXact fun xact => { xact with blockState := .implicitInprogress })
  | _ => (.ret (), pg)

/-- `EndImplicitTransactionBlock`. -/
def endImplicitTransactionBlock : PgM E Unit := fun pg =>
  match pg.xact.blockState with
  | .implicitInprogress =>
      (.ret (), pg.mapXact fun xact => { xact with blockState := .started })
  | _ => (.ret (), pg)

/-! ## Savepoints -/

/-- `RequireTransactionBlock`. -/
def requireTransactionBlock (command : String) : PgM E Unit := fun pg =>
  if pg.xact.isTransactionBlock then (.ret (), pg)
  else ereport (noActiveTransaction command) pg

/-- The error for a savepoint that does not exist. -/
def noSuchSavepoint (name : String) : ErrorReport :=
  ⟨"ERROR", "ERRCODE_S_E_INVALID_SPECIFICATION",
    "savepoint \"" ++ name ++ "\" does not exist"⟩

/-- `DefineSavepoint`. -/
def defineSavepoint (name : String) : PgM E Unit := fun pg =>
  match pg.xact.blockState with
  | .inprogress =>
      (.ret (), pg.mapXact fun xact => { xact with blockState := .subbegin name })
  | .implicitInprogress => ereport (noActiveTransaction "SAVEPOINT") pg
  | _ => (.halt, pg)

/-- `ReleaseSavepoint`. -/
def releaseSavepoint (name : String) : PgM E Unit := fun pg =>
  match pg.xact.blockState with
  | .inprogress =>
      match pg.xact.savepointDepth name with
      | some depth =>
          (.ret (), pg.mapXact fun xact => { xact with blockState := .subrelease depth })
      | none => ereport (noSuchSavepoint name) pg
  | .implicitInprogress => ereport (noActiveTransaction "RELEASE SAVEPOINT") pg
  | _ => (.halt, pg)

/-- `RollbackToSavepoint`, which also leaves an aborted level. -/
def rollbackToSavepoint (name : String) : PgM E Unit := fun pg =>
  match pg.xact.blockState with
  | .inprogress | .abort =>
      match pg.xact.savepointDepth name with
      | some depth =>
          (.ret (), pg.mapXact fun xact => { xact with blockState := .subrestart depth })
      | none => ereport (noSuchSavepoint name) pg
  | .implicitInprogress => ereport (noActiveTransaction "ROLLBACK TO SAVEPOINT") pg
  | _ => (.halt, pg)

/-! ## SPI sessions -/

/-- `SPI_OK_CONNECT`. -/
def SPI_OK_CONNECT : Int := 1

/-- `SPI_OK_FINISH`. -/
def SPI_OK_FINISH : Int := 2

/-- `SPI_connect`, returning `rc`; only a successful call opens a session. -/
def spiConnect (rc : Int) : PgM E Int := fun pg =>
  (.ret rc, if rc = SPI_OK_CONNECT then { pg with spiDepth := pg.spiDepth + 1 } else pg)

/-- The innermost SPI session is closed, where there is one. -/
def Pg.closeSession (pg : Pg E) : Pg E :=
  match pg.spiDepth with
  | 0 => pg.record .finishWithoutConnect
  | depth + 1 => { pg with spiDepth := depth }

/-- `SPI_finish`, returning `rc`.  The server refuses it only where no session is open
(`SPI_ERROR_UNCONNECTED`); any other call closes the innermost one, whatever `rc` says. -/
def spiFinish (rc : Int) : PgM E Int := fun pg =>
  (.ret rc, pg.closeSession)

/-- The running transaction performs some work and returns. -/
def perform (effects : List E) : PgM E Unit :=
  fun pg => (.ret (), pg.work effects)

end PgTransport.Postgres
