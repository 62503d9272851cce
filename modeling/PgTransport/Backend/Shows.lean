import PgTransport.Backend.Outcome
import PgTransport.Transaction.Books

/-!
# What the backend state shows of the books

The transaction state of a backend that waits for a command, or stands between
two statements of an implicit block, shows a set of books.  The lemmas here
carry the books through each of the server calls that the loops are made of.
-/

namespace PgTransport.Backend

open PgTransport.Computation
open PgTransport.Postgres
open PgTransport.Transaction
open PgTransport.Wire

variable {E : Type}

/-- The block state of a phase. -/
def blockStateOf : Phase → TBlockState
  | .outside => .default
  | .implicit => .implicitInprogress
  | .explicit => .inprogress
  | .failed => .abort

/-- The books of a running transaction, in a given phase. -/
def booksIn (phase : Phase) (xact : Xact E) : Books E where
  phase := phase
  levels := xact.savepoints.map Savepoint.mark
  pending := xact.pending
  committed := xact.committed
  rolledBack := xact.rolledBack

/-- The transaction state shows these books. -/
inductive Shows (xact : Xact E) : Books E → Prop where
  | outside (state : xact.blockState = .default) :
      Shows xact ⟨.outside, [], [], xact.committed, xact.rolledBack⟩
  | inside (phase : Phase) (entered : phase ≠ .outside)
      (state : xact.blockState = blockStateOf phase) : Shows xact (booksIn phase xact)

/-- The books of a session between two commands. -/
def booksOf (xact : Xact E) : Books E :=
  match xact.blockState with
  | .default => ⟨.outside, [], [], xact.committed, xact.rolledBack⟩
  | .implicitInprogress => booksIn .implicit xact
  | .abort => booksIn .failed xact
  | _ => booksIn .explicit xact

/-- The state after `StartTransactionCommand` and
`BeginImplicitTransactionBlock`. -/
def enterImplicit (pg : Pg E) : Pg E :=
  match pg.xact.blockState with
  | .default => pg.mapXact fun xact =>
      { xact.startTransaction with blockState := .implicitInprogress }
  | _ => pg

namespace Shows

variable {xact : Xact E} {books : Books E} {phase : Phase}

theorem phase_eq (shown : Shows xact books) :
    xact.blockState = blockStateOf books.phase := by
  cases shown with
  | outside state => exact state
  | inside phase _ state => exact state

theorem blockState_eq_abort_iff (shown : Shows xact books) :
    xact.blockState = .abort ↔ books.phase = .failed := by
  rw [shown.phase_eq]
  cases books.phase <;> simp [blockStateOf]

theorem committed_eq (shown : Shows xact books) : books.committed = xact.committed := by
  cases shown <;> rfl

theorem pending_eq (shown : Shows xact books) (entered : books.phase ≠ .outside) :
    xact.pending = books.pending := by
  cases shown with
  | outside => exact absurd rfl entered
  | inside => rfl

/-- The state determines the books it shows. -/
theorem booksOf_eq (shown : Shows xact books) : booksOf xact = books := by
  cases shown with
  | outside state => simp only [booksOf, state]
  | inside phase entered state =>
      cases phase with
      | outside => exact absurd rfl entered
      | implicit | explicit | failed => simp only [booksOf, state, blockStateOf]

/-- Inside a transaction the books are determined by their phase. -/
theorem eq_booksIn (shown : Shows xact books) (entered : books.phase ≠ .outside) :
    books = booksIn books.phase xact := by
  cases shown with
  | outside => exact absurd rfl entered
  | inside => rfl

/-- Nothing the books record is changed by another field of the state. -/
theorem congr {other : Xact E} (shown : Shows xact books)
    (state : other.blockState = xact.blockState)
    (savepoints : other.savepoints = xact.savepoints)
    (pending : other.pending = xact.pending)
    (committed : other.committed = xact.committed)
    (rolledBack : other.rolledBack = xact.rolledBack) : Shows other books := by
  cases shown with
  | outside default =>
      rw [← committed, ← rolledBack]
      exact .outside (state.trans default)
  | inside phase entered here =>
      have same : booksIn phase xact = booksIn phase other := by
        simp [booksIn, savepoints, pending, committed, rolledBack]
      rw [same]
      exact .inside phase entered (state.trans here)

theorem enter {pg : Pg E} (shown : Shows pg.xact books) :
    Shows (enterImplicit pg).xact books.enter := by
  cases shown with
  | outside state =>
      simp only [enterImplicit, state, Books.enter]
      exact .inside .implicit (by simp) rfl
  | inside phase entered state =>
      cases phase with
      | outside => exact absurd rfl entered
      | implicit | explicit | failed =>
          simp only [enterImplicit, state, blockStateOf]
          exact .inside _ (by simp) state

/-- Work is done in a transaction. -/
theorem perform (shown : Shows xact books) (entered : books.phase ≠ .outside)
    (effects : List E) : Shows (xact.work effects) (books.perform effects) := by
  cases shown with
  | outside => exact absurd rfl entered
  | inside phase _ state => exact .inside phase entered state

/-- A transaction that commits. -/
theorem commit (shown : Shows xact books) (entered : books.phase ≠ .outside) :
    Shows xact.commitTransaction books.commit := by
  cases shown with
  | outside => exact absurd rfl entered
  | inside => exact .outside rfl

/-- A transaction that is rolled back. -/
theorem rollback (shown : Shows xact books) (entered : books.phase ≠ .outside) :
    Shows xact.rollback books.rollback := by
  cases shown with
  | outside => exact absurd rfl entered
  | inside => exact .outside rfl

/-- The innermost level of an explicit block is aborted. -/
theorem abortLevel (shown : Shows xact books) (block : books.phase = .explicit) :
    Shows xact.abortLevel books.abandon := by
  cases shown with
  | outside => cases block
  | inside phase entered state =>
      have mark : (xact.savepoints.map Savepoint.mark).headD 0 = xact.levelMark := by
        unfold Xact.levelMark
        cases xact.savepoints <;> rfl
      cases block
      have after : (booksIn .explicit xact).abandon = booksIn .failed xact.abortLevel := by
        simp only [Books.abandon, booksIn, Xact.abortLevel, Xact.discard, mark]
      rw [after]
      exact .inside .failed (by simp) rfl

/-- `AbortCurrentTransaction` abandons the books. -/
theorem abortCurrent {pg : Pg E} (shown : Shows pg.xact books) :
    Shows pg.abortCurrent.xact books.abandon := by
  have state := shown.phase_eq
  cases here : books.phase with
  | outside | failed =>
      rw [here] at state
      simpa only [Pg.abortCurrent, state, blockStateOf, Books.abandon, here] using shown
  | implicit =>
      rw [here] at state
      simp only [Pg.abortCurrent, state, blockStateOf, Books.abandon, here]
      exact shown.rollback (by simp [here])
  | explicit =>
      rw [here] at state
      simp only [Pg.abortCurrent, state, blockStateOf]
      exact shown.abortLevel here

end Shows

end PgTransport.Backend
