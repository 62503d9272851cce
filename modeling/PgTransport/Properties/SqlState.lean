import PgTransport.Backend.Bracket
import PgTransport.Wire.Panics

/-!
# The SQLSTATE of an error

Errors that the bridge builds itself carry a SQLSTATE.  An error that PG raises
carries the name of the variant that pgrx keeps for its SQLSTATE: never the
SQLSTATE, and the same name for all that pgrx does not list.
-/

namespace PgTransport.Properties

open PgTransport.Backend
open PgTransport.Computation
open PgTransport.Postgres
open PgTransport.Wire

/-- Whichever way the error is caught, its answer has the SQLSTATE for a code. -/
def KeepsSqlState (codes : PgSqlErrorCode) (error : PgError) : Prop :=
  (∀ caught, extractReport caught = error.report codes →
    (caughtErrorToPgwire caught).sqlstate = error.sqlstate) ∧
  ∀ panic : PanicPayload, panic.payload = some (.caughtError (error.report codes)) →
    panic.toPgwire.sqlstate = error.sqlstate

/-- No way of catching an error answers with its SQLSTATE. -/
theorem sqlstate_never_kept (codes : PgSqlErrorCode) (error : PgError) :
    (∀ caught, extractReport caught = error.report codes →
      (caughtErrorToPgwire caught).sqlstate ≠ error.sqlstate) ∧
    ∀ panic : PanicPayload, panic.payload = some (.caughtError (error.report codes)) →
      panic.toPgwire.sqlstate ≠ error.sqlstate := by
  have printed := codes.debug_ne_sqlstate error
  constructor
  · intro caught report
    rw [caughtErrorToPgwire, report]
    exact printed
  · intro panic report
    rw [PanicPayload.toPgwire_of_payload report]
    exact printed

/-- Errors with SQLSTATEs that pgrx does not list cannot be told apart. -/
theorem unlisted_alike (codes : PgSqlErrorCode) {sqlstate : String}
    (unlisted : ∀ variant ∈ codes.variants, variant.1 ≠ sqlstate) :
    codes.debug sqlstate = "ERRCODE_INTERNAL_ERROR" := by
  have missing : codes.variants.find? (fun variant => variant.1 == sqlstate) = none := by
    simpa using unlisted
  simp [PgSqlErrorCode.debug, missing]

/-- An error raised in the body of a bracket is answered with the name of its
variant. -/
theorem withXact_answers_printed {E α : Type} {needsSnapshot : Bool}
    {finish : Option ErrorReport} {body : PgM E (PgWireResult α)} {pg inside after : Pg E}
    (codes : PgSqlErrorCode) (error : PgError)
    (enter : (do startTransactionCommand; pushIfNeeded needsSnapshot) pg = (.ret (), inside))
    (raised : body inside = (.unwind (.caughtError (error.report codes)), after)) :
    withXact needsSnapshot finish body pg =
      (.ret (.error ⟨error.level, codes.debug error.sqlstate, error.message⟩),
        after.abortCurrent) := by
  rw [withXact_of_enter enter, raised]
  rfl

/-! ## A unique violation -/

/-- Two of the codes that pgrx lists. -/
def someCodes : PgSqlErrorCode where
  variants := [("23505", "ERRCODE_UNIQUE_VIOLATION"),
    ("40001", "ERRCODE_T_R_SERIALIZATION_FAILURE")]
  macroNames := by decide

/-- `duplicate key value violates unique constraint`. -/
def uniqueViolation : PgError where
  level := "ERROR"
  sqlstate := "23505"
  message := "duplicate key value violates unique constraint"
  five := by decide

/-- The violation as it is caught. -/
def caughtViolation : CaughtError :=
  .postgresError (uniqueViolation.report someCodes)

/-- It does not arrive as `23505`. -/
theorem uniqueViolation_lost :
    (caughtErrorToPgwire caughtViolation).sqlstate ≠ "23505" ∧
      (PanicPayload.caughtError caughtViolation).toPgwire.sqlstate ≠ "23505" :=
  ⟨(sqlstate_never_kept someCodes uniqueViolation).1 caughtViolation rfl,
    (sqlstate_never_kept someCodes uniqueViolation).2 (.caughtError caughtViolation) rfl⟩

/-- Errors do not keep their SQLSTATE. -/
theorem uniqueViolation_not_kept :
    ¬∀ codes error, KeepsSqlState codes error := by
  intro always
  have kept := (always someCodes uniqueViolation).1 caughtViolation rfl
  revert kept
  decide

end PgTransport.Properties
