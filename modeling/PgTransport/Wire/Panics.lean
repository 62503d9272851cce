import PgTransport.Wire.Types

/-!
# Caught errors

An error reaches the wire from one of two catch mechanisms.  `catch_unwind`
delivers a payload of some type, the try block of `raw_parser` a `CaughtError`.
Both end in the report that PG filled in, whose SQLSTATE pgrx keeps as an
enumeration value.
-/

namespace PgTransport.Wire

open PgTransport.Postgres

/-- `PgSqlErrorCode`: the SQLSTATEs that pgrx lists, each with the name of its
variant.  The variants have the names of PG's macros. -/
structure PgSqlErrorCode where
  variants : List (String × String)
  macroNames : ∀ variant ∈ variants, "ERRCODE_".toList <+: variant.2.toList

/-- The name of the variant that a SQLSTATE is converted to, which is what the
derived `Debug` prints.  One that is not listed is an internal error. -/
def PgSqlErrorCode.debug (codes : PgSqlErrorCode) (sqlstate : String) : String :=
  match codes.variants.find? fun variant => variant.1 == sqlstate with
  | some variant => variant.2
  | none => "ERRCODE_INTERNAL_ERROR"

/-- A PG `ERROR` with its SQLSTATE, whether built in or chosen by a user. -/
structure PgError where
  level : String
  sqlstate : String
  message : String
  five : sqlstate.length = 5

/-- The report pgrx makes of an error, as it is printed. -/
def PgError.report (codes : PgSqlErrorCode) (error : PgError) : ErrorReport :=
  ⟨error.level, codes.debug error.sqlstate, error.message⟩

/-- `CaughtError`. -/
inductive CaughtError where
  | postgresError (report : ErrorReport)
  | errorReport (report : ErrorReport)
  | rustPanic (ereport : ErrorReport)
  deriving DecidableEq, Repr

/-- `extract_report`. -/
def extractReport : CaughtError → ErrorReport
  | .postgresError report => report
  | .errorReport report => report
  | .rustPanic ereport => ereport

/-- `caught_error_to_pgwire`. -/
def caughtErrorToPgwire (caught : CaughtError) : PgWireError :=
  errorReportToPgwire (extractReport caught)

/-- The types of payload that `panic_to_pgwire` tells apart. -/
inductive PanicPayload where
  | caughtError (caught : CaughtError)
  | errorReportWithLevel (report : ErrorReport)
  | string (text : String)
  | str (text : String)
  | unknown
  deriving DecidableEq, Repr

/-- `panic_to_pgwire` with its downcasts. -/
def PanicPayload.toPgwire : PanicPayload → PgWireError
  | .caughtError caught => errorReportToPgwire (extractReport caught)
  | .errorReportWithLevel report => errorReportToPgwire report
  | .string text => genericError "pg_transport panic" text
  | .str text => genericError "pg_transport panic" text
  | .unknown => genericError "pg_transport" "unknown panic payload"

/-- The payload as it unwinds through the model of the backend, which does not
tell the types of a report or of a message apart. -/
def PanicPayload.payload : PanicPayload → Option Payload
  | .caughtError caught => some (.caughtError (extractReport caught))
  | .errorReportWithLevel report => some (.caughtError report)
  | .string text => some (.message text)
  | .str text => some (.message text)
  | .unknown => none

theorem PanicPayload.toPgwire_of_payload {panic : PanicPayload} {payload : Payload}
    (known : panic.payload = some payload) : panic.toPgwire = panicToPgwire payload := by
  cases panic <;> cases known <;> rfl

/-- Every printed code starts as the macro names do. -/
theorem PgSqlErrorCode.debug_prefix (codes : PgSqlErrorCode) (sqlstate : String) :
    "ERRCODE_".toList <+: (codes.debug sqlstate).toList := by
  unfold debug
  split
  · next variant found => exact codes.macroNames variant (List.mem_of_find?_eq_some found)
  · decide

/-- A printed code is longer than a SQLSTATE. -/
theorem PgSqlErrorCode.debug_ne_sqlstate (codes : PgSqlErrorCode) (error : PgError) :
    codes.debug error.sqlstate ≠ error.sqlstate := by
  intro same
  have longer := (codes.debug_prefix error.sqlstate).length_le
  simp only [same, String.length_toList, error.five] at longer
  exact absurd longer (by decide)

end PgTransport.Wire
