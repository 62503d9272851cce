import PgTransport.Auth.Scram

/-!
# Stored credentials

A role's credential is read from `pg_authid` in a transaction of its own and
classified by its format.  The catalog is a function from role names to their
rows; whether the read gets through, and where it fails if it does not, is an
input of the lookup.
-/

namespace PgTransport.Auth

open PgTransport.Encoding

/-- `RolPassword`. -/
inductive RolPassword where
  | none
  | scram (verifier : ScramVerifier)
  | md5 (hex : Text)
  | unknownRole
  | unsupported
  deriving DecidableEq

/-! ## Verifier strings -/

/-- `str::split_once`. -/
def splitOnce (separator : Char) : Text → Option (Text × Text)
  | [] => none
  | char :: rest =>
      if char = separator then
        some ([], rest)
      else
        (splitOnce separator rest).map fun halves => (char :: halves.1, halves.2)

/-- `str::strip_prefix`. -/
def stripPrefix (start text : Text) : Option Text :=
  if start.isPrefixOf text then some (text.drop start.length) else none

/-- `u32::from_str`: an optional plus sign and at least one digit, without
overflow. -/
def parseU32 (text : Text) : Option UInt32 :=
  let digits := match text with
    | '+' :: rest => rest
    | other => other
  if digits = [] ∨ ¬digits.all Char.isDigit then
    none
  else
    let value := digits.foldl (fun value digit => 10 * value + (digit.toNat - '0'.toNat)) 0
    if value < UInt32.size then some (.ofNat value) else none

/-- `char::is_ascii_hexdigit`. -/
def isAsciiHexdigit (char : Char) : Bool :=
  char.isDigit || ('a' ≤ char && char ≤ 'f') || ('A' ≤ char && char ≤ 'F')

/-- `parse_scram`. -/
def parseScram (base64 : Codec) (body : Text) : Option ScramVerifier := do
  let (left, right) ← splitOnce '$' body
  let (itersStr, saltB64) ← splitOnce ':' left
  let (storedB64, serverB64) ← splitOnce ':' right
  let iterations ← parseU32 itersStr
  let salt ← base64.decode saltB64
  let storedKey ← base64.decode storedB64
  let serverKey ← base64.decode serverB64
  if iterations < 4096 ∨ storedKey.length ≠ 32 ∨ serverKey.length ≠ 32 then
    none
  else
    some ⟨iterations, salt, storedKey, serverKey⟩

/-- `parse_verifier`. -/
def parseVerifier (base64 : Codec) (text : Text) : RolPassword :=
  match stripPrefix "SCRAM-SHA-256$".toList text with
  | some rest => ((parseScram base64 rest).map .scram).getD .unsupported
  | none =>
      match stripPrefix "md5".toList text with
      | some rest =>
          if (asBytes rest).length = 32 ∧ rest.all isAsciiHexdigit then
            .md5 rest
          else
            .unsupported
      | none => .unsupported

/-! ## Reading the catalog -/

/-- Where a read of the catalog fails. -/
inductive ReadFailure where
  | update (err : String)
  | getter (err : String)
  | panic
  deriving DecidableEq

/-- The catalog as one lookup finds it: its rows, and what fails of the read and
of the transaction around it. -/
structure Catalog where
  pgAuthid : Text → Option (Option Text)
  failure : Option ReadFailure
  opens : Bool
  closes : Bool

/-- `spi_load`; `none` is a panic. -/
def spiLoad (base64 : Codec) (catalog : Catalog) (role : Text) :
    Option (Except String RolPassword) :=
  match catalog.failure, catalog.pgAuthid role with
  | some .panic, _ => none
  | some (.update err), _ =>
      some (.error ("auth: SPI failure during pg_authid lookup: " ++ err))
  | _, none => some (.ok .unknownRole)
  | some (.getter err), some _ => some (.error ("auth: SPI getter failed: " ++ err))
  | none, some none => some (.ok .none)
  | none, some (some text) => some (.ok (parseVerifier base64 text))

/-- `load_rolpassword`.  The calls around the read are outside of its
`catch_unwind`, so that a failure there unwinds into the caller. -/
def loadRolpassword (base64 : Codec) (catalog : Catalog) (role : Text) :
    Option (Except String RolPassword) :=
  if !catalog.opens then
    none
  else
    let outcome := (spiLoad base64 catalog role).getD
      (.error "auth: pg_authid lookup failed (internal error)")
    if catalog.closes then some outcome else none

/-- What `HbaLookup` passes on. -/
structure HbaLookup where
  user : Text
  database : Text
  deriving DecidableEq

/-- `hba::lookup`. -/
def lookup (base64 : Codec) (catalog : Catalog) (input : HbaLookup) : Option RolPassword :=
  (loadRolpassword base64 catalog input.user).map fun outcome =>
    match outcome with
    | .ok password => password
    | .error _ => .unsupported

/-! ## What a lookup returns -/

/-- A string is never classified as a missing credential or a missing role. -/
theorem parseVerifier_stored (base64 : Codec) (text : Text) :
    parseVerifier base64 text ≠ .none ∧ parseVerifier base64 text ≠ .unknownRole := by
  unfold parseVerifier
  split
  · next rest _ => cases parseScram base64 rest <;> simp
  · split
    · split <;> simp
    · simp

/-- A verifier that was read is within the bounds of its format. -/
theorem bounds_of_parseScram {base64 : Codec} {body : Text} {verifier : ScramVerifier}
    (parsed : parseScram base64 body = some verifier) :
    4096 ≤ verifier.iterations ∧ verifier.storedKey.length = 32 ∧
      verifier.serverKey.length = 32 := by
  simp only [parseScram, bind, Option.bind_eq_some_iff] at parsed
  obtain ⟨_, _, _, _, _, _, iterations, _, _, _, stored, _, server, _, made⟩ := parsed
  split at made
  · cases made
  · next inside =>
    cases made
    simp only [not_or, UInt32.not_lt, not_not] at inside
    exact inside

/-- The read gets an answer for this role; the getter is only asked where there
is a row. -/
def Catalog.Answers (catalog : Catalog) (role : Text) : Prop :=
  catalog.opens = true ∧ catalog.closes = true ∧
    match catalog.failure with
    | none => True
    | some (.getter _) => catalog.pgAuthid role = none
    | some _ => False

/-- What a lookup returns: what the catalog says where it gets an answer, and
otherwise nothing but an unsupported credential. -/
theorem lookup_cases (base64 : Codec) (catalog : Catalog) (input : HbaLookup) :
    (catalog.Answers input.user ∧ lookup base64 catalog input =
      some (match catalog.pgAuthid input.user with
        | none => .unknownRole
        | some none => .none
        | some (some text) => parseVerifier base64 text)) ∨
    (¬catalog.Answers input.user ∧ (lookup base64 catalog input = some .unsupported ∨
      lookup base64 catalog input = none)) := by
  obtain ⟨pgAuthid, failure, opens, closes⟩ := catalog
  cases opens with
  | false => right; simp [Catalog.Answers, lookup, loadRolpassword]
  | true =>
  cases closes with
  | false => right; simp [Catalog.Answers, lookup, loadRolpassword]
  | true =>
  cases row : pgAuthid input.user with
  | none =>
      rcases failure with _ | (err | err | _) <;>
        simp [Catalog.Answers, lookup, loadRolpassword, spiLoad, row]
  | some stored =>
      rcases failure with _ | (err | err | _) <;> cases stored <;>
        simp [Catalog.Answers, lookup, loadRolpassword, spiLoad, row]

/-- A lookup finds no credential to ask for exactly if it gets an answer and the
role is missing or has no password. -/
theorem lookup_open_iff (base64 : Codec) (catalog : Catalog) (input : HbaLookup) :
    (lookup base64 catalog input = some .none ∨
        lookup base64 catalog input = some .unknownRole) ↔
      catalog.Answers input.user ∧
        (catalog.pgAuthid input.user = none ∨ catalog.pgAuthid input.user = some none) := by
  rcases lookup_cases base64 catalog input with ⟨answers, found⟩ | ⟨silent, found | found⟩
  · rw [found, and_iff_right answers]
    cases row : catalog.pgAuthid input.user with
    | none => simp
    | some stored =>
        cases stored with
        | none => simp
        | some text => simp [parseVerifier_stored base64 text]
  · simp [found, silent]
  · simp [found, silent]

end PgTransport.Auth
