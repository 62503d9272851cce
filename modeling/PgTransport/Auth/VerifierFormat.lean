import PgTransport.Auth.Verifier

/-!
# The format of stored verifiers

What PostgreSQL writes for a SCRAM verifier, and which texts the parsers of its parts
accept: a text splits at the first separator, and an iteration count is a number in
decimal digits behind an optional plus sign.
-/

namespace PgTransport.Auth

open PgTransport.Encoding

/-! ## The text of a verifier -/

/-- The body of a verifier whose iteration count is written as `iterations`. -/
def ScramVerifier.body (base64 : Codec) (verifier : ScramVerifier) (iterations : Text) : Text :=
  iterations ++ ':' :: base64.encode verifier.salt ++
    '$' :: (base64.encode verifier.storedKey ++ ':' :: base64.encode verifier.serverKey)

/-- The text of such a verifier. -/
def ScramVerifier.textWith (base64 : Codec) (verifier : ScramVerifier) (iterations : Text) :
    Text :=
  "SCRAM-SHA-256$".toList ++ verifier.body base64 iterations

/-- `SCRAM-SHA-256$<iters>:<salt>$<stored_key>:<server_key>`. -/
def ScramVerifier.text (base64 : Codec) (verifier : ScramVerifier) : Text :=
  verifier.textWith base64 (Nat.toDigits 10 verifier.iterations.toNat)

/-- The iteration count and the keys are within the bounds of the format. -/
structure ScramVerifier.Valid (verifier : ScramVerifier) : Prop where
  iterations : 4096 ≤ verifier.iterations
  storedKey : verifier.storedKey.length = 32
  serverKey : verifier.serverKey.length = 32

/-- A number in decimal digits, behind a plus sign or not. -/
def IsDecimal (text : Text) (value : UInt32) : Prop :=
  ∃ digits, (text = digits ∨ text = '+' :: digits) ∧ digits ≠ [] ∧
    (∀ char ∈ digits, char.isDigit = true) ∧ Nat.ofDigitChars 10 digits 0 = value.toNat

/-- Thirty-two hexadecimal digits. -/
def IsMd5Hex (hex : Text) : Prop :=
  hex.length = 32 ∧ ∀ char ∈ hex, isAsciiHexdigit char = true

/-! ## Splitting -/

/-- A text splits at the first separator. -/
theorem splitOnce_eq_some_iff {separator : Char} {text first second : Text} :
    splitOnce separator text = some (first, second) ↔
      text = first ++ separator :: second ∧ separator ∉ first := by
  induction text generalizing first with
  | nil => simp [splitOnce]
  | cons char rest inductionHypothesis =>
      rw [splitOnce]
      by_cases here : char = separator
      · rw [if_pos here, here]
        constructor
        · intro split
          cases split
          exact ⟨rfl, List.not_mem_nil⟩
        · rintro ⟨same, absent⟩
          cases first with
          | nil => exact congrArg (fun rest => some (_, rest)) (List.cons.inj same).2
          | cons other first =>
              rw [List.cons_append] at same
              exact absurd (List.mem_cons.mpr (.inl (List.cons.inj same).1)) absent
      · rw [if_neg here, Option.map_eq_some_iff]
        constructor
        · rintro ⟨⟨early, late⟩, split, made⟩
          cases made
          obtain ⟨same, absent⟩ := inductionHypothesis.mp split
          constructor
          · rw [same]
            rfl
          · intro member
            rcases List.mem_cons.mp member with first | later
            · exact here first.symm
            · exact absent later
        · rintro ⟨same, absent⟩
          cases first with
          | nil => exact absurd (List.cons.inj same).1 here
          | cons other first =>
              obtain ⟨rfl, later⟩ := List.cons.inj same
              exact ⟨(first, second), inductionHypothesis.mpr
                ⟨later, fun member => absent (List.mem_cons_of_mem _ member)⟩, rfl⟩

theorem splitOnce_append {separator : Char} {first : Text} (absent : separator ∉ first)
    (second : Text) : splitOnce separator (first ++ separator :: second) = some (first, second) :=
  splitOnce_eq_some_iff.mpr ⟨rfl, absent⟩

theorem stripPrefix_eq_some_iff {start text rest : Text} :
    stripPrefix start text = some rest ↔ text = start ++ rest := by
  unfold stripPrefix
  split
  · next starts =>
    rw [List.isPrefixOf_iff_prefix, List.prefix_iff_eq_append] at starts
    rw [Option.some.injEq]
    constructor
    · rintro rfl
      exact starts.symm
    · rintro rfl
      exact List.drop_left
  · next other =>
    constructor
    · intro impossible
      cases impossible
    · rintro rfl
      exact absurd (List.isPrefixOf_iff_prefix.mpr (List.prefix_append start rest)) other

/-! ## Iteration counts -/

/-- The digits behind a plus sign. -/
def unsigned (text : Text) : Text :=
  match text with
  | '+' :: rest => rest
  | other => other

theorem parseU32_eq (text : Text) :
    parseU32 text =
      if unsigned text = [] ∨ ¬(unsigned text).all Char.isDigit then none
      else if Nat.ofDigitChars 10 (unsigned text) 0 < UInt32.size then
        some (.ofNat (Nat.ofDigitChars 10 (unsigned text) 0))
      else none :=
  rfl

theorem unsigned_of_digits {digits : Text} (all : ∀ char ∈ digits, char.isDigit = true) :
    unsigned digits = digits := by
  cases digits with
  | nil => rfl
  | cons char rest =>
      have digit := all char List.mem_cons_self
      unfold unsigned
      split
      · next same =>
        rw [(List.cons.inj same).1] at digit
        exact absurd digit (by decide)
      · rfl

theorem unsigned_cases (text : Text) : text = unsigned text ∨ text = '+' :: unsigned text := by
  unfold unsigned
  split
  · exact .inr rfl
  · exact .inl rfl

/-- The parser of `u32` accepts decimal numbers. -/
theorem parseU32_eq_some_iff {text : Text} {value : UInt32} :
    parseU32 text = some value ↔ IsDecimal text value := by
  rw [parseU32_eq]
  constructor
  · intro parsed
    split at parsed
    · cases parsed
    · next digits =>
      rw [not_or, not_not] at digits
      split at parsed
      · next small =>
        cases parsed
        refine ⟨unsigned text, unsigned_cases text, digits.1, List.all_eq_true.mp digits.2, ?_⟩
        rw [UInt32.toNat_ofNat_of_lt' small]
      · cases parsed
  · rintro ⟨digits, sign, nonempty, all, denotes⟩
    have stripped : unsigned text = digits := by
      rcases sign with rfl | rfl
      · exact unsigned_of_digits all
      · rfl
    have small : value.toNat < UInt32.size := value.toNat_lt
    rw [stripped, if_neg, denotes, if_pos small, UInt32.ofNat_toNat]
    rw [not_or, not_not]
    exact ⟨nonempty, List.all_eq_true.mpr all⟩

theorem isDecimal_toDigits (value : UInt32) :
    IsDecimal (Nat.toDigits 10 value.toNat) value :=
  ⟨_, .inl rfl, Nat.toDigits_ne_nil,
    fun _ member => Nat.isDigit_of_mem_toDigits (by decide) (by decide) member,
    Nat.ofDigitChars_ten_toDigits⟩

/-- A decimal number has no separators. -/
theorem not_mem_of_isDecimal {text : Text} {value : UInt32} (decimal : IsDecimal text value)
    {char : Char} (noDigit : char.isDigit = false) (noSign : char ≠ '+') : char ∉ text := by
  obtain ⟨digits, sign, _, all, _⟩ := decimal
  have absent : char ∉ digits := by
    intro member
    exact absurd (all char member) (by rw [noDigit]; decide)
  rcases sign with rfl | rfl
  · exact absent
  · intro member
    rcases List.mem_cons.mp member with same | later
    · exact noSign same
    · exact absent later

/-! ## Hexadecimal digits -/

/-- A text of characters of one byte has as many bytes as characters. -/
theorem length_asBytes {text : Text} (single : ∀ char ∈ text, char.utf8Size = 1) :
    (asBytes text).length = text.length := by
  have whole : asBytes text = text.flatMap String.utf8EncodeChar := by
    rw [asBytes, String.toUTF8_eq_toByteArray, String.toByteArray_ofList, List.utf8Encode]
    exact List.data_toByteArray ▸ rfl
  rw [whole]
  clear whole
  induction text with
  | nil => rfl
  | cons char text inductionHypothesis =>
      rw [List.forall_mem_cons] at single
      rw [List.flatMap_cons, List.length_append, inductionHypothesis single.2,
        String.length_utf8EncodeChar, single.1, List.length_cons, Nat.add_comm]

/-- A hexadecimal digit takes one byte. -/
theorem utf8Size_of_isAsciiHexdigit {char : Char} (digit : isAsciiHexdigit char = true) :
    char.utf8Size = 1 := by
  rw [Char.utf8Size_eq_one_iff]
  simp only [isAsciiHexdigit, Char.isDigit, Bool.or_eq_true, Bool.and_eq_true,
    decide_eq_true_eq] at digit
  rcases digit with (⟨_, high⟩ | ⟨_, high⟩) | ⟨_, high⟩
  · exact UInt32.le_trans high (by decide)
  · exact UInt32.le_trans (Char.le_def.mp high) (by decide)
  · exact UInt32.le_trans (Char.le_def.mp high) (by decide)

theorem isMd5Hex_iff {hex : Text} :
    ((asBytes hex).length = 32 ∧ hex.all isAsciiHexdigit) ↔ IsMd5Hex hex := by
  rw [IsMd5Hex, ← List.all_eq_true]
  apply and_congr_left
  intro digits
  rw [length_asBytes]
  intro char listed
  exact utf8Size_of_isAsciiHexdigit (List.all_eq_true.mp digits char listed)

end PgTransport.Auth
