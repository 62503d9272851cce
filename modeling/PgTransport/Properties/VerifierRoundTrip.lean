import PgTransport.Auth.VerifierFormat

/-!
# Reading back stored verifiers

A text is classified as a SCRAM verifier exactly if it is the text of a valid one, but for
the digits of its iteration count, and as an MD5 credential exactly if it is `md5` and
thirty-two hexadecimal digits.
-/

namespace PgTransport.Properties

open PgTransport.Auth
open PgTransport.Encoding

variable {base64 : StrictCodec} {verifier : ScramVerifier}

/-- What is read of a body is a valid verifier whose parts the body consists of. -/
theorem body_of_parseScram {body : Text}
    (parsed : parseScram base64.toCodec body = some verifier) :
    verifier.Valid ∧ ∃ iterations, IsDecimal iterations verifier.iterations ∧
      body = verifier.body base64.toCodec iterations := by
  obtain ⟨enough, stored, server⟩ := bounds_of_parseScram parsed
  simp only [parseScram, bind, Option.bind_eq_some_iff] at parsed
  obtain ⟨⟨left, right⟩, outer, ⟨iterations, saltB64⟩, inner, ⟨storedB64, serverB64⟩, keys,
    count, number, salt, saltRead, storedKey, storedRead, serverKey, serverRead, made⟩ := parsed
  split at made
  · contradiction
  · rw [Option.some.injEq] at made
    subst made
    obtain ⟨rfl, _⟩ := splitOnce_eq_some_iff.mp outer
    obtain ⟨rfl, _⟩ := splitOnce_eq_some_iff.mp inner
    obtain ⟨rfl, _⟩ := splitOnce_eq_some_iff.mp keys
    obtain rfl := base64.canonical _ _ saltRead
    obtain rfl := base64.canonical _ _ storedRead
    obtain rfl := base64.canonical _ _ serverRead
    constructor
    · exact ⟨enough, stored, server⟩
    · exact ⟨iterations, parseU32_eq_some_iff.mp number, rfl⟩

/-- The body of a text of a valid verifier is read back. -/
theorem parseScram_body (valid : verifier.Valid) {iterations : Text}
    (decimal : IsDecimal iterations verifier.iterations) :
    parseScram base64.toCodec (verifier.body base64.toCodec iterations) = some verifier := by
  have noDollar := @not_mem_of_isDecimal _ _ decimal '$' (by decide) (by decide)
  have noColon := @not_mem_of_isDecimal _ _ decimal ':' (by decide) (by decide)
  have left : '$' ∉ iterations ++ ':' :: base64.encode verifier.salt := by
    simp [noDollar, base64.dollar_free]
  have inside : ¬(verifier.iterations < 4096 ∨ verifier.storedKey.length ≠ 32 ∨
      verifier.serverKey.length ≠ 32) := by
    rw [not_or, not_or, not_not, not_not, UInt32.not_lt]
    exact ⟨valid.iterations, valid.storedKey, valid.serverKey⟩
  simp only [parseScram, ScramVerifier.body, bind, splitOnce_append left, splitOnce_append noColon,
    splitOnce_append (base64.colon_free _), parseU32_eq_some_iff.mpr decimal,
    base64.decode_encode, Option.bind_some, if_neg inside]

/-- The texts that are classified as a SCRAM verifier. -/
theorem parseVerifier_eq_scram_iff {text : Text} :
    parseVerifier base64.toCodec text = .scram verifier ↔
      verifier.Valid ∧ ∃ iterations, IsDecimal iterations verifier.iterations ∧
        text = verifier.textWith base64.toCodec iterations := by
  constructor
  · intro parsed
    unfold parseVerifier at parsed
    split at parsed
    · next body stripped =>
      cases read : parseScram base64.toCodec body with
      | none =>
          rw [read] at parsed
          cases parsed
      | some found =>
          rw [read] at parsed
          cases parsed
          obtain ⟨valid, iterations, decimal, same⟩ := body_of_parseScram read
          refine ⟨valid, iterations, decimal, ?_⟩
          rw [stripPrefix_eq_some_iff.mp stripped, same]
          rfl
    · split at parsed
      · split at parsed <;> cases parsed
      · cases parsed
  · rintro ⟨valid, iterations, decimal, rfl⟩
    have stripped : stripPrefix "SCRAM-SHA-256$".toList
        (verifier.textWith base64.toCodec iterations) = some (verifier.body base64.toCodec
          iterations) := stripPrefix_eq_some_iff.mpr rfl
    simp only [parseVerifier, stripped, parseScram_body valid decimal]
    rfl

/-- The texts that are classified as an MD5 credential. -/
theorem parseVerifier_eq_md5_iff {text hex : Text} :
    parseVerifier base64.toCodec text = .md5 hex ↔ text = "md5".toList ++ hex ∧ IsMd5Hex hex := by
  constructor
  · intro parsed
    unfold parseVerifier at parsed
    split at parsed
    · next body stripped =>
      cases read : parseScram base64.toCodec body with
      | none =>
          rw [read] at parsed
          cases parsed
      | some found =>
          rw [read] at parsed
          cases parsed
    · split at parsed
      · next rest stripped =>
        split at parsed
        · next digits =>
          cases parsed
          exact ⟨stripPrefix_eq_some_iff.mp stripped, isMd5Hex_iff.mp digits⟩
        · cases parsed
      · cases parsed
  · rintro ⟨rfl, digits⟩
    have other : stripPrefix "SCRAM-SHA-256$".toList ("md5".toList ++ hex) = none := by
      unfold stripPrefix
      rw [if_neg]
      simp
    have stripped : stripPrefix "md5".toList ("md5".toList ++ hex) = some hex :=
      stripPrefix_eq_some_iff.mpr rfl
    simp only [parseVerifier, other, stripped, if_pos (isMd5Hex_iff.mpr digits)]

/-- Verifiers are read back from their texts; a text is classified as a SCRAM verifier or
an MD5 credential exactly if it has the format of one, and as unsupported else. -/
theorem verifier_round_trip (base64 : StrictCodec) :
    (∀ verifier : ScramVerifier, verifier.Valid →
      parseVerifier base64.toCodec (verifier.text base64.toCodec) = .scram verifier) ∧
    (∀ text verifier, parseVerifier base64.toCodec text = .scram verifier ↔
      verifier.Valid ∧ ∃ iterations, IsDecimal iterations verifier.iterations ∧
        text = verifier.textWith base64.toCodec iterations) ∧
    (∀ text hex, parseVerifier base64.toCodec text = .md5 hex ↔
      text = "md5".toList ++ hex ∧ IsMd5Hex hex) ∧
    ∀ text, (∀ verifier, parseVerifier base64.toCodec text ≠ .scram verifier) →
      (∀ hex, parseVerifier base64.toCodec text ≠ .md5 hex) →
        parseVerifier base64.toCodec text = .unsupported := by
  refine ⟨?_, fun _ _ => parseVerifier_eq_scram_iff, fun _ _ => parseVerifier_eq_md5_iff, ?_⟩
  · intro verifier valid
    exact parseVerifier_eq_scram_iff.mpr
      ⟨valid, _, isDecimal_toDigits verifier.iterations, rfl⟩
  · intro text noScram noMd5
    obtain ⟨noNone, noUnknown⟩ := parseVerifier_stored base64.toCodec text
    cases found : parseVerifier base64.toCodec text with
    | none => exact absurd found noNone
    | scram verifier => exact absurd found (noScram verifier)
    | md5 hex => exact absurd found (noMd5 hex)
    | unknownRole => exact absurd found noUnknown
    | unsupported => rfl

/-- A verifier of PostgreSQL's default iteration count. -/
def defaultVerifier : ScramVerifier :=
  ⟨4096, [1, 2, 3, 4], List.replicate 32 5, List.replicate 32 6⟩

theorem defaultVerifier_read_back :
    parseVerifier Base64.standard (defaultVerifier.text Base64.standard) =
      .scram defaultVerifier :=
  (verifier_round_trip Base64.strict).1 defaultVerifier ⟨by decide, by decide, by decide⟩

end PgTransport.Properties
