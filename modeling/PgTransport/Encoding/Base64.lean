import Mathlib.Data.List.Basic

/-!
# Base64 with the standard alphabet

Three bytes make four digits; a last group of one or two bytes is padded with
`=`.  Decoding is strict: it refuses other characters, missing padding, and
bits that no byte accounts for.  Codecs are also described abstractly, by what
their users rely on.
-/

namespace PgTransport.Encoding

/-- A text encoding of byte strings that is read back by decoding, and whose
texts have no commas. -/
structure Codec where
  encode : List UInt8 → List Char
  decode : List Char → Option (List UInt8)
  decode_encode : ∀ bytes, decode (encode bytes) = some bytes
  comma_free : ∀ bytes, ',' ∉ encode bytes

/-- Encoding is injective. -/
theorem Codec.encode_injective (codec : Codec) : Function.Injective codec.encode := by
  intro first second same
  have decoded := codec.decode_encode first
  rw [same, codec.decode_encode] at decoded
  exact (Option.some.inj decoded).symm

/-- A codec that accepts nothing but encoded byte strings, and whose texts may stand between
the separators `$` and `:`. -/
structure StrictCodec extends Codec where
  canonical : ∀ text bytes, decode text = some bytes → encode bytes = text
  dollar_free : ∀ bytes, '$' ∉ encode bytes
  colon_free : ∀ bytes, ':' ∉ encode bytes

namespace Base64

/-- The digits, by their values. -/
def alphabet : List Char :=
  "ABCDEFGHIJKLMNOPQRSTUVWXYZabcdefghijklmnopqrstuvwxyz0123456789+/".toList

/-- The digit of a value below 64. -/
def digit (value : Nat) : Char :=
  alphabet.getD value 'A'

/-- The value of a digit. -/
def valueOf (char : Char) : Option Nat :=
  alphabet.idxOf? char

theorem valueOf_digit {value : Nat} (small : value < 64) :
    valueOf (digit value) = some value := by
  have all : ∀ value < 64, valueOf (digit value) = some value := by decide
  exact all value small

theorem digit_ne_pad {value : Nat} (small : value < 64) : digit value ≠ '=' := by
  have all : ∀ value < 64, digit value ≠ '=' := by decide +kernel
  exact all value small

theorem digit_of_valueOf {char : Char} {value : Nat} (digits : valueOf char = some value) :
    value < 64 ∧ digit value = char := by
  rw [valueOf, List.idxOf?, List.findIdx?_eq_some_iff_getElem] at digits
  obtain ⟨inside, same, _⟩ := digits
  constructor
  · exact inside
  · rw [digit, List.getD_eq_getElem?_getD, List.getElem?_eq_getElem inside]
    exact beq_iff_eq.mp same

/-- The text of a byte string. -/
def encode : List UInt8 → List Char
  | [] => []
  | [a] => [digit (a.toNat / 4), digit (a.toNat % 4 * 16), '=', '=']
  | [a, b] =>
      [digit (a.toNat / 4), digit (a.toNat % 4 * 16 + b.toNat / 16),
        digit (b.toNat % 16 * 4), '=']
  | a :: b :: c :: rest =>
      digit (a.toNat / 4) :: digit (a.toNat % 4 * 16 + b.toNat / 16) ::
        digit (b.toNat % 16 * 4 + c.toNat / 64) :: digit (c.toNat % 64) :: encode rest

/-- A last group that stands for one byte. -/
def decodeOne (w x : Char) : Option (List UInt8) := do
  let w ← valueOf w
  let x ← valueOf x
  if x % 16 = 0 then some [UInt8.ofNat (w * 4 + x / 16)] else none

/-- A last group that stands for two bytes. -/
def decodeTwo (w x y : Char) : Option (List UInt8) := do
  let w ← valueOf w
  let x ← valueOf x
  let y ← valueOf y
  if y % 4 = 0 then
    some [UInt8.ofNat (w * 4 + x / 16), UInt8.ofNat (x % 16 * 16 + y / 4)]
  else
    none

/-- The three bytes of a full group. -/
def decodeThree (w x y z : Char) : Option (List UInt8) := do
  let w ← valueOf w
  let x ← valueOf x
  let y ← valueOf y
  let z ← valueOf z
  some [UInt8.ofNat (w * 4 + x / 16), UInt8.ofNat (x % 16 * 16 + y / 4),
    UInt8.ofNat (y % 4 * 64 + z)]

/-- The byte string of a text, if it is one. -/
def decode : List Char → Option (List UInt8)
  | [] => some []
  | w :: x :: y :: z :: rest =>
      if z = '=' then
        if rest ≠ [] then none
        else if y = '=' then decodeOne w x
        else decodeTwo w x y
      else do
        let group ← decodeThree w x y z
        let later ← decode rest
        some (group ++ later)
  | _ => none

theorem decodeOne_encoded (a : UInt8) :
    decodeOne (digit (a.toNat / 4)) (digit (a.toNat % 4 * 16)) = some [a] := by
  have bound := a.toNat_lt
  have byte : a.toNat / 4 * 4 + a.toNat % 4 * 16 / 16 = a.toNat := by omega
  have aligned : a.toNat % 4 * 16 % 16 = 0 := by omega
  rw [decodeOne, valueOf_digit (by omega), valueOf_digit (by omega)]
  simp only [Option.bind_eq_bind, Option.bind_some, aligned, if_true, byte, UInt8.ofNat_toNat]

theorem decodeTwo_encoded (a b : UInt8) :
    decodeTwo (digit (a.toNat / 4)) (digit (a.toNat % 4 * 16 + b.toNat / 16))
      (digit (b.toNat % 16 * 4)) = some [a, b] := by
  have first := a.toNat_lt
  have second := b.toNat_lt
  have byteA : a.toNat / 4 * 4 + (a.toNat % 4 * 16 + b.toNat / 16) / 16 = a.toNat := by omega
  have byteB : (a.toNat % 4 * 16 + b.toNat / 16) % 16 * 16 + b.toNat % 16 * 4 / 4 =
      b.toNat := by omega
  have aligned : b.toNat % 16 * 4 % 4 = 0 := by omega
  rw [decodeTwo, valueOf_digit (by omega), valueOf_digit (by omega), valueOf_digit (by omega)]
  simp only [Option.bind_eq_bind, Option.bind_some, aligned, if_true, byteA, byteB,
    UInt8.ofNat_toNat]

theorem decodeThree_encoded (a b c : UInt8) :
    decodeThree (digit (a.toNat / 4)) (digit (a.toNat % 4 * 16 + b.toNat / 16))
      (digit (b.toNat % 16 * 4 + c.toNat / 64)) (digit (c.toNat % 64)) = some [a, b, c] := by
  have first := a.toNat_lt
  have second := b.toNat_lt
  have third := c.toNat_lt
  have byteA : a.toNat / 4 * 4 + (a.toNat % 4 * 16 + b.toNat / 16) / 16 = a.toNat := by omega
  have byteB : (a.toNat % 4 * 16 + b.toNat / 16) % 16 * 16 +
      (b.toNat % 16 * 4 + c.toNat / 64) / 4 = b.toNat := by omega
  have byteC : (b.toNat % 16 * 4 + c.toNat / 64) % 4 * 64 + c.toNat % 64 = c.toNat := by omega
  rw [decodeThree, valueOf_digit (by omega), valueOf_digit (by omega),
    valueOf_digit (by omega), valueOf_digit (by omega)]
  simp only [Option.bind_eq_bind, Option.bind_some, byteA, byteB, byteC, UInt8.ofNat_toNat]

/-- Decoding reads an encoded byte string back. -/
theorem decode_encode (bytes : List UInt8) : decode (encode bytes) = some bytes := by
  induction bytes using encode.induct with
  | case1 => rfl
  | case2 a => simp [encode, decode, decodeOne_encoded]
  | case3 a b =>
      have pad : digit (b.toNat % 16 * 4) ≠ '=' := digit_ne_pad (by omega)
      simp [encode, decode, pad, decodeTwo_encoded]
  | case4 a b c rest inductionHypothesis =>
      have pad : digit (c.toNat % 64) ≠ '=' := digit_ne_pad (by omega)
      simp [encode, decode, pad, decodeThree_encoded, inductionHypothesis]

/-- An encoded byte string consists of digits and padding. -/
theorem mem_encode {bytes : List UInt8} {char : Char} (member : char ∈ encode bytes) :
    char = '=' ∨ ∃ value < 64, char = digit value := by
  induction bytes using encode.induct with
  | case1 => cases member
  | case2 a =>
      have bound := a.toNat_lt
      simp only [encode, List.mem_cons, List.not_mem_nil, or_false] at member
      rcases member with rfl | rfl | rfl | rfl
      · exact .inr ⟨_, by omega, rfl⟩
      · exact .inr ⟨_, by omega, rfl⟩
      · exact .inl rfl
      · exact .inl rfl
  | case3 a b =>
      have first := a.toNat_lt
      have second := b.toNat_lt
      simp only [encode, List.mem_cons, List.not_mem_nil, or_false] at member
      rcases member with rfl | rfl | rfl | rfl
      · exact .inr ⟨_, by omega, rfl⟩
      · exact .inr ⟨_, by omega, rfl⟩
      · exact .inr ⟨_, by omega, rfl⟩
      · exact .inl rfl
  | case4 a b c rest inductionHypothesis =>
      have first := a.toNat_lt
      have second := b.toNat_lt
      have third := c.toNat_lt
      simp only [encode, List.mem_cons] at member
      rcases member with rfl | rfl | rfl | rfl | later
      · exact .inr ⟨_, by omega, rfl⟩
      · exact .inr ⟨_, by omega, rfl⟩
      · exact .inr ⟨_, by omega, rfl⟩
      · exact .inr ⟨_, by omega, rfl⟩
      · exact inductionHypothesis later

/-- Encoded byte strings have no other characters. -/
theorem not_mem_encode {char : Char} (noPad : char ≠ '=')
    (noDigit : ∀ value < 64, char ≠ digit value) (bytes : List UInt8) :
    char ∉ encode bytes := by
  intro member
  rcases mem_encode member with pad | ⟨value, small, same⟩
  · exact noPad pad
  · exact noDigit value small same

/-! ## Strictness -/

theorem encode_of_decodeOne {w x : Char} {bytes : List UInt8}
    (decoded : decodeOne w x = some bytes) : encode bytes = [w, x, '=', '='] := by
  simp only [decodeOne, bind, Option.bind_eq_some_iff] at decoded
  obtain ⟨first, firstDigit, second, secondDigit, made⟩ := decoded
  obtain ⟨_, rfl⟩ := digit_of_valueOf firstDigit
  obtain ⟨_, rfl⟩ := digit_of_valueOf secondDigit
  split at made
  · cases made
    have byte : (UInt8.ofNat (first * 4 + second / 16)).toNat = first * 4 + second / 16 :=
      UInt8.toNat_ofNat_of_lt' (by change _ < 256; omega)
    have firstValue : (first * 4 + second / 16) / 4 = first := by omega
    have secondValue : (first * 4 + second / 16) % 4 * 16 = second := by omega
    rw [encode, byte, firstValue, secondValue]
  · cases made

theorem encode_of_decodeTwo {w x y : Char} {bytes : List UInt8}
    (decoded : decodeTwo w x y = some bytes) : encode bytes = [w, x, y, '='] := by
  simp only [decodeTwo, bind, Option.bind_eq_some_iff] at decoded
  obtain ⟨first, firstDigit, second, secondDigit, third, thirdDigit, made⟩ := decoded
  obtain ⟨_, rfl⟩ := digit_of_valueOf firstDigit
  obtain ⟨_, rfl⟩ := digit_of_valueOf secondDigit
  obtain ⟨_, rfl⟩ := digit_of_valueOf thirdDigit
  split at made
  · cases made
    have byteA : (UInt8.ofNat (first * 4 + second / 16)).toNat = first * 4 + second / 16 :=
      UInt8.toNat_ofNat_of_lt' (by change _ < 256; omega)
    have byteB : (UInt8.ofNat (second % 16 * 16 + third / 4)).toNat =
        second % 16 * 16 + third / 4 :=
      UInt8.toNat_ofNat_of_lt' (by change _ < 256; omega)
    have firstValue : (first * 4 + second / 16) / 4 = first := by omega
    have secondValue : (first * 4 + second / 16) % 4 * 16 +
        (second % 16 * 16 + third / 4) / 16 = second := by omega
    have thirdValue : (second % 16 * 16 + third / 4) % 16 * 4 = third := by omega
    rw [encode, byteA, byteB, firstValue, secondValue, thirdValue]
  · cases made

theorem encode_of_decodeThree {w x y z : Char} {group : List UInt8}
    (decoded : decodeThree w x y z = some group) (later : List UInt8) :
    encode (group ++ later) = w :: x :: y :: z :: encode later := by
  simp only [decodeThree, bind, Option.bind_eq_some_iff] at decoded
  obtain ⟨first, firstDigit, second, secondDigit, third, thirdDigit, fourth, fourthDigit, made⟩ :=
    decoded
  obtain ⟨_, rfl⟩ := digit_of_valueOf firstDigit
  obtain ⟨_, rfl⟩ := digit_of_valueOf secondDigit
  obtain ⟨_, rfl⟩ := digit_of_valueOf thirdDigit
  obtain ⟨_, rfl⟩ := digit_of_valueOf fourthDigit
  cases made
  have byteA : (UInt8.ofNat (first * 4 + second / 16)).toNat = first * 4 + second / 16 :=
    UInt8.toNat_ofNat_of_lt' (by change _ < 256; omega)
  have byteB : (UInt8.ofNat (second % 16 * 16 + third / 4)).toNat =
      second % 16 * 16 + third / 4 :=
    UInt8.toNat_ofNat_of_lt' (by change _ < 256; omega)
  have byteC : (UInt8.ofNat (third % 4 * 64 + fourth)).toNat = third % 4 * 64 + fourth :=
    UInt8.toNat_ofNat_of_lt' (by change _ < 256; omega)
  have firstValue : (first * 4 + second / 16) / 4 = first := by omega
  have secondValue : (first * 4 + second / 16) % 4 * 16 +
      (second % 16 * 16 + third / 4) / 16 = second := by omega
  have thirdValue : (second % 16 * 16 + third / 4) % 16 * 4 +
      (third % 4 * 64 + fourth) / 64 = third := by omega
  have fourthValue : (third % 4 * 64 + fourth) % 64 = fourth := by omega
  simp only [List.cons_append, List.nil_append]
  rw [encode, byteA, byteB, byteC, firstValue, secondValue, thirdValue, fourthValue]

/-- A text that is decoded is the text of what it is decoded to. -/
theorem encode_of_decode (text : List Char) (bytes : List UInt8)
    (decoded : decode text = some bytes) : encode bytes = text := by
  induction text using decode.induct generalizing bytes with
  | case1 =>
      cases decoded
      rfl
  | case2 w x y rest more => simp [decode, more] at decoded
  | case3 w x rest only =>
      rw [decode, if_pos rfl, if_neg only, if_pos rfl] at decoded
      rw [not_not.mp only]
      exact encode_of_decodeOne decoded
  | case4 w x y rest only noPad =>
      rw [decode, if_pos rfl, if_neg only, if_neg noPad] at decoded
      rw [not_not.mp only]
      exact encode_of_decodeTwo decoded
  | case5 w x y z rest noPad inductionHypothesis =>
      simp only [decode, if_neg noPad, bind, Option.bind_eq_some_iff] at decoded
      obtain ⟨group, first, later, others, made⟩ := decoded
      cases made
      rw [encode_of_decodeThree first, inductionHypothesis later others]
  | case6 text short long =>
      simp [decode] at decoded

/-- The standard alphabet with padding. -/
def standard : Codec where
  encode := encode
  decode := decode
  decode_encode := decode_encode
  comma_free := not_mem_encode (by decide) (by decide +kernel)

/-- It is strict. -/
def strict : StrictCodec where
  toCodec := standard
  canonical := encode_of_decode
  dollar_free := not_mem_encode (by decide) (by decide +kernel)
  colon_free := not_mem_encode (by decide) (by decide +kernel)

end Base64

end PgTransport.Encoding
