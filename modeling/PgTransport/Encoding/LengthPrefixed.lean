import Mathlib.Data.List.Basic

/-!
# Values behind their lengths

A value is written as its length, a big-endian integer of four bytes, and its bytes; an
absent value as the length `-1` alone.  Values of less than two gigabytes are read back, as
many as were written, and nothing behind them is read.
-/

namespace PgTransport.Encoding

/-- A byte string, or none. -/
abbrev OptionalBytes : Type :=
  Option (List UInt8)

/-! ## Big-endian integers -/

/-- `put_i32`. -/
def putI32 (value : Int32) : List UInt8 :=
  let word := value.toUInt32.toNat
  [.ofNat (word / 16777216), .ofNat (word / 65536), .ofNat (word / 256), .ofNat word]

/-- Read a big-endian integer of four bytes. -/
def getI32 : List UInt8 → Option (Int32 × List UInt8)
  | a :: b :: c :: d :: rest =>
      some ((UInt32.ofNat (a.toNat * 16777216 + b.toNat * 65536 + c.toNat * 256 +
        d.toNat)).toInt32, rest)
  | _ => none

/-- An integer is read back from its four bytes. -/
theorem getI32_putI32 (value : Int32) (rest : List UInt8) :
    getI32 (putI32 value ++ rest) = some (value, rest) := by
  have bound := value.toUInt32.toNat_lt
  have word : value.toUInt32.toNat / 16777216 % 256 * 16777216 +
      value.toUInt32.toNat / 65536 % 256 * 65536 + value.toUInt32.toNat / 256 % 256 * 256 +
        value.toUInt32.toNat % 256 = value.toUInt32.toNat := by
    omega
  simp only [putI32, List.cons_append, List.nil_append, getI32, UInt8.toNat_ofNat']
  rw [word, UInt32.ofNat_toNat, Int32.toInt32_toUInt32]

/-! ## Values -/

/-- A value behind its length, which is cut to 32 bits. -/
def writeValue : OptionalBytes → List UInt8
  | none => putI32 (-1)
  | some bytes => putI32 (.ofNat bytes.length) ++ bytes

/-- Several values in a row. -/
def writeValues (values : List OptionalBytes) : List UInt8 :=
  values.flatMap writeValue

/-- Read a length and as many bytes; the length `-1` stands for no value. -/
def readValue (input : List UInt8) : Option (OptionalBytes × List UInt8) :=
  match getI32 input with
  | none => none
  | some (length, rest) =>
      if length = -1 then
        some (none, rest)
      else if length < 0 ∨ rest.length < length.toInt.toNat then
        none
      else
        some (some (rest.take length.toInt.toNat), rest.drop length.toInt.toNat)

/-- Read `count` values. -/
def readValues : Nat → List UInt8 → Option (List OptionalBytes × List UInt8)
  | 0, input => some ([], input)
  | count + 1, input =>
      match readValue input with
      | none => none
      | some (value, rest) =>
          (readValues count rest).map fun others => (value :: others.1, others.2)

/-- The value is absent or shorter than two gigabytes. -/
def Short (value : OptionalBytes) : Prop :=
  ∀ bytes ∈ value, bytes.length < 2147483648

instance (value : OptionalBytes) : Decidable (Short value) :=
  inferInstanceAs (Decidable (∀ bytes ∈ value, _))

/-- A short value is read back. -/
theorem readValue_writeValue {value : OptionalBytes} (short : Short value)
    (rest : List UInt8) : readValue (writeValue value ++ rest) = some (value, rest) := by
  cases value with
  | none => rw [writeValue, readValue, getI32_putI32]; rfl
  | some bytes =>
      have length : (Int32.ofNat bytes.length).toInt = bytes.length :=
        Int32.toInt_ofNat_of_lt (short bytes rfl)
      have present : Int32.ofNat bytes.length ≠ -1 := by
        intro same
        rw [same] at length
        exact absurd length (by change (-1 : Int) ≠ _; omega)
      have size : (Int32.ofNat bytes.length).toInt.toNat = bytes.length := by
        rw [length, Int.toNat_natCast]
      have fits : ¬(Int32.ofNat bytes.length < 0 ∨
          (bytes ++ rest).length < bytes.length) := by
        rw [Int32.lt_iff_toInt_lt, length, List.length_append]
        change ¬((bytes.length : Int) < 0 ∨ _)
        omega
      rw [writeValue, List.append_assoc, readValue, getI32_putI32]
      simp only [if_neg present, size, if_neg fits, List.take_left, List.drop_left]

theorem readValues_succ {count : Nat} {input rest last : List UInt8} {value : OptionalBytes}
    {values : List OptionalBytes} (first : readValue input = some (value, rest))
    (later : readValues count rest = some (values, last)) :
    readValues (count + 1) input = some (value :: values, last) := by
  simp only [readValues, first, later, Option.map_some]

/-- Short values are read back, and nothing more. -/
theorem readValues_writeValues {values : List OptionalBytes}
    (short : ∀ value ∈ values, Short value) (rest : List UInt8) :
    readValues values.length (writeValues values ++ rest) = some (values, rest) := by
  induction values with
  | nil => rfl
  | cons value values inductionHypothesis =>
      rw [List.forall_mem_cons] at short
      rw [writeValues, List.flatMap_cons, List.append_assoc]
      exact readValues_succ (readValue_writeValue short.1 _) (inductionHypothesis short.2)

end PgTransport.Encoding
