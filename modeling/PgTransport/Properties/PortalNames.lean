import PgTransport.Backend.PortalName

/-!
# The names of anonymous portals are in bounds and unique

The loop over the digits moves the bytes of the decimal representation in front of
what the scratch buffer holds behind its index.  At most twenty digits are written,
so that the index stays inside and the name leaves room for its terminator.
-/

namespace PgTransport.Properties

open PgTransport.Backend
open PgTransport.Postgres

/-- The decimal representation of a number, in bytes. -/
def decimal (n : Nat) : List UInt8 :=
  (Nat.toDigits 10 n).map Char.toUInt8

/-- The digits that the loop writes: none for zero. -/
def loopDigits (n : Nat) : List UInt8 :=
  if n = 0 then [] else decimal n

/-! ## Digits -/

theorem digitChar_toUInt8 {digit : Nat} (small : digit < 10) :
    digit.digitChar.toUInt8 = 48 + UInt8.ofNat digit := by
  have all : ∀ digit < 10, digit.digitChar.toUInt8 = 48 + UInt8.ofNat digit := by decide
  exact all digit small

/-- The loop writes the last digit of a number and then those of its tenth. -/
theorem loopDigits_eq {n : Nat} (positive : 0 < n) :
    loopDigits n = loopDigits (n / 10) ++ [48 + UInt8.ofNat (n % 10)] := by
  have last := digitChar_toUInt8 (Nat.mod_lt n (by decide : 0 < 10))
  rw [loopDigits, if_neg (Nat.ne_of_gt positive), decimal, Nat.toDigits_eq_if (by decide)]
  split
  · next small =>
    rw [loopDigits, if_pos (Nat.div_eq_of_lt small), ← last, Nat.mod_eq_of_lt small]
    rfl
  · next large =>
    have tenth : n / 10 ≠ 0 := by omega
    rw [loopDigits, if_neg tenth, List.map_append, ← last]
    rfl

/-- A counter has at most twenty digits. -/
theorem length_decimal_le (id : UInt64) : (decimal id.toNat).length ≤ 20 := by
  rw [decimal, List.length_map, Nat.length_toDigits_le_iff (by decide) (by decide)]
  have bound := id.toNat_lt
  omega

theorem length_loopDigits_le (id : UInt64) : (loopDigits id.toNat).length ≤ 20 := by
  unfold loopDigits
  split
  · exact Nat.zero_le 20
  · exact length_decimal_le id

/-- The byte of a digit is its code point. -/
theorem toNat_of_isDigit {char : Char} (digit : char.isDigit = true) :
    char.toUInt8.toNat = char.toNat ∧ 48 ≤ char.toNat := by
  simp only [Char.isDigit, Bool.and_eq_true, decide_eq_true_eq] at digit
  have low : 48 ≤ char.toNat := digit.1
  have high : char.toNat ≤ 57 := digit.2
  constructor
  · rw [Char.toUInt8, UInt32.toNat_toUInt8]
    exact Nat.mod_eq_of_lt (Nat.lt_of_le_of_lt high (by decide))
  · exact low

theorem isDigit_of_mem_toDigits {n : Nat} {char : Char} (member : char ∈ Nat.toDigits 10 n) :
    char.isDigit = true :=
  Nat.isDigit_of_mem_toDigits (by decide) (by decide) member

/-- A digit is no terminator. -/
theorem ne_zero_of_mem_decimal {n : Nat} {byte : UInt8} (member : byte ∈ decimal n) :
    byte ≠ 0 := by
  obtain ⟨char, listed, rfl⟩ := List.mem_map.mp member
  obtain ⟨value, low⟩ := toNat_of_isDigit (isDigit_of_mem_toDigits listed)
  intro zero
  rw [zero] at value
  rw [← value] at low
  exact absurd low (by decide)

/-- The characters are read back from their bytes. -/
theorem map_ofNat_decimal (n : Nat) :
    (decimal n).map (fun byte => Char.ofNat byte.toNat) = Nat.toDigits 10 n := by
  rw [decimal, List.map_map]
  conv_rhs => rw [← List.map_id (Nat.toDigits 10 n)]
  apply List.map_congr_left
  intro char member
  rw [Function.comp, (toNat_of_isDigit (isDigit_of_mem_toDigits member)).1, Char.ofNat_toNat]
  rfl

/-- A decimal representation determines its number. -/
theorem decimal_injective : Function.Injective decimal := by
  intro first second same
  rw [← Nat.ofDigitChars_ten_toDigits (n := first), ← map_ofNat_decimal, same,
    map_ofNat_decimal, Nat.ofDigitChars_ten_toDigits]

/-! ## The loop -/

/-- A digit is put in front of what is behind the index. -/
theorem putDigit_succ (digits : Buffer 20) {d : Nat} (inside : d < 20) (byte : UInt8) :
    ∃ after, putDigit digits (d + 1) byte = .ok (after, d) ∧
      after.bytes.drop d = byte :: digits.bytes.drop (d + 1) := by
  have listed : d < (digits.bytes.set d byte).length := by
    rw [List.length_set, digits.length_bytes]
    exact inside
  refine ⟨⟨digits.bytes.set d byte, by rw [List.length_set, digits.length_bytes]⟩, ?_, ?_⟩
  · rw [putDigit, Buffer.store, if_pos inside]
    rfl
  · rw [List.drop_eq_getElem_cons listed, List.getElem_set_self,
      List.drop_set_of_lt (Nat.lt_succ_self d)]

/-- The last digit, as the loop computes it. -/
theorem lastDigit_eq (n : UInt64) : (n % 10).toUInt8 = UInt8.ofNat (n.toNat % 10) := by
  apply UInt8.toNat_inj.mp
  rw [UInt64.toNat_toUInt8, UInt64.toNat_mod, UInt8.toNat_ofNat']
  rfl

/-- Where the digits of the counter fit in front of the index, the loop ends and
puts them there. -/
theorem digitLoop_writes {digits : Buffer 20} {d : Nat} (inside : d ≤ 20) {n : UInt64}
    (room : (loopDigits n.toNat).length ≤ d) :
    ∃ after, digitLoop digits d n = .ok (after, d - (loopDigits n.toNat).length) ∧
      after.bytes.drop (d - (loopDigits n.toNat).length) =
        loopDigits n.toNat ++ digits.bytes.drop d := by
  induction value : n.toNat using Nat.strongRecOn generalizing n d digits with
  | ind value inductionHypothesis =>
      subst value
      rw [digitLoop]
      by_cases positive : 0 < n
      · have counted : 0 < n.toNat := UInt64.lt_iff_toNat_lt.mp positive
        have tenth : (n / 10).toNat = n.toNat / 10 := UInt64.toNat_div n 10
        have smaller : n.toNat / 10 < n.toNat := Nat.div_lt_self counted (by decide)
        have split := loopDigits_eq counted
        have length : (loopDigits n.toNat).length = (loopDigits (n.toNat / 10)).length + 1 := by
          rw [split, List.length_append, List.length_singleton]
        cases d with
        | zero => exact absurd (length ▸ room) (Nat.not_succ_le_zero _)
        | succ d =>
            obtain ⟨next, put, front⟩ :=
              putDigit_succ digits inside (48 + (n % 10).toUInt8)
            have fits : (loopDigits (n / 10).toNat).length ≤ d := by
              rw [tenth]
              omega
            obtain ⟨after, rest, written⟩ :=
              inductionHypothesis _ smaller (Nat.le_of_lt inside) fits tenth
            have index : d + 1 - (loopDigits n.toNat).length =
                d - (loopDigits (n.toNat / 10)).length := by omega
            refine ⟨after, ?_, ?_⟩
            · rw [if_pos positive, put, index]
              exact rest
            · rw [index, written, front, split, List.append_assoc, lastDigit_eq]
              rfl
      · have zero : n.toNat = 0 := Nat.eq_zero_of_not_pos fun counted =>
          positive (UInt64.lt_iff_toNat_lt.mpr counted)
        rw [if_neg positive, zero]
        exact ⟨digits, rfl, rfl⟩

/-- The scratch buffer ends with the decimal representation of the counter. -/
theorem digits_written (id : UInt64) :
    ∃ digits, scratchDigits id = .ok (digits, 20 - (decimal id.toNat).length) ∧
      digits.bytes.drop (20 - (decimal id.toNat).length) = decimal id.toNat := by
  by_cases zero : id = 0
  · subst zero
    exact ⟨⟨(Buffer.zeros 20).bytes.set 19 48, by decide⟩, rfl, rfl⟩
  · have counted : id.toNat ≠ 0 := fun same => zero (UInt64.toNat_inj.mp same)
    have written := @digitLoop_writes (.zeros 20) 20 (Nat.le_refl 20) id
      (length_loopDigits_le id)
    rw [loopDigits, if_neg counted] at written
    rw [scratchDigits, if_neg zero]
    obtain ⟨digits, ends, front⟩ := written
    exact ⟨digits, ends, front.trans (List.append_nil _)⟩

/-! ## The name -/

/-- The name of the portal with this number. -/
def portalName (id : UInt64) : List UInt8 :=
  pgxport ++ decimal id.toNat

theorem length_portalName_le (id : UInt64) : (portalName id).length ≤ 28 := by
  have digits := length_decimal_le id
  have start : pgxport.length = 8 := rfl
  rw [portalName, List.length_append]
  omega

/-- A copy that fits replaces the bytes of its range. -/
theorem copyFromSlice_eq {n : Nat} (buffer : Buffer n) {start stop : Nat} {source : List UInt8}
    (inside : stop ≤ n) (length : start + source.length = stop) :
    ∃ after, buffer.copyFromSlice start stop source = .ok after ∧
      after.bytes = buffer.bytes.take start ++ source ++ buffer.bytes.drop stop := by
  have before : ¬stop < start := by omega
  have fits : source.length = stop - start := by omega
  rw [Buffer.copyFromSlice, dif_neg before, dif_neg (Nat.not_lt.mpr inside), dif_pos fits]
  exact ⟨_, rfl, rfl⟩

/-- The buffer holds the name and is filled up with zeros. -/
theorem createAnonymous_eq (id : UInt64) :
    ∃ buf, Portal.createAnonymous id = .ok buf ∧
      buf.bytes = portalName id ++ List.replicate (32 - (portalName id).length) 0 := by
  have bound := length_decimal_le id
  obtain ⟨started, start, begins⟩ :=
    copyFromSlice_eq (.zeros 32) (by decide : 8 ≤ 32) (by rfl : 0 + pgxport.length = 8)
  obtain ⟨digits, ends, written⟩ := digits_written id
  have inside : 20 - (decimal id.toNat).length ≤ 20 := Nat.sub_le _ _
  have digitLen : 20 - (20 - (decimal id.toNat).length) = (decimal id.toNat).length :=
    Nat.sub_sub_self bound
  obtain ⟨buf, copied, holds⟩ := @copyFromSlice_eq 32 started 8 (8 + (decimal id.toNat).length)
    (decimal id.toNat) (by omega) rfl
  refine ⟨buf, ?_, ?_⟩
  · simp only [Portal.createAnonymous, start, ends, bind, Except.bind, Buffer.sliceFrom, inside,
      if_true, written, digitLen, copied]
  · have length : (portalName id).length = 8 + (decimal id.toNat).length := by
      rw [portalName, List.length_append]
      rfl
    have front : started.bytes.take 8 = pgxport := by rw [begins]; rfl
    have back : started.bytes.drop (8 + (decimal id.toNat).length) =
        List.replicate (32 - (8 + (decimal id.toNat).length)) 0 := by
      have zeros : started.bytes.drop 8 = List.replicate 24 0 := by rw [begins]; rfl
      rw [← List.drop_drop, zeros, List.drop_replicate]
      congr 1
      omega
    rw [holds, front, back, length]
    rfl

theorem ne_zero_of_mem_portalName {id : UInt64} {byte : UInt8}
    (member : byte ∈ portalName id) : byte ≠ 0 := by
  have start : pgxport.all (· != 0) = true := rfl
  rcases List.mem_append.mp member with fixed | digit
  · exact bne_iff_ne.mp (List.all_eq_true.mp start byte fixed)
  · exact ne_zero_of_mem_decimal digit

/-- C reads the name from the buffer. -/
theorem cString_eq {id : UInt64} {buf : Buffer 32} (made : Portal.createAnonymous id = .ok buf) :
    buf.cString = portalName id := by
  obtain ⟨other, same, holds⟩ := createAnonymous_eq id
  cases made.symm.trans same
  have positive : 32 - (portalName id).length = 32 - (portalName id).length - 1 + 1 := by
    have bound := length_portalName_le id
    omega
  rw [Buffer.cString, holds, List.takeWhile_append_of_pos, positive, List.replicate_succ]
  · simp
  · intro byte member
    simpa using ne_zero_of_mem_portalName member

/-- For every counter the name is made without an access outside of the buffers: it
is `pgxport_` with the decimal representation of the counter, terminated by NUL.
Portals with different counters have different names. -/
theorem portal_names_unique (id : UInt64) :
    ∃ buf, Portal.createAnonymous id = .ok buf ∧
      (∃ padding, 0 < padding ∧
        buf.bytes = "pgxport_".toList.map Char.toUInt8 ++
          (Nat.toDigits 10 id.toNat).map Char.toUInt8 ++ List.replicate padding 0) ∧
      buf.cString = "pgxport_".toList.map Char.toUInt8 ++
        (Nat.toDigits 10 id.toNat).map Char.toUInt8 ∧
      ∀ other otherBuf, Portal.createAnonymous other = .ok otherBuf →
        otherBuf.cString = buf.cString → other = id := by
  obtain ⟨buf, made, holds⟩ := createAnonymous_eq id
  have bound := length_portalName_le id
  refine ⟨buf, made, ⟨32 - (portalName id).length, by omega, holds⟩, cString_eq made, ?_⟩
  intro other otherBuf otherMade same
  rw [cString_eq otherMade, cString_eq made] at same
  have digits : decimal other.toNat = decimal id.toNat := List.append_cancel_left same
  exact UInt64.toNat_inj.mp (decimal_injective digits)

end PgTransport.Properties
