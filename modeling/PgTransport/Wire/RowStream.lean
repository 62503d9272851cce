import Mathlib.Data.List.Basic

/-!
# Row streams under limits

The limit of an `Execute` message bounds the rows that are sent; the others stay
in the stream.  Whatever the limits are, the pages so sent are consecutive
segments of the stream.
-/

namespace PgTransport.Wire

variable {α : Type}

/-- `as usize`, of the limit of an `Execute` message. -/
def usizeOf (limit : Int32) : Nat :=
  (limit.toInt % 18446744073709551616).toNat

theorem usizeOf_of_nonneg {limit : Int32} (nonneg : 0 ≤ limit.toInt) :
    usizeOf limit = limit.toInt.toNat := by
  have small := limit.toInt_lt
  rw [usizeOf]
  omega

theorem usizeOf_of_neg {limit : Int32} (negative : limit.toInt < 0) :
    (usizeOf limit : Int) = limit.toInt + 18446744073709551616 := by
  have small := limit.le_toInt
  rw [usizeOf]
  omega

theorem usizeOf_eq_zero_iff {limit : Int32} : usizeOf limit = 0 ↔ limit.toInt = 0 := by
  have below := limit.toInt_lt
  have above := limit.le_toInt
  rw [usizeOf]
  omega

/-- The rows of a stream that are sent under a limit, and the others; zero is
no limit. -/
def sendRows (maxRows : Nat) (stream : List α) : List α × List α :=
  if maxRows = 0 then (stream, []) else (stream.take maxRows, stream.drop maxRows)

theorem sendRows_append (maxRows : Nat) (stream : List α) :
    (sendRows maxRows stream).1 ++ (sendRows maxRows stream).2 = stream := by
  rw [sendRows]
  split
  · exact List.append_nil stream
  · exact List.take_append_drop maxRows stream

/-- The pages of a stream under a sequence of limits, and the rows that are
left behind the last. -/
def sendPages : List Int32 → List α → List (List α) × List α
  | [], stream => ([], stream)
  | limit :: limits, stream =>
      let (page, left) := sendRows (usizeOf limit) stream
      let (pages, rest) := sendPages limits left
      (page :: pages, rest)

/-- The pages and the rows that are left make up the stream. -/
theorem sendPages_append (limits : List Int32) (stream : List α) :
    (sendPages limits stream).1.flatten ++ (sendPages limits stream).2 = stream := by
  induction limits generalizing stream with
  | nil => rfl
  | cons limit limits inductionHypothesis =>
      calc (sendPages (limit :: limits) stream).1.flatten ++ (sendPages (limit :: limits) stream).2
          = (sendRows (usizeOf limit) stream).1 ++
              ((sendPages limits (sendRows (usizeOf limit) stream).2).1.flatten ++
                (sendPages limits (sendRows (usizeOf limit) stream).2).2) :=
            List.append_assoc _ _ _
        _ = (sendRows (usizeOf limit) stream).1 ++ (sendRows (usizeOf limit) stream).2 := by
            rw [inductionHypothesis]
        _ = stream := sendRows_append (usizeOf limit) stream

/-! ## Segments -/

/-- What a message with this limit may return where it leaves these rows: no
more rows than a positive limit, and everything without one. -/
structure PageFits (limit : Int32) (page left : List α) : Prop where
  bounded : 0 < limit.toInt → (page.length : Int) ≤ limit.toInt
  unlimited : limit.toInt ≤ 0 → left = []

/-- The pages are consecutive segments of the rows, each one fits its limit,
and the rest is what follows the last. -/
def Segments : List α → List Int32 → List (List α) → List α → Prop
  | rows, [], [], rest => rows = rest
  | rows, limit :: limits, page :: pages, rest =>
      ∃ left, rows = page ++ left ∧ PageFits limit page left ∧ Segments left limits pages rest
  | _, _, _, _ => False

/-- Nothing is skipped and nothing is returned twice. -/
theorem Segments.eq_flatten {limits : List Int32} {rows rest : List α}
    {pages : List (List α)} (segments : Segments rows limits pages rest) :
    rows = pages.flatten ++ rest := by
  induction limits generalizing rows pages with
  | nil =>
      cases pages with
      | nil => exact segments
      | cons page pages => cases segments
  | cons limit limits inductionHypothesis =>
      cases pages with
      | nil => cases segments
      | cons page pages =>
          obtain ⟨left, split, _, tail⟩ := segments
          rw [split, inductionHypothesis tail, List.flatten_cons, List.append_assoc]

theorem pageFits_sendRows {limit : Int32} {stream : List α}
    (counted : stream.length < 9223372036854775808) :
    PageFits limit (sendRows (usizeOf limit) stream).1 (sendRows (usizeOf limit) stream).2 := by
  constructor
  · intro positive
    have count := usizeOf_of_nonneg (Int.le_of_lt positive)
    have taken := List.length_take_le limit.toInt.toNat stream
    rw [sendRows, if_neg (by omega), count]
    dsimp only
    omega
  · intro unlimited
    rw [sendRows]
    split
    · rfl
    · next nonzero =>
      have negative : limit.toInt < 0 := by
        rw [usizeOf_eq_zero_iff] at nonzero
        omega
      -- a negative limit becomes a count beyond every stream
      have count := usizeOf_of_neg negative
      have small := limit.le_toInt
      exact List.drop_of_length_le (by omega)

/-- The pages of a stream are segments of it. -/
theorem segments_sendPages (limits : List Int32) (stream : List α)
    (counted : stream.length < 9223372036854775808) :
    Segments stream limits (sendPages limits stream).1 (sendPages limits stream).2 := by
  induction limits generalizing stream with
  | nil => rfl
  | cons limit limits inductionHypothesis =>
      have split := sendRows_append (usizeOf limit) stream
      refine ⟨_, split.symm, pageFits_sendRows counted, inductionHypothesis _ ?_⟩
      have total := congrArg List.length split
      rw [List.length_append] at total
      omega

/-- Once the rows are spent, the pages are empty. -/
theorem segments_spent (limits : List Int32) :
    Segments ([] : List α) limits (limits.map fun _ => []) [] := by
  induction limits with
  | nil => rfl
  | cons limit limits inductionHypothesis =>
      refine ⟨[], rfl, ⟨fun positive => ?_, fun _ => rfl⟩, inductionHypothesis⟩
      exact Int.le_of_lt positive

/-- Pages that start at the first row have it at their head. -/
theorem head?_flatten_of_prefixes {rows : List α} {pages : List (List α)}
    (prefixes : ∀ page ∈ pages, page <+: rows) (filled : pages.flatten ≠ []) :
    pages.flatten.head? = rows.head? := by
  induction pages with
  | nil => exact absurd rfl filled
  | cons page pages inductionHypothesis =>
      rw [List.forall_mem_cons] at prefixes
      cases page with
      | nil => exact inductionHypothesis prefixes.2 filled
      | cons row page =>
          obtain ⟨left, rfl⟩ := prefixes.1
          rfl

end PgTransport.Wire
