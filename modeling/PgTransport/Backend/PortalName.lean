import PgTransport.Wire.Types

/-!
# The names of anonymous portals

A portal's name is written into a buffer on the stack.  The digits of the counter
are produced from the last to the first into a scratch buffer and copied behind
the fixed start.  An access outside of a buffer is a panic, as in the source.
-/

namespace PgTransport.Backend

open PgTransport.Postgres
open PgTransport.Wire

/-! ## Buffers -/

/-- `[u8; n]`. -/
structure Buffer (n : Nat) where
  bytes : List UInt8
  length_bytes : bytes.length = n
  deriving DecidableEq

namespace Buffer

variable {n : Nat}

/-- `[0u8; n]`. -/
def zeros (n : Nat) : Buffer n :=
  ⟨List.replicate n 0, List.length_replicate⟩

/-- `buffer[index] = byte`. -/
def store (buffer : Buffer n) (index : Nat) (byte : UInt8) : Except Payload (Buffer n) :=
  if index < n then
    .ok ⟨buffer.bytes.set index byte, by rw [List.length_set, buffer.length_bytes]⟩
  else
    .error (indexOutOfBounds n index)

/-- `&buffer[start..]`. -/
def sliceFrom (buffer : Buffer n) (start : Nat) : Except Payload (List UInt8) :=
  if start ≤ n then
    .ok (buffer.bytes.drop start)
  else
    .error (.message s!"range start index {start} out of range for slice of length {n}")

/-- `buffer[start..stop].copy_from_slice(source)`. -/
def copyFromSlice (buffer : Buffer n) (start stop : Nat) (source : List UInt8) :
    Except Payload (Buffer n) :=
  if before : stop < start then
    .error (.message s!"slice index starts at {start} but ends at {stop}")
  else if past : n < stop then
    .error (.message s!"range end index {stop} out of range for slice of length {n}")
  else if fits : source.length = stop - start then
    .ok ⟨buffer.bytes.take start ++ source ++ buffer.bytes.drop stop, by
      simp only [List.length_append, List.length_take, List.length_drop, buffer.length_bytes]
      omega⟩
  else
    .error (.message "copy_from_slice: source slice length does not match destination slice length")

end Buffer

/-! ## The name of a portal -/

/-- `d -= 1; digits[d] = byte`. -/
def putDigit (digits : Buffer 20) (d : Nat) (byte : UInt8) :
    Except Payload (Buffer 20 × Nat) :=
  match d with
  | 0 => .error (.message "attempt to subtract with overflow")
  | d + 1 => do
      let digits ← digits.store d byte
      pure (digits, d)

/-- The loop over the digits of the counter. -/
def digitLoop (digits : Buffer 20) (d : Nat) (n : UInt64) :
    Except Payload (Buffer 20 × Nat) :=
  if 0 < n then do
    let (digits, d) ← putDigit digits d (48 + (n % 10).toUInt8)
    digitLoop digits d (n / 10)
  else
    pure (digits, d)
termination_by n.toNat
decreasing_by
  have positive : 0 < n.toNat := UInt64.lt_iff_toNat_lt.mp ‹0 < n›
  rw [UInt64.toNat_div]
  exact Nat.div_lt_self positive (by decide)

/-- The digits of the counter at the end of a scratch buffer, and where they begin. -/
def scratchDigits (id : UInt64) : Except Payload (Buffer 20 × Nat) :=
  if id = 0 then
    putDigit (.zeros 20) 20 48
  else
    digitLoop (.zeros 20) 20 id

/-- `b"pgxport_"`. -/
def pgxport : List UInt8 :=
  "pgxport_".toList.map Char.toUInt8

/-- The buffer that `Portal::create_anonymous` passes to `CreatePortal`. -/
def Portal.createAnonymous (id : UInt64) : Except Payload (Buffer 32) := do
  let buf ← (Buffer.zeros 32).copyFromSlice 0 8 pgxport
  let (digits, d) ← scratchDigits id
  let digitLen := 20 - d
  let source ← digits.sliceFrom d
  buf.copyFromSlice 8 (8 + digitLen) source

/-- The string that C reads from a buffer. -/
def Buffer.cString {n : Nat} (buffer : Buffer n) : List UInt8 :=
  buffer.bytes.takeWhile (· ≠ 0)

end PgTransport.Backend
