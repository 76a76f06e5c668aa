-- Numbers in byte sequences, low byte first.

namespace AppBoundary.Bytes

/-- The byte at an offset, zero outside the sequence. -/
def byteAt (bytes : ByteArray) (offset : Nat) : Nat :=
  match bytes[offset]? with
  | some b => b.toNat
  | none => 0

/-- The number that some bytes from an offset on write. -/
def numberAt (bytes : ByteArray) (offset : Nat) : Nat → Nat
  | 0 => 0
  | count + 1 => byteAt bytes offset + 0x100 * numberAt bytes (offset + 1) count

/-- The number of two bytes, if they are there. -/
def u16? (bytes : ByteArray) (offset : Nat) : Option Nat :=
  if offset + 2 ≤ bytes.size then some (numberAt bytes offset 2) else none

/-- The number of four bytes, if they are there. -/
def u32? (bytes : ByteArray) (offset : Nat) : Option Nat :=
  if offset + 4 ≤ bytes.size then some (numberAt bytes offset 4) else none

/-- A stretch of bytes, if all of it is there. -/
def stretch? (bytes : ByteArray) (offset length : Nat) : Option ByteArray :=
  if offset + length ≤ bytes.size then some (bytes.extract offset (offset + length)) else none

end AppBoundary.Bytes
