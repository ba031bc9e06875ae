/-
The checksum in the header of an image. It is the cyclic code of the polynomial x^16 + x^12 + x^5 +
1 over the bytes, most significant bit first, from a register of ones.
-/

namespace Gamecode

/-- The register of a checksum under way. -/
structure Checksum where
  value : UInt16
deriving Repr, DecidableEq

namespace Checksum

/-- The terms of the polynomial below x^16. -/
def polynomial : UInt16 := 0x1021

/-- The register before any byte. -/
def empty : Checksum := ⟨0xffff⟩

/-- The register moves up one place, and the bit that leaves it is folded back in. -/
def shift (register : UInt16) : UInt16 :=
  if register &&& 0x8000 != 0 then (register <<< 1) ^^^ polynomial else register <<< 1

/-- Several places at once. -/
def shiftBy : Nat → UInt16 → UInt16
  | 0, register => register
  | places + 1, register => shiftBy places (shift register)

/-- One byte enters at the top of the register and moves through it in eight places. -/
def push (checksum : Checksum) (byte : UInt8) : Checksum :=
  ⟨shiftBy 8 (checksum.value ^^^ (byte.toUInt16 <<< 8))⟩

/-- The checksum after more bytes. -/
def append (checksum : Checksum) (bytes : List UInt8) : Checksum :=
  bytes.foldl push checksum

/-- The checksum of a whole text. -/
def ofBytes (bytes : List UInt8) : UInt16 :=
  (empty.append bytes).value

/-- The bytes may come in any number of pieces. -/
theorem append_append (checksum : Checksum) (first second : List UInt8) :
    (checksum.append first).append second = checksum.append (first ++ second) := by
  simp only [append, List.foldl_append]

end Checksum

end Gamecode
