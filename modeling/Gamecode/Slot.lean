/-
Slots are the untyped 32-bit cells that globals, entity records and the return area are made of.
This file gives the readings of a slot as a signed number and as a float, and the float operations
of the machine, whose operands and results are slots.
-/

namespace Gamecode

/-- A slot is 32 raw bits; what they mean is up to the declaration that names them. -/
abbrev Slot := UInt32

namespace Slot

/-! ### Signed numbers -/

/-- The number a slot holds when its bits are read in two's complement. -/
def signed (slot : Slot) : Int :=
  if slot.toNat < 0x80000000 then slot.toNat else (slot.toNat : Int) - 0x100000000

/-- The slot that holds a number, reduced modulo `2 ^ 32`. -/
def ofSigned (number : Int) : Slot :=
  UInt32.ofNat (number % 0x100000000).toNat

/-- The bits of a stored number are the number modulo `2 ^ 32`. -/
theorem toNat_ofSigned (number : Int) : (ofSigned number).toNat = (number % 0x100000000).toNat := by
  simp only [ofSigned, UInt32.toNat_ofNat']
  omega

/-- Every slot is the slot of its own signed reading. -/
theorem ofSigned_signed (slot : Slot) : ofSigned (signed slot) = slot := by
  apply UInt32.toNat_inj.mp
  have bound := slot.toNat_lt
  rw [toNat_ofSigned, signed]
  split <;> omega

/-- A number in the signed range survives being stored. -/
theorem signed_ofSigned {number : Int} (lower : -0x80000000 ≤ number)
    (upper : number < 0x80000000) :
    signed (ofSigned number) = number := by
  rw [signed, toNat_ofSigned]
  split <;> omega

/-- A number as a slot holds it: what a slot has no room for comes out negative or comes round. -/
def wrap (number : Int) : Int :=
  signed (ofSigned number)

/-- A number in the signed range is held as it is. -/
theorem wrap_natCast {number : Nat} (small : number < 0x80000000) : wrap number = number :=
  signed_ofSigned (by omega) (by omega)

/-- What is held for a number is not above it. -/
theorem wrap_natCast_le (number : Nat) : wrap number ≤ number := by
  rw [wrap, signed, toNat_ofSigned]
  split <;> omega

/-- The slot of a number is the slot of what is held for it. -/
@[simp] theorem ofSigned_wrap (number : Int) : ofSigned (wrap number) = ofSigned number :=
  ofSigned_signed _

/-- The greatest number that a slot holds is `2 ^ 31 - 1`. -/
theorem signed_lt (slot : Slot) : signed slot < 0x80000000 := by
  have bound := slot.toNat_lt
  rw [signed]
  split <;> omega

/-- The least number that a slot holds is `-2 ^ 31`. -/
theorem neg_le_signed (slot : Slot) : -0x80000000 ≤ signed slot := by
  have bound := slot.toNat_lt
  rw [signed]
  split <;> omega

/-! ### Floats -/

/-- The float a slot holds. -/
def float (slot : Slot) : Float32 :=
  Float32.ofBits slot

/-- A pattern is undefined when its exponent is full and its fraction is not zero. -/
def isUndefined (slot : Slot) : Bool :=
  0x7f800000 < slot &&& 0x7fffffff

/-- Both zeros are zero. -/
def isZero (slot : Slot) : Bool :=
  slot &&& 0x7fffffff == 0

/-- Whether the sign bit is set, be it of a zero or of an undefined value. -/
def isNegative (slot : Slot) : Bool :=
  slot &&& 0x80000000 != 0

/-- An operation that has no defined result keeps its first undefined operand, made quiet; one that
has no such operand leaves the default pattern. -/
def combine (operation : Float32 → Float32 → Float32) (left right : Slot) : Slot :=
  let result := (operation left.float right.float).toBits
  if isUndefined result then
    if isUndefined left then left ||| 0x00400000
    else if isUndefined right then right ||| 0x00400000
    else 0xffc00000
  else result

def add (left right : Slot) : Slot := combine (· + ·) left right
def subtract (left right : Slot) : Slot := combine (· - ·) left right
def multiply (left right : Slot) : Slot := combine (· * ·) left right
def divide (left right : Slot) : Slot := combine (· / ·) left right

/-- Negation flips the sign bit and nothing else. -/
def negate (slot : Slot) : Slot :=
  slot ^^^ 0x80000000

/-- Equality of the floats: the zeros are equal and an undefined value equals nothing. -/
def equals (left right : Slot) : Bool :=
  left.float == right.float

/-- The order of the floats; an undefined value is less than nothing. -/
def isLess (left right : Slot) : Bool :=
  left.float < right.float

/-- The order of the floats with equality; an undefined value is not even at most itself. -/
def isAtMost (left right : Slot) : Bool :=
  left.float ≤ right.float

/-- Truth values are the floats one and zero. -/
def ofBool (truth : Bool) : Slot :=
  if truth then 0x3f800000 else 0

end Slot

end Gamecode
