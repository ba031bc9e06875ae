/-
Floats as exact numbers. A pattern of bits denotes a natural significand times a power of two, and a
quotient of naturals is rounded to the nearest number of a binary format, a tie going to the even
significand. All of it is natural-number arithmetic, so that texts of floats can be reasoned about.
-/

import Gamecode.Slot

namespace Gamecode.Number

/-! ### What a pattern denotes -/

/-- A scaled number is `significand * 2 ^ exponent`. -/
structure Scaled where
  significand : Nat
  exponent : Int
deriving Repr, DecidableEq

/-- The three things that a float pattern can denote. -/
inductive Denotation
  | undefined
  | infinite (negative : Bool)
  | finite (negative : Bool) (size : Scaled)
deriving Repr, DecidableEq

/-- A pattern has a sign bit, eight bits of exponent and 23 bits of fraction. -/
def denote (slot : Slot) : Denotation :=
  let negative := slot.isNegative
  let field : Nat := slot.toNat / 0x800000 % 0x100
  let fraction : Nat := slot.toNat % 0x800000
  if field = 255 then
    if fraction = 0 then .infinite negative else .undefined
  else if field = 0 then
    .finite negative ⟨fraction, -149⟩
  else
    .finite negative ⟨0x800000 + fraction, (field : Int) - 150⟩

/-- A float that is neither infinite nor undefined. -/
def IsFinite (slot : Slot) : Prop :=
  ∃ negative size, denote slot = .finite negative size

namespace Scaled

/-- A scaled number as a quotient of two naturals. -/
def numerator (number : Scaled) : Nat :=
  number.significand * Nat.pow 2 number.exponent.toNat

/-- The power of two by which the significand is divided. -/
def denominator (number : Scaled) : Nat :=
  Nat.pow 2 (-number.exponent).toNat

end Scaled

/-! ### Rounding -/

/-- The natural number nearest to a quotient, the even one of two that are equally near. -/
def divideToNearest (numerator denominator : Nat) : Nat :=
  let quotient := numerator / denominator
  let remainder := numerator % denominator
  if 2 * remainder < denominator then quotient
  else if denominator < 2 * remainder then quotient + 1
  else if quotient % 2 = 0 then quotient
  else quotient + 1

/-- A binary format has significands below `2 ^ precision`, and exponents from `lowest` to
`highest`. -/
structure Format where
  precision : Nat
  lowest : Int
  highest : Int

/-- The format of slots. -/
def single : Format := ⟨24, -149, 104⟩

/-- The wider format through which structured text passes its numbers. -/
def double : Format := ⟨53, -1074, 971⟩

namespace Format

/-- The exponent at which a quotient has exactly as many significant bits as the format keeps, or
the lowest one where it is too small for that. -/
def exponentOf (format : Format) (numerator denominator : Nat) : Int :=
  let above := numerator.log2
  let below := denominator.log2
  let exponent : Int := (above : Int) - below - format.precision
  max format.lowest
    (if denominator * Nat.pow 2 above ≤ numerator * Nat.pow 2 below then exponent + 1 else exponent)

/-- The number of the format nearest to a quotient, and none where that is too large for it. Zero
has the lowest exponent. -/
def round (format : Format) (numerator denominator : Nat) : Option Scaled :=
  if numerator = 0 then some ⟨0, format.lowest⟩ else
  let exponent := format.exponentOf numerator denominator
  let significand :=
    divideToNearest (numerator * Nat.pow 2 (-exponent).toNat)
      (denominator * Nat.pow 2 exponent.toNat)
  let rounded : Scaled :=
    if significand = Nat.pow 2 format.precision then
      ⟨Nat.pow 2 (format.precision - 1), exponent + 1⟩
    else ⟨significand, exponent⟩
  if format.highest < rounded.exponent then none else some rounded

end Format

/-! ### Slots of exact numbers -/

/-- The sign bit of a slot. -/
def signBit (negative : Bool) : Slot :=
  if negative then 0x80000000 else 0

/-- The pattern of infinity. -/
def infinity (negative : Bool) : Slot :=
  signBit negative ||| 0x7f800000

/-- The default undefined pattern of each sign. -/
def undefinedPattern (negative : Bool) : Slot :=
  signBit negative ||| 0x7fc00000

/-- The slot of a number in the single format: one step of the exponent is worth `2 ^ 23`, and the
leading bit of a full significand counts as the first such step. -/
def pack (negative : Bool) (number : Scaled) : Slot :=
  signBit negative |||
    UInt32.ofNat ((number.exponent + 149).toNat * 0x800000 + number.significand)

/-- The slot nearest to a quotient; one that is too large is infinite. -/
def ofQuotient (negative : Bool) (numerator denominator : Nat) : Slot :=
  match single.round numerator denominator with
  | some number => pack negative number
  | none => infinity negative

/-- The slot nearest to an integer. -/
def ofInt (number : Int) : Slot :=
  ofQuotient (number < 0) number.natAbs 1

/-! ### Integers of slots -/

/-- Whether a finite number has no fraction. -/
def Scaled.isWhole (number : Scaled) : Bool :=
  number.numerator % number.denominator = 0

/-- The whole part of a finite number. -/
def Scaled.wholePart (number : Scaled) : Nat :=
  number.numerator / number.denominator

/-- The integer that a float is cut down to: towards zero, clamped to the signed range, and zero for
an undefined value. -/
def truncated (slot : Slot) : Int :=
  match denote slot with
  | .undefined => 0
  | .infinite negative => if negative then -0x80000000 else 0x80000000 - 1
  | .finite negative size =>
    if negative then max (-0x80000000) (-(size.wholePart : Int))
    else min (0x80000000 - 1) size.wholePart

end Gamecode.Number
