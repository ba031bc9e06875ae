/-
Finite floats in decimal. This file chooses the fewest digits that read back as the same float, and
rounds to a given number of places; both are exact, in natural-number arithmetic.
-/

import Gamecode.Number.Binary

namespace Gamecode.Number

/-- A decimal is `digits * 10 ^ exponent`. -/
structure Decimal where
  digits : Nat
  exponent : Int
deriving Repr, DecidableEq

/-- How many digits a number is written with; zero takes one. -/
def digitCount (number : Nat) : Nat :=
  (Nat.toDigits 10 number).length

namespace Decimal

/-- The same decimal with no zero at its end. -/
def trimmed (decimal : Decimal) : Decimal :=
  go decimal.digits decimal.exponent (digitCount decimal.digits)
where
  /-- Each round removes one zero, and there are no more of them than digits. -/
  go (digits : Nat) (exponent : Int) : Nat → Decimal
    | 0 => ⟨digits, exponent⟩
    | rounds + 1 =>
      if digits % 10 = 0 ∧ digits ≠ 0 then go (digits / 10) (exponent + 1) rounds
      else ⟨digits, exponent⟩

/-- A decimal as a quotient of two naturals. -/
def numerator (decimal : Decimal) : Nat :=
  decimal.digits * Nat.pow 10 decimal.exponent.toNat

/-- The power of ten by which the digits are divided. -/
def denominator (decimal : Decimal) : Nat :=
  Nat.pow 10 (-decimal.exponent).toNat

end Decimal

/-! ### Magnitude -/

/-- The power of ten that bounds a positive quotient: `10 ^ (p - 1) ≤ value < 10 ^ p`. -/
def decimalMagnitude (numerator denominator : Nat) : Int :=
  let above := digitCount numerator
  let below := digitCount denominator
  if denominator * Nat.pow 10 above ≤ numerator * Nat.pow 10 below then (above : Int) - below + 1
  else (above : Int) - below

/-! ### Shortest digits -/

/-- The interval of numbers that round to a float. Both ends are quotients over one denominator, and
they belong to it when the significand is even. -/
structure Basin where
  lower : Nat
  value : Nat
  upper : Nat
  denominator : Nat
  closed : Bool

/-- The basin reaches half a step up, and half a step down unless the step below is half as wide. -/
def basin (format : Format) (number : Scaled) : Basin :=
  let narrow := number.significand = Nat.pow 2 (format.precision - 1) ∧
    format.lowest < number.exponent
  let scale := Nat.pow 2 number.exponent.toNat
  { lower := (4 * number.significand - (if narrow then 1 else 2)) * scale
    value := 4 * number.significand * scale
    upper := (4 * number.significand + 2) * scale
    denominator := 4 * Nat.pow 2 (-number.exponent).toNat
    closed := number.significand % 2 = 0 }

/-- Whether `numerator / denominator` lies in a basin. -/
def Basin.contains (basin : Basin) (numerator denominator : Nat) : Bool :=
  let point := numerator * basin.denominator
  let lower := basin.lower * denominator
  let upper := basin.upper * denominator
  if basin.closed then lower ≤ point ∧ point ≤ upper else lower < point ∧ point < upper

/-- Where two decimals of the least length are equally near, texts differ in which they take. -/
inductive TieRule
  | upward
  | toEven
deriving DecidableEq

/-- The best point of the grid of multiples of `10 ^ exponent` inside a basin. Only the two
neighbours of the value can be nearest. -/
def Basin.nearestOnGrid? (basin : Basin) (tie : TieRule) (exponent : Int) : Option Nat :=
  let step := Nat.pow 10 exponent.toNat
  let parts := Nat.pow 10 (-exponent).toNat
  let scaled := basin.value * parts
  let unit := basin.denominator * step
  let below := scaled / unit
  let remainder := scaled % unit
  let inside (point : Nat) : Bool := basin.contains (point * step) parts
  match inside below, inside (below + 1) with
  | false, false => none
  | true, false => some below
  | false, true => some (below + 1)
  | true, true =>
    if 2 * remainder < unit then some below
    else if unit < 2 * remainder then some (below + 1)
    else
      match tie with
      | .upward => some (below + 1)
      | .toEven => if below % 2 = 0 then some below else some (below + 1)

/-- The shortest decimal that rounds to a positive number of a format, and of several the nearest.
No more than 17 digits are ever needed. -/
def shortest (format : Format) (tie : TieRule) (number : Scaled) : Decimal :=
  let region := basin format number
  let magnitude := decimalMagnitude region.value region.denominator
  let attempt (length : Nat) : Option Decimal :=
    (region.nearestOnGrid? tie (magnitude - length)).map fun digits =>
      Decimal.trimmed ⟨digits, magnitude - length⟩
  ((List.range' 1 17).findSome? attempt).getD ⟨0, 0⟩

/-! ### Fixed places -/

/-- A number in units of `10 ^ -places`, the nearest one and on a tie the even one. -/
def roundedToPlaces (number : Scaled) (places : Nat) : Nat :=
  divideToNearest (number.numerator * Nat.pow 10 places) number.denominator

end Gamecode.Number
