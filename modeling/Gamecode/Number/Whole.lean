/-
Reading whole numbers. A numeral is digits from end to end, after an optional sign, and its value
has to lie in a range. A numeral for a natural number may have a plus sign only.
-/

import Gamecode.Number.Numeral

namespace Gamecode.Number

/-- The number that some digits write; none where there is another character, or none at all. -/
def ofDigits? (text : List Char) : Option Nat :=
  if text.isEmpty ∨ ¬ text.all Char.isDigit then none else some (digitsValue text)

/-- The whole number from `least` to `greatest` that a text writes. -/
def integer? (least greatest : Int) (text : List Char) : Option Int :=
  let (negative, digits) := splitSign text
  match ofDigits? digits with
  | none => none
  | some size =>
    let number : Int := if negative then -size else size
    if least ≤ number ∧ number ≤ greatest then some number else none

/-- The natural number up to `greatest` that a text writes. -/
def natural? (greatest : Nat) : List Char → Option Nat
  | '-' :: _ => none
  | text => (integer? 0 greatest text).map Int.toNat

/-- The range of 64-bit words, which count things. -/
def maxCount : Nat := 0x10000000000000000 - 1

/-- The range of 32-bit numbers in two's complement, which are references. -/
def reference? (text : List Char) : Option Int :=
  integer? (-0x80000000) (0x80000000 - 1) text

end Gamecode.Number
