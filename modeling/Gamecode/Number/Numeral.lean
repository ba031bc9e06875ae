/-
Reading floats. A numeral is an optional sign, digits with at most one point among them, and an
optional exponent; the words for infinity and for an undefined value are numerals too. The result is
the float nearest to the decimal that is written. A text that merely begins like a number has a
leading numeral, which has no exponent.
-/

import Gamecode.Number.Decimal

namespace Gamecode.Number

/-! ### Decimals to floats -/

/-- The float nearest to a decimal. Beyond 39 digits before the point everything is infinite, and
below 45 places behind it everything is zero, so the exact arithmetic stays small. -/
def ofDecimal (negative : Bool) (decimal : Decimal) : Slot :=
  if decimal.digits = 0 then signBit negative
  else
    let magnitude := (digitCount decimal.digits : Int) + decimal.exponent
    if 40 < magnitude then infinity negative
    else if magnitude < -46 then signBit negative
    else ofQuotient negative decimal.numerator decimal.denominator

/-- The number that a list of digits writes. -/
def digitsValue (digits : List Char) : Nat :=
  digits.foldl (fun number digit => 10 * number + (digit.toNat - '0'.toNat)) 0

/-! ### Numerals -/

/-- A sign, if there is one, and the rest. -/
def splitSign : List Char → Bool × List Char
  | '-' :: rest => (true, rest)
  | '+' :: rest => (false, rest)
  | text => (false, text)

/-- The longest run of digits, and the rest. -/
def splitDigits (text : List Char) : List Char × List Char :=
  (text.takeWhile Char.isDigit, text.dropWhile Char.isDigit)

/-- The digits after a point, if the text starts with one, and the rest. -/
def splitFraction : List Char → List Char × List Char
  | '.' :: rest => splitDigits rest
  | text => ([], text)

/-- An exponent that fills the whole text; an empty text is the exponent zero. -/
def exponentValue? : List Char → Option Int
  | [] => some 0
  | mark :: rest =>
    if mark = 'e' ∨ mark = 'E' then
      let (negative, text) := splitSign rest
      if text.isEmpty ∨ ¬ text.all Char.isDigit then none
      else some (if negative then -(digitsValue text : Int) else digitsValue text)
    else none

/-- An unsigned numeral that fills the whole text. -/
def decimal? (text : List Char) : Option Decimal :=
  let (whole, rest) := splitDigits text
  let (fraction, tail) := splitFraction rest
  if whole.isEmpty ∧ fraction.isEmpty then none
  else (exponentValue? tail).map fun exponent =>
    ⟨digitsValue (whole ++ fraction), exponent - fraction.length⟩

/-- A text without its ASCII capitals. -/
def lowered (text : List Char) : List Char :=
  text.map Char.toLower

/-- The float that a numeral writes; none where the text is not one numeral from end to end. -/
def parse? (text : List Char) : Option Slot :=
  let (negative, body) := splitSign text
  let word := lowered body
  if word = "inf".toList ∨ word = "infinity".toList then some (infinity negative)
  else if word = "nan".toList then some (undefinedPattern negative)
  else (decimal? body).map (ofDecimal negative)

/-! ### Leading numerals -/

/-- The part of a text that a leading number covers: a sign, digits, a point and more digits, each
as far as it goes. -/
def leadingNumeral (text : List Char) : List Char :=
  let sign := text.take (text.length - (splitSign text).2.length)
  let (whole, rest) := splitDigits (splitSign text).2
  match rest with
  | '.' :: tail => sign ++ whole ++ '.' :: tail.takeWhile Char.isDigit
  | _ => sign ++ whole

/-- Whether a leading part is no number: there is nothing behind its sign, or the point alone. -/
def isBare (text : List Char) : Bool :=
  (splitSign text).2 = [] ∨ (splitSign text).2 = ['.']

end Gamecode.Number
