/-
Texts of floats for people. The plain text never has an exponent and has the fewest digits that read
back; the tabular text has one place and is padded to five columns.
-/

import Gamecode.Number.Decimal
import Gamecode.Text.Padding

namespace Gamecode.Number

/-- A decimal written without an exponent. -/
def Decimal.plainText (decimal : Decimal) : String :=
  let digits := toString decimal.digits
  if 0 ≤ decimal.exponent then
    digits ++ String.ofList (List.replicate decimal.exponent.toNat '0')
  else
    let places := (-decimal.exponent).toNat
    let padded := (Text.padLeft (places + 1) '0' digits).toList
    String.ofList (padded.take (padded.length - places)) ++ "." ++
      String.ofList (padded.drop (padded.length - places))

/-- A minus sign, or nothing. -/
def signText (negative : Bool) : String :=
  if negative then "-" else ""

/-- The fewest digits that read back as the same float, a tie going up, and no exponent. -/
def plainText (slot : Slot) : String :=
  match denote slot with
  | .undefined => "NaN"
  | .infinite negative => signText negative ++ "inf"
  | .finite negative size =>
    if size.significand = 0 then signText negative ++ "0"
    else signText negative ++ (shortest single .upward size).plainText

/-- One decimal place, exactly rounded, with the sign of a negative zero kept. -/
def oneDecimal (slot : Slot) : String :=
  match denote slot with
  | .undefined => "NaN"
  | .infinite negative => signText negative ++ "inf"
  | .finite negative size =>
    let tenths := roundedToPlaces size 1
    signText negative ++ toString (tenths / 10) ++ "." ++ toString (tenths % 10)

/-- One decimal place in a column of five. -/
def tabular (slot : Slot) : String :=
  Text.padLeft 5 ' ' (oneDecimal slot)

/-- Whole floats below `2 ^ 31` are written as integers, all others with one decimal place. -/
def display (slot : Slot) : String :=
  match denote slot with
  | .finite negative size =>
    if size.isWhole ∧ size.wholePart < 0x80000000 then
      toString (if negative then -(size.wholePart : Int) else size.wholePart)
    else tabular slot
  | _ => tabular slot

end Gamecode.Number
