/-
Structured texts as they are read. A numeral is kept as it is written, because its value matters
only where a reader asks for it; the same holds of a text with escapes that denote half a character.
-/

import Gamecode.Number.Numeral

namespace Gamecode.Json

/-- A number as it is written: its digits before the point, those behind it, and the sign and digits
of its exponent. -/
structure Numeral where
  negative : Bool
  whole : List Char
  fraction : Option (List Char)
  exponent : Option (Bool × List Char)
deriving Repr, DecidableEq

/-- A structured text. A string has no text where its escapes do not make up characters. -/
inductive Node
  | null
  | bool (value : Bool)
  | number (numeral : Numeral)
  | string (text : Option String)
  | array (elements : List Node)
  | object (members : List (Option String × Node))
deriving Repr

/-! ### Values of numerals -/

/-- What a numeral stands for: a whole number that fits 64 bits, or a float of double width. -/
inductive Quantity
  | natural (value : Nat)
  | negative (value : Int)
  | approximate (negative : Bool) (size : Number.Scaled)
deriving Repr, DecidableEq

/-- The greatest natural number of 64 bits. -/
def maxNatural : Nat := 0x10000000000000000 - 1

/-- Append digits to a significand for as long as it fits 64 bits. The second part is how many
digits were left over. -/
def takeDigits : (significand : Nat) → List Char → Nat × Nat
  | significand, [] => (significand, 0)
  | significand, digit :: rest =>
    let next := 10 * significand + (digit.toNat - '0'.toNat)
    if maxNatural < next then (significand, rest.length + 1) else takeDigits next rest

/-- A power of ten as a float of double width. -/
def powerOfTen (exponent : Nat) : Number.Scaled :=
  (Number.double.round (Nat.pow 10 exponent) 1).getD ⟨0, 0⟩

/-- The greatest power of ten of double width. -/
def maxPower : Nat := 308

def product (left right : Number.Scaled) : Option Number.Scaled :=
  Number.double.round (left.numerator * right.numerator) (left.denominator * right.denominator)

def quotient (left right : Number.Scaled) : Option Number.Scaled :=
  Number.double.round (left.numerator * right.denominator) (left.denominator * right.numerator)

/-- Divide by a power of ten, in steps of the greatest one. Four steps turn every significand into
zero. -/
def shrink : (rounds : Nat) → Number.Scaled → (exponent : Nat) → Option Number.Scaled
  | 0, _, _ => some ⟨0, 0⟩
  | rounds + 1, size, exponent =>
    if exponent ≤ maxPower then quotient size (powerOfTen exponent)
    else
      match quotient size (powerOfTen maxPower) with
      | some smaller => shrink rounds smaller (exponent - maxPower)
      | none => none

/-- The float `significand * 10 ^ exponent`, with one rounding for each of the two factors and one
for their product; none where it is too large. -/
def scaledBy (significand : Nat) (exponent : Int) : Option Number.Scaled :=
  match Number.double.round significand 1 with
  | none => none
  | some size =>
    if exponent < 0 then shrink 4 size (-exponent).toNat
    else if exponent ≤ maxPower then product size (powerOfTen exponent.toNat)
    else if significand = 0 then some size
    else none

namespace Numeral

/-- Whether a numeral has neither a fraction nor an exponent. -/
def isWhole (numeral : Numeral) : Bool :=
  numeral.fraction.isNone && numeral.exponent.isNone

/-- The value of a numeral whose digits before the point all fit, and that has no others. -/
def wholeValue (negative : Bool) (significand : Nat) : Option Quantity :=
  if ! negative then some (.natural significand)
  else if 0 < significand ∧ significand ≤ 0x8000000000000000 then some (.negative (-significand))
  else (Number.double.round significand 1).map (.approximate true)

/-- The exponent that is written; none where it does not fit 32 bits. -/
def writtenExponent? (digits : List Char) : Option Nat :=
  let exponent := Number.digitsValue digits
  if exponent < 0x80000000 then some exponent else none

/-- The value of a numeral; none where it is too large for a float. Digits that do not fit the
significand only count as places. -/
def value? (numeral : Numeral) : Option Quantity :=
  let (whole, dropped) := takeDigits 0 numeral.whole
  if numeral.isWhole ∧ dropped = 0 then wholeValue numeral.negative whole
  else
    let places := numeral.fraction.getD []
    let (significand, ignored) := takeDigits whole places
    let start : Int := (dropped : Int) - (places.length - ignored : Nat)
    match numeral.exponent with
    | none => (scaledBy significand start).map (.approximate numeral.negative)
    | some (downward, digits) =>
      match writtenExponent? digits with
      | none =>
        if significand ≠ 0 ∧ ! downward then none
        else some (.approximate numeral.negative ⟨0, 0⟩)
      | some exponent =>
        let exponent : Int := if downward then start - exponent else start + exponent
        (scaledBy significand exponent).map (.approximate numeral.negative)

end Numeral

/-- A quantity in the format of slots. -/
def Quantity.toSlot : Quantity → Slot
  | natural value => Number.ofInt value
  | negative value => Number.ofInt value
  | approximate isNegative size =>
    Number.ofQuotient isNegative size.numerator size.denominator

/-! ### Readings of nodes -/

namespace Node

/-- The quantity of a number. -/
def quantity? : Node → Option Quantity
  | number numeral => numeral.value?
  | _ => none

/-- A natural number of 64 bits that is written without a point and without an exponent. -/
def natural? (node : Node) : Option Nat :=
  match node.quantity? with
  | some (.natural value) => some value
  | _ => none

/-- An integer in the signed range of slots. -/
def signed? (node : Node) : Option Int :=
  match node.quantity? with
  | some (.natural value) => if value < 0x80000000 then some value else none
  | some (.negative value) => if -0x80000000 ≤ value then some value else none
  | _ => none

/-- Any number as a float. -/
def slot? (node : Node) : Option Slot :=
  node.quantity?.map Quantity.toSlot

/-- The truth value that a node is. -/
def bool? : Node → Option Bool
  | bool value => some value
  | _ => none

/-- The elements of a list. -/
def elements? : Node → Option (List Node)
  | array elements => some elements
  | _ => none

/-- The members of a record. -/
def members? : Node → Option (List (Option String × Node))
  | object members => some members
  | _ => none

/-- Whether a node is null. -/
def isNull : Node → Bool
  | null => true
  | _ => false

/-- The text that a node is; none for a string in which half of a pair is missing. -/
def text? : Node → Option String
  | string text => text
  | _ => none

end Node

end Gamecode.Json
