/-
Structured texts as they are written, on one line or with one member in each line. A float has the
fewest digits that read back, and always a point or an exponent.
-/

import Gamecode.Codec
import Gamecode.Number.Plain
import Gamecode.Text.Quoted

namespace Gamecode

namespace Json

/-! ### Floats -/

/-- A decimal is written with its point in place while its first digit is worth at least `10 ^ -6`
and less than `10 ^ 13`. -/
def isPositional (leading : Int) : Bool :=
  -6 ≤ leading && leading ≤ 12

/-- A decimal with the point in place, and a zero behind the point where nothing else is. -/
def positionalText (decimal : Number.Decimal) : String :=
  if 0 ≤ decimal.exponent then decimal.plainText ++ ".0" else decimal.plainText

/-- One digit before the point and the rest behind it, with the sign of the exponent written out. -/
def scientificText (digits : List Char) (leading : Int) : String :=
  let fraction :=
    match digits with
    | [] | [_] => ""
    | _ :: rest => "." ++ String.ofList rest
  String.ofList (digits.take 1) ++ fraction ++ "e" ++ (if leading < 0 then "-" else "+") ++
    toString leading.natAbs

/-- A decimal with its point in place, or with an exponent, as its size asks for. -/
def decimalText (decimal : Number.Decimal) : String :=
  let digits := Nat.toDigits 10 decimal.digits
  let leading := decimal.exponent + digits.length - 1
  if isPositional leading then positionalText decimal else scientificText digits leading

/-- A float; what is not a number is written as null. -/
def floatText (bits : Slot) : String :=
  match Number.denote bits with
  | .finite negative size =>
    Number.signText negative ++
      (if size.significand = 0 then "0.0"
        else decimalText (Number.shortest Number.single .toEven size))
  | _ => "null"

/-! ### Strings -/

/-- One character of a string; control characters of the first block are escaped. -/
def characterText (character : Char) : String :=
  if character = '"' then "\\\""
  else if character = '\\' then "\\\\"
  else if character = '\x08' then "\\b"
  else if character = '\x0c' then "\\f"
  else if character = '\n' then "\\n"
  else if character = '\r' then "\\r"
  else if character = '\t' then "\\t"
  else if character.toNat < 0x20 then
    "\\u" ++ Text.padLeft 4 '0' (Text.hexText character.toNat)
  else character.toString

/-- A text between quotes. -/
def stringText (text : String) : String :=
  "\"" ++ String.join (text.toList.map characterText) ++ "\""

/-! ### Documents -/

/-- How the parts of a document are set apart. -/
structure Layout where
  /-- What stands before each part at a depth, the closing mark counting as one. -/
  lineBreak : (depth : Nat) → String
  colon : String

/-- Everything on one line, without blanks. -/
def Layout.compact : Layout := ⟨fun _ => "", ":"⟩

/-- One part in each line, two blanks deeper than its parent. -/
def Layout.pretty : Layout :=
  ⟨fun depth => "\n" ++ String.ofList (List.replicate (2 * depth) ' '), ": "⟩

end Json

open Json

mutual

/-- A document that begins `depth` levels deep. -/
def Document.textAt (layout : Layout) (depth : Nat) : Document → String
  | .null => "null"
  | .bool value => if value then "true" else "false"
  | .integer value => toString value
  | .float bits => floatText bits
  | .string text => stringText text
  | .array [] => "[]"
  | .array (element :: rest) =>
    "[" ++ layout.lineBreak (depth + 1) ++ element.textAt layout (depth + 1) ++
      Json.elementsAt layout (depth + 1) rest ++ layout.lineBreak depth ++ "]"
  | .object [] => "\x7b\x7d"
  | .object ((key, value) :: rest) =>
    "\x7b" ++ layout.lineBreak (depth + 1) ++ stringText key ++ layout.colon ++
      value.textAt layout (depth + 1) ++ Json.membersAt layout (depth + 1) rest ++
      layout.lineBreak depth ++ "\x7d"

/-- The elements after the first. -/
def Json.elementsAt (layout : Layout) (depth : Nat) : List Document → String
  | [] => ""
  | element :: rest =>
    "," ++ layout.lineBreak depth ++ element.textAt layout depth ++
      Json.elementsAt layout depth rest

/-- The members after the first. -/
def Json.membersAt (layout : Layout) (depth : Nat) : List (String × Document) → String
  | [] => ""
  | (key, value) :: rest =>
    "," ++ layout.lineBreak depth ++ stringText key ++ layout.colon ++
      value.textAt layout depth ++ Json.membersAt layout depth rest

end

namespace Document

/-- A document on one line, without blanks. -/
def compact (document : Document) : String :=
  document.textAt .compact 0

/-- A document with a line for every part. -/
def pretty (document : Document) : String :=
  document.textAt .pretty 0

end Document

end Gamecode
