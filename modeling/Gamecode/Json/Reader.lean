/-
Reading structured texts. The grammar is that of JSON: one value between blanks, and nothing else.
-/

import Gamecode.Json.Document
import Gamecode.Json.Node

namespace Gamecode.Json

namespace Reader

/-! ### Blanks -/

/-- The characters that may stand between tokens. -/
def isBlank (character : Char) : Bool :=
  character = ' ' || character = '\n' || character = '\t' || character = '\r'

/-- What follows the blanks at the beginning. -/
def skipBlanks (text : List Char) : List Char :=
  text.dropWhile isBlank

/-! ### Strings -/

/-- A piece of a string: a character, or one of the 16-bit units that escapes can denote. -/
inductive Piece
  | character (character : Char)
  | unit (number : Nat)
deriving Repr, DecidableEq

/-- The value of a hexadecimal digit. -/
def hexDigit? (character : Char) : Option Nat :=
  let code := character.toNat
  if '0'.toNat ≤ code ∧ code ≤ '9'.toNat then some (code - '0'.toNat)
  else if 'a'.toNat ≤ code ∧ code ≤ 'f'.toNat then some (code - 'a'.toNat + 10)
  else if 'A'.toNat ≤ code ∧ code ≤ 'F'.toNat then some (code - 'A'.toNat + 10)
  else none

def unit? (a b c d : Char) : Option Piece := do
  let first ← hexDigit? a
  let second ← hexDigit? b
  let third ← hexDigit? c
  let fourth ← hexDigit? d
  return .unit (((first * 16 + second) * 16 + third) * 16 + fourth)

/-- The characters that a letter stands for after a backslash. -/
def escaped? : Char → Option Char
  | '"' => some '"'
  | '\\' => some '\\'
  | '/' => some '/'
  | 'b' => some '\x08'
  | 'f' => some '\x0c'
  | 'n' => some '\n'
  | 'r' => some '\r'
  | 't' => some '\t'
  | _ => none

/-- The rest of a string behind its opening quote, and what follows the closing one. -/
def pieces? : List Char → Option (List Piece × List Char)
  | [] => none
  | '"' :: rest => some ([], rest)
  | '\\' :: 'u' :: a :: b :: c :: d :: rest => do
    let piece ← unit? a b c d
    let (pieces, rest) ← pieces? rest
    return (piece :: pieces, rest)
  | '\\' :: letter :: rest => do
    let character ← escaped? letter
    let (pieces, rest) ← pieces? rest
    return (.character character :: pieces, rest)
  | character :: rest =>
    if character.toNat < 0x20 then none
    else do
      let (pieces, rest) ← pieces? rest
      return (.character character :: pieces, rest)

/-- Units above the last one of the first plane stand in pairs of a high and a low one. -/
def isHigh (unit : Nat) : Bool :=
  0xd800 ≤ unit && unit < 0xdc00

/-- Whether a unit is the second one of a pair. -/
def isLow (unit : Nat) : Bool :=
  0xdc00 ≤ unit && unit < 0xe000

/-- The characters of a string, unless half of a pair is missing. -/
def join? : List Piece → Option (List Char)
  | [] => some []
  | .character character :: rest => (join? rest).map (character :: ·)
  | .unit high :: .unit low :: rest =>
    if isHigh high then
      if isLow low then
        (join? rest).map
          (Char.ofNat (0x10000 + (high - 0xd800) * 0x400 + (low - 0xdc00)) :: ·)
      else none
    else if isLow high then none
    else (join? (.unit low :: rest)).map (Char.ofNat high :: ·)
  | .unit unit :: rest =>
    if isHigh unit || isLow unit then none else (join? rest).map (Char.ofNat unit :: ·)

/-- A string behind its opening quote. -/
def string? (text : List Char) : Option (Option String × List Char) :=
  (pieces? text).map fun (pieces, rest) => ((join? pieces).map String.ofList, rest)

/-! ### Numbers -/

/-- Digits behind a point, of which there is at least one. -/
def fraction? : List Char → Option (Option (List Char) × List Char)
  | '.' :: rest =>
    let (digits, rest) := Number.splitDigits rest
    if digits.isEmpty then none else some (some digits, rest)
  | text => some (none, text)

/-- An exponent with at least one digit. -/
def exponent? : List Char → Option (Option (Bool × List Char) × List Char)
  | [] => some (none, [])
  | mark :: rest =>
    if mark = 'e' ∨ mark = 'E' then
      let (negative, rest) := Number.splitSign rest
      let (digits, rest) := Number.splitDigits rest
      if digits.isEmpty then none else some (some (negative, digits), rest)
    else some (none, mark :: rest)

/-- Digits before the point; a zero stands alone. -/
def whole? (text : List Char) : Option (List Char × List Char) :=
  match Number.splitDigits text with
  | ([], _) => none
  | ('0' :: _ :: _, _) => none
  | (digits, rest) => some (digits, rest)

def number? (text : List Char) : Option (Numeral × List Char) := do
  let (negative, text) :=
    match text with
    | '-' :: rest => (true, rest)
    | text => (false, text)
  let (whole, text) ← whole? text
  let (fraction, text) ← fraction? text
  let (exponent, text) ← exponent? text
  return (⟨negative, whole, fraction, exponent⟩, text)

/-! ### Values -/

mutual

/-- A value, and the text behind it. -/
def value? : (rounds : Nat) → List Char → Option (Node × List Char)
  | 0, _ => none
  | rounds + 1, text =>
    match skipBlanks text with
    | 'n' :: 'u' :: 'l' :: 'l' :: rest => some (.null, rest)
    | 't' :: 'r' :: 'u' :: 'e' :: rest => some (.bool true, rest)
    | 'f' :: 'a' :: 'l' :: 's' :: 'e' :: rest => some (.bool false, rest)
    | '"' :: rest => (string? rest).map fun (text, rest) => (.string text, rest)
    | '[' :: rest =>
      match skipBlanks rest with
      | ']' :: rest => some (.array [], rest)
      | rest => (elements? rounds rest).map fun (elements, rest) => (.array elements, rest)
    | '\x7b' :: rest =>
      match skipBlanks rest with
      | '\x7d' :: rest => some (.object [], rest)
      | rest => (members? rounds rest).map fun (members, rest) => (.object members, rest)
    | text => (number? text).map fun (numeral, rest) => (.number numeral, rest)

/-- One element or more, up to the closing bracket. -/
def elements? : (rounds : Nat) → List Char → Option (List Node × List Char)
  | 0, _ => none
  | rounds + 1, text =>
    match value? rounds text with
    | none => none
    | some (element, rest) =>
      match skipBlanks rest with
      | ']' :: rest => some ([element], rest)
      | ',' :: rest =>
        (elements? rounds rest).map fun (elements, rest) => (element :: elements, rest)
      | _ => none

/-- One member or more, up to the closing brace. -/
def members? : (rounds : Nat) → List Char → Option (List (Option String × Node) × List Char)
  | 0, _ => none
  | rounds + 1, text =>
    match skipBlanks text with
    | '"' :: rest =>
      match string? rest with
      | none => none
      | some (key, rest) =>
        match skipBlanks rest with
        | ':' :: rest =>
          match value? rounds rest with
          | none => none
          | some (value, rest) =>
            match skipBlanks rest with
            | '\x7d' :: rest => some ([(key, value)], rest)
            | ',' :: rest =>
              (members? rounds rest).map fun (members, rest) => ((key, value) :: members, rest)
            | _ => none
        | _ => none
    | _ => none

end

/-- The value of a whole text. No value is nested deeper than twice the length of its text. -/
def read? (text : String) : Option Node :=
  let characters := text.toList
  match value? (2 * characters.length + 2) characters with
  | some (node, rest) => if (skipBlanks rest).isEmpty then some node else none
  | none => none

end Reader

/-- Documents with a line for every part, and numerals that keep their digits until they are asked
for. -/
def codec : Codec :=
  { Node := Node
    write := Document.pretty
    read? := Reader.read?
    isNull := Node.isNull
    float? := Node.slot?
    integer? := Node.signed?
    text? := Node.text?
    elements? := Node.elements?
    members? := Node.members? }

end Gamecode.Json
