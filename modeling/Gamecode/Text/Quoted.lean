/-
Texts between double quotes. Inside, quotes, backslashes and the characters that cannot be shown on
their own are written as escapes; an apostrophe is left alone.
-/

import Gamecode.Text.Extending
import Gamecode.Text.Printable

namespace Gamecode.Text

/-- The digits of a number in base sixteen, in small letters. -/
def hexText (number : Nat) : String :=
  String.ofList (Nat.toDigits 16 number)

/-- Whether a character is one of the two narrow sound marks, which extend the character before them
and still take space of their own. -/
def isSoundMark (character : Char) : Bool :=
  character.toNat = 0xff9e || character.toNat = 0xff9f

/-- Whether a character can stand in a quoted text as it is. -/
def isShown (character : Char) : Bool :=
  isPrintable character && (! isExtending character || isSoundMark character)

/-- One character of a quoted text. What is not printable and has no letter of its own is written as
its number between braces, and so is what would be shown on the character before it. -/
def quotedCharacter (character : Char) : String :=
  if character = '"' then "\\\""
  else if character = '\\' then "\\\\"
  else if character = '\n' then "\\n"
  else if character = '\r' then "\\r"
  else if character = '\t' then "\\t"
  else if character.toNat = 0 then "\\0"
  else if ! isShown character then "\\u\x7b" ++ hexText character.toNat ++ "\x7d"
  else character.toString

/-- A text between double quotes. -/
def quoted (text : String) : String :=
  "\"" ++ String.join (text.toList.map quotedCharacter) ++ "\""

end Gamecode.Text
