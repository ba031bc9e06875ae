/-
Builtins between numbers and texts. Every text they make is a temporary string.
-/

import Gamecode.Builtin.Report
import Gamecode.Number.Numeral
import Gamecode.Text.Blank

namespace Gamecode.Builtins

/-- The float that a text begins with, after blanks; zero if it does not begin with one. -/
def floatOfText (text : String) : Slot :=
  let numeral := Number.leadingNumeral (Text.trimStart text.toList)
  if Number.isBare numeral then 0 else (Number.parse? numeral).getD 0

/-- The text of an entity. -/
def entityText (entity : Int) : String :=
  "entity " ++ toString entity

/-- Return the text of a float. -/
def floatToText : Native Unit := do
  let _ ← Native.returnText (Number.display (← Native.floatArgument 0))

/-- Return the text of a vector. -/
def vectorToText : Native Unit := do
  let _ ← Native.returnText (← Native.vectorArgument 0).display

/-- Return the text of an entity. -/
def entityToText : Native Unit := do
  let _ ← Native.returnText (entityText (← Native.referenceArgument 0))

/-- Return the number at the beginning of a text. -/
def textToFloat : Native Unit := do
  Native.returnFloat (floatOfText (← Native.textArgument 0))

/-- Return the texts of all arguments in one. -/
def concatenate : Native Unit := do
  let _ ← Native.returnText (← argumentText)

end Gamecode.Builtins
