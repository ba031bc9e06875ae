/-
Columns of text. A width counts characters, and a text that is already wide enough is left alone.
-/

namespace Gamecode.Text

/-- Fill on the left up to a width. -/
def padLeft (width : Nat) (fill : Char) (text : String) : String :=
  String.ofList (List.replicate (width - text.length) fill) ++ text

/-- Fill with blanks on the right up to a width. -/
def padRight (width : Nat) (text : String) : String :=
  text ++ String.ofList (List.replicate (width - text.length) ' ')

end Gamecode.Text
