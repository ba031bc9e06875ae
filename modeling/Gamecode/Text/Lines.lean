/-
Lines of text. A line ends with a line feed, and a carriage return just before it belongs to the end
of the line; what follows the last line feed is a line unless it is empty.
-/

namespace Gamecode.Text

/-- The pieces between line feeds, each without its line feed, and what follows the last one. -/
def splitLines : List Char → List (List Char) × List Char
  | [] => ([], [])
  | character :: rest =>
    let (lines, last) := splitLines rest
    if character = '\n' then ([] :: lines, last)
    else
      match lines with
      | [] => ([], character :: last)
      | line :: lines => ((character :: line) :: lines, last)

/-- A line without the carriage return at its end. -/
def withoutReturn (line : List Char) : List Char :=
  if line.getLast? = some '\r' then line.dropLast else line

/-- A text cut into lines. -/
def lines (text : String) : List String :=
  let (ended, last) := splitLines text.toList
  ended.map (fun line => String.ofList (withoutReturn line)) ++
    (if last.isEmpty then [] else [String.ofList last])

/-- A text without the line feeds at its end. -/
def withoutFinalFeeds (text : String) : String :=
  String.ofList ((text.toList.reverse.dropWhile (· = '\n')).reverse)

end Gamecode.Text
