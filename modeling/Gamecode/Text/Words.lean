/-
Words of a line. Blanks separate words, and quotation marks, single or double, group characters:
what stands between two equal marks belongs to one word, blanks and the other marks included. The
marks themselves belong to no word, but they make one, so an empty pair is an empty word.
-/

import Gamecode.Text.Blank

namespace Gamecode.Text

/-- How far a line has been read. -/
structure WordReader where
  /-- The finished words, the latest first. -/
  finished : List (List Char)
  /-- The word that is being read, its latest character first. -/
  current : Option (List Char)
  /-- The mark that the next equal one closes. -/
  mark : Option Char
deriving Repr, DecidableEq

namespace WordReader

/-- No character was read. -/
def start : WordReader := ⟨[], none, none⟩

/-- The characters that quote a word. -/
def isMark (character : Char) : Bool :=
  character = '"' || character = '\''

/-- Add a character to the current word, and begin a word if there is none. -/
def add (reader : WordReader) (character : Char) : WordReader :=
  { reader with current := some (character :: reader.current.getD []) }

/-- End the current word. -/
def close (reader : WordReader) : WordReader :=
  match reader.current with
  | some word => { reader with finished := word.reverse :: reader.finished, current := none }
  | none => reader

/-- Take in one character. -/
def read (reader : WordReader) (character : Char) : WordReader :=
  match reader.mark with
  | some mark => if character = mark then { reader with mark := none } else reader.add character
  | none =>
    if isMark character then
      { reader with current := some (reader.current.getD []), mark := some character }
    else if isBlank character then reader.close
    else reader.add character

/-- The words that were read; none where a mark is still open. -/
def words? (reader : WordReader) : Option (List (List Char)) :=
  if reader.mark.isSome then none else some reader.close.finished.reverse

end WordReader

/-- The words of a line, grouped by quotation marks; none where a mark is not closed. -/
def groupedWords? (line : List Char) : Option (List (List Char)) :=
  (line.foldl WordReader.read .start).words?

end Gamecode.Text
