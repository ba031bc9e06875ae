/-
White space. Blanks are the 25 characters with the Unicode property White_Space.
-/

namespace Gamecode.Text

/-- Whether a character has the property White_Space. -/
def isBlank (character : Char) : Bool :=
  let code := character.toNat
  (9 ≤ code ∧ code ≤ 13) ∨ code = 0x20 ∨ code = 0x85 ∨ code = 0xa0 ∨ code = 0x1680 ∨
    (0x2000 ≤ code ∧ code ≤ 0x200a) ∨ code = 0x2028 ∨ code = 0x2029 ∨ code = 0x202f ∨
    code = 0x205f ∨ code = 0x3000

/-- A text without the blanks at its start. -/
def trimStart (text : List Char) : List Char :=
  text.dropWhile isBlank

/-- A text without the blanks at its end. -/
def trimEnd (text : List Char) : List Char :=
  (text.reverse.dropWhile isBlank).reverse

/-- A text without the blanks at its two ends. -/
def trim (text : List Char) : List Char :=
  trimEnd (trimStart text)

/-- The runs of characters between blanks. -/
def words (text : List Char) : List (List Char) :=
  close (text.foldr gather ([], []))
where
  /-- A finished list of words behind the word that is being read. -/
  close : List Char × List (List Char) → List (List Char)
    | ([], found) => found
    | (word, found) => word :: found
  gather (character : Char) (state : List Char × List (List Char)) :
      List Char × List (List Char) :=
    if isBlank character then ([], close state) else (character :: state.1, state.2)

end Gamecode.Text
