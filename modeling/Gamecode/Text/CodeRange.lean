/-
Sets of characters, given as the ranges of their code points. The ranges of a list ascend, so the
search for a code point ends at the first range that begins behind it.
-/

namespace Gamecode.Text

/-- Ranges of code points, each with its first and its last one, in ascending order. -/
abbrev CodeRanges := List (Nat × Nat)

/-- Whether a code point lies in one of the ranges. -/
def CodeRanges.covers (code : Nat) : CodeRanges → Bool
  | [] => false
  | (first, last) :: rest => if code < first then false else code ≤ last || covers code rest

end Gamecode.Text
