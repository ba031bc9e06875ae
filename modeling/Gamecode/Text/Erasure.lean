/-
Backspaces. In a line that was typed, a backspace takes away the cluster before it, and none where
nothing is left. A cluster's size is kept in one byte, so of a cluster of more than 255 bytes only
so many bytes at the end are taken away as the size has above the last multiple of 256.
-/

import Gamecode.Text.Cluster

namespace Gamecode.Text

/-- The backspace. -/
def backspace : Char := '\x08'

/-- A line while its backspaces are carried out. -/
structure Draft where
  /-- The characters that are left, the latest first. -/
  kept : List Char
  /-- The sizes of the clusters that a backspace can take away, the latest first. -/
  sizes : List Nat
deriving Repr, DecidableEq

namespace Draft

/-- Nothing was typed. -/
def empty : Draft := ⟨[], []⟩

/-- The size of a cluster in bytes, as far as one byte keeps it. -/
def size (cluster : List Char) : Nat :=
  (String.ofList cluster).utf8ByteSize % 256

/-- Characters without the first ones, until so many bytes are gone. -/
def dropBytes : (bytes : Nat) → List Char → List Char
  | 0, characters => characters
  | _, [] => []
  | bytes + 1, character :: rest => dropBytes (bytes + 1 - character.utf8Size) rest

/-- Take in one cluster. -/
def take (draft : Draft) (cluster : List Char) : Draft :=
  if cluster = [backspace] then
    match draft.sizes with
    | [] => draft
    | bytes :: sizes => ⟨dropBytes bytes draft.kept, sizes⟩
  else ⟨cluster.reverse ++ draft.kept, size cluster :: draft.sizes⟩

/-- The text of what is left. -/
def text (draft : Draft) : String :=
  String.ofList draft.kept.reverse

end Draft

/-- A line after its backspaces were carried out. -/
def erase (line : String) : String :=
  ((clusters line.toList).foldl Draft.take .empty).text

end Gamecode.Text
