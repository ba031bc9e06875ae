/-
Paths. A path is a text of names with slashes between them. It starts at the working directory, or
at the root if a slash begins it, and it leads from one directory into the next.
-/

import Gamecode.Files

namespace Gamecode

/-! ### Paths -/

/-- A path, cut at its slashes. -/
structure Path where
  /-- Whether it starts at the root. -/
  absolute : Bool
  /-- The names, none of which is empty: slashes that follow each other count for one. -/
  steps : List String
  /-- Whether a slash ends it, which asks for a directory. -/
  slash : Bool
deriving Repr, DecidableEq

namespace Path

/-- A path has fewer bytes than this. -/
def sizeLimit : Nat := 4096

/-- The greatest size of a name in bytes. -/
def maxNameSize : Nat := 255

/-- The names of a text. -/
def namesOf (text : String) : List String :=
  (text.splitOn "/").filter fun name => name ≠ ""

/-- The path that a text stands for. An empty text leads nowhere. -/
def ofText (text : String) : Except FileProblem Path :=
  if text.toList.any fun character => character.toNat = 0 then .error .zeroCharacter
  else if text.isEmpty then .error .missing
  else if sizeLimit ≤ text.utf8ByteSize then .error .tooLong
  else .ok ⟨text.toList.head? = some '/', namesOf text, text.toList.getLast? = some '/'⟩

end Path

/-! ### Places -/

/-- Where places are counted from: the root, or the working directory and those around it, of which
the first one is the working directory itself. -/
inductive Origin
  | root
  | around (levels : Nat)
deriving Repr, DecidableEq

/-- A place for a file or a directory. -/
structure Place where
  origin : Origin
  /-- The names from the origin to the place, the last one first. -/
  names : List String
deriving Repr, DecidableEq

namespace Place

/-- The working directory. -/
def working : Place := ⟨.around 0, []⟩

/-- The place of a name in a directory. -/
def child (place : Place) (name : String) : Place :=
  ⟨place.origin, name :: place.names⟩

/-- The directory around a place. The root lies in itself. -/
def parent : Place → Place
  | ⟨origin, _ :: names⟩ => ⟨origin, names⟩
  | ⟨.around levels, []⟩ => ⟨.around (levels + 1), []⟩
  | ⟨.root, []⟩ => ⟨.root, []⟩

/-- Whether a place lies somewhere beneath another one. -/
def isBelow (place directory : Place) : Bool :=
  place.origin = directory.origin && place ≠ directory && directory.names.isSuffixOf place.names

/-- Whether the name of a place has more bytes than a name may have. -/
def tooLong (place : Place) : Bool :=
  (place.names.head?.map fun name => decide (Path.maxNameSize < name.utf8ByteSize)).getD false

end Place

/-- Where a path starts. -/
def Path.start (path : Path) : Place :=
  if path.absolute then ⟨.root, []⟩ else .working

end Gamecode
