/-
Clusters: the runs of characters that are taken for one, such as a letter with its accents, the two
letters of a flag or a pictograph of several parts. These are the extended grapheme clusters of
Unicode. Each pair of neighbours is joined or not, and for three kinds of pairs what stands before
them matters too.
-/

import Gamecode.Text.ClusterClass

namespace Gamecode.Text

/-! ### What stands before a pair -/

/-- Whether a character links the letters around it. -/
def isLinker (character : Char) : Bool :=
  linkers.covers character.toNat

/-- Whether a character may stand between a letter and its linker. The zero width non-joiner may
not. -/
def isLinkable (character : Char) : Bool :=
  match clusterClass character with
  | .extending | .joiner => character.toNat != 0x200c
  | _ => false

/-- Whether a cluster, its latest character first, ends with a letter that is linked. -/
def endsLinked (cluster : List Char) : Bool :=
  (cluster.takeWhile isLinkable).any isLinker &&
    ((cluster.dropWhile isLinkable).head?.map clusterClass == some .linked)

/-- Whether a cluster, its latest character first, ends with a pictograph and a joiner, and only
extending characters between them. -/
def endsJoined (cluster : List Char) : Bool :=
  (cluster.tail.dropWhile fun character => clusterClass character = .extending).head?.map
    clusterClass == some .pictograph

/-- Whether a cluster, its latest character first, ends with the first letter of a flag. -/
def endsUnpaired (cluster : List Char) : Bool :=
  (cluster.takeWhile fun character => clusterClass character = .regional).length % 2 == 1

/-! ### Clusters -/

/-- Whether a character belongs to the cluster before it, which is given with its latest character
first. Controls stand alone, but for a carriage return with its line feed. -/
def joins (cluster : List Char) (character : Char) : Bool :=
  match cluster.head?.map clusterClass, clusterClass character with
  | none, _ => true
  | some .carriageReturn, .lineFeed => true
  | some .carriageReturn, _ | some .lineFeed, _ | some .control, _ => false
  | some _, .carriageReturn | some _, .lineFeed | some _, .control => false
  | some .initial, .initial | some .initial, .vowel => true
  | some .initial, .openSyllable | some .initial, .closedSyllable => true
  | some .openSyllable, .vowel | some .openSyllable, .final => true
  | some .vowel, .vowel | some .vowel, .final => true
  | some .closedSyllable, .final | some .final, .final => true
  | some _, .extending | some _, .joiner | some _, .spacing => true
  | some .preceding, _ => true
  | some _, .linked => endsLinked cluster
  | some .joiner, .pictograph => endsJoined cluster
  | some .regional, .regional => endsUnpaired cluster
  | some _, _ => false

/-- The clusters of a text so far, the latest first, and the one that is being read, its latest
character first. -/
structure ClusterReader where
  finished : List (List Char)
  current : List Char
deriving Repr, DecidableEq

namespace ClusterReader

/-- End the current cluster. -/
def close (reader : ClusterReader) : List (List Char) :=
  if reader.current.isEmpty then reader.finished else reader.current.reverse :: reader.finished

/-- Take in one character. -/
def read (reader : ClusterReader) (character : Char) : ClusterReader :=
  if joins reader.current character then ⟨reader.finished, character :: reader.current⟩
  else ⟨reader.close, [character]⟩

end ClusterReader

/-- A text cut into its clusters. -/
def clusters (text : List Char) : List (List Char) :=
  (text.foldl ClusterReader.read ⟨[], []⟩).close.reverse

end Gamecode.Text
