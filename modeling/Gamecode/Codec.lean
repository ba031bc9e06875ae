/-
Structured documents, and codecs that write them as texts. A text is read as a node, and the codec
knows what the node holds. Nothing more is fixed about a codec than what is documented of it.
-/

import Gamecode.Number.Binary

namespace Gamecode

/-- A structured text before it is written; its members keep their order. -/
inductive Document
  | null
  | bool (value : Bool)
  | integer (value : Int)
  | float (bits : Slot)
  | string (text : String)
  | array (elements : List Document)
  | object (members : List (String × Document))
deriving Repr

/-- Lists and records are nested at most to a depth. -/
inductive Document.NestedWithin : Nat → Document → Prop
  | null {depth : Nat} : NestedWithin depth .null
  | bool {depth : Nat} (value : Bool) : NestedWithin depth (.bool value)
  | integer {depth : Nat} (value : Int) : NestedWithin depth (.integer value)
  | float {depth : Nat} (bits : Slot) : NestedWithin depth (.float bits)
  | string {depth : Nat} (text : String) : NestedWithin depth (.string text)
  | array {depth : Nat} {elements : List Document}
      (each : ∀ element ∈ elements, NestedWithin depth element) :
      NestedWithin (depth + 1) (.array elements)
  | object {depth : Nat} {members : List (String × Document)}
      (each : ∀ member ∈ members, NestedWithin depth member.2) :
      NestedWithin (depth + 1) (.object members)

/-- How documents are written and read. A reading gives none where a node holds something else. -/
structure Codec where
  Node : Type
  write : Document → String
  /-- The node of a whole text. -/
  read? : String → Option Node
  isNull : Node → Bool
  /-- The float of a number. -/
  float? : Node → Option Slot
  /-- An integer in the signed range of slots. -/
  integer? : Node → Option Int
  text? : Node → Option String
  elements? : Node → Option (List Node)
  /-- The members of a record; a key is none where it is no text. -/
  members? : Node → Option (List (Option String × Node))

/-- What is documented of a codec: the text of a document is read as the node of the document, where
everything but a float is found again. Of a finite float it is enough that its digits are read as
some float. Texts that are nested to a depth of 128 may be refused. -/
structure Codec.Documented (codec : Codec) (node : Document → codec.Node) : Prop where
  read?_write : ∀ document : Document, document.NestedWithin 127 →
    codec.read? (codec.write document) = some (node document)
  text?_string : ∀ text, codec.text? (node (.string text)) = some text
  integer?_integer : ∀ value : Int, -0x80000000 ≤ value → value < 0x80000000 →
    codec.integer? (node (.integer value)) = some value
  elements?_array : ∀ elements, codec.elements? (node (.array elements)) = some (elements.map node)
  members?_object : ∀ members, codec.members? (node (.object members)) =
    some (members.map fun member => (some member.1, node member.2))
  /-- A finite float is written with digits that read back. -/
  float?_finite : ∀ bits, Number.IsFinite bits →
    ∃ read, codec.float? (node (.float bits)) = some read
  /-- An infinite or undefined float is written as null. -/
  float_of_not_finite : ∀ bits, ¬ Number.IsFinite bits → node (.float bits) = node .null
  /-- Null is not read as a float. -/
  float?_null : codec.float? (node .null) = none

end Gamecode
