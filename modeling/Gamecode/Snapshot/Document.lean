/-
Snapshots as structured documents. A value is written with the name of its type, and the values of a
snapshot by their names. What is read depends on the codec that reads the text. Members of other
names are ignored, members that are given twice are refused, and a record may also be given as the
list of its members. In a record, the name of a type may be replaced by a record with null under
that name and nothing else.
-/

import Gamecode.Codec
import Gamecode.Snapshot

namespace Gamecode

/-! ### Saved values -/

namespace SavedValue

/-- The value without its type. -/
def content : SavedValue → Document
  | float bits => .float bits
  | vector components => .array (components.toList.map .float)
  | string text | function text => .string text
  | entity number => .integer number

/-- The value with the name of its type. -/
def document (value : SavedValue) : Document :=
  .object [("type", .string value.type.key), ("value", value.content)]

end SavedValue

/-! ### Snapshots -/

/-- The values by name. -/
def Snapshot.document (snapshot : Snapshot) : Document :=
  .object
    [("values", .object (snapshot.entries.map fun entry => (entry.1, entry.2.document)))]

/-! ### Reading values -/

/-- The one member of a name in a record whose keys are all texts; none where it is missing or given
twice. -/
def member? {α : Type} (name : String) (members : List (Option String × α)) : Option α :=
  if members.any fun member => member.1.isNone then none
  else
    match members.filter fun member => member.1 = some name with
    | [member] => some member.2
    | _ => none

section Reading

variable (codec : Codec)

namespace SavedValue

/-- A vector is a list of three floats. -/
def vector? (node : codec.Node) : Option Vector3 :=
  match codec.elements? node with
  | some [x, y, z] => do return ⟨← codec.float? x, ← codec.float? y, ← codec.float? z⟩
  | _ => none

/-- A value of the type with a given name. -/
def ofContent? (type : String) (node : codec.Node) : Option SavedValue :=
  if type = "float" then (codec.float? node).map float
  else if type = "vector" then (vector? codec node).map vector
  else if type = "string" then (codec.text? node).map string
  else if type = "entity" then (codec.integer? node).map entity
  else if type = "function" then (codec.text? node).map function
  else none

/-- The name of a type, by itself or as the only name of a record that holds nothing under it. -/
def typeName? (node : codec.Node) : Option String :=
  match codec.text? node, codec.members? node with
  | some name, _ => some name
  | none, some [(name, content)] => if codec.isNull content then name else none
  | none, _ => none

/-- A saved value from a record or from a pair. -/
def ofNode? (node : codec.Node) : Option SavedValue :=
  match codec.members? node, codec.elements? node with
  | some members, _ => do
    let type ← typeName? codec (← member? "type" members)
    ofContent? codec type (← member? "value" members)
  | none, some [type, content] => do ofContent? codec (← codec.text? type) content
  | none, _ => none

end SavedValue

/-! ### Reading snapshots -/

namespace Snapshot

/-- Values in the order in which they are written. -/
def entries? : List (Option String × codec.Node) → Option (List (String × SavedValue))
  | [] => some []
  | (key, node) :: rest => do
    let name ← key
    let value ← SavedValue.ofNode? codec node
    return (name, value) :: (← entries? rest)

/-- Values by name; of two with one name the later one counts. -/
def ofValues? (node : codec.Node) : Option Snapshot :=
  (codec.members? node).bind fun members => (entries? codec members).map ofList

/-- A snapshot from a record or from a list of one. -/
def ofNode? (node : codec.Node) : Option Snapshot :=
  match codec.members? node, codec.elements? node with
  | some members, _ => (member? "values" members).bind (ofValues? codec)
  | none, some [values] => ofValues? codec values
  | none, _ => none

/-- A snapshot from a text. -/
def ofText? (text : String) : Option Snapshot :=
  (codec.read? text).bind (ofNode? codec)

end Snapshot

end Reading

end Gamecode
