/-
Programs: statements, definitions of globals and fields, functions, a table of strings and the
initial globals. Names are offsets into the table of strings. A look-up by name finds the first
definition that has the name, and an empty name names nothing.
-/

import Gamecode.Cells
import Gamecode.Statement
import Gamecode.Text.Lossy
import Gamecode.Text.Terminated
import Gamecode.ValueType

namespace Gamecode

/-! ### Definitions -/

/-- A named global, or a named field of every entity. -/
structure Definition where
  /-- The type and, in the top bit, whether snapshots hold the value. -/
  tag : UInt16
  /-- The first slot, in the global segment or in the record of an entity. -/
  offset : UInt16
  name : UInt32
deriving Repr, DecidableEq

namespace Definition

/-- The flag of values that snapshots hold. -/
def persistentFlag : UInt16 := 0x8000

/-- The declared type; a tag may be unknown. -/
def type? (definition : Definition) : Option ValueType :=
  ValueType.ofTag? (definition.tag &&& 0x7fff).toNat

/-- Whether snapshots hold the value. -/
def isPersistent (definition : Definition) : Bool :=
  definition.tag &&& persistentFlag != 0

/-- The number of slots that the definition covers; one for an unknown type. -/
def width (definition : Definition) : Nat :=
  (definition.type?.map ValueType.width).getD 1

/-- The first slot that the definition covers. -/
def start (definition : Definition) : Nat :=
  definition.offset.toNat

end Definition

/-! ### Functions -/

/-- How a function is executed. -/
inductive Body
  | statements (first : Nat)
  | builtin (number : Nat)
deriving Repr, DecidableEq

/-- A function as an image declares it. -/
structure Function where
  /-- The first statement, or the negated number of a builtin. -/
  entry : UInt32
  /-- The first slot of the local window, where the parameters are. -/
  window : UInt32
  /-- The number of slots in the local window, parameters included. -/
  locals : UInt32
  profile : UInt32
  name : UInt32
  file : UInt32
  /-- The number of slots of each parameter. -/
  widths : List UInt8
  variadic : Bool
deriving Repr, DecidableEq

/-- The number of slots that parameters of these widths take together. -/
def totalWidth : List UInt8 → Nat
  | [] => 0
  | width :: widths => width.toNat + totalWidth widths

namespace Function

/-- A negative entry is the number of a builtin. -/
def body (function : Function) : Body :=
  let first := Slot.signed function.entry
  if first < 0 then .builtin (-first).toNat else .statements first.toNat

/-- The first slot of the local window. -/
def windowStart (function : Function) : Int :=
  Slot.signed function.window

/-- The number of slots in the local window. -/
def windowSize (function : Function) : Int :=
  Slot.signed function.locals

/-- How many parameters are declared. -/
def parameterCount (function : Function) : Nat :=
  function.widths.length

/-- The number of slots that all parameters take together. -/
def parameterSlots (function : Function) : Nat :=
  totalWidth function.widths

/-- The number in a record that tells how many parameters there are; a variadic function stores one
less than the negated number. -/
def declaredParameters (function : Function) : Int :=
  if function.variadic then -1 - function.parameterCount else function.parameterCount

end Function

/-! ### Programs -/

/-- Where a table lies in an image: its first byte and the number of its records. -/
structure Lump where
  offset : UInt32
  count : UInt32
deriving Repr, DecidableEq

/-- The header of an image: its version and checksum, and where its tables lie. -/
structure Header where
  version : UInt32
  checksum : UInt32
  statements : Lump
  globalDefinitions : Lump
  fieldDefinitions : Lump
  functions : Lump
  strings : Lump
  globals : Lump
  entityFields : UInt32
deriving Repr, DecidableEq

/-- A program: the tables of an image. -/
structure Program where
  header : Header
  statements : Array Statement
  globalDefinitions : Array Definition
  fieldDefinitions : Array Definition
  functions : Array Function
  strings : Array UInt8
  globals : Cells
  /-- The number of slots in the record of an entity. -/
  entityFields : Nat
deriving Repr, DecidableEq

namespace Program

/-! ### Strings -/

/-- The bytes of the string at an offset. Offset zero is the empty string even in an empty table. -/
def stringBytes? (program : Program) (offset : Int) : Option (List UInt8) :=
  if offset < 0 then none
  else if offset.toNat < program.strings.size then
    some (Text.untilNul program.strings offset.toNat)
  else if offset = 0 then some []
  else none

/-- The text of the string at an offset; empty where there is no string. -/
def text (program : Program) (offset : Int) : String :=
  Text.decode ((program.stringBytes? offset).getD [])

/-- The text that a table refers to as a name. -/
def nameText (program : Program) (reference : UInt32) : String :=
  program.text (Slot.signed reference)

/-! ### Look-ups -/

/-- Whether a reference to a string is a name, and that one. -/
def isNamed (program : Program) (reference : UInt32) (name : String) : Bool :=
  name ≠ "" && program.nameText reference = name

/-- The number of the first function of a name. -/
def findFunction? (program : Program) (name : String) : Option Nat :=
  program.functions.findIdx? fun function => program.isNamed function.name name

/-- The first global of a name. -/
def findGlobal? (program : Program) (name : String) : Option Definition :=
  program.globalDefinitions.find? fun definition => program.isNamed definition.name name

/-- The first field of a name. -/
def findField? (program : Program) (name : String) : Option Definition :=
  program.fieldDefinitions.find? fun definition => program.isNamed definition.name name

/-- The first definition of a global that starts at a slot. -/
def globalAt? (program : Program) (offset : UInt16) : Option Definition :=
  program.globalDefinitions.find? fun definition => definition.offset = offset

/-- The name of a function; empty for a number that is no function. -/
def functionName (program : Program) (function : Nat) : String :=
  match program.functions[function]? with
  | some function => program.nameText function.name
  | none => ""

/-- The source file of a function; empty for a number that is no function. -/
def functionFile (program : Program) (function : Nat) : String :=
  match program.functions[function]? with
  | some function => program.nameText function.file
  | none => ""

/-- Which of two candidates starts later, the second one if they start together. -/
def laterStart (best : Option (Nat × Nat)) (candidate : Nat × Nat) : Option (Nat × Nat) :=
  match best with
  | some (function, first) =>
    if candidate.2 < first then some (function, first) else some candidate
  | none => some candidate

/-- The function in whose body a statement lies: the one that starts last among those that start no
later than the statement. -/
def functionContaining? (program : Program) (statement : Nat) : Option Nat :=
  let candidates := program.functions.toList.zipIdx.filterMap fun (function, number) =>
    match function.body with
    | .statements first => if first ≤ statement then some (number, first) else none
    | .builtin _ => none
  (candidates.foldl laterStart none).map Prod.fst

end Program

end Gamecode
