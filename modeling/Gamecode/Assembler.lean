/-
Programs put together step by step, without a compiler. All declarations take their slots from one
allocator, and the slots that are taken while a function is open become part of its local window.
Offsets are 16-bit words, so they wrap around when a program takes more slots than that.
-/

import Gamecode.Image.Check
import Gamecode.Image.Encode
import Gamecode.Vector3

namespace Gamecode

/-- A program in the making. -/
structure Assembler where
  checksum : UInt32
  statements : Array Statement
  globalDefinitions : Array Definition
  fieldDefinitions : Array Definition
  functions : Array Function
  strings : Array UInt8
  /-- The texts in the table of strings, with their offsets. -/
  offsets : List (String × Nat)
  globals : Cells
  entityFields : Nat
  /-- The function that is open. -/
  current : Option Nat
deriving Repr, DecidableEq

/-- A function that was declared: its number, and the global that holds the number. -/
structure FunctionSymbol where
  index : Nat
  global : UInt16
deriving Repr, DecidableEq

/-- A field that was declared: its place in a record, and the global that holds the place. -/
structure FieldSymbol where
  offset : UInt16
  global : UInt16
deriving Repr, DecidableEq

namespace Assembler

/-- The function with number zero, which cannot be called. -/
def nullFunction : Function :=
  ⟨0, 0, 0, 0, 0, 0, [], false⟩

/-- The reserved globals, the empty string, the null function and one statement that ends it. -/
def empty : Assembler :=
  { checksum := 0
    statements := #[⟨0, 0, 0, 0⟩]
    globalDefinitions := #[]
    fieldDefinitions := #[]
    functions := #[nullFunction]
    strings := #[0]
    offsets := [("", 0)]
    globals := Array.replicate Region.size 0
    entityFields := 0
    current := none }

/-- Set the checksum that the header gives. -/
def setChecksum (assembler : Assembler) (checksum : UInt16) : Assembler :=
  { assembler with checksum := checksum.toUInt32 }

/-- The offset of a text in the table of strings, which holds every text once. -/
def string (assembler : Assembler) (text : String) : UInt32 × Assembler :=
  match assembler.offsets.lookup text with
  | some offset => (UInt32.ofNat offset, assembler)
  | none =>
    (UInt32.ofNat assembler.strings.size,
      { assembler with
        strings := assembler.strings ++ (Text.encode text).toArray ++ #[0]
        offsets := (text, assembler.strings.size) :: assembler.offsets })

/-! ### Slots -/

/-- Let the window of the open function reach up to the last slot. -/
def stretchWindow (assembler : Assembler) : Assembler :=
  match assembler.current with
  | some current =>
    { assembler with
      functions := assembler.functions.modify current fun function =>
        { function with locals := UInt32.ofNat assembler.globals.size - function.window } }
  | none => assembler

/-- Take new slots, which hold zero. -/
def allocate (assembler : Assembler) (width : Nat) : UInt16 × Assembler :=
  (UInt16.ofNat assembler.globals.size,
    stretchWindow
      { assembler with globals := assembler.globals ++ Array.replicate width 0 })

/-- Change the initial values of slots; those that do not exist are left out. -/
def place (assembler : Assembler) (offset : UInt16) (values : List Slot) : Assembler :=
  { assembler with globals := assembler.globals.put offset.toNat values }

/-- Give one slot an initial value. -/
def setGlobal (assembler : Assembler) (offset : UInt16) (value : Slot) : Assembler :=
  assembler.place offset [value]

/-! ### Globals -/

/-- Name the slots from an offset on. -/
def define (assembler : Assembler) (name : String) (tag offset : UInt16) : Assembler :=
  let (reference, assembler) := assembler.string name
  { assembler with
    globalDefinitions := assembler.globalDefinitions.push ⟨tag, offset, reference⟩ }

/-- The tag of a definition: the type, and the flag of the values that snapshots hold. -/
def tagOf (type : ValueType) (persistent : Bool) : UInt16 :=
  UInt16.ofNat type.tag ||| (if persistent then Definition.persistentFlag else 0)

/-- Declare a global, which snapshots hold if it is persistent. -/
def global (assembler : Assembler) (name : String) (type : ValueType) (persistent : Bool) :
    UInt16 × Assembler :=
  let (offset, assembler) := assembler.allocate type.width
  (offset, assembler.define name (tagOf type persistent) offset)

/-- A global without a name that starts with given values. -/
def constant (assembler : Assembler) (values : List Slot) : UInt16 × Assembler :=
  let (offset, assembler) := assembler.allocate values.length
  (offset, assembler.place offset values)

/-- A global that starts as a float. -/
def floatConstant (assembler : Assembler) (value : Slot) : UInt16 × Assembler :=
  assembler.constant [value]

/-- A global that starts as a vector. -/
def vectorConstant (assembler : Assembler) (value : Vector3) : UInt16 × Assembler :=
  assembler.constant value.toList

/-- A global that starts as a reference to a text. -/
def stringConstant (assembler : Assembler) (text : String) : UInt16 × Assembler :=
  let (reference, assembler) := assembler.string text
  assembler.constant [reference]

/-- A global that starts as a whole number, which is stored in two's complement. -/
def integerConstant (assembler : Assembler) (number : Int) : UInt16 × Assembler :=
  assembler.constant [Slot.ofSigned number]

/-! ### Fields -/

/-- Declare a field and a global of the same name that holds its place. -/
def field (assembler : Assembler) (name : String) (type : ValueType) :
    FieldSymbol × Assembler :=
  let offset := UInt16.ofNat assembler.entityFields
  let (reference, assembler) := assembler.string name
  let assembler :=
    { assembler with
      entityFields := assembler.entityFields + type.width
      fieldDefinitions :=
        assembler.fieldDefinitions.push ⟨tagOf type false, offset, reference⟩ }
  let (slot, assembler) := assembler.constant [offset.toUInt32]
  (⟨offset, slot⟩, assembler.define name (tagOf .field false) slot)

/-! ### Functions -/

/-- Close the open function, so that its window grows no more. -/
def endFunction (assembler : Assembler) : Assembler :=
  { assembler with current := none }

/-- The global of the next function, which holds its number. -/
def functionGlobal (assembler : Assembler) (name : String) : UInt16 × Assembler :=
  let (slot, assembler) := assembler.constant [UInt32.ofNat assembler.functions.size]
  (slot, assembler.define name (tagOf .function false) slot)

/-- The name of the source file of every function with statements. -/
def sourceFile : String := "builder.qc"

/-- Open a function. Its parameters are the first slots of its window. -/
def beginFunction (assembler : Assembler) (name : String) (widths : List UInt8) :
    FunctionSymbol × Assembler :=
  let assembler := assembler.endFunction
  let index := assembler.functions.size
  let (reference, assembler) := assembler.string name
  let (file, assembler) := assembler.string sourceFile
  let (slot, assembler) := assembler.functionGlobal name
  let function : Function :=
    { entry := UInt32.ofNat assembler.statements.size
      window := UInt32.ofNat assembler.globals.size
      locals := 0
      profile := 0
      name := reference
      file
      widths
      variadic := false }
  let assembler :=
    { assembler with
      functions := assembler.functions.push function
      current := some index }
  (⟨index, slot⟩, (assembler.allocate function.parameterSlots).2)

/-- Declare a function that the host implements. -/
def builtin (assembler : Assembler) (name : String) (number : Nat) (widths : List UInt8) :
    FunctionSymbol × Assembler :=
  let assembler := assembler.endFunction
  let index := assembler.functions.size
  let (reference, assembler) := assembler.string name
  let (slot, assembler) := assembler.functionGlobal name
  let function : Function :=
    { nullFunction with
      entry := Slot.ofSigned (-number)
      name := reference
      widths }
  (⟨index, slot⟩, { assembler with functions := assembler.functions.push function })

/-- The first slot of a parameter in the window of its function. -/
def parameter (assembler : Assembler) (function parameter : Nat) : UInt16 :=
  match assembler.functions[function]? with
  | some function =>
    UInt16.ofNat (function.window.toNat + totalWidth (function.widths.take parameter))
  | none => 0

/-- Take slots in the open function, or plain globals outside of any. -/
def localSlots (assembler : Assembler) (width : Nat) : UInt16 × Assembler :=
  assembler.allocate width

/-! ### Statements -/

/-- The index of the next statement. -/
def here (assembler : Assembler) : Nat :=
  assembler.statements.size

/-- Add a statement; the result is its index. -/
def emitRaw (assembler : Assembler) (statement : Statement) : Nat × Assembler :=
  (assembler.here, { assembler with statements := assembler.statements.push statement })

/-- Add a statement for an operation; the result is its index. -/
def emit (assembler : Assembler) (operation : Opcode) (a b c : UInt16) : Nat × Assembler :=
  assembler.emitRaw ⟨UInt16.ofNat operation.number, a, b, c⟩

/-- A branch on a condition, whose distance is the second operand. -/
def emitBranch (assembler : Assembler) (operation : Opcode) (condition delta : UInt16) :
    Nat × Assembler :=
  assembler.emit operation condition delta 0

/-- A branch without a condition, whose distance is the first operand. -/
def emitGoto (assembler : Assembler) (delta : UInt16) : Nat × Assembler :=
  assembler.emit .goto delta 0 0

/-- A statement whose branch leads somewhere else. -/
def retarget (statement : Statement) (delta : UInt16) : Statement :=
  if statement.number = UInt16.ofNat Opcode.goto.number then { statement with a := delta }
  else { statement with b := delta }

/-- Let the branch at one statement lead to another. -/
def patchBranch (assembler : Assembler) (branch target : Nat) : Assembler :=
  let delta := Statement.operandOf ((target : Int) - branch)
  { assembler with
    statements := assembler.statements.modify branch fun statement => retarget statement delta }

/-! ### Results -/

/-- The program as it stands, unchecked; its header names no tables. -/
def assemble (assembler : Assembler) : Program :=
  { header :=
      { version := Image.version
        checksum := assembler.checksum
        statements := ⟨0, 0⟩
        globalDefinitions := ⟨0, 0⟩
        fieldDefinitions := ⟨0, 0⟩
        functions := ⟨0, 0⟩
        strings := ⟨0, 0⟩
        globals := ⟨0, 0⟩
        entityFields := UInt32.ofNat assembler.entityFields }
    statements := assembler.statements
    globalDefinitions := assembler.globalDefinitions
    fieldDefinitions := assembler.fieldDefinitions
    functions := assembler.functions
    strings := assembler.strings
    globals := assembler.globals
    entityFields := assembler.entityFields }

/-- The program, if it passes the checks of the loader. -/
def build (assembler : Assembler) : Except Fault Program := do
  let program := assembler.assemble
  Image.check program
  return program

/-- The image, checked or not. -/
def image (assembler : Assembler) : Array UInt8 :=
  Image.save assembler.assemble

end Assembler

end Gamecode
