/-
This file compares the two ways from an assembler to a program. The one checks the tables as they
are, the other writes them to an image and loads it. No sequence of steps gives a function more
parameters than a record has room for, or entities more slots than the fields account for, so the
image says all of the tables, and both ways end with the same program or the same fault.
-/

import Gamecode.Assembler
import Gamecode.Proofs.Image.RoundTrip

namespace Gamecode

namespace Assembler

/-! ### Assemblers that were made step by step -/

/-- An assembler that was made from the empty one by its steps, with at most eight parameters for
each function. -/
inductive Made : Assembler → Prop
  | empty : Made .empty
  | setChecksum {assembler : Assembler} (made : Made assembler) (checksum : UInt16) :
      Made (assembler.setChecksum checksum)
  | string {assembler : Assembler} (made : Made assembler) (text : String) :
      Made (assembler.string text).2
  | global {assembler : Assembler} (made : Made assembler) (name : String) (type : ValueType)
      (persistent : Bool) : Made (assembler.global name type persistent).2
  | setGlobal {assembler : Assembler} (made : Made assembler) (offset : UInt16) (value : Slot) :
      Made (assembler.setGlobal offset value)
  | floatConstant {assembler : Assembler} (made : Made assembler) (value : Slot) :
      Made (assembler.floatConstant value).2
  | vectorConstant {assembler : Assembler} (made : Made assembler) (value : Vector3) :
      Made (assembler.vectorConstant value).2
  | stringConstant {assembler : Assembler} (made : Made assembler) (text : String) :
      Made (assembler.stringConstant text).2
  | integerConstant {assembler : Assembler} (made : Made assembler) (number : Int) :
      Made (assembler.integerConstant number).2
  | field {assembler : Assembler} (made : Made assembler) (name : String) (type : ValueType) :
      Made (assembler.field name type).2
  | beginFunction {assembler : Assembler} (made : Made assembler) (name : String)
      {widths : List UInt8} (few : widths.length ≤ 8) :
      Made (assembler.beginFunction name widths).2
  | endFunction {assembler : Assembler} (made : Made assembler) : Made assembler.endFunction
  | builtin {assembler : Assembler} (made : Made assembler) (name : String) (number : Nat)
      {widths : List UInt8} (few : widths.length ≤ 8) :
      Made (assembler.builtin name number widths).2
  | localSlots {assembler : Assembler} (made : Made assembler) (width : Nat) :
      Made (assembler.localSlots width).2
  | emitRaw {assembler : Assembler} (made : Made assembler) (statement : Statement) :
      Made (assembler.emitRaw statement).2
  | emit {assembler : Assembler} (made : Made assembler) (operation : Opcode) (a b c : UInt16) :
      Made (assembler.emit operation a b c).2
  | emitBranch {assembler : Assembler} (made : Made assembler) (operation : Opcode)
      (condition delta : UInt16) : Made (assembler.emitBranch operation condition delta).2
  | emitGoto {assembler : Assembler} (made : Made assembler) (delta : UInt16) :
      Made (assembler.emitGoto delta).2
  | patchBranch {assembler : Assembler} (made : Made assembler) (branch target : Nat) :
      Made (assembler.patchBranch branch target)

/-- Every function has a record, and the slots of an entity are accounted for by fields of at most
three slots each. -/
structure Sound (assembler : Assembler) : Prop where
  parameterCount_le : ∀ function ∈ assembler.functions, function.widths.length ≤ 8
  entityFields_le : assembler.entityFields ≤ 3 * assembler.fieldDefinitions.size

namespace Sound

variable {assembler after : Assembler}

theorem empty : Sound .empty where
  parameterCount_le := by decide
  entityFields_le := Nat.le_refl 0

/-- Only the functions and the fields matter. -/
theorem of_eq (sound : assembler.Sound) (functions : after.functions = assembler.functions)
    (entityFields : after.entityFields = assembler.entityFields)
    (fieldDefinitions : after.fieldDefinitions = assembler.fieldDefinitions) : after.Sound where
  parameterCount_le := functions ▸ sound.parameterCount_le
  entityFields_le := by
    rw [entityFields, fieldDefinitions]
    exact sound.entityFields_le

theorem endFunction (sound : assembler.Sound) : assembler.endFunction.Sound :=
  sound.of_eq rfl rfl rfl

theorem string (sound : assembler.Sound) (text : String) : (assembler.string text).2.Sound := by
  unfold Assembler.string
  split <;> exact sound.of_eq rfl rfl rfl

/-- A window may grow: no function gets parameters from that. -/
theorem stretchWindow (sound : assembler.Sound) : assembler.stretchWindow.Sound := by
  unfold Assembler.stretchWindow
  split
  · next current _ =>
    refine ⟨fun function member => ?_, sound.entityFields_le⟩
    obtain ⟨index, found⟩ := Array.mem_iff_getElem?.mp member
    rw [Array.getElem?_modify] at found
    split at found
    · obtain ⟨original, isFunction, rfl⟩ := Option.map_eq_some_iff.mp found
      exact sound.parameterCount_le original (Array.mem_of_getElem? isFunction)
    · exact sound.parameterCount_le function (Array.mem_of_getElem? found)
  · exact sound

theorem allocate (sound : assembler.Sound) (width : Nat) : (assembler.allocate width).2.Sound :=
  stretchWindow (sound.of_eq rfl rfl rfl)

theorem constant (sound : assembler.Sound) (values : List Slot) :
    (assembler.constant values).2.Sound :=
  (sound.allocate values.length).of_eq rfl rfl rfl

theorem define (sound : assembler.Sound) (name : String) (tag offset : UInt16) :
    (assembler.define name tag offset).Sound :=
  (sound.string name).of_eq rfl rfl rfl

theorem functionGlobal (sound : assembler.Sound) (name : String) :
    (assembler.functionGlobal name).2.Sound :=
  (sound.constant _).define _ _ _

theorem pushFunction (sound : assembler.Sound) {function : Function}
    (few : function.widths.length ≤ 8) (current : Option Nat) :
    Sound { assembler with functions := assembler.functions.push function, current } where
  parameterCount_le := by
    intro other member
    rcases Array.mem_push.mp member with old | rfl
    · exact sound.parameterCount_le other old
    · exact few
  entityFields_le := sound.entityFields_le

theorem field (sound : assembler.Sound) (name : String) (type : ValueType) :
    (assembler.field name type).2.Sound := by
  refine define (constant ?_ _) _ _ _
  have named := sound.string name
  have narrow : type.width ≤ 3 := by cases type <;> decide
  refine ⟨named.parameterCount_le, ?_⟩
  have fields := named.entityFields_le
  rw [Array.size_push, Nat.mul_succ]
  exact Nat.add_le_add fields narrow

theorem beginFunction (sound : assembler.Sound) (name : String) {widths : List UInt8}
    (few : widths.length ≤ 8) : (assembler.beginFunction name widths).2.Sound := by
  have named := ((sound.endFunction.string name).string sourceFile).functionGlobal name
  unfold Assembler.beginFunction
  dsimp only
  refine allocate (pushFunction named ?_ _) _
  exact few

theorem builtin (sound : assembler.Sound) (name : String) (number : Nat) {widths : List UInt8}
    (few : widths.length ≤ 8) : (assembler.builtin name number widths).2.Sound := by
  have named := (sound.endFunction.string name).functionGlobal name
  unfold Assembler.builtin
  dsimp only
  refine pushFunction named ?_ _
  exact few

end Sound

/-- Every step keeps an assembler sound. -/
theorem Made.sound {assembler : Assembler} (made : assembler.Made) : assembler.Sound := by
  induction made with
  | empty => exact .empty
  | string _ text sound => exact sound.string text
  | global _ name type persistent sound => exact (sound.allocate _).define _ _ _
  | floatConstant _ value sound => exact sound.constant _
  | vectorConstant _ value sound => exact sound.constant _
  | stringConstant _ text sound => exact (sound.string text).constant _
  | integerConstant _ number sound => exact sound.constant _
  | field _ name type sound => exact sound.field name type
  | beginFunction _ name few sound => exact sound.beginFunction name few
  | builtin _ name number few sound => exact sound.builtin name number few
  | endFunction _ sound => exact sound.endFunction
  | localSlots _ width sound => exact sound.allocate width
  | setChecksum _ _ sound | setGlobal _ _ _ sound | emitRaw _ _ sound
  | emit _ _ _ _ _ sound | emitBranch _ _ _ _ sound | emitGoto _ _ sound
  | patchBranch _ _ _ sound => exact sound.of_eq rfl rfl rfl

/-- An image that is short enough says all that the assembler holds. -/
theorem Sound.fits {assembler : Assembler} (sound : assembler.Sound)
    (short : assembler.image.size < 0x80000000) : Image.Fits assembler.assemble where
  short := short
  parameterCount_le := sound.parameterCount_le
  entityFields_lt := by
    have fields := sound.entityFields_le
    have records : (assembler.fieldDefinitions.toList.flatMap Image.encodeDefinition).length =
        assembler.fieldDefinitions.size * 8 :=
      Image.length_flatMap_of_length fun definition _ => Image.length_encodeDefinition definition
    have whole := Image.size_save assembler.assemble
    rw [Image.flatMap_eq_append
      (show (Image.tables assembler.assemble)[2]? = some (assembler.fieldDefinitions.size,
        assembler.fieldDefinitions.toList.flatMap Image.encodeDefinition) from rfl),
      List.length_append, List.length_append, records] at whole
    change (Image.save assembler.assemble).size < 0x80000000 at short
    change assembler.entityFields < 0x80000000
    omega

end Assembler

/-! ### Both ways to a program -/

/-- Two programs that differ at most in where their headers say that the tables lie. Whatever is
looked up in the one is found in the other. -/
structure Program.Agrees (left right : Program) : Prop where
  version : right.header.version = left.header.version
  checksum : right.header.checksum = left.header.checksum
  declaredFields : right.header.entityFields = left.header.entityFields
  statements : right.statements = left.statements
  globalDefinitions : right.globalDefinitions = left.globalDefinitions
  fieldDefinitions : right.fieldDefinitions = left.fieldDefinitions
  functions : right.functions = left.functions
  strings : right.strings = left.strings
  globals : right.globals = left.globals
  entityFields : right.entityFields = left.entityFields
  findFunction? : ∀ name, right.findFunction? name = left.findFunction? name
  findGlobal? : ∀ name, right.findGlobal? name = left.findGlobal? name
  findField? : ∀ name, right.findField? name = left.findField? name
  globalAt? : ∀ offset, right.globalAt? offset = left.globalAt? offset
  functionName : ∀ function, right.functionName function = left.functionName function
  functionFile : ∀ function, right.functionFile function = left.functionFile function
  functionContaining? : ∀ statement,
    right.functionContaining? statement = left.functionContaining? statement
  stringBytes? : ∀ offset, right.stringBytes? offset = left.stringBytes? offset
  text : ∀ offset, right.text offset = left.text offset

/-- A program agrees with itself under a header that differs in where the tables lie only. -/
theorem Program.agrees_header {program : Program} {header : Header}
    (version : header.version = program.header.version)
    (checksum : header.checksum = program.header.checksum)
    (declaredFields : header.entityFields = program.header.entityFields) :
    program.Agrees { program with header } where
  version := version
  checksum := checksum
  declaredFields := declaredFields
  statements := rfl
  globalDefinitions := rfl
  fieldDefinitions := rfl
  functions := rfl
  strings := rfl
  globals := rfl
  entityFields := rfl
  findFunction? _ := rfl
  findGlobal? _ := rfl
  findField? _ := rfl
  globalAt? _ := rfl
  functionName _ := rfl
  functionFile _ := rfl
  functionContaining? _ := rfl
  stringBytes? _ := rfl
  text _ := rfl

namespace Assembler

/-- The header of an image that an assembler writes differs from its own in the tables only. -/
theorem agrees_assemble (assembler : Assembler) :
    assembler.assemble.Agrees
      { assembler.assemble with header := Image.laidOutHeader assembler.assemble } :=
  Program.agrees_header rfl rfl rfl

/-- Building checks what was assembled. -/
theorem build_eq (assembler : Assembler) :
    assembler.build = (Image.check assembler.assemble).map fun _ => assembler.assemble := by
  unfold build
  dsimp only
  cases Image.check assembler.assemble <;> rfl

/-- Checking the tables of an assembler and loading its image end in the same way: with programs
that agree, or with the same fault. -/
theorem build_agrees_load {assembler : Assembler} (made : assembler.Made)
    (short : assembler.image.size < 0x80000000) :
    match assembler.build, Image.load assembler.image .none with
    | .ok built, .ok loaded => built.Agrees loaded
    | .error built, .error loaded => built = loaded
    | _, _ => False := by
  have loaded : Image.load assembler.image .none = _ := Image.load_save (made.sound.fits short)
  rw [loaded, build_eq]
  generalize Image.check assembler.assemble = checked
  cases checked with
  | ok _ => exact agrees_assemble assembler
  | error fault => exact (rfl : fault = fault)

/-- A field and a builtin with one parameter. -/
def announce : FunctionSymbol × Assembler :=
  (empty.field "health" .float).2.builtin "announce" 1 [1]

/-- A program whose function hands a value on to the builtin. -/
def announcing : Assembler :=
  let value := announce.2.floatConstant 0x42C80000
  let opened := (value.2.beginFunction "main" []).2
  let stored := (opened.emit (.store .float) value.1 4 0).2
  let called := (stored.emit (.call ⟨1, by decide⟩) announce.1.global 0 0).2
  (called.emit .done 0 0 0).2

theorem announcing_made : announcing.Made := by
  have declared : announce.2.Made := .builtin (.field .empty _ _) _ _ (by decide)
  have few : ([] : List UInt8).length ≤ 8 := by decide
  have opened := (declared.floatConstant 0x42C80000).beginFunction "main" few
  exact ((opened.emit _ _ _ _).emit _ _ _ _).emit _ _ _ _

/-- Both ways give a program: no check fails. -/
theorem build_agrees_load_announcing :
    announcing.Made ∧ announcing.image.size < 0x80000000 ∧ announcing.build.toOption.isSome ∧
    match announcing.build, Image.load announcing.image .none with
    | .ok built, .ok loaded => built.Agrees loaded
    | .error built, .error loaded => built = loaded
    | _, _ => False := by
  have short : announcing.image.size < 0x80000000 := by decide +kernel
  exact ⟨announcing_made, short, by decide +kernel, build_agrees_load announcing_made short⟩

end Assembler

end Gamecode
