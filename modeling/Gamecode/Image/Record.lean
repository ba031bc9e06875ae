/-
The records of an image. All numbers are stored with the least significant byte first. Each record
has a fixed size, an encoding of that size, and a decoding that reads the encoding back.
-/

import Gamecode.Program

namespace Gamecode.Image

/-! ### Numbers -/

/-- The two bytes of a word, the low one first. -/
def bytes16 (number : UInt16) : List UInt8 :=
  [number.toUInt8, (number >>> 8).toUInt8]

/-- The four bytes of a word, the lowest first. -/
def bytes32 (number : UInt32) : List UInt8 :=
  [number.toUInt8, (number >>> 8).toUInt8, (number >>> 16).toUInt8, (number >>> 24).toUInt8]

/-- The number that two bytes make up. -/
def join16 (low high : UInt8) : UInt16 :=
  low.toUInt16 ||| high.toUInt16 <<< 8

/-- The number that four bytes make up. -/
def join32 (first second third fourth : UInt8) : UInt32 :=
  first.toUInt32 ||| second.toUInt32 <<< 8 ||| third.toUInt32 <<< 16 ||| fourth.toUInt32 <<< 24

/-- The 16-bit number at an offset of a record. -/
def read16 (record : List UInt8) (offset : Nat) : UInt16 :=
  join16 (record.getD offset 0) (record.getD (offset + 1) 0)

/-- The 32-bit number at an offset of a record. -/
def read32 (record : List UInt8) (offset : Nat) : UInt32 :=
  join32 (record.getD offset 0) (record.getD (offset + 1) 0) (record.getD (offset + 2) 0)
    (record.getD (offset + 3) 0)

/-- A short word has two bytes. -/
@[simp] theorem length_bytes16 (number : UInt16) : (bytes16 number).length = 2 := rfl

/-- A word has four bytes. -/
@[simp] theorem length_bytes32 (number : UInt32) : (bytes32 number).length = 4 := rfl

/-- The two bytes of a number make it up again. -/
theorem join16_bytes (number : UInt16) :
    join16 number.toUInt8 (number >>> 8).toUInt8 = number := by
  apply UInt16.toBitVec_inj.mp
  apply BitVec.eq_of_getLsbD_eq
  intro position bound
  change ((number.toBitVec.setWidth 8).setWidth 16 |||
    ((number.toBitVec >>> 8).setWidth 8).setWidth 16 <<< 8).getLsbD position = _
  simp only [BitVec.getLsbD_or, BitVec.getLsbD_setWidth, BitVec.getLsbD_shiftLeft,
    BitVec.getLsbD_ushiftRight]
  grind

/-- The four bytes of a number make it up again. -/
theorem join32_bytes (number : UInt32) :
    join32 number.toUInt8 (number >>> 8).toUInt8 (number >>> 16).toUInt8 (number >>> 24).toUInt8 =
      number := by
  apply UInt32.toBitVec_inj.mp
  apply BitVec.eq_of_getLsbD_eq
  intro position bound
  change ((number.toBitVec.setWidth 8).setWidth 32 |||
    ((number.toBitVec >>> 8).setWidth 8).setWidth 32 <<< 8 |||
    ((number.toBitVec >>> 16).setWidth 8).setWidth 32 <<< 16 |||
    ((number.toBitVec >>> 24).setWidth 8).setWidth 32 <<< 24).getLsbD position = _
  simp only [BitVec.getLsbD_or, BitVec.getLsbD_setWidth, BitVec.getLsbD_shiftLeft,
    BitVec.getLsbD_ushiftRight]
  grind

/-! ### Statements -/

/-- The number of bytes in the record of a statement. -/
def statementSize : Nat := 8

/-- The operation and the three operands, in this order. -/
def encodeStatement (statement : Statement) : List UInt8 :=
  bytes16 statement.number ++ bytes16 statement.a ++ bytes16 statement.b ++ bytes16 statement.c

/-- The statement in a record. -/
def decodeStatement (record : List UInt8) : Statement :=
  ⟨read16 record 0, read16 record 2, read16 record 4, read16 record 6⟩

/-- The record of a statement has the size of such records. -/
@[simp] theorem length_encodeStatement (statement : Statement) :
    (encodeStatement statement).length = statementSize := rfl

/-- A statement is read as it was written. -/
theorem decodeStatement_encodeStatement (statement : Statement) :
    decodeStatement (encodeStatement statement) = statement := by
  simp only [decodeStatement, encodeStatement, bytes16, read16, List.cons_append,
    List.nil_append, List.getD_cons_zero, List.getD_cons_succ, join16_bytes]

/-! ### Definitions -/

/-- The number of bytes in the record of a definition. -/
def definitionSize : Nat := 8

/-- The tag, the offset and the name, in this order. -/
def encodeDefinition (definition : Definition) : List UInt8 :=
  bytes16 definition.tag ++ bytes16 definition.offset ++ bytes32 definition.name

/-- The definition in a record. -/
def decodeDefinition (record : List UInt8) : Definition :=
  ⟨read16 record 0, read16 record 2, read32 record 4⟩

/-- The record of a definition has the size of such records. -/
@[simp] theorem length_encodeDefinition (definition : Definition) :
    (encodeDefinition definition).length = definitionSize := rfl

/-- A definition is read as it was written. -/
theorem decodeDefinition_encodeDefinition (definition : Definition) :
    decodeDefinition (encodeDefinition definition) = definition := by
  simp only [decodeDefinition, encodeDefinition, bytes16, bytes32, read16, read32,
    List.cons_append, List.nil_append, List.getD_cons_zero, List.getD_cons_succ, join16_bytes,
    join32_bytes]

/-! ### Functions -/

/-- The number of bytes in the record of a function. -/
def functionSize : Nat := 36

/-- Room for the widths of eight parameters; unused places are zero. -/
def encodeWidths (widths : List UInt8) : List UInt8 :=
  widths ++ List.replicate (8 - widths.length) 0

/-- Seven words and eight widths; widths that no parameter has are zero. -/
def encodeFunction (function : Function) : List UInt8 :=
  bytes32 function.entry ++ bytes32 function.window ++ bytes32 function.locals ++
    bytes32 function.profile ++ bytes32 function.name ++ bytes32 function.file ++
    bytes32 (Slot.ofSigned function.declaredParameters) ++ encodeWidths function.widths

/-- How many parameters a declared number stands for. -/
def fixedParameters (declared : Int) : Nat :=
  if declared < 0 then (-(declared + 1)).toNat else declared.toNat

/-- The function in a record, unless it declares more parameters than the record has room for. -/
def decodeFunction (record : List UInt8) : Except Fault Function :=
  let declared := Slot.signed (read32 record 24)
  let count := fixedParameters declared
  if 8 < count then .error (.malformed (.parameterCount declared))
  else .ok
    { entry := read32 record 0
      window := read32 record 4
      locals := read32 record 8
      profile := read32 record 12
      name := read32 record 16
      file := read32 record 20
      widths := ((record.drop 28).take count)
      variadic := declared < 0 }

/-- A function with no more parameters than a record has room for has a record of the right size. -/
theorem length_encodeFunction {function : Function} (bound : function.widths.length ≤ 8) :
    (encodeFunction function).length = functionSize := by
  simp only [encodeFunction, encodeWidths, List.length_append, length_bytes32,
    List.length_replicate, functionSize]
  omega

/-- The number of fixed parameters can be told from the declared number. -/
theorem fixedParameters_declaredParameters (function : Function) :
    fixedParameters function.declaredParameters = function.widths.length := by
  have declared : function.declaredParameters =
      if function.variadic then -1 - (function.widths.length : Int) else function.widths.length :=
    rfl
  rw [fixedParameters, declared]
  split <;> split <;> omega

/-- The declared number is negative exactly for variadic functions. -/
theorem declaredParameters_neg_iff (function : Function) :
    function.declaredParameters < 0 ↔ function.variadic = true := by
  simp only [Function.declaredParameters, Function.parameterCount]
  split
  · exact iff_of_true (by omega) ‹_›
  · exact iff_of_false (by omega) ‹_›

/-- A function is read as it was written, if its widths fit the record. -/
theorem decodeFunction_encodeFunction {function : Function}
    (bound : function.widths.length ≤ 8) :
    decodeFunction (encodeFunction function) = .ok function := by
  have kept : Slot.signed (Slot.ofSigned function.declaredParameters) =
      function.declaredParameters := by
    apply Slot.signed_ofSigned <;>
      simp only [Function.declaredParameters, Function.parameterCount] <;> split <;> omega
  have declared : read32 (encodeFunction function) 24 =
      Slot.ofSigned function.declaredParameters := by
    simp only [encodeFunction, bytes32, read32, List.cons_append, List.nil_append,
      List.getD_cons_zero, List.getD_cons_succ, join32_bytes]
  have widths : ((encodeFunction function).drop 28).take function.widths.length =
      function.widths := by
    change (function.widths ++ List.replicate (8 - function.widths.length) 0).take
      function.widths.length = _
    exact List.take_left
  simp only [decodeFunction, declared, kept, fixedParameters_declaredParameters, widths,
    declaredParameters_neg_iff, Nat.not_lt.mpr bound, if_false]
  simp only [encodeFunction, bytes32, read32, List.cons_append, List.nil_append,
    List.getD_cons_zero, List.getD_cons_succ, join32_bytes, Bool.decide_eq_true]

/-! ### Headers -/

/-- The number of bytes in a header. -/
def headerSize : Nat := 60

/-- The one version of the format. -/
def version : UInt32 := 6

/-- The offset and the count of a table. -/
def encodeLump (lump : Lump) : List UInt8 :=
  bytes32 lump.offset ++ bytes32 lump.count

/-- The table that two words of a record name. -/
def decodeLump (record : List UInt8) (offset : Nat) : Lump :=
  ⟨read32 record offset, read32 record (offset + 4)⟩

/-- The version, the checksum, the six tables and the size of entities. -/
def encodeHeader (header : Header) : List UInt8 :=
  bytes32 header.version ++ bytes32 header.checksum ++ encodeLump header.statements ++
    encodeLump header.globalDefinitions ++ encodeLump header.fieldDefinitions ++
    encodeLump header.functions ++ encodeLump header.strings ++ encodeLump header.globals ++
    bytes32 header.entityFields

/-- The header in a record. -/
def decodeHeader (record : List UInt8) : Header :=
  { version := read32 record 0
    checksum := read32 record 4
    statements := decodeLump record 8
    globalDefinitions := decodeLump record 16
    fieldDefinitions := decodeLump record 24
    functions := decodeLump record 32
    strings := decodeLump record 40
    globals := decodeLump record 48
    entityFields := read32 record 56 }

/-- A header has the size of headers. -/
@[simp] theorem length_encodeHeader (header : Header) :
    (encodeHeader header).length = headerSize := rfl

/-- A header is read as it was written. -/
theorem decodeHeader_encodeHeader (header : Header) :
    decodeHeader (encodeHeader header) = header := by
  simp only [decodeHeader, encodeHeader, decodeLump, encodeLump, bytes32, read32,
    List.cons_append, List.nil_append, List.getD_cons_zero, List.getD_cons_succ, join32_bytes]

end Gamecode.Image
