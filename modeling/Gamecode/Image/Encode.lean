/-
Writing images. The six tables follow the header in the order in which it names them, with nothing
between them and nothing after them.
-/

import Gamecode.Image.Record

namespace Gamecode.Image

/-- The tables of a program as bytes, each with the number of its records. -/
def tables (program : Program) : List (Nat × List UInt8) :=
  [(program.statements.size, program.statements.toList.flatMap encodeStatement),
    (program.globalDefinitions.size, program.globalDefinitions.toList.flatMap encodeDefinition),
    (program.fieldDefinitions.size, program.fieldDefinitions.toList.flatMap encodeDefinition),
    (program.functions.size, program.functions.toList.flatMap encodeFunction),
    (program.strings.size, program.strings.toList),
    (program.globals.size, program.globals.toList.flatMap bytes32)]

/-- Where tables lie that follow each other from `offset` on. -/
def layOut (offset : Nat) : List (Nat × List UInt8) → List Lump
  | [] => []
  | (count, bytes) :: rest =>
    ⟨UInt32.ofNat offset, UInt32.ofNat count⟩ :: layOut (offset + bytes.length) rest

/-- The header that describes the laid out tables. -/
def laidOutHeader (program : Program) : Header :=
  let lumps := layOut headerSize (tables program)
  let lump (index : Nat) : Lump := lumps.getD index ⟨0, 0⟩
  { version
    checksum := program.header.checksum
    statements := lump 0
    globalDefinitions := lump 1
    fieldDefinitions := lump 2
    functions := lump 3
    strings := lump 4
    globals := lump 5
    entityFields := UInt32.ofNat program.entityFields }

/-- The image of a program. -/
def save (program : Program) : Array UInt8 :=
  (encodeHeader (laidOutHeader program) ++ (tables program).flatMap Prod.snd).toArray

end Gamecode.Image
