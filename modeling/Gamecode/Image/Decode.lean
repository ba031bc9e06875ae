/-
Reading images. A header names six tables by their first byte and the number of their records. The
tables may lie anywhere in the image, in any order, and may even overlap.
-/

import Gamecode.Checksum
import Gamecode.Image.Check
import Gamecode.Image.Record

namespace Gamecode.Image

/-- What a host demands of the header: the checksum of its own declarations, or nothing. -/
structure Expectation where
  checksum : Option UInt16
deriving Repr, DecidableEq

namespace Expectation

/-- Nothing is demanded. -/
def none : Expectation := ⟨Option.none⟩

/-- Expect the checksum of a text of declarations. -/
def ofDeclarations (text : List UInt8) : Expectation :=
  ⟨some (Checksum.ofBytes text)⟩

end Expectation

/-! ### Tables -/

/-- The bytes of a table, if the image holds all of them. -/
def lumpBytes (image : Array UInt8) (table : String) (lump : Lump) (recordSize : Nat) :
    Except Fault (List UInt8) :=
  let offset := Slot.signed lump.offset
  let count := Slot.signed lump.count
  if 0 ≤ offset ∧ 0 ≤ count ∧ offset + count * recordSize ≤ image.size then
    .ok (image.extract offset.toNat (offset.toNat + count.toNat * recordSize)).toList
  else .error (.outsideTable table offset count image.size)

/-- Cut a text into `count` pieces of one size. -/
def pieces (size : Nat) : Nat → List UInt8 → List (List UInt8)
  | 0, _ => []
  | count + 1, bytes => bytes.take size :: pieces size count (bytes.drop size)

/-- The records of a table, each as its bytes. -/
def records (image : Array UInt8) (table : String) (lump : Lump) (recordSize : Nat) :
    Except Fault (List (List UInt8)) := do
  let bytes ← lumpBytes image table lump recordSize
  return pieces recordSize (Slot.signed lump.count).toNat bytes

/-! ### Images -/

/-- The header at the beginning of an image. -/
def readHeader (image : Array UInt8) : Except Fault Header :=
  if image.size < headerSize then .error (.malformed (.shortHeader image.size))
  else .ok (decodeHeader (image.extract 0 headerSize).toList)

/-- The checks of a header, in the order in which their faults are reported. -/
def checkHeader (header : Header) (expectation : Expectation) : Except Fault Unit := do
  if header.version ≠ version then
    throw (.malformed (.version (Slot.signed header.version)))
  match expectation.checksum with
  | some expected =>
    if header.checksum ≠ expected.toUInt32 then
      throw (.checksumMismatch expected.toNat (Slot.signed header.checksum))
  | none => pure ()
  if Slot.signed header.entityFields < 0 then
    throw (.malformed (.negativeFieldCount (Slot.signed header.entityFields)))

/-- The tables that a header names. -/
def readTables (image : Array UInt8) (header : Header) : Except Fault Program := do
  let statements ← records image "statements" header.statements statementSize
  let globalDefinitions ← records image "globaldefs" header.globalDefinitions definitionSize
  let fieldDefinitions ← records image "fielddefs" header.fieldDefinitions definitionSize
  let functions ← records image "functions" header.functions functionSize
  let functions ← functions.mapM decodeFunction
  let strings ← lumpBytes image "strings" header.strings 1
  let globals ← records image "globals" header.globals 4
  return {
      header
      statements := (statements.map decodeStatement).toArray
      globalDefinitions := (globalDefinitions.map decodeDefinition).toArray
      fieldDefinitions := (fieldDefinitions.map decodeDefinition).toArray
      functions := functions.toArray
      strings := strings.toArray
      globals := (globals.map (read32 · 0)).toArray
      entityFields := (Slot.signed header.entityFields).toNat }

/-- Read an image and check the program in it. -/
def load (image : Array UInt8) (expectation : Expectation) : Except Fault Program := do
  let header ← readHeader image
  checkHeader header expectation
  let program ← readTables image header
  check program
  return program

end Gamecode.Image
