/-
This file says what stands where in an image, byte by byte and without the reader: how bytes make up
numbers, where the header tells of the six tables, and what the record at a place of the image says.
Each record that the reader cuts out of a table is shown to be the one that stands at its place, so
reading all tables succeeds exactly where they lie inside the image and no record of a function
declares too much, and what is read is what the image describes.
-/

import Gamecode.Image.Decode
import Gamecode.Proofs.Loaded

namespace Gamecode.Image

/-! ### Numbers -/

/-- The byte at a place of an image. -/
def byteAt (image : Array UInt8) (place : Nat) : UInt8 :=
  image.getD place 0

/-- The number that bytes from a place on make up, the least significant one first. -/
def numberAt (image : Array UInt8) (place : Nat) : (size : Nat) → Nat
  | 0 => 0
  | size + 1 => (byteAt image place).toNat + 256 * numberAt image (place + 1) size

/-- Two bytes as a word. -/
def shortAt (image : Array UInt8) (place : Nat) : UInt16 :=
  UInt16.ofNat (numberAt image place 2)

/-- Four bytes as a word. -/
def wordAt (image : Array UInt8) (place : Nat) : UInt32 :=
  UInt32.ofNat (numberAt image place 4)

/-- Four bytes as a number in two's complement. -/
def signedAt (image : Array UInt8) (place : Nat) : Int :=
  if numberAt image place 4 < 0x80000000 then numberAt image place 4
  else numberAt image place 4 - 0x100000000

/-- One more byte multiplies the bound of a number by 256. -/
theorem numberAt_succ_lt {image : Array UInt8} {place size bound : Nat}
    (rest : numberAt image (place + 1) size < bound) :
    numberAt image place (size + 1) < 256 * bound := by
  have byte := (byteAt image place).toNat_lt
  rw [numberAt]
  omega

theorem numberAt_two_lt (image : Array UInt8) (place : Nat) :
    numberAt image place 2 < 0x10000 := by
  have none : numberAt image (place + 2) 0 < 1 := Nat.one_pos
  exact numberAt_succ_lt (numberAt_succ_lt none)

theorem numberAt_four_lt (image : Array UInt8) (place : Nat) :
    numberAt image place 4 < 0x100000000 :=
  numberAt_succ_lt (numberAt_succ_lt (numberAt_two_lt image (place + 2)))

theorem toNat_shortAt (image : Array UInt8) (place : Nat) :
    (shortAt image place).toNat = numberAt image place 2 := by
  rw [shortAt, UInt16.toNat_ofNat']
  exact Nat.mod_eq_of_lt (numberAt_two_lt image place)

theorem toNat_wordAt (image : Array UInt8) (place : Nat) :
    (wordAt image place).toNat = numberAt image place 4 := by
  rw [wordAt, UInt32.toNat_ofNat']
  exact Nat.mod_eq_of_lt (numberAt_four_lt image place)

theorem signed_wordAt (image : Array UInt8) (place : Nat) :
    Slot.signed (wordAt image place) = signedAt image place := by
  rw [Slot.signed, toNat_wordAt]
  rfl

theorem signedAt_lt (image : Array UInt8) (place : Nat) : signedAt image place < 0x80000000 :=
  signed_wordAt image place ▸ Slot.signed_lt _

/-- Words are told apart by the numbers that they hold. -/
theorem wordAt_eq_iff (image : Array UInt8) (place : Nat) (word : UInt32) :
    wordAt image place = word ↔ signedAt image place = Slot.signed word := by
  rw [← signed_wordAt]
  refine ⟨congrArg Slot.signed, fun same => ?_⟩
  rw [← Slot.ofSigned_signed (wordAt image place), same, Slot.ofSigned_signed]

/-! ### Tables -/

/-- The tables of an image. -/
inductive Table
  | statements
  | globalDefinitions
  | fieldDefinitions
  | functions
  | strings
  | globals
deriving Repr, DecidableEq

namespace Table

/-- The tables in the order in which the header tells of them. -/
def all : List Table :=
  [statements, globalDefinitions, fieldDefinitions, functions, strings, globals]

/-- Where the header tells of the table: four bytes for its offset, then four for its count. -/
def entry : Table → Nat
  | statements => 8
  | globalDefinitions => 16
  | fieldDefinitions => 24
  | functions => 32
  | strings => 40
  | globals => 48

/-- How many bytes a record of the table takes. -/
def recordSize : Table → Nat
  | statements | globalDefinitions | fieldDefinitions => 8
  | functions => 36
  | strings => 1
  | globals => 4

/-- Where the table begins, as the header has it. -/
def offset (table : Table) (image : Array UInt8) : Int :=
  signedAt image table.entry

/-- How many records the table has, as the header has it. -/
def count (table : Table) (image : Array UInt8) : Int :=
  signedAt image (table.entry + 4)

/-- The table lies inside the image. -/
def Inside (table : Table) (image : Array UInt8) : Prop :=
  0 ≤ table.offset image ∧ 0 ≤ table.count image ∧
    table.offset image + table.count image * table.recordSize ≤ image.size

/-- Where a record of the table stands. -/
def place (table : Table) (image : Array UInt8) (index : Nat) : Nat :=
  (table.offset image).toNat + index * table.recordSize

/-- The records of the table, each read at its place. -/
def rows {α : Type} (table : Table) (image : Array UInt8) (row : Nat → α) : Array α :=
  ((List.range (table.count image).toNat).map fun index => row (table.place image index)).toArray

theorem size_rows {α : Type} (table : Table) (image : Array UInt8) (row : Nat → α) :
    (table.rows image row).size = (table.count image).toNat := by
  rw [rows, List.size_toArray, List.length_map, List.length_range]

end Table

/-! ### Records -/

/-- The statement at a place. -/
def statementAt (image : Array UInt8) (place : Nat) : Statement :=
  ⟨shortAt image place, shortAt image (place + 2), shortAt image (place + 4),
    shortAt image (place + 6)⟩

/-- The definition at a place. -/
def definitionAt (image : Array UInt8) (place : Nat) : Definition :=
  ⟨shortAt image place, shortAt image (place + 2), wordAt image (place + 4)⟩

/-- How many fixed parameters the function at a place declares: a negative number stands for a
variadic function and is one less than the negated number of them. -/
def parametersAt (image : Array UInt8) (place : Nat) : Nat :=
  let declared := signedAt image (place + 24)
  (if declared < 0 then -1 - declared else declared).toNat

/-- The function at a place. Widths behind those of the declared parameters are not looked at. -/
def functionAt (image : Array UInt8) (place : Nat) : Function :=
  { entry := wordAt image place
    window := wordAt image (place + 4)
    locals := wordAt image (place + 8)
    profile := wordAt image (place + 12)
    name := wordAt image (place + 16)
    file := wordAt image (place + 20)
    widths := (List.range (parametersAt image place)).map fun index =>
      byteAt image (place + 28 + index)
    variadic := signedAt image (place + 24) < 0 }

/-- What the header tells of a table. -/
def lumpAt (image : Array UInt8) (table : Table) : Lump :=
  ⟨wordAt image table.entry, wordAt image (table.entry + 4)⟩

/-- The header at the beginning of an image. -/
def headerAt (image : Array UInt8) : Header :=
  { version := wordAt image 0
    checksum := wordAt image 4
    statements := lumpAt image .statements
    globalDefinitions := lumpAt image .globalDefinitions
    fieldDefinitions := lumpAt image .fieldDefinitions
    functions := lumpAt image .functions
    strings := lumpAt image .strings
    globals := lumpAt image .globals
    entityFields := wordAt image 56 }

/-- The program that an image describes: each table holds what stands at the places of its records.
-/
def described (image : Array UInt8) : Program :=
  { header := headerAt image
    statements := Table.statements.rows image (statementAt image)
    globalDefinitions := Table.globalDefinitions.rows image (definitionAt image)
    fieldDefinitions := Table.fieldDefinitions.rows image (definitionAt image)
    functions := Table.functions.rows image (functionAt image)
    strings := Table.strings.rows image (byteAt image)
    globals := Table.globals.rows image (wordAt image)
    entityFields := (signedAt image 56).toNat }

/-! ### Bytes that were cut out -/

/-- A number of bytes of an image from a place on. -/
def cut (image : Array UInt8) (place size : Nat) : List UInt8 :=
  (image.extract place (place + size)).toList

theorem cut_eq (image : Array UInt8) (place size : Nat) :
    cut image place size = (image.toList.drop place).take size := by
  rw [cut, Array.toList_extract, List.extract_eq_take_drop, Nat.add_sub_cancel_left]

theorem getD_cut {image : Array UInt8} {place size index : Nat} (inside : index < size) :
    (cut image place size).getD index 0 = byteAt image (place + index) := by
  rw [cut_eq, List.getD_eq_getElem?_getD, List.getElem?_take_of_lt inside, List.getElem?_drop,
    Array.getElem?_toList, byteAt, Array.getD_eq_getD_getElem?]

/-- What is cut out of the inside of an image are the bytes at its places. -/
theorem cut_eq_map {image : Array UInt8} {place size : Nat} (inside : place + size ≤ image.size) :
    cut image place size = (List.range size).map fun index => byteAt image (place + index) := by
  have length : (cut image place size).length = size := by
    rw [cut_eq, List.length_take, List.length_drop, Array.length_toList]
    omega
  refine List.ext_getElem (by rw [length, List.length_map, List.length_range]) fun index _ _ => ?_
  rw [List.getElem_map, List.getElem_range, ← getD_cut (by omega : index < size),
    List.getElem_eq_getD 0]

/-- Records that are cut out of the bytes of a table are cut out of the image. -/
theorem pieces_cut (image : Array UInt8) (size : Nat) (place count : Nat) :
    pieces size count (cut image place (count * size)) =
      (List.range count).map fun index => cut image (place + index * size) size := by
  induction count generalizing place with
  | zero => rfl
  | succ count inductionHypothesis =>
    have first : (cut image place ((count + 1) * size)).take size = cut image place size := by
      rw [cut_eq, cut_eq, List.take_take, Nat.min_eq_left (Nat.le_mul_of_pos_left _ count.succ_pos)]
    have rest : (cut image place ((count + 1) * size)).drop size =
        cut image (place + size) (count * size) := by
      rw [cut_eq, cut_eq, List.drop_take, List.drop_drop, Nat.succ_mul, Nat.add_sub_cancel]
    rw [pieces, first, rest, inductionHypothesis, List.range_succ_eq_map, List.map_cons,
      List.map_map, Nat.zero_mul, Nat.add_zero]
    refine congrArg _ (List.map_congr_left fun index _ => ?_)
    rw [Function.comp_apply, Nat.succ_mul, Nat.add_assoc, Nat.add_comm size]

/-! ### Words -/

/-- Bits that are shifted past a number are added to it. -/
theorem or_shiftLeft_mod {low high shift modulus : Nat} (small : low < 1 <<< shift)
    (room : high <<< shift < modulus) :
    low ||| high <<< shift % modulus = low + high <<< shift := by
  rw [Nat.one_shiftLeft] at small
  rw [Nat.mod_eq_of_lt room, Nat.or_comm, ← Nat.shiftLeft_add_eq_or_of_lt small, Nat.add_comm]

theorem toNat_join16 (low high : UInt8) :
    (join16 low high).toNat = low.toNat + 256 * high.toNat := by
  have lowBound := low.toNat_lt
  have highBound := high.toNat_lt
  have both : low.toNat ||| high.toNat <<< 8 % 0x10000 = low.toNat + high.toNat <<< 8 :=
    or_shiftLeft_mod lowBound (by omega)
  rw [join16, UInt16.toNat_or, UInt16.toNat_shiftLeft, UInt8.toNat_toUInt16, UInt8.toNat_toUInt16]
  change low.toNat ||| high.toNat <<< 8 % 0x10000 = _
  rw [both]
  omega

theorem toNat_join32 (first second third fourth : UInt8) :
    (join32 first second third fourth).toNat =
      first.toNat + 256 * (second.toNat + 256 * (third.toNat + 256 * fourth.toNat)) := by
  have firstBound := first.toNat_lt
  have secondBound := second.toNat_lt
  have thirdBound := third.toNat_lt
  have fourthBound := fourth.toNat_lt
  have two : first.toNat ||| second.toNat <<< 8 % 0x100000000 =
      first.toNat + second.toNat <<< 8 :=
    or_shiftLeft_mod firstBound (by omega)
  have three : first.toNat + second.toNat <<< 8 ||| third.toNat <<< 16 % 0x100000000 =
      first.toNat + second.toNat <<< 8 + third.toNat <<< 16 :=
    or_shiftLeft_mod (by omega) (by omega)
  have four : first.toNat + second.toNat <<< 8 + third.toNat <<< 16 |||
      fourth.toNat <<< 24 % 0x100000000 =
        first.toNat + second.toNat <<< 8 + third.toNat <<< 16 + fourth.toNat <<< 24 :=
    or_shiftLeft_mod (by omega) (by omega)
  simp only [join32, UInt32.toNat_or, UInt32.toNat_shiftLeft, UInt8.toNat_toUInt32]
  change ((first.toNat ||| second.toNat <<< 8 % 0x100000000) |||
    third.toNat <<< 16 % 0x100000000) ||| fourth.toNat <<< 24 % 0x100000000 = _
  rw [two, three, four]
  omega

theorem read16_cut {image : Array UInt8} {place size index : Nat} (inside : index + 2 ≤ size) :
    read16 (cut image place size) index = shortAt image (place + index) := by
  rw [read16, getD_cut (by omega), getD_cut (by omega)]
  refine UInt16.toNat_inj.mp ?_
  rw [toNat_join16, toNat_shortAt]
  rfl

theorem read32_cut {image : Array UInt8} {place size index : Nat} (inside : index + 4 ≤ size) :
    read32 (cut image place size) index = wordAt image (place + index) := by
  rw [read32, getD_cut (by omega), getD_cut (by omega), getD_cut (by omega), getD_cut (by omega)]
  refine UInt32.toNat_inj.mp ?_
  rw [toNat_join32, toNat_wordAt]
  rfl

/-! ### Records that were cut out -/

variable {image : Array UInt8}

theorem decodeStatement_cut (place : Nat) :
    decodeStatement (cut image place statementSize) = statementAt image place := by
  unfold decodeStatement
  rw [read16_cut (by decide), read16_cut (by decide), read16_cut (by decide),
    read16_cut (by decide)]
  rfl

theorem decodeDefinition_cut (place : Nat) :
    decodeDefinition (cut image place definitionSize) = definitionAt image place := by
  unfold decodeDefinition
  rw [read16_cut (by decide), read16_cut (by decide), read32_cut (by decide)]
  rfl

theorem fixedParameters_signedAt (place : Nat) :
    fixedParameters (signedAt image (place + 24)) = parametersAt image place := by
  unfold fixedParameters parametersAt
  dsimp only
  split <;> omega

/-- The record of a function that declares few enough parameters is read as the function at its
place. -/
theorem decodeFunction_cut {place : Nat} (inside : place + functionSize ≤ image.size) :
    decodeFunction (cut image place functionSize) =
      if 8 < parametersAt image place then
        .error (.malformed (.parameterCount (signedAt image (place + 24))))
      else .ok (functionAt image place) := by
  unfold decodeFunction
  dsimp only
  rw [read32_cut (by decide), signed_wordAt, fixedParameters_signedAt]
  split
  · rfl
  next few =>
  have widths : ((cut image place functionSize).drop 28).take (parametersAt image place) =
      (functionAt image place).widths := by
    unfold functionSize at inside ⊢
    rw [cut_eq, List.drop_take, List.drop_drop, List.take_take, Nat.min_eq_left (by omega),
      ← cut_eq, cut_eq_map (by omega)]
    rfl
  rw [widths, read32_cut (by decide), read32_cut (by decide), read32_cut (by decide),
    read32_cut (by decide), read32_cut (by decide), read32_cut (by decide)]
  rfl

/-! ### Tables that were read -/

/-- The bytes of a table are found exactly where the image holds all of them. -/
theorem lumpBytes_eq_ok_iff (table : Table) (name : String) (bytes : List UInt8) :
    lumpBytes image name (lumpAt image table) table.recordSize = .ok bytes ↔
      table.Inside image ∧ bytes =
        cut image (table.offset image).toNat
          ((table.count image).toNat * table.recordSize) := by
  have offset : Slot.signed (lumpAt image table).offset = table.offset image := signed_wordAt _ _
  have count : Slot.signed (lumpAt image table).count = table.count image := signed_wordAt _ _
  unfold lumpBytes
  dsimp only
  rw [offset, count]
  split
  · next inside =>
    exact ⟨fun read => ⟨inside, (Except.ok.inj read).symm⟩,
      fun both => congrArg Except.ok both.2.symm⟩
  · next outside => exact iff_of_false nofun fun both => outside both.1

/-- The records of a table are found exactly where the image holds all of them. -/
theorem records_eq_ok_iff (table : Table) (name : String) (found : List (List UInt8)) :
    records image name (lumpAt image table) table.recordSize = .ok found ↔
      table.Inside image ∧ found = (List.range (table.count image).toNat).map fun index =>
        cut image (table.place image index) table.recordSize := by
  have count : Slot.signed (lumpAt image table).count = table.count image := signed_wordAt _ _
  unfold records
  rw [Except.bind_eq_ok_iff, count]
  constructor
  · rintro ⟨bytes, read, same⟩
    obtain ⟨inside, rfl⟩ := (lumpBytes_eq_ok_iff table name bytes).mp read
    exact ⟨inside, (Except.ok.inj same).symm.trans (pieces_cut _ _ _ _)⟩
  · rintro ⟨inside, rfl⟩
    exact ⟨_, (lumpBytes_eq_ok_iff table name _).mpr ⟨inside, rfl⟩,
      congrArg Except.ok (pieces_cut _ _ _ _)⟩

/-- Records that are read one by one are all read exactly where none of them is refused. -/
theorem mapM_map_eq_ok_iff {α β γ : Type} {decode : β → Except Fault γ} {source : α → β}
    {accepted : α → Prop} {value : α → γ} {members : List α}
    (each : ∀ member ∈ members, ∀ result,
      decode (source member) = .ok result ↔ accepted member ∧ result = value member)
    (results : List γ) :
    (members.map source).mapM decode = .ok results ↔
      (∀ member ∈ members, accepted member) ∧ results = members.map value := by
  induction members generalizing results with
  | nil =>
    exact ⟨fun read => ⟨nofun, (Except.ok.inj read).symm⟩, fun both => by rw [both.2]; rfl⟩
  | cons head rest inductionHypothesis =>
    obtain ⟨headEach, restEach⟩ := List.forall_mem_cons.mp each
    rw [List.map_cons, List.mapM_cons, Except.bind_eq_ok_iff, List.forall_mem_cons]
    constructor
    · rintro ⟨first, headRead, read⟩
      obtain ⟨others, restRead, same⟩ := Except.bind_eq_ok_iff.mp read
      obtain ⟨headAccepted, rfl⟩ := (headEach first).mp headRead
      obtain ⟨restAccepted, rfl⟩ := (inductionHypothesis restEach others).mp restRead
      exact ⟨⟨headAccepted, restAccepted⟩, (Except.ok.inj same).symm⟩
    · rintro ⟨⟨headAccepted, restAccepted⟩, rfl⟩
      refine ⟨_, (headEach _).mpr ⟨headAccepted, rfl⟩, ?_⟩
      exact Except.bind_eq_ok_iff.mpr
        ⟨_, (inductionHypothesis restEach _).mpr ⟨restAccepted, rfl⟩, rfl⟩

/-- The records of a table that were cut out and decoded are those at their places. -/
theorem toArray_map_cut {α : Type} (table : Table) {decode : List UInt8 → α} {row : Nat → α}
    (same : ∀ place, decode (cut image place table.recordSize) = row place) :
    (((List.range (table.count image).toNat).map fun index =>
      cut image (table.place image index) table.recordSize).map decode).toArray =
        table.rows image row := by
  rw [List.map_map, Table.rows]
  exact congrArg _ (List.map_congr_left fun index _ => same _)

/-- A record of a table inside the image lies inside the image. -/
theorem Table.Inside.place_add_le {table : Table} (inside : table.Inside image) {index : Nat}
    (bound : index < (table.count image).toNat) :
    table.place image index + table.recordSize ≤ image.size := by
  obtain ⟨offsetNonneg, countNonneg, whole⟩ := inside
  unfold Table.place
  obtain ⟨start, startEq⟩ := Int.eq_ofNat_of_zero_le offsetNonneg
  obtain ⟨count, countEq⟩ := Int.eq_ofNat_of_zero_le countNonneg
  rw [startEq, countEq] at whole
  rw [countEq, Int.toNat_natCast] at bound
  rw [startEq, Int.toNat_natCast, Nat.add_assoc, ← Nat.succ_mul]
  have records : index.succ * table.recordSize ≤ count * table.recordSize :=
    Nat.mul_le_mul_right _ bound
  have room : start + count * table.recordSize ≤ image.size := by exact_mod_cast whole
  omega

/-- The functions of a table inside the image are read exactly where none of them declares more
parameters than its record has room for. -/
theorem mapM_decodeFunction_eq_ok_iff (inside : Table.functions.Inside image)
    (results : List Function) :
    ((List.range (Table.functions.count image).toNat).map fun index =>
        cut image (Table.functions.place image index) functionSize).mapM decodeFunction =
      .ok results ↔
        (∀ index ∈ List.range (Table.functions.count image).toNat,
          parametersAt image (Table.functions.place image index) ≤ 8) ∧
        results = (List.range (Table.functions.count image).toNat).map fun index =>
          functionAt image (Table.functions.place image index) := by
  refine mapM_map_eq_ok_iff (fun index member result => ?_) results
  rw [decodeFunction_cut (inside.place_add_le (List.mem_range.mp member))]
  split
  · next many => exact iff_of_false nofun fun both => Nat.not_lt.mpr both.1 many
  · next few =>
    exact ⟨fun read => ⟨Nat.not_lt.mp few, (Except.ok.inj read).symm⟩,
      fun both => congrArg _ both.2.symm⟩

/-- The bytes of the table of strings are those at its places. -/
theorem toArray_cut_strings (inside : Table.strings.Inside image) :
    (cut image (Table.strings.offset image).toNat
      ((Table.strings.count image).toNat * Table.strings.recordSize)).toArray =
        Table.strings.rows image (byteAt image) := by
  have room : (Table.strings.offset image).toNat + (Table.strings.count image).toNat ≤
      image.size := by
    obtain ⟨offset, count, whole⟩ := inside
    change _ + _ * ((1 : Nat) : Int) ≤ _ at whole
    omega
  rw [Table.recordSize, Nat.mul_one, cut_eq_map room, Table.rows]
  unfold Table.place
  simp only [Table.recordSize, Nat.mul_one]

/-- Tables are read only where they lie inside the image, and functions only where they declare few
enough parameters. -/
theorem inside_of_readTables {program : Program}
    (read : readTables image (headerAt image) = .ok program) :
    (∀ table : Table, table.Inside image) ∧
      ∀ index ∈ List.range (Table.functions.count image).toNat,
        parametersAt image (Table.functions.place image index) ≤ 8 := by
  unfold readTables at read
  obtain ⟨_, statementsRead, read⟩ := Except.bind_eq_ok_iff.mp read
  obtain ⟨_, globalsRead, read⟩ := Except.bind_eq_ok_iff.mp read
  obtain ⟨_, fieldsRead, read⟩ := Except.bind_eq_ok_iff.mp read
  obtain ⟨_, functionsRead, read⟩ := Except.bind_eq_ok_iff.mp read
  obtain ⟨_, decoded, read⟩ := Except.bind_eq_ok_iff.mp read
  obtain ⟨_, stringsRead, read⟩ := Except.bind_eq_ok_iff.mp read
  obtain ⟨_, slotsRead, read⟩ := Except.bind_eq_ok_iff.mp read
  obtain ⟨functionsInside, rfl⟩ := (records_eq_ok_iff .functions _ _).mp functionsRead
  refine ⟨fun table => ?_, ((mapM_decodeFunction_eq_ok_iff functionsInside _).mp decoded).1⟩
  cases table with
  | statements => exact ((records_eq_ok_iff .statements _ _).mp statementsRead).1
  | globalDefinitions => exact ((records_eq_ok_iff .globalDefinitions _ _).mp globalsRead).1
  | fieldDefinitions => exact ((records_eq_ok_iff .fieldDefinitions _ _).mp fieldsRead).1
  | functions => exact functionsInside
  | strings => exact ((lumpBytes_eq_ok_iff .strings _ _).mp stringsRead).1
  | globals => exact ((records_eq_ok_iff .globals _ _).mp slotsRead).1

/-- Tables inside the image are read as the image describes them. -/
theorem readTables_eq_ok (inside : ∀ table : Table, table.Inside image)
    (few : ∀ index ∈ List.range (Table.functions.count image).toNat,
      parametersAt image (Table.functions.place image index) ≤ 8) :
    readTables image (headerAt image) = .ok (described image) := by
  have recordsRead (table : Table) (name : String) :
      records image name (lumpAt image table) table.recordSize = .ok _ :=
    (records_eq_ok_iff table name _).mpr ⟨inside table, rfl⟩
  have stringsRead : lumpBytes image "strings" (lumpAt image .strings) Table.strings.recordSize =
      .ok _ := (lumpBytes_eq_ok_iff .strings _ _).mpr ⟨inside .strings, rfl⟩
  have entityFields : (Slot.signed (headerAt image).entityFields).toNat =
      (signedAt image 56).toNat := by rw [headerAt, signed_wordAt]
  unfold readTables
  refine Except.bind_eq_ok_iff.mpr ⟨_, recordsRead .statements _, ?_⟩
  refine Except.bind_eq_ok_iff.mpr ⟨_, recordsRead .globalDefinitions _, ?_⟩
  refine Except.bind_eq_ok_iff.mpr ⟨_, recordsRead .fieldDefinitions _, ?_⟩
  refine Except.bind_eq_ok_iff.mpr ⟨_, recordsRead .functions _, ?_⟩
  refine Except.bind_eq_ok_iff.mpr
    ⟨_, (mapM_decodeFunction_eq_ok_iff (inside .functions) _).mpr ⟨few, rfl⟩, ?_⟩
  refine Except.bind_eq_ok_iff.mpr ⟨_, stringsRead, ?_⟩
  refine Except.bind_eq_ok_iff.mpr ⟨_, recordsRead .globals _, ?_⟩
  rw [toArray_map_cut .statements decodeStatement_cut,
    toArray_map_cut .globalDefinitions decodeDefinition_cut,
    toArray_map_cut .fieldDefinitions decodeDefinition_cut, toArray_cut_strings (inside .strings),
    toArray_map_cut .globals fun place => read32_cut (by decide), entityFields]
  rfl

/-- All tables are read exactly where they lie inside the image and no function declares more
parameters than its record has room for; what is read is then what the image describes. -/
theorem readTables_eq_ok_iff (program : Program) :
    readTables image (headerAt image) = .ok program ↔
      ((∀ table : Table, table.Inside image) ∧
        ∀ index ∈ List.range (Table.functions.count image).toNat,
          parametersAt image (Table.functions.place image index) ≤ 8) ∧
        program = described image := by
  constructor
  · intro read
    obtain ⟨inside, few⟩ := inside_of_readTables read
    refine ⟨⟨inside, few⟩, ?_⟩
    rw [readTables_eq_ok inside few] at read
    exact (Except.ok.inj read).symm
  · rintro ⟨⟨inside, few⟩, rfl⟩
    exact readTables_eq_ok inside few

/-- The header is read from the beginning of an image that is long enough. -/
theorem readHeader_eq_ok_iff (header : Header) :
    readHeader image = .ok header ↔ headerSize ≤ image.size ∧ header = headerAt image := by
  have decoded : decodeHeader (cut image 0 headerSize) = headerAt image := by
    unfold decodeHeader decodeLump headerSize
    simp (disch := decide) only [read32_cut, Nat.zero_add]
    rfl
  unfold readHeader
  split
  · next short => exact iff_of_false nofun fun both => Nat.not_le.mpr short both.1
  · next long =>
    change Except.ok (decodeHeader (cut image 0 headerSize)) = _ ↔ _
    rw [decoded]
    exact ⟨fun read => ⟨Nat.not_lt.mp long, (Except.ok.inj read).symm⟩,
      fun both => congrArg _ both.2.symm⟩

end Gamecode.Image
