/-
This file writes programs that were read. The records of an image are written as they were read, but
for the widths that no parameter of a function has, which are written as zeros, and the tables are
written one behind the other. So saving what was loaded gives the canonical image of the program:
the loader accepts it and finds the same program in it, and it is the image that was loaded exactly
if that one was canonical already.
-/

import Gamecode.Proofs.Image.Assembled
import Gamecode.Proofs.Image.WellFormed

namespace Gamecode.Image

/-! ### Canonical images -/

/-- How many bytes the records of a table take. -/
def Table.size (table : Table) (image : Array UInt8) : Nat :=
  (table.count image).toNat * table.recordSize

/-- How many bytes the records of some tables take together. -/
def totalSize (image : Array UInt8) : List Table → Nat
  | [] => 0
  | table :: rest => table.size image + totalSize image rest

/-- Tables lie one behind the other from a place on, and the image ends behind the last one. -/
def LaidOut (image : Array UInt8) : (place : Nat) → List Table → Prop
  | place, [] => image.size = place
  | place, table :: rest =>
    table.offset image = place ∧ LaidOut image (place + table.size image) rest

/-- The tables follow the header one behind the other, nothing comes behind them, and the widths
that no parameter of a function has are zero. -/
structure Canonical (image : Array UInt8) : Prop where
  laidOut : LaidOut image 60 Table.all
  unused : ∀ index ∈ List.range (Table.functions.count image).toNat, ∀ parameter < 8,
    parametersAt image (Table.functions.place image index) ≤ parameter →
      byteAt image (Table.functions.place image index + 28 + parameter) = 0

/-! ### Records that are written again -/

variable {image : Array UInt8}

theorem cut_add (image : Array UInt8) (place first second : Nat) :
    cut image place (first + second) = cut image place first ++
      cut image (place + first) second := by
  rw [cut_eq, cut_eq, cut_eq, List.take_add, List.drop_drop]

theorem bytes16_shortAt {place : Nat} (inside : place + 2 ≤ image.size) :
    bytes16 (shortAt image place) = cut image place 2 := by
  have low := (byteAt image place).toNat_lt
  have high := (byteAt image (place + 1)).toNat_lt
  have number : (shortAt image place).toNat =
      (byteAt image place).toNat + 256 * (byteAt image (place + 1)).toNat :=
    toNat_shortAt image place
  rw [cut_eq_map inside]
  change [_, _] = [byteAt image place, byteAt image (place + 1)]
  congr 1
  · refine UInt8.toNat_inj.mp ?_
    rw [UInt16.toNat_toUInt8, number]
    omega
  · refine congrArg (fun byte => [byte]) (UInt8.toNat_inj.mp ?_)
    rw [UInt16.toNat_toUInt8, UInt16.toNat_shiftRight, number, Nat.shiftRight_eq_div_pow]
    change _ / 256 % 256 = _
    omega

theorem bytes32_wordAt {place : Nat} (inside : place + 4 ≤ image.size) :
    bytes32 (wordAt image place) = cut image place 4 := by
  have first := (byteAt image place).toNat_lt
  have second := (byteAt image (place + 1)).toNat_lt
  have third := (byteAt image (place + 2)).toNat_lt
  have fourth := (byteAt image (place + 3)).toNat_lt
  have number : (wordAt image place).toNat = (byteAt image place).toNat +
      256 * ((byteAt image (place + 1)).toNat + 256 * ((byteAt image (place + 2)).toNat +
        256 * (byteAt image (place + 3)).toNat)) := toNat_wordAt image place
  have byte (shift : UInt32) (byte : UInt8)
      (same : (wordAt image place).toNat / 2 ^ (shift.toNat % 32) % 256 = byte.toNat) :
      (wordAt image place >>> shift).toUInt8 = byte := by
    refine UInt8.toNat_inj.mp ?_
    rw [UInt32.toNat_toUInt8, UInt32.toNat_shiftRight, Nat.shiftRight_eq_div_pow]
    exact same
  have firstSame : (wordAt image place).toUInt8 = byteAt image place := by
    refine UInt8.toNat_inj.mp ?_
    rw [UInt32.toNat_toUInt8, number]
    omega
  rw [cut_eq_map inside, bytes32, firstSame,
    byte 8 (byteAt image (place + 1)) (by rw [number]; change _ / 256 % 256 = _; omega),
    byte 16 (byteAt image (place + 2)) (by rw [number]; change _ / 65536 % 256 = _; omega),
    byte 24 (byteAt image (place + 3)) (by rw [number]; change _ / 16777216 % 256 = _; omega)]
  rfl

theorem encodeStatement_statementAt {place : Nat} (inside : place + 8 ≤ image.size) :
    encodeStatement (statementAt image place) = cut image place 8 := by
  rw [encodeStatement, statementAt, bytes16_shortAt (by omega), bytes16_shortAt (by omega),
    bytes16_shortAt (by omega), bytes16_shortAt (by omega)]
  change _ = cut image place (2 + 2 + 2 + 2)
  rw [cut_add, cut_add, cut_add]

theorem encodeDefinition_definitionAt {place : Nat} (inside : place + 8 ≤ image.size) :
    encodeDefinition (definitionAt image place) = cut image place 8 := by
  rw [encodeDefinition, definitionAt, bytes16_shortAt (by omega), bytes16_shortAt (by omega),
    bytes32_wordAt (by omega)]
  change _ = cut image place (2 + 2 + 4)
  rw [cut_add, cut_add]

/-- A function stores the number of parameters that it was read with. -/
theorem ofSigned_declaredParameters (place : Nat) :
    Slot.ofSigned (functionAt image place).declaredParameters = wordAt image (place + 24) := by
  have parameters : (functionAt image place).parameterCount = parametersAt image place := by
    rw [Function.parameterCount, functionAt, List.length_map, List.length_range]
  have declared : (functionAt image place).declaredParameters = signedAt image (place + 24) := by
    rw [Function.declaredParameters, parameters]
    unfold functionAt parametersAt
    dsimp only
    by_cases negative : signedAt image (place + 24) < 0
    · rw [if_pos negative, if_pos (decide_eq_true negative)]
      omega
    · rw [if_neg negative, if_neg (mt of_decide_eq_true negative)]
      omega
  rw [declared, ← signed_wordAt, Slot.ofSigned_signed]

/-- The widths of a function are written as they were read exactly if those are zero that no
parameter has. -/
theorem encodeWidths_eq_cut_iff {place : Nat} (inside : place + functionSize ≤ image.size)
    (few : parametersAt image place ≤ 8) :
    encodeWidths (functionAt image place).widths = cut image (place + 28) 8 ↔
      ∀ parameter < 8, parametersAt image place ≤ parameter →
        byteAt image (place + 28 + parameter) = 0 := by
  unfold functionSize at inside
  have widths : (functionAt image place).widths =
      cut image (place + 28) (parametersAt image place) := (cut_eq_map (by omega)).symm
  have length : (cut image (place + 28) (parametersAt image place)).length =
      parametersAt image place := by
    rw [← widths, functionAt, List.length_map, List.length_range]
  obtain ⟨unused, split⟩ := Nat.exists_eq_add_of_le few
  rw [encodeWidths, widths, length, split, cut_add, List.append_cancel_left_eq,
    Nat.add_sub_cancel_left, cut_eq_map (by omega), eq_comm, List.eq_replicate_iff,
    List.length_map, List.length_range, and_iff_right rfl, List.forall_mem_map]
  constructor
  · intro zero parameter bound beyond
    obtain ⟨index, rfl⟩ := Nat.exists_eq_add_of_le beyond
    have known := zero index (List.mem_range.mpr (by omega))
    rwa [Nat.add_assoc (place + 28)] at known
  · intro zero index member
    have bound := List.mem_range.mp member
    rw [Nat.add_assoc (place + 28)]
    exact zero _ (by omega) (Nat.le_add_right _ _)

/-- The record of a function is written as it was read exactly if the widths are zero that no
parameter has. -/
theorem encodeFunction_functionAt_iff {place : Nat} (inside : place + functionSize ≤ image.size)
    (few : parametersAt image place ≤ 8) :
    encodeFunction (functionAt image place) = cut image place functionSize ↔
      ∀ parameter < 8, parametersAt image place ≤ parameter →
        byteAt image (place + 28 + parameter) = 0 := by
  have record : encodeFunction (functionAt image place) =
      cut image place 28 ++ encodeWidths (functionAt image place).widths := by
    unfold functionSize at inside
    rw [encodeFunction, ofSigned_declaredParameters]
    unfold functionAt
    dsimp only
    rw [bytes32_wordAt (by omega), bytes32_wordAt (by omega), bytes32_wordAt (by omega),
      bytes32_wordAt (by omega), bytes32_wordAt (by omega), bytes32_wordAt (by omega),
      bytes32_wordAt (by omega)]
    change _ = cut image place (4 + 4 + 4 + 4 + 4 + 4 + 4) ++ _
    rw [cut_add, cut_add, cut_add, cut_add, cut_add, cut_add]
  have whole : cut image place functionSize = cut image place 28 ++ cut image (place + 28) 8 :=
    cut_add image place 28 8
  rw [record, whole, List.append_cancel_left_eq]
  exact encodeWidths_eq_cut_iff inside few

/-- A header is written as it was read. -/
theorem encodeHeader_headerAt (long : headerSize ≤ image.size) :
    encodeHeader (headerAt image) = cut image 0 headerSize := by
  unfold headerSize at long ⊢
  have word (place : Nat) (inside : place + 4 ≤ 60) :
      bytes32 (wordAt image place) = cut image place 4 := bytes32_wordAt (by omega)
  have lump (table : Table) : encodeLump (lumpAt image table) = cut image table.entry 8 := by
    have inside : table.entry + 8 ≤ 60 := by cases table <;> decide
    rw [encodeLump, lumpAt, word _ (by omega), word _ (by omega), ← cut_add]
  rw [encodeHeader, headerAt]
  dsimp only
  rw [word 0 (by decide), word 4 (by decide), word 56 (by decide), lump, lump, lump, lump, lump,
    lump]
  change _ = cut image 0 (4 + 4 + 8 + 8 + 8 + 8 + 8 + 8 + 4)
  simp only [cut_add]
  rfl

/-! ### Tables that are written again -/

/-- The bytes that a table takes in an image. -/
def Table.bytes (table : Table) (image : Array UInt8) : List UInt8 :=
  cut image (table.offset image).toNat (table.size image)

/-- What is written for a table of a program: the number of its records, and its bytes. -/
def Table.written (program : Program) : Table → Nat × List UInt8
  | .statements =>
    (program.statements.size, program.statements.toList.flatMap encodeStatement)
  | .globalDefinitions =>
    (program.globalDefinitions.size, program.globalDefinitions.toList.flatMap encodeDefinition)
  | .fieldDefinitions =>
    (program.fieldDefinitions.size, program.fieldDefinitions.toList.flatMap encodeDefinition)
  | .functions => (program.functions.size, program.functions.toList.flatMap encodeFunction)
  | .strings => (program.strings.size, program.strings.toList)
  | .globals => (program.globals.size, program.globals.toList.flatMap bytes32)

theorem tables_eq (program : Program) : tables program = Table.all.map (Table.written program) :=
  rfl

theorem fst_written (table : Table) (image : Array UInt8) :
    (table.written (described image)).1 = (table.count image).toNat := by
  cases table <;> simp only [Table.written, described, Table.size_rows]

theorem flatMap_cut (image : Array UInt8) (place size count : Nat) :
    ((List.range count).flatMap fun index => cut image (place + index * size) size) =
      cut image place (count * size) := by
  induction count with
  | zero => rw [Nat.zero_mul, cut_eq]; rfl
  | succ count inductionHypothesis =>
    rw [List.range_succ, List.flatMap_append, inductionHypothesis, List.flatMap_singleton,
      Nat.succ_mul, cut_add]

/-- Records that are each written as they were read are written as the bytes of their table. -/
theorem flatMap_rows {α : Type} {table : Table} {row : Nat → α} {encode : α → List UInt8}
    (same : ∀ index ∈ List.range (table.count image).toNat,
      encode (row (table.place image index)) =
        cut image (table.place image index) table.recordSize) :
    (table.rows image row).toList.flatMap encode = table.bytes image := by
  rw [Table.rows, Table.bytes, Table.size, ← flatMap_cut, List.toList_toArray, List.flatMap_map,
    List.flatMap_def, List.flatMap_def]
  exact congrArg _ (List.map_congr_left same)

/-- The bytes of a table are those of its records. -/
theorem length_written {program : Program}
    (few : ∀ function ∈ program.functions, function.widths.length ≤ 8) (table : Table) :
    (table.written program).2.length = (table.written program).1 * table.recordSize := by
  have flat {α : Type} {encode : α → List UInt8} {size : Nat} (members : Array α)
      (sized : ∀ member ∈ members.toList, (encode member).length = size) :
      (members.toList.flatMap encode).length = members.size * size :=
    length_flatMap_of_length sized
  cases table with
  | statements => exact flat program.statements fun statement _ => length_encodeStatement statement
  | globalDefinitions =>
    exact flat program.globalDefinitions fun definition _ => length_encodeDefinition definition
  | fieldDefinitions =>
    exact flat program.fieldDefinitions fun definition _ => length_encodeDefinition definition
  | functions =>
    exact flat program.functions fun function member =>
      length_encodeFunction (few function (Array.mem_toList_iff.mp member))
  | strings => exact (Nat.mul_one _).symm
  | globals => exact flat program.globals fun slot _ => length_bytes32 slot

/-- A table that holds no functions is written as it was read, and so is the table of functions if
their records are. -/
theorem snd_written {table : Table} (inside : table.Inside image)
    (functions : ∀ index ∈ List.range (Table.functions.count image).toNat,
      encodeFunction (functionAt image (Table.functions.place image index)) =
        cut image (Table.functions.place image index) functionSize) :
    (table.written (described image)).2 = table.bytes image := by
  have room : ∀ index ∈ List.range (table.count image).toNat,
      table.place image index + table.recordSize ≤ image.size :=
    fun index member => inside.place_add_le (List.mem_range.mp member)
  cases table <;> simp only [Table.written, described]
  case statements =>
    exact flatMap_rows fun index member => encodeStatement_statementAt (room index member)
  case globalDefinitions | fieldDefinitions =>
    exact flatMap_rows fun index member => encodeDefinition_definitionAt (room index member)
  case functions => exact flatMap_rows functions
  case strings =>
    rw [← toArray_cut_strings inside, Table.bytes, Table.size]
  case globals => exact flatMap_rows fun index member => bytes32_wordAt (room index member)

/-! ### Tables in a row -/

theorem ofNat_toNat_signedAt {place : Nat} (natural : 0 ≤ signedAt image place) :
    UInt32.ofNat (signedAt image place).toNat = wordAt image place := by
  have bound := numberAt_four_lt image place
  unfold signedAt at natural ⊢
  split at natural
  · next small =>
    rw [if_pos small, Int.toNat_natCast]
    rfl
  · omega

/-- The header tells of a table as it is written exactly if the table begins where it is written. -/
theorem lumpAt_eq_iff {table : Table} (natural : 0 ≤ table.count image) {place : Nat}
    (small : place < 0x80000000) :
    lumpAt image table = ⟨UInt32.ofNat place, UInt32.ofNat (table.count image).toNat⟩ ↔
      table.offset image = place := by
  have count : UInt32.ofNat (table.count image).toNat = wordAt image (table.entry + 4) :=
    ofNat_toNat_signedAt natural
  rw [count, lumpAt, Lump.mk.injEq, and_iff_left rfl, wordAt_eq_iff, signed_ofNat small]
  rfl

/-- Tables lie in a row exactly if the header tells of each of them as it is written, and the image
is as long as all of them. -/
theorem laidOut_iff {tables : List Table} {place : Nat}
    (natural : ∀ table ∈ tables, 0 ≤ table.count image) {bytes : Table → List UInt8}
    (length : ∀ table ∈ tables, (bytes table).length = table.size image)
    (small : place + totalSize image tables < 0x80000000) :
    LaidOut image place tables ↔
      image.size = place + totalSize image tables ∧
        tables.map (lumpAt image) =
          layOut place (tables.map fun table => ((table.count image).toNat, bytes table)) := by
  induction tables generalizing place with
  | nil => exact (and_iff_left rfl).symm
  | cons head rest inductionHypothesis =>
    obtain ⟨headNatural, restNatural⟩ := List.forall_mem_cons.mp natural
    obtain ⟨headLength, restLength⟩ := List.forall_mem_cons.mp length
    rw [totalSize, ← Nat.add_assoc] at small ⊢
    rw [LaidOut, inductionHypothesis restNatural restLength small, List.map_cons, List.map_cons,
      layOut, headLength, List.cons.injEq, lumpAt_eq_iff headNatural (by omega), and_left_comm]

/-- The bytes of tables in a row are all that the image holds from their place on. -/
theorem LaidOut.drop_eq {tables : List Table} {place : Nat} (laidOut : LaidOut image place tables) :
    image.toList.drop place = tables.flatMap fun table => table.bytes image := by
  induction tables generalizing place with
  | nil =>
    refine List.drop_eq_nil_of_le ?_
    rw [Array.length_toList]
    exact Nat.le_of_eq laidOut
  | cons head rest inductionHypothesis =>
    obtain ⟨begins, follows⟩ := laidOut
    have offset : (head.offset image).toNat = place := by rw [begins, Int.toNat_natCast]
    rw [List.flatMap_cons, ← inductionHypothesis follows, Table.bytes, offset, cut_eq,
      ← List.drop_drop, List.take_append_drop]

/-! ### Saving what was loaded -/

variable {expectation : Expectation}

/-- Nothing but the tables, the checksum and the number of fields of a program is written. -/
theorem save_header (program : Program) :
    save { program with header := laidOutHeader program } = save program := rfl

theorem WellFormed.count_nonneg (wellFormed : WellFormed image expectation) (table : Table) :
    0 ≤ table.count image :=
  (wellFormed.inside table).2.1

theorem WellFormed.widths_le (wellFormed : WellFormed image expectation) :
    ∀ function ∈ (described image).functions, function.widths.length ≤ 8 := by
  intro function member
  obtain ⟨index, inside, rfl⟩ := List.mem_map.mp (List.mem_toArray.mp member)
  rw [functionAt, List.length_map, List.length_range]
  exact wellFormed.parameters_le index inside

/-- What is written for a table is as long as the table that was read. -/
theorem WellFormed.length_written (wellFormed : WellFormed image expectation) (table : Table) :
    (table.written (described image)).2.length = table.size image := by
  rw [Image.length_written wellFormed.widths_le, fst_written, Table.size]

theorem WellFormed.length_flatMap_written (wellFormed : WellFormed image expectation)
    (tables : List Table) :
    ((tables.map (Table.written (described image))).flatMap Prod.snd).length =
      totalSize image tables := by
  induction tables with
  | nil => rfl
  | cons head rest inductionHypothesis =>
    rw [List.map_cons, List.flatMap_cons, List.length_append, inductionHypothesis,
      wellFormed.length_written, totalSize]

theorem WellFormed.size_save (wellFormed : WellFormed image expectation) :
    (save (described image)).size = 60 + totalSize image Table.all := by
  rw [Image.size_save, tables_eq, wellFormed.length_flatMap_written]
  rfl

theorem WellFormed.ofNat_entityFields (wellFormed : WellFormed image expectation) :
    UInt32.ofNat (described image).entityFields = wordAt image 56 :=
  ofNat_toNat_signedAt wellFormed.entityFields_nonneg

/-- The header that is written differs from the one that was read in where tables lie only. -/
theorem WellFormed.headerAt_eq_iff (wellFormed : WellFormed image expectation) :
    headerAt image = laidOutHeader (described image) ↔
      Table.all.map (lumpAt image) = layOut headerSize (tables (described image)) := by
  have version : wordAt image 0 = version := (wordAt_eq_iff image 0 6).mpr wellFormed.version_eq
  rw [headerAt, laidOutHeader, wellFormed.ofNat_entityFields, version]
  dsimp only
  have checksum : (described image).header.checksum = wordAt image 4 := rfl
  rw [checksum]
  obtain ⟨_, _, _, _, _, _, lumps⟩ : ∃ first second third fourth fifth sixth,
      layOut headerSize (tables (described image)) =
        [first, second, third, fourth, fifth, sixth] := ⟨_, _, _, _, _, _, rfl⟩
  simp only [lumps, Header.mk.injEq, true_and, and_true, List.getD_cons_zero,
    List.getD_cons_succ, Table.all, List.map_cons, List.map_nil, List.cons.injEq]

/-- The tables of an image lie in a row exactly if its size and its header are those of the image
that is written. -/
theorem WellFormed.laidOut_iff (wellFormed : WellFormed image expectation)
    (small : 60 + totalSize image Table.all < 0x80000000) :
    LaidOut image 60 Table.all ↔
      image.size = 60 + totalSize image Table.all ∧
        headerAt image = laidOutHeader (described image) := by
  have written : tables (described image) = Table.all.map fun table =>
      ((table.count image).toNat, (table.written (described image)).2) := by
    rw [tables_eq]
    exact List.map_congr_left fun table _ => Prod.ext (fst_written table image) rfl
  rw [wellFormed.headerAt_eq_iff, written]
  exact Image.laidOut_iff (fun table _ => wellFormed.count_nonneg table)
    (fun table _ => wellFormed.length_written table) small

theorem WellFormed.fits (wellFormed : WellFormed image expectation)
    (small : 60 + totalSize image Table.all < 0x80000000) : Fits (described image) where
  short := by rwa [wellFormed.size_save]
  parameterCount_le := wellFormed.widths_le
  entityFields_lt := by
    have bound := signedAt_lt image 56
    have declared : (described image).entityFields = (signedAt image 56).toNat := rfl
    omega

/-- A host that accepts the header that was read accepts the one that is written. -/
theorem WellFormed.checkHeader_laidOutHeader (wellFormed : WellFormed image expectation) :
    checkHeader (laidOutHeader (described image)) expectation = .ok () := by
  have accepted := (checkHeader_eq_ok_iff image expectation).mpr
    ⟨wellFormed.version_eq, wellFormed.checksum_eq, wellFormed.entityFields_nonneg⟩
  have version : wordAt image 0 = version := (wordAt_eq_iff image 0 6).mpr wellFormed.version_eq
  rw [laidOutHeader, wellFormed.ofNat_entityFields, ← version]
  exact accepted

/-- The record of a function is written as it was read exactly if the widths are zero that none of
its parameters has. -/
theorem WellFormed.encodeFunction_iff (wellFormed : WellFormed image expectation) {index : Nat}
    (member : index ∈ List.range (Table.functions.count image).toNat) :
    encodeFunction (functionAt image (Table.functions.place image index)) =
        cut image (Table.functions.place image index) functionSize ↔
      ∀ parameter < 8, parametersAt image (Table.functions.place image index) ≤ parameter →
        byteAt image (Table.functions.place image index + 28 + parameter) = 0 :=
  encodeFunction_functionAt_iff
    ((wellFormed.inside .functions).place_add_le (List.mem_range.mp member))
    (wellFormed.parameters_le index member)

theorem WellFormed.canonical_of_save (wellFormed : WellFormed image expectation)
    (small : 60 + totalSize image Table.all < 0x80000000) (same : save (described image) = image) :
    Canonical image := by
  have header : headerAt image = laidOutHeader (described image) := by
    have read := readHeader_save (described image)
    rw [same] at read
    exact ((readHeader_eq_ok_iff _).mp read).2.symm
  have size := wellFormed.size_save
  rw [same] at size
  refine ⟨(wellFormed.laidOut_iff small).mpr ⟨size, header⟩, fun index member => ?_⟩
  have few : ∀ function ∈ (described image).functions.toList, function.widths.length ≤ 8 :=
    fun function inside => wellFormed.widths_le function (Array.mem_toList_iff.mp inside)
  have written : records (save (described image)) "functions"
      (laidOutHeader (described image)).functions functionSize =
        .ok ((described image).functions.toList.map encodeFunction) :=
    records_save 3 (wellFormed.fits small).short rfl
      (fun function inside => length_encodeFunction (few function inside)) (by decide) _
  rw [same, ← header] at written
  have records := ((records_eq_ok_iff .functions _ _).mp written).2
  have rows : (described image).functions.toList =
      (List.range (Table.functions.count image).toNat).map fun index =>
        functionAt image (Table.functions.place image index) := rfl
  rw [rows, List.map_map] at records
  exact (wellFormed.encodeFunction_iff member).mp (List.map_inj_left.mp records index member)

theorem WellFormed.save_of_canonical (wellFormed : WellFormed image expectation)
    (small : 60 + totalSize image Table.all < 0x80000000) (canonical : Canonical image) :
    save (described image) = image := by
  obtain ⟨size, header⟩ := (wellFormed.laidOut_iff small).mp canonical.laidOut
  have tablesSame : (tables (described image)).flatMap Prod.snd = image.toList.drop 60 := by
    rw [canonical.laidOut.drop_eq, tables_eq, List.flatMap_map, List.flatMap_def,
      List.flatMap_def]
    exact congrArg _ (List.map_congr_left fun table _ =>
      snd_written (wellFormed.inside table) fun index member =>
        (wellFormed.encodeFunction_iff member).mpr (canonical.unused index member))
  have headerSame : encodeHeader (laidOutHeader (described image)) = image.toList.take 60 := by
    rw [← header, encodeHeader_headerAt wellFormed.header_le, cut_eq]
    rfl
  rw [save, headerSame, tablesSame, List.take_append_drop, Array.toArray_toList]

/-- The image of a program that was loaded is accepted on the same terms. The program in it agrees
with the one that was loaded and has the same image, which is the one that was loaded exactly if
that is canonical. -/
theorem save_canonical {program : Program} (loaded : load image expectation = .ok program)
    (small : 60 + totalSize image Table.all < 0x80000000) :
    (∃ again, load (save program) expectation = .ok again ∧ program.Agrees again ∧
      save again = save program) ∧
      (save program = image ↔ Canonical image) := by
  obtain ⟨_, _, passed⟩ := readTables_check_of_load loaded
  obtain ⟨wellFormed, rfl⟩ := wellFormed_of_load loaded
  refine ⟨⟨{ described image with header := laidOutHeader (described image) }, ?_, ?_,
    save_header _⟩, wellFormed.canonical_of_save small, wellFormed.save_of_canonical small⟩
  · rw [load_save_of_checkHeader (wellFormed.fits small) wellFormed.checkHeader_laidOutHeader,
      passed]
    rfl
  · exact Program.agrees_header ((wordAt_eq_iff image 0 6).mpr wellFormed.version_eq).symm rfl
      wellFormed.ofNat_entityFields

/-- An image with its tables in another order. The strings lie inside the globals, the empty tables
inside the header, and two bytes come behind the one function, which has a variadic signature and
widths that none of its parameters has. -/
def scattered : Array UInt8 :=
  (encodeHeader
    { version := 6
      checksum := 0
      statements := ⟨210, 0⟩
      globalDefinitions := ⟨8, 0⟩
      fieldDefinitions := ⟨5, 0⟩
      functions := ⟨172, 1⟩
      strings := ⟨60, 3⟩
      globals := ⟨60, 28⟩
      entityFields := 0 } ++ List.replicate 112 0 ++
    bytes32 (Slot.ofSigned (-1)) ++ List.replicate 20 0 ++ bytes32 (Slot.ofSigned (-2)) ++
    [1, 7, 7, 7, 7, 7, 7, 7] ++ [0xFF, 0xFF]).toArray

theorem load_scattered : load scattered .none = .ok (described scattered) := by
  refine Except.eq_ok_of_toOption ?_
  simp only [load, readHeader, readTables, records, lumpBytes, Array.toList_extract,
    List.extract_eq_take_drop]
  decide +kernel

/-- The image is not canonical, and what is saved is. -/
theorem save_canonical_scattered :
    load scattered .none = .ok (described scattered) ∧
      60 + totalSize scattered Table.all < 0x80000000 ∧
      (∃ again, load (save (described scattered)) .none = .ok again ∧
        (described scattered).Agrees again ∧ save again = save (described scattered)) ∧
      save (described scattered) ≠ scattered := by
  have small : 60 + totalSize scattered Table.all < 0x80000000 := by decide +kernel
  obtain ⟨again, canonical⟩ := save_canonical load_scattered small
  have apart : Table.statements.offset scattered ≠ (60 : Nat) := by decide +kernel
  exact ⟨load_scattered, small, again,
    fun same => apart (canonical.mp same).laidOut.1⟩

end Gamecode.Image
