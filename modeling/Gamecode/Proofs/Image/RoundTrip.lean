/-
This file reads images that were written. Tables that are laid out one behind the other are found
where the header says, cut into the records that were written, and every record is read as it was.
What remains of loading such an image is its checks, and these do not look at where tables lie.
-/

import Gamecode.Image.Decode
import Gamecode.Image.Encode
import Gamecode.Proofs.Loaded

namespace Gamecode.Image

/-! ### Records in a row -/

/-- Records of one size that were written one behind the other are told apart again. -/
theorem pieces_flatMap {α : Type} {encode : α → List UInt8} {size : Nat} {members : List α}
    (sized : ∀ member ∈ members, (encode member).length = size) :
    pieces size members.length (members.flatMap encode) = members.map encode := by
  induction members with
  | nil => rfl
  | cons head rest inductionHypothesis =>
    obtain ⟨headSize, restSize⟩ := List.forall_mem_cons.mp sized
    rw [List.length_cons, pieces, List.flatMap_cons, ← headSize, List.take_left, List.drop_left,
      headSize, inductionHypothesis restSize, List.map_cons]

theorem length_flatMap_of_length {α : Type} {encode : α → List UInt8} {size : Nat}
    {members : List α} (sized : ∀ member ∈ members, (encode member).length = size) :
    (members.flatMap encode).length = members.length * size := by
  induction members with
  | nil => exact (Nat.zero_mul size).symm
  | cons head rest inductionHypothesis =>
    obtain ⟨headSize, restSize⟩ := List.forall_mem_cons.mp sized
    rw [List.flatMap_cons, List.length_append, headSize, inductionHypothesis restSize,
      List.length_cons, Nat.succ_mul, Nat.add_comm]

/-- Records that are each read as they were written are all read as they were written. -/
theorem mapM_map_of_decode {α : Type} {encode : α → List UInt8}
    {decode : List UInt8 → Except Fault α} {members : List α}
    (each : ∀ member ∈ members, decode (encode member) = .ok member) :
    (members.map encode).mapM decode = .ok members := by
  induction members with
  | nil => rfl
  | cons head rest inductionHypothesis =>
    obtain ⟨headRead, restRead⟩ := List.forall_mem_cons.mp each
    rw [List.map_cons, List.mapM_cons, headRead, inductionHypothesis restRead]
    rfl

/-- Records that are each read as they were written make up the table that was written. -/
theorem toArray_map_map_of_decode {α : Type} {encode : α → List UInt8} {decode : List UInt8 → α}
    (each : ∀ member, decode (encode member) = member) (members : Array α) :
    ((members.toList.map encode).map decode).toArray = members := by
  have same : decode ∘ encode = id := funext each
  rw [List.map_map, same, List.map_id, Array.toArray_toList]

theorem read32_bytes32 (number : UInt32) : read32 (bytes32 number) 0 = number :=
  join32_bytes number

/-! ### Tables in a row -/

/-- A table lies behind all tables before it. -/
theorem getElem?_layOut {offset index count : Nat} {bytes : List UInt8}
    {tables : List (Nat × List UInt8)} (found : tables[index]? = some (count, bytes)) :
    (layOut offset tables)[index]? =
      some ⟨UInt32.ofNat (offset + ((tables.take index).flatMap Prod.snd).length),
        UInt32.ofNat count⟩ := by
  induction tables generalizing offset index with
  | nil => cases found
  | cons head rest inductionHypothesis =>
    obtain ⟨headCount, headBytes⟩ := head
    cases index with
    | zero =>
      cases found
      rfl
    | succ index =>
      rw [List.getElem?_cons_succ] at found
      rw [layOut, List.getElem?_cons_succ, inductionHypothesis found, List.take_succ_cons,
        List.flatMap_cons, List.length_append, Nat.add_assoc]

/-- The bytes of a list of tables are those before a table, the table, and those behind it. -/
theorem flatMap_eq_append {index count : Nat} {bytes : List UInt8}
    {tables : List (Nat × List UInt8)} (found : tables[index]? = some (count, bytes)) :
    tables.flatMap Prod.snd =
      (tables.take index).flatMap Prod.snd ++ bytes ++
        (tables.drop (index + 1)).flatMap Prod.snd := by
  obtain ⟨inside, same⟩ := List.getElem?_eq_some_iff.mp found
  calc tables.flatMap Prod.snd
      = (tables.take index ++ (count, bytes) :: tables.drop (index + 1)).flatMap Prod.snd := by
        rw [← same, ← List.drop_eq_getElem_cons inside, List.take_append_drop]
    _ = _ := by rw [List.flatMap_append, List.flatMap_cons, List.append_assoc]

/-- A number below `2 ^ 31` is read as it was stored. -/
theorem signed_ofNat {number : Nat} (small : number < 0x80000000) :
    Slot.signed (UInt32.ofNat number) = number := by
  have same : (UInt32.ofNat number).toNat = number := by
    rw [UInt32.toNat_ofNat']
    exact Nat.mod_eq_of_lt (by omega)
  rw [Slot.signed, same, if_pos small]

/-- The bytes of a table are found where the table was put. -/
theorem lumpBytes_append {before bytes behind : List UInt8} {count recordSize : Nat}
    (length : bytes.length = count * recordSize) (positive : 0 < recordSize)
    (short : (before ++ bytes ++ behind).length < 0x80000000) (table : String) :
    lumpBytes (before ++ bytes ++ behind).toArray table
      ⟨UInt32.ofNat before.length, UInt32.ofNat count⟩ recordSize = .ok bytes := by
  have few : count ≤ count * recordSize := Nat.le_mul_of_pos_right _ positive
  simp only [List.length_append] at short
  have offset : Slot.signed (UInt32.ofNat before.length) = before.length :=
    signed_ofNat (by omega)
  have counted : Slot.signed (UInt32.ofNat count) = count := signed_ofNat (by omega)
  have inside : (0 : Int) ≤ before.length ∧ (0 : Int) ≤ count ∧
      (before.length + count * recordSize : Int) ≤
        (before ++ bytes ++ behind).toArray.size := by
    simp only [List.size_toArray, List.length_append, length]
    refine ⟨by omega, by omega, ?_⟩
    push_cast
    omega
  unfold lumpBytes
  dsimp only
  rw [offset, counted, if_pos inside, Int.toNat_natCast, Int.toNat_natCast, ← length,
    Array.toList_extract, List.extract_eq_take_drop, Nat.add_sub_cancel_left, List.append_assoc,
    List.drop_left, List.take_left]

/-! ### Images -/

variable {program : Program}

theorem size_save (program : Program) :
    (save program).size = headerSize + ((tables program).flatMap Prod.snd).length := by
  rw [save, List.size_toArray, List.length_append, length_encodeHeader]

/-- The table at a place of the list is read from the image as it was written. -/
theorem lumpBytes_save (index : Nat) (short : (save program).size < 0x80000000)
    {count recordSize : Nat} {bytes : List UInt8}
    (found : (tables program)[index]? = some (count, bytes))
    (length : bytes.length = count * recordSize) (positive : 0 < recordSize) (table : String) :
    lumpBytes (save program) table
      ((layOut headerSize (tables program)).getD index ⟨0, 0⟩) recordSize = .ok bytes := by
  have image : save program =
      (encodeHeader (laidOutHeader program) ++
        ((tables program).take index).flatMap Prod.snd ++ bytes ++
          ((tables program).drop (index + 1)).flatMap Prod.snd).toArray := by
    rw [save, flatMap_eq_append found]
    simp only [List.append_assoc]
  have before : (encodeHeader (laidOutHeader program) ++
      ((tables program).take index).flatMap Prod.snd).length =
        headerSize + (((tables program).take index).flatMap Prod.snd).length := by
    rw [List.length_append, length_encodeHeader]
  rw [image, List.size_toArray] at short
  rw [image, List.getD_eq_getElem?_getD, getElem?_layOut found, Option.getD_some, ← before]
  exact lumpBytes_append length positive short table

/-- The records of a table are read from the image as they were written. -/
theorem records_save {α : Type} {encode : α → List UInt8} {members : List α} {size : Nat}
    (index : Nat) (short : (save program).size < 0x80000000)
    (found : (tables program)[index]? = some (members.length, members.flatMap encode))
    (sized : ∀ member ∈ members, (encode member).length = size) (positive : 0 < size)
    (table : String) :
    records (save program) table ((layOut headerSize (tables program)).getD index ⟨0, 0⟩) size =
      .ok (members.map encode) := by
  have length := length_flatMap_of_length sized
  have few : members.length < 0x80000000 := by
    have inside := congrArg List.length (flatMap_eq_append found)
    have whole := size_save program
    have room : members.length ≤ members.length * size := Nat.le_mul_of_pos_right _ positive
    simp only [List.length_append] at inside
    omega
  unfold records
  rw [lumpBytes_save index short found length positive, List.getD_eq_getElem?_getD,
    getElem?_layOut found, Option.getD_some, signed_ofNat few, Int.toNat_natCast]
  exact congrArg Except.ok (pieces_flatMap sized)

/-! ### Loading what was saved -/

/-- What a program must fulfil for its image to say all of it: the records have room for the
parameters, and the sizes and offsets are numbers that the header can hold. -/
structure Fits (program : Program) : Prop where
  short : (save program).size < 0x80000000
  parameterCount_le : ∀ function ∈ program.functions, function.widths.length ≤ 8
  entityFields_lt : program.entityFields < 0x80000000

instance (program : Program) : Decidable (Fits program) :=
  decidable_of_iff
    ((save program).size < 0x80000000 ∧
      (∀ function ∈ program.functions, function.widths.length ≤ 8) ∧
      program.entityFields < 0x80000000)
    ⟨fun ⟨short, few, small⟩ => ⟨short, few, small⟩,
      fun ⟨short, few, small⟩ => ⟨short, few, small⟩⟩

/-- The header of a saved program demands nothing that a host does not. -/
theorem checkHeader_laidOutHeader (fits : Fits program) :
    checkHeader (laidOutHeader program) .none = .ok () := by
  have natural : ¬ Slot.signed (UInt32.ofNat program.entityFields) < 0 := by
    rw [signed_ofNat fits.entityFields_lt]
    omega
  unfold checkHeader laidOutHeader Expectation.none
  dsimp only
  rw [if_neg (not_not_intro rfl), if_neg natural]
  rfl

/-- All tables of a saved program are read as they were. -/
theorem readTables_save (fits : Fits program) :
    readTables (save program) (laidOutHeader program) =
      .ok { program with header := laidOutHeader program } := by
  have short := fits.short
  have parameters : ∀ function ∈ program.functions.toList, function.widths.length ≤ 8 :=
    fun function member => fits.parameterCount_le function (Array.mem_toList_iff.mp member)
  have statements : records (save program) "statements" (laidOutHeader program).statements
      statementSize = .ok (program.statements.toList.map encodeStatement) :=
    records_save 0 short rfl (fun statement _ => length_encodeStatement statement) (by decide) _
  have globalDefinitions : records (save program) "globaldefs"
      (laidOutHeader program).globalDefinitions definitionSize =
        .ok (program.globalDefinitions.toList.map encodeDefinition) :=
    records_save 1 short rfl (fun definition _ => length_encodeDefinition definition) (by decide) _
  have fieldDefinitions : records (save program) "fielddefs"
      (laidOutHeader program).fieldDefinitions definitionSize =
        .ok (program.fieldDefinitions.toList.map encodeDefinition) :=
    records_save 2 short rfl (fun definition _ => length_encodeDefinition definition) (by decide) _
  have functions : records (save program) "functions" (laidOutHeader program).functions
      functionSize = .ok (program.functions.toList.map encodeFunction) :=
    records_save 3 short rfl
      (fun function member => length_encodeFunction (parameters function member)) (by decide) _
  have decoded : (program.functions.toList.map encodeFunction).mapM decodeFunction =
      .ok program.functions.toList :=
    mapM_map_of_decode fun function member =>
      decodeFunction_encodeFunction (parameters function member)
  have strings : lumpBytes (save program) "strings" (laidOutHeader program).strings 1 =
      .ok program.strings.toList :=
    lumpBytes_save 4 short rfl (by rw [Array.length_toList, Nat.mul_one]) Nat.one_pos _
  have globals : records (save program) "globals" (laidOutHeader program).globals 4 =
      .ok (program.globals.toList.map bytes32) :=
    records_save 5 short rfl (fun slot _ => length_bytes32 slot) (by decide) _
  have entityFields : (Slot.signed (laidOutHeader program).entityFields).toNat =
      program.entityFields := by
    rw [laidOutHeader, signed_ofNat fits.entityFields_lt, Int.toNat_natCast]
  unfold readTables
  refine Except.bind_eq_ok_iff.mpr ⟨_, statements, ?_⟩
  refine Except.bind_eq_ok_iff.mpr ⟨_, globalDefinitions, ?_⟩
  refine Except.bind_eq_ok_iff.mpr ⟨_, fieldDefinitions, ?_⟩
  refine Except.bind_eq_ok_iff.mpr ⟨_, functions, ?_⟩
  refine Except.bind_eq_ok_iff.mpr ⟨_, decoded, ?_⟩
  refine Except.bind_eq_ok_iff.mpr ⟨_, strings, ?_⟩
  refine Except.bind_eq_ok_iff.mpr ⟨_, globals, ?_⟩
  rw [entityFields, toArray_map_map_of_decode decodeStatement_encodeStatement,
    toArray_map_map_of_decode decodeDefinition_encodeDefinition,
    toArray_map_map_of_decode decodeDefinition_encodeDefinition,
    toArray_map_map_of_decode read32_bytes32]
  rfl

/-- No check looks at where the tables of a program lie. -/
theorem check_header (program : Program) (header : Header) :
    check { program with header } = check program := rfl

/-- The header of a saved program is read as it was written. -/
theorem readHeader_save (program : Program) :
    readHeader (save program) = .ok (laidOutHeader program) := by
  have size := size_save program
  unfold readHeader
  rw [if_neg (by omega), save, Array.toList_extract, List.extract_eq_take_drop, List.drop_zero,
    Nat.sub_zero, List.take_append_of_le_length (Nat.le_of_eq (length_encodeHeader _).symm),
    ← length_encodeHeader (laidOutHeader program), List.take_length, decodeHeader_encodeHeader]

/-- Loading what was saved, where the host accepts its header, gives the program back, with a header
that says where its tables lie, if it passes the checks, and otherwise fails as the checks do. -/
theorem load_save_of_checkHeader (fits : Fits program) {expectation : Expectation}
    (accepted : checkHeader (laidOutHeader program) expectation = .ok ()) :
    load (save program) expectation =
      (check program).map fun _ => { program with header := laidOutHeader program } := by
  unfold load
  rw [readHeader_save]
  dsimp only [bind, Except.bind]
  rw [accepted]
  dsimp only
  rw [readTables_save fits]
  dsimp only
  rw [check_header]
  cases check program <;> rfl

/-- Loading what was saved gives the program back, with a header that says where its tables lie, if
it passes the checks, and otherwise fails as the checks do. -/
theorem load_save (fits : Fits program) :
    load (save program) .none =
      (check program).map fun _ => { program with header := laidOutHeader program } :=
  load_save_of_checkHeader fits (checkHeader_laidOutHeader fits)

/-- A program whose header says where its tables lie, and which passes the checks, is loaded as it
was saved. -/
theorem load_save_of_check (fits : Fits program) (laidOut : laidOutHeader program = program.header)
    (accepted : (check program).toOption = some ()) : load (save program) .none = .ok program := by
  rw [load_save fits, Except.eq_ok_of_toOption accepted, laidOut]
  rfl

end Gamecode.Image
