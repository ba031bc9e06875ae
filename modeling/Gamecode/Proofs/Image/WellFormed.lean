/-
This file says which images are accepted. An image is well formed if its header, its tables and the
program that it describes are as a host may rely on. The checks of the loader ask for exactly that,
so the loader accepts the well-formed images and no others, and gives the program that they
describe.
-/

import Gamecode.Proofs.Image.Layout

namespace Gamecode

/-! ### What is asked of a program -/

/-- A reference to a name is zero or lies strictly inside the table of strings. -/
def Program.HoldsName (program : Program) (reference : UInt32) : Prop :=
  Slot.signed reference = 0 ∨
    0 < Slot.signed reference ∧ Slot.signed reference < program.strings.size

/-- A definition has a name, and its slots lie below a limit. -/
structure Definition.Fits (program : Program) (definition : Definition) (limit : Nat) : Prop where
  name : program.HoldsName definition.name
  extent_le : definition.start + definition.width ≤ limit

/-- A function has a name and a file, each parameter takes one to three slots, and what it executes
lies where it belongs. -/
structure Function.WellFormed (program : Program) (function : Function) : Prop where
  name : program.HoldsName function.name
  file : program.HoldsName function.file
  width : ∀ width ∈ function.widths, 1 ≤ width ∧ width ≤ 3
  fits : ∀ first, function.body = .statements first → function.Fits program first

namespace Image

/-- What a host may rely on in an image that it loads. -/
structure WellFormed (image : Array UInt8) (expectation : Expectation) : Prop where
  header_le : 60 ≤ image.size
  version_eq : signedAt image 0 = 6
  checksum_eq : ∀ expected, expectation.checksum = some expected →
    signedAt image 4 = expected.toNat
  entityFields_nonneg : 0 ≤ signedAt image 56
  inside : ∀ table : Table, table.Inside image
  parameters_le : ∀ index ∈ List.range (Table.functions.count image).toNat,
    parametersAt image (Table.functions.place image index) ≤ 8
  region_le : 28 ≤ Table.globals.count image
  globals : ∀ definition ∈ (described image).globalDefinitions,
    definition.Fits (described image) (described image).globals.size
  fields : ∀ definition ∈ (described image).fieldDefinitions,
    definition.Fits (described image) (described image).entityFields
  functions : ∀ function ∈ (described image).functions, function.WellFormed (described image)

/-! ### What the checks ask -/

variable {program : Program} {definition : Definition}

theorem checkName_eq_ok_iff (reference : UInt32) :
    checkName program reference = .ok () ↔ program.HoldsName reference := by
  unfold checkName Program.HoldsName
  dsimp only
  generalize Slot.signed reference = offset
  split
  · exact iff_of_true rfl (by omega)
  · exact iff_of_false nofun (by omega)

theorem checkExtent_eq_ok_iff (table : String) (limit : Nat) :
    checkExtent table definition limit = .ok () ↔ definition.start + definition.width ≤ limit := by
  unfold checkExtent
  split
  · next inside => exact iff_of_true rfl inside
  · next outside => exact iff_of_false nofun outside

theorem checkGlobal_eq_ok_iff :
    checkGlobal program definition = .ok () ↔ definition.Fits program program.globals.size := by
  unfold checkGlobal
  rw [Except.unit_bind_eq_ok_iff, checkName_eq_ok_iff, checkExtent_eq_ok_iff]
  exact ⟨fun both => ⟨both.1, both.2⟩, fun fits => ⟨fits.name, fits.extent_le⟩⟩

theorem checkField_eq_ok_iff :
    checkField program definition = .ok () ↔ definition.Fits program program.entityFields := by
  unfold checkField
  rw [Except.unit_bind_eq_ok_iff, checkName_eq_ok_iff, checkExtent_eq_ok_iff]
  exact ⟨fun both => ⟨both.1, both.2⟩, fun fits => ⟨fits.name, fits.extent_le⟩⟩

/-- All functions pass exactly if each of them is well formed. -/
theorem forall_checkFunction_iff :
    (∀ number function, program.functions[number]? = some function →
      checkFunction program number function = .ok ()) ↔
        ∀ function ∈ program.functions, function.WellFormed program := by
  simp only [checkFunction_eq_ok_iff, checkName_eq_ok_iff]
  constructor
  · intro all function member
    obtain ⟨number, found⟩ := Array.mem_iff_getElem?.mp member
    obtain ⟨name, file, width, fits⟩ := all number function found
    exact ⟨name, file, width, fits⟩
  · intro all number function found
    obtain ⟨name, file, width, fits⟩ := all function (Array.mem_of_getElem? found)
    exact ⟨name, file, width, fits⟩

theorem signed_toUInt32 (checksum : UInt16) : Slot.signed checksum.toUInt32 = checksum.toNat := by
  have bound := checksum.toNat_lt
  rw [Slot.signed, UInt16.toNat_toUInt32, if_pos (by omega)]

/-- The header passes exactly if version, checksum and number of fields are what is asked for. -/
theorem checkHeader_eq_ok_iff (image : Array UInt8) (expectation : Expectation) :
    checkHeader (headerAt image) expectation = .ok () ↔
      signedAt image 0 = 6 ∧
        (∀ expected, expectation.checksum = some expected → signedAt image 4 = expected.toNat) ∧
        0 ≤ signedAt image 56 := by
  have versionSame : (headerAt image).version = version ↔ signedAt image 0 = 6 :=
    wordAt_eq_iff image 0 6
  have checksumSame (expected : UInt16) : (headerAt image).checksum = expected.toUInt32 ↔
      signedAt image 4 = expected.toNat := by
    rw [← signed_toUInt32]
    exact wordAt_eq_iff image 4 _
  have fieldsSame : Slot.signed (headerAt image).entityFields = signedAt image 56 :=
    signed_wordAt _ _
  simp only [← versionSame, ← checksumSame, ← fieldsSame]
  generalize headerAt image = header
  obtain ⟨checksum⟩ := expectation
  unfold checkHeader
  by_cases known : header.version = version
  case neg =>
    rw [if_pos known]
    exact iff_of_false nofun fun all => known all.1
  rw [if_neg (not_not_intro known), and_iff_right known]
  have fields : (if Slot.signed header.entityFields < 0 then
      throw (.malformed (.negativeFieldCount (Slot.signed header.entityFields)))
      else pure () : Except Fault Unit) = .ok () ↔ 0 ≤ Slot.signed header.entityFields := by
    split
    · exact iff_of_false nofun (by omega)
    · exact iff_of_true rfl (by omega)
  cases checksum with
  | none => exact fields.trans (and_iff_right nofun).symm
  | some expected =>
    by_cases same : header.checksum = expected.toUInt32
    · have met : ∀ other, some expected = some other → header.checksum = other.toUInt32 := by
        rintro _ ⟨⟩
        exact same
      dsimp only
      rw [if_neg (not_not_intro same), and_iff_right met]
      exact fields
    · dsimp only
      rw [if_pos same]
      exact iff_of_false nofun fun both => same (both.1 expected rfl)

variable {image : Array UInt8} {expectation : Expectation}

/-- The checks of a described program ask for what is left of well-formedness behind its header and
its tables. -/
theorem check_described_iff :
    check (described image) = .ok () ↔
      28 ≤ Table.globals.count image ∧
        (∀ definition ∈ (described image).globalDefinitions,
          definition.Fits (described image) (described image).globals.size) ∧
        (∀ definition ∈ (described image).fieldDefinitions,
          definition.Fits (described image) (described image).entityFields) ∧
        ∀ function ∈ (described image).functions, function.WellFormed (described image) := by
  have region : Region.size ≤ (described image).globals.size ↔ 28 ≤ Table.globals.count image := by
    have globals : (described image).globals.size = (Table.globals.count image).toNat :=
      Table.globals.size_rows image _
    rw [globals, Region.size_eq]
    omega
  rw [check_eq_ok_iff, region]
  simp only [checkGlobal_eq_ok_iff, checkField_eq_ok_iff, forall_checkFunction_iff]

/-- An image that was loaded is well formed, and describes the program that it was loaded as. -/
theorem wellFormed_of_load (loaded : load image expectation = .ok program) :
    WellFormed image expectation ∧ program = described image := by
  unfold load at loaded
  obtain ⟨header, headerRead, loaded⟩ := Except.bind_eq_ok_iff.mp loaded
  obtain ⟨long, rfl⟩ := (readHeader_eq_ok_iff header).mp headerRead
  obtain ⟨headerPassed, loaded⟩ := Except.unit_bind_eq_ok_iff.mp loaded
  obtain ⟨tables, read, loaded⟩ := Except.bind_eq_ok_iff.mp loaded
  obtain ⟨⟨inside, few⟩, rfl⟩ := (readTables_eq_ok_iff tables).mp read
  obtain ⟨passed, same⟩ := Except.unit_bind_eq_ok_iff.mp loaded
  obtain ⟨version, checksum, fields⟩ := (checkHeader_eq_ok_iff image expectation).mp headerPassed
  obtain ⟨enough, globalsFit, fieldsFit, functionsFit⟩ := check_described_iff.mp passed
  exact ⟨⟨long, version, checksum, fields, inside, few, enough, globalsFit, fieldsFit,
    functionsFit⟩, (Except.ok.inj same).symm⟩

/-- A well-formed image is loaded as the program that it describes. -/
theorem WellFormed.load_described (wellFormed : WellFormed image expectation) :
    load image expectation = .ok (described image) := by
  unfold load
  refine Except.bind_eq_ok_iff.mpr
    ⟨_, (readHeader_eq_ok_iff _).mpr ⟨wellFormed.header_le, rfl⟩, ?_⟩
  refine Except.unit_bind_eq_ok_iff.mpr ⟨(checkHeader_eq_ok_iff image expectation).mpr
    ⟨wellFormed.version_eq, wellFormed.checksum_eq, wellFormed.entityFields_nonneg⟩, ?_⟩
  refine Except.bind_eq_ok_iff.mpr ⟨_, (readTables_eq_ok_iff _).mpr
    ⟨⟨wellFormed.inside, wellFormed.parameters_le⟩, rfl⟩, ?_⟩
  exact Except.unit_bind_eq_ok_iff.mpr ⟨check_described_iff.mpr
    ⟨wellFormed.region_le, wellFormed.globals, wellFormed.fields, wellFormed.functions⟩, rfl⟩

/-- The loader accepts exactly the well-formed images, and the program that it gives is the one that
the image describes. -/
theorem load_eq_ok_iff :
    load image expectation = .ok program ↔
      WellFormed image expectation ∧ program = described image := by
  refine ⟨wellFormed_of_load, ?_⟩
  rintro ⟨wellFormed, rfl⟩
  exact wellFormed.load_described

end Image

end Gamecode
