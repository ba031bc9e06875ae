/-
This file says what a snapshot of an entity holds. The saved fields of a program are its fields that
have a name and a type that can be saved. The snapshot of an entity has an entry for each of them
whose value is not zero, except for those whose name ends like the name of a component: they are
left out whether there is a vector that they are a component of or not.
-/

import Gamecode.Proofs.Image.WellFormed
import Gamecode.Proofs.Snapshot.Saved
import Gamecode.Proofs.Storage.Lifecycle

namespace Gamecode

/-! ### Saved fields -/

/-- A field that snapshots can hold, with the name and the type that they hold it by. -/
structure SavedField where
  definition : Definition
  name : String
  type : ValueType
deriving Repr, DecidableEq

/-- A definition covers a slot. -/
def Definition.Covers (definition : Definition) (slot : Nat) : Prop :=
  definition.start ≤ slot ∧ slot < definition.start + definition.width

namespace SavedField

/-- The slots that an entity has for a field. -/
def slots (machine : Machine) (entity : Nat) (field : SavedField) : Except Fault (List Slot) := do
  let pointer ← machine.entities.address entity field.definition.start field.type.width
  machine.entities.read pointer field.type.width

/-- The value that an entity has in a field. -/
def read (program : Program) (machine : Machine) (entity : Nat) (field : SavedField) :
    Except Fault SavedValue := do
  let slots ← field.slots machine entity
  Snapshot.valueOf program machine.strings field.type slots

/-- Where the slots of a field lie among those of all entities. -/
def place (program : Program) (entity : Nat) (field : SavedField) : Nat :=
  entity * program.entityFields + field.definition.start

end SavedField

namespace Program

variable {program : Program} {field other : SavedField}

/-- A saved field is a field with its name and its type. -/
structure SavesField (program : Program) (field : SavedField) : Prop where
  mem : field.definition ∈ program.fieldDefinitions
  known : Snapshot.nameAndType? program field.definition = some (field.name, field.type)

/-- A snapshot may hold the value of a field; not if it is named like a component. -/
structure ExportsField (program : Program) (field : SavedField) : Prop
    extends program.SavesField field where
  plain : Snapshot.isComponent field.name = false

/-- Fields lie inside the record of an entity. -/
def FieldsFit (program : Program) : Prop :=
  ∀ definition ∈ program.fieldDefinitions,
    definition.start + definition.width ≤ program.entityFields

/-- No two named fields have one name. -/
def FieldsNamed (program : Program) : Prop :=
  ∀ first ∈ program.fieldDefinitions, ∀ second ∈ program.fieldDefinitions,
    program.nameText first.name ≠ "" →
      program.nameText second.name = program.nameText first.name → second = first

/-- A field as an exported one, if it is one. -/
def exportedField? (program : Program) (definition : Definition) : Option SavedField :=
  (Snapshot.nameAndType? program definition).bind fun known =>
    if Snapshot.isComponent known.1 then none else some ⟨definition, known.1, known.2⟩

/-- The exported fields in the order of their definitions. -/
def exportedFields (program : Program) : List SavedField :=
  program.fieldDefinitions.toList.filterMap program.exportedField?

theorem mem_exportedFields : field ∈ program.exportedFields ↔ program.ExportsField field := by
  unfold exportedFields exportedField?
  simp only [List.mem_filterMap, Option.bind_eq_some_iff, Option.ite_none_left_eq_some,
    Option.some_inj, Prod.exists, Array.mem_toList_iff]
  constructor
  · rintro ⟨definition, member, name, type, known, plain, rfl⟩
    exact ⟨⟨member, known⟩, Bool.eq_false_iff.mpr plain⟩
  · rintro ⟨⟨member, known⟩, plain⟩
    exact ⟨_, member, _, _, known, Bool.eq_false_iff.mp plain, rfl⟩

theorem SavesField.type_eq (saves : program.SavesField field) :
    field.definition.type? = some field.type :=
  (nameAndType?_eq_some_iff.mp saves.known).1

theorem SavesField.name_eq (saves : program.SavesField field) :
    program.nameText field.definition.name = field.name :=
  (nameAndType?_eq_some_iff.mp saves.known).2.2.1

theorem SavesField.named (saves : program.SavesField field) : field.name ≠ "" :=
  (nameAndType?_eq_some_iff.mp saves.known).2.2.2

theorem SavesField.width_eq (saves : program.SavesField field) :
    field.definition.width = field.type.width := by
  rw [Definition.width, saves.type_eq]
  rfl

/-- Saved fields with one definition are one. -/
theorem SavesField.eq_of_definition (saves : program.SavesField field)
    (saved : program.SavesField other) (same : other.definition = field.definition) :
    other = field := by
  obtain ⟨definition, name, type⟩ := field
  obtain ⟨_, otherName, otherType⟩ := other
  obtain rfl : _ = definition := same
  obtain ⟨rfl, rfl⟩ := Prod.mk.inj (Option.some.inj (saved.known.symm.trans saves.known))
  rfl

theorem SavesField.eq_of_name (saves : program.SavesField field) (saved : program.SavesField other)
    (distinct : program.FieldsNamed) (same : other.name = field.name) : other = field := by
  refine saves.eq_of_definition saved (distinct _ saves.mem _ saved.mem ?_ ?_)
  · exact saves.name_eq ▸ saves.named
  · rw [saves.name_eq, saved.name_eq, same]

/-- A saved field is found by its name. -/
theorem SavesField.findField? (saves : program.SavesField field) (distinct : program.FieldsNamed) :
    program.findField? field.name = some field.definition := by
  have isNamed : program.isNamed field.definition.name field.name = true := by
    rw [Program.isNamed, saves.name_eq, Bool.and_eq_true, decide_eq_true_eq, decide_eq_true_eq]
    exact ⟨saves.named, rfl⟩
  obtain ⟨first, found⟩ : ∃ first, program.findField? field.name = some first :=
    Option.isSome_iff_exists.mp (Array.find?_isSome.mpr ⟨_, saves.mem, isNamed⟩)
  have named := Array.find?_some found
  rw [Program.isNamed, Bool.and_eq_true, decide_eq_true_eq, decide_eq_true_eq] at named
  rw [found, distinct _ saves.mem first (Array.mem_of_find?_eq_some found)]
  · exact saves.name_eq ▸ saves.named
  · rw [saves.name_eq, named.2]

end Program

theorem Image.fieldsFit_of_load {image : Array UInt8} {expectation : Expectation}
    {program : Program} (loaded : load image expectation = .ok program) : program.FieldsFit := by
  obtain ⟨wellFormed, rfl⟩ := wellFormed_of_load loaded
  exact fun definition member => (wellFormed.fields definition member).extent_le

/-! ### Entities of a program -/

namespace Machine

/-- An entity has a record with the fields of a program, at places that have addresses. -/
structure HasEntity (program : Program) (machine : Machine) (entity : Nat) : Prop where
  sound : machine.entities.Sound
  stride_eq : machine.entities.stride = program.entityFields
  addressable : machine.entities.slots.size ≤ 0x80000000
  present : entity < machine.entities.count

variable {program : Program} {machine : Machine} {entity limit reserved : Nat} {field : SavedField}

theorem hasEntity_of_built (built : machine.entities.Built program.entityFields limit reserved)
    (addressable : machine.entities.slots.size ≤ 0x80000000)
    (present : entity < machine.entities.count) : machine.HasEntity program entity where
  sound := built.sound
  stride_eq := built.bounded.stride_eq
  addressable := addressable
  present := present

namespace HasEntity

variable (has : machine.HasEntity program entity)

include has

/-- A field of an entity lies inside the slots. -/
theorem place_le (fits : program.FieldsFit) (saves : program.SavesField field) :
    field.place program entity + field.type.width ≤ machine.entities.slots.size := by
  have room := fits _ saves.mem
  rw [saves.width_eq, ← has.stride_eq] at room
  rw [SavedField.place, ← has.stride_eq]
  exact has.sound.field_le has.present room

theorem address_eq (fits : program.FieldsFit) (saves : program.SavesField field) :
    machine.entities.address entity field.definition.start field.type.width =
      .ok (field.place program entity : Nat) := by
  have room := fits _ saves.mem
  rw [saves.width_eq, ← has.stride_eq] at room
  rw [SavedField.place, ← has.stride_eq]
  exact has.sound.address_run has.addressable has.present field.type.width_pos room

theorem checkPointer_eq (fits : program.FieldsFit) (saves : program.SavesField field) :
    machine.entities.checkPointer (field.place program entity : Nat) field.type.width =
      .ok (field.place program entity) := by
  have room := fits _ saves.mem
  rw [saves.width_eq, ← has.stride_eq] at room
  rw [SavedField.place, ← has.stride_eq]
  exact has.sound.checkPointer_run has.addressable has.present field.type.width_pos room

/-- The slots of a field are those at its place. -/
theorem slots_eq (fits : program.FieldsFit) (saves : program.SavesField field) :
    field.slots machine entity =
      .ok (machine.entities.slots.window (field.place program entity) field.type.width) := by
  rw [SavedField.slots, has.address_eq fits saves]
  show machine.entities.read _ _ = _
  rw [EntityStore.read, has.checkPointer_eq fits saves]
  rfl

end HasEntity

end Machine

namespace Snapshot

/-! ### Entries by name -/

variable {name other : String} {value added : SavedValue} {entries : List (String × SavedValue)}

theorem mem_insertSorted_self : (name, value) ∈ insertSorted name value entries := by
  induction entries with
  | nil => exact List.mem_singleton_self _
  | cons entry rest inductionHypothesis =>
    rw [insertSorted]
    split
    · exact List.mem_cons_self
    · split
      · exact List.mem_cons_self
      · exact List.mem_cons_of_mem _ inductionHypothesis

/-- An entry stays until a value is saved under its name. -/
theorem mem_insertSorted_of_mem (different : other ≠ name) (member : (other, value) ∈ entries) :
    (other, value) ∈ insertSorted name added entries := by
  induction entries with
  | nil => exact absurd member List.not_mem_nil
  | cons entry rest inductionHypothesis =>
    rw [insertSorted]
    split
    · exact List.mem_cons_of_mem _ member
    · split
      · next same =>
        rcases List.mem_cons.mp member with rfl | later
        · exact absurd same.symm different
        · exact List.mem_cons_of_mem _ later
      · rcases List.mem_cons.mp member with rfl | later
        · exact List.mem_cons_self
        · exact List.mem_cons_of_mem _ (inductionHypothesis later)

/-! ### Snapshots of entities -/

variable {program : Program} {machine : Machine} {entity : Nat}

/-- What the snapshot of an entity holds under a name: the value of a field that has the name,
unless it is zero. -/
def Exported (program : Program) (machine : Machine) (entity : Nat) (name : String)
    (value : SavedValue) : Prop :=
  ∃ field, program.ExportsField field ∧ field.name = name ∧
    field.read program machine entity = .ok value ∧ value.isZero = false

theorem Exported.eq (distinct : program.FieldsNamed)
    (first : Exported program machine entity name value)
    (second : Exported program machine entity name added) : added = value := by
  obtain ⟨field, exports, named, held, -⟩ := first
  obtain ⟨other, exported, same, read, -⟩ := second
  obtain rfl := exports.eq_of_name exported.toSavesField distinct (same.trans named.symm)
  exact Except.ok.inj (read.symm.trans held)

/-- Add the value of a field, unless it is zero. -/
def addExported (program : Program) (machine : Machine) (entity : Nat) (snapshot : Snapshot)
    (field : SavedField) : Except Fault Snapshot := do
  let value ← field.read program machine entity
  return if value.isZero then snapshot else snapshot.insert field.name value

/-- The snapshot of an entity is made up from the exported fields alone. -/
theorem foldlM_addField_eq (program : Program) (machine : Machine) (entity : Nat) :
    program.fieldDefinitions.toList.foldlM (addField program machine entity) empty =
      program.exportedFields.foldlM (addExported program machine entity) empty := by
  unfold Program.exportedFields
  rw [List.foldlM_filterMap]
  congr 1
  funext snapshot definition
  unfold Program.exportedField? addField
  cases nameAndType? program definition with
  | none => rfl
  | some known =>
    show (if isComponent known.1 then _ else _) = _
    rw [Option.bind_some]
    split
    · rfl
    · simp only [addExported, SavedField.read, SavedField.slots, bind_assoc]

/-- Adding fields that can be read adds the values that are exported, and nothing else. -/
theorem exists_foldlM_addExported (distinct : program.FieldsNamed) {fields : List SavedField}
    (exports : ∀ field ∈ fields, program.ExportsField field)
    (readable : ∀ field ∈ fields, ∃ value, field.read program machine entity = .ok value)
    {snapshot : Snapshot}
    (held : ∀ name value, (name, value) ∈ snapshot.entries →
      Exported program machine entity name value) :
    ∃ final, fields.foldlM (addExported program machine entity) snapshot = .ok final ∧
      (∀ name value, (name, value) ∈ final.entries → Exported program machine entity name value) ∧
      (∀ entry ∈ snapshot.entries, entry ∈ final.entries) ∧
      ∀ field ∈ fields, ∀ value, field.read program machine entity = .ok value →
        value.isZero = false → (field.name, value) ∈ final.entries := by
  induction fields generalizing snapshot with
  | nil => exact ⟨snapshot, rfl, held, fun _ => id, fun _ => (nomatch ·)⟩
  | cons field rest inductionHypothesis =>
    obtain ⟨exporting, exports⟩ := List.forall_mem_cons.mp exports
    obtain ⟨⟨value, read⟩, readable⟩ := List.forall_mem_cons.mp readable
    have added : addExported program machine entity snapshot field =
        .ok (if value.isZero then snapshot else snapshot.insert field.name value) := by
      rw [addExported, read]
      rfl
    rw [List.foldlM_cons, added]
    cases zero : value.isZero with
    | true =>
      obtain ⟨final, made, sound, kept, all⟩ := inductionHypothesis exports readable held
      refine ⟨final, made, sound, kept, List.forall_mem_cons.mpr ⟨fun other same filled => ?_, all⟩⟩
      rw [Except.ok.inj (same.symm.trans read), zero] at filled
      cases filled
    | false =>
      have exported : Exported program machine entity field.name value :=
        ⟨field, exporting, rfl, read, zero⟩
      obtain ⟨final, made, sound, kept, all⟩ := @inductionHypothesis exports readable
        (snapshot.insert field.name value) fun name other member => by
          rcases mem_insertSorted member with same | earlier
          · cases same
            exact exported
          · exact held name other earlier
      refine ⟨final, made, sound, fun entry member => ?_,
        List.forall_mem_cons.mpr ⟨fun other same _ => ?_, all⟩⟩
      · by_cases same : entry.1 = field.name
        · have value_eq : entry.2 = value := exported.eq distinct (same ▸ held _ _ member)
          rw [← Prod.eta entry, same, value_eq]
          exact kept _ mem_insertSorted_self
        · exact kept _ (mem_insertSorted_of_mem same member)
      · rw [Except.ok.inj (same.symm.trans read)]
        exact kept _ mem_insertSorted_self

/-- The snapshot of an entity whose fields can be read holds the values that are exported. -/
theorem exists_ofEntity (distinct : program.FieldsNamed) (has : machine.HasEntity program entity)
    (readable : ∀ field, program.SavesField field →
      ∃ value, field.read program machine entity = .ok value) :
    ∃ snapshot, ofEntity program machine entity = .ok snapshot ∧
      ∀ name value, (name, value) ∈ snapshot.entries ↔
        Exported program machine entity name value := by
  have exports : ∀ field ∈ program.exportedFields, program.ExportsField field :=
    fun field => Program.mem_exportedFields.mp
  obtain ⟨snapshot, made, sound, -, all⟩ := @exists_foldlM_addExported program machine entity
    distinct program.exportedFields exports
    (fun field member => readable field (exports field member).toSavesField) empty nofun
  refine ⟨snapshot, ?_, fun name value => ⟨sound name value, ?_⟩⟩
  · have valid : machine.entities.checkEntity entity = .ok entity :=
      if_pos ⟨Int.natCast_nonneg _, has.present⟩
    rw [ofEntity, valid, foldlM_addField_eq]
    exact made
  · rintro ⟨field, exporting, rfl, read, filled⟩
    exact all field (Program.mem_exportedFields.mpr exporting) value read filled

end Snapshot

end Gamecode
