/-
This file takes the fields of one entity to another one. The record is cleared first, so a field
that has no entry in the snapshot is zero afterwards. Exported fields have their slots for
themselves, so each entry keeps what it was given, and a field that is no component is the same in
both entities. A field that is named like a component comes along only with a vector that it is a
component of; if there is none, what the field held is lost.
-/

import Gamecode.Proofs.Snapshot.Fields
import Gamecode.Proofs.Snapshot.Restored

namespace Gamecode

/-! ### Slots that mean the same -/

/-- Two floats are the same up to the sign of a zero. -/
def Slot.Alike (left right : Slot) : Prop :=
  left = right ∨ left.isZero = true ∧ right.isZero = true

/-- The slots of a value of a type mean the same in two machines: floats are alike, strings have the
same text, and entities and functions have the same number. -/
def ValueType.Alike (source target : Machine) (left right : List Slot) : ValueType → Prop
  | .float | .vector => ∀ index, Slot.Alike (left.getD index 0) (right.getD index 0)
  | .string =>
    target.strings.getText (Slot.signed (right.getD 0 0)) =
      source.strings.getText (Slot.signed (left.getD 0 0))
  | _ => right = left

/-- What the slots of a value refer to exists: a string is a text without NUL, and a function is one
of the program's. -/
def ValueType.Legible (program : Program) (machine : Machine) (slots : List Slot) :
    ValueType → Prop
  | .string => ∃ text,
      machine.strings.getText (Slot.signed (slots.getD 0 0)) = .ok text ∧ '\x00' ∉ text.toList
  | .function => (slots.getD 0 0).toNat < program.functions.size
  | _ => True

namespace SavedField

/-- An entity of one machine and an entity of another one have the same in a field. -/
def Agrees (source target : Machine) (entity other : Nat) (field : SavedField) : Prop :=
  ∃ left right, field.slots source entity = .ok left ∧ field.slots target other = .ok right ∧
    field.type.Alike source target left right

/-- What an entity has in a field refers to nothing that does not exist. -/
def Legible (program : Program) (machine : Machine) (entity : Nat) (field : SavedField) : Prop :=
  ∃ slots, field.slots machine entity = .ok slots ∧ field.type.Legible program machine slots

end SavedField

/-! ### Programs whose entities can be restored -/

namespace Program

/-- A field is a component of a vector: it has the name of the vector with the ending of an axis,
and it is the slot of that axis. -/
def IsComponentOf (program : Program) (component vector : Definition) : Prop :=
  component.type? = some .float ∧ vector.type? = some .vector ∧
    ∃ axis ∈ [("_x", 0), ("_y", 1), ("_z", 2)],
      program.nameText component.name = program.nameText vector.name ++ axis.1 ∧
        component.start = vector.start + axis.2

instance (program : Program) (component vector : Definition) :
    Decidable (program.IsComponentOf component vector) :=
  inferInstanceAs (Decidable (_ ∧ _ ∧ _))

/-- What a program fulfils whose entities can be saved: references that name nothing are zero, all
functions but the first one are told apart by their names, fields are too, and only components lie
in the slots of other fields. -/
structure RestorableFields (program : Program) : Prop where
  empty : program.strings[0]? = some 0
  unnamed : program.functionName 0 = ""
  functionsNamed : ∀ function < program.functions.size, function ≠ 0 →
    program.functionName function ≠ ""
  functionsDistinct : ∀ first second, program.functionName first ≠ "" →
    program.functionName second = program.functionName first → second = first
  fieldsNamed : program.FieldsNamed
  apart : ∀ first ∈ program.fieldDefinitions, ∀ second ∈ program.fieldDefinitions,
    program.nameText first.name ≠ "" → program.nameText second.name ≠ "" → second ≠ first →
      ∀ slot, first.Covers slot → second.Covers slot →
        program.IsComponentOf first second ∨ program.IsComponentOf second first

variable {program : Program} {field other : SavedField}

theorem IsComponentOf.isComponent {component vector : Definition}
    (part : program.IsComponentOf component vector) :
    Snapshot.isComponent (program.nameText component.name) = true := by
  obtain ⟨-, -, axis, member, named, -⟩ := part
  have ends : (program.nameText component.name).endsWith axis.1 = true := by
    rw [named, String.endsWith_eq_endsWith_toSlice, String.Slice.endsWith_string_iff,
      String.copy_toSlice, String.toList_append]
    exact List.suffix_append _ _
  simp only [List.mem_cons, List.not_mem_nil, or_false] at member
  unfold Snapshot.isComponent
  rcases member with rfl | rfl | rfl <;> simp only [ends, Bool.or_true, Bool.true_or]

/-- Among the functions only the first one has no name. -/
theorem RestorableFields.eq_zero_of_unnamed (restorable : program.RestorableFields)
    {function : Slot} (valid : function.toNat < program.functions.size)
    (unnamed : program.functionName function.toNat = "") : function = 0 :=
  UInt32.toNat_inj.mp <| Decidable.byContradiction fun positive =>
    restorable.functionsNamed _ valid positive unnamed

/-- A saved field that shares a slot with an exported one is a component of it. -/
theorem RestorableFields.component_of_shared (restorable : program.RestorableFields)
    (saves : program.SavesField field) (exports : program.ExportsField other)
    (different : other ≠ field)
    {slot : Nat} (covers : field.definition.Covers slot) (covered : other.definition.Covers slot) :
    program.IsComponentOf field.definition other.definition := by
  have named := saves.name_eq ▸ saves.named
  have otherNamed := exports.name_eq ▸ exports.named
  have apart : other.definition ≠ field.definition :=
    fun same => different (saves.eq_of_definition exports.toSavesField same)
  refine (restorable.apart _ saves.mem _ exports.mem named otherNamed apart slot covers
    covered).resolve_right fun part => ?_
  have component := part.isComponent
  rw [exports.name_eq, exports.plain] at component
  cases component

end Program

namespace Snapshot

variable {program : Program} {source machine middle after : Machine} {entity target : Nat}
  {field other : SavedField} {value : SavedValue} {type : ValueType} {left right : List Slot}

/-! ### Slots that were made for a value -/

/-- Slots were made for a value, in a machine whose strings are still there. -/
def Written (program : Program) (value : SavedValue) (slots : List Slot) (strings : StringHeap) :
    Prop :=
  ∃ (machine : Machine) (made : StringHeap), machine.strings.Faithful ∧
    machine.strings.Stands 0 [] ∧
      slotsOf program value machine = .ok slots { machine with strings := made } ∧
        made.Grows strings

theorem Written.grows {strings more : StringHeap} (written : Written program value left strings)
    (grows : strings.Grows more) : Written program value left more := by
  obtain ⟨machine, made, faithful, empty, same, grown⟩ := written
  exact ⟨machine, made, faithful, empty, same, grown.trans grows⟩

/-- The slots of a value that has no references are copied. -/
theorem alike_self (plain : ¬ (type = .string ∨ type = .function)) :
    type.Alike source machine left left := by
  cases type with
  | float | vector => exact fun index => .inl rfl
  | string => exact absurd (.inl rfl) plain
  | _ => exact rfl

/-- The slot of a text is the reference to it. -/
theorem slotsOf_string (text : String) :
    slotsOf program (.string text) machine =
      .ok [Slot.ofSigned (machine.strings.intern (Text.encode text)).1]
        { machine with strings := (machine.strings.intern (Text.encode text)).2 } :=
  rfl

/-- The slot of a function is zero or the number of the first function of the name. -/
theorem slotsOf_function {name : String} {slots : List Slot}
    (made : slotsOf program (.function name) machine = .ok slots after) :
    name = "" ∧ slots = [0] ∨
      name ≠ "" ∧ ∃ function, program.findFunction? name = some function ∧
        slots = [UInt32.ofNat function] := by
  unfold slotsOf at made
  dsimp only at made
  split at made
  · next unnamed => exact .inl ⟨unnamed, (EStateM.Result.ok.inj made).1.symm⟩
  · next named =>
    cases found : program.findFunction? name with
    | some function =>
      rw [found] at made
      exact .inr ⟨named, function, rfl, (EStateM.Result.ok.inj made).1.symm⟩
    | none =>
      rw [found] at made
      cases made

/-- A string that was made for a text is read as the text. -/
theorem getText_of_written {text : String} (visible : '\x00' ∉ text.toList)
    (written : Written program (.string text) right after.strings)
    (room : after.strings.table.size ≤ 0x80000000) :
    after.strings.getText (Slot.signed (right.getD 0 0)) = .ok text := by
  obtain ⟨machine, made, faithful, empty, same, grows⟩ := written
  obtain ⟨place, added, stands⟩ := faithful.stands_intern empty
    fun byte member => Text.ne_zero_of_mem_encode visible member
  obtain ⟨slots, machines⟩ := EStateM.Result.ok.inj ((slotsOf_string text).symm.trans same)
  rw [show (machine.strings.intern (Text.encode text)).2 = made from
    congrArg Machine.strings machines] at stands
  have later := stands.grows grows
  have small := later.ended
  rw [← slots, added, List.getD_cons_zero, Slot.ofSigned_wrap,
    Slot.signed_ofSigned (by omega) (by omega), StringHeap.getText, later.get]
  exact congrArg Except.ok (Text.decode_encode text)

/-- A function of the program is made from its name again. -/
theorem eq_of_written_function (restorable : program.RestorableFields) {first : Slot}
    (valid : first.toNat < program.functions.size) {strings : StringHeap}
    (written : Written program (.function (program.functionName first.toNat)) right strings) :
    right = [first] := by
  obtain ⟨machine, made, -, -, same, -⟩ := written
  rcases slotsOf_function same with ⟨unnamed, rfl⟩ | ⟨named, function, found, rfl⟩
  · rw [restorable.eq_zero_of_unnamed valid unnamed]
  · have again := (Program.findFunction?_some found).1
    rw [restorable.functionsDistinct _ _ named again, UInt32.ofNat_toNat]

/-- What was made for a value means the same as the slots that it was read from. -/
theorem alike_of_written (restorable : program.RestorableFields)
    (known : valueOf program source.strings type left = .ok value)
    (length : left.length = type.width) (legible : type.Legible program source left)
    (written : Written program value right after.strings)
    (room : after.strings.table.size ≤ 0x80000000) : type.Alike source after left right := by
  by_cases reference : type = .string ∨ type = .function
  · rcases reference with rfl | rfl
    · obtain ⟨text, read, visible⟩ := legible
      rw [valueOf, read] at known
      cases known
      exact (getText_of_written visible written room).trans read.symm
    · obtain ⟨first, rfl⟩ := List.length_eq_one_iff.mp length
      cases known
      exact eq_of_written_function restorable legible written
  · obtain ⟨machine, made, -, -, same, -⟩ := written
    obtain ⟨rfl, -⟩ := EStateM.Result.ok.inj
      (same.symm.trans (slotsOf_of_valueOf known length reference machine))
    exact alike_self reference

/-! ### Slots that are zero -/

theorem slot_alike_zero_iff {slot : Slot} : Slot.Alike slot 0 ↔ slot.isZero = true := by
  constructor
  · rintro (rfl | ⟨zero, -⟩)
    · rfl
    · exact zero
  · exact fun zero => .inr ⟨zero, rfl⟩

/-- Zeros mean the same as the slots of a value exactly if the value is zero. -/
theorem alike_zeros_iff (restorable : program.RestorableFields)
    (known : valueOf program source.strings type left = .ok value)
    (length : left.length = type.width) (legible : type.Legible program source left)
    (empty : after.strings.Stands 0 []) :
    type.Alike source after left (List.replicate type.width 0) ↔ value.isZero = true := by
  cases type with
  | float =>
    obtain ⟨first, rfl⟩ := List.length_eq_one_iff.mp length
    cases known
    rw [SavedValue.isZero, List.getD_cons_zero, ← slot_alike_zero_iff]
    exact ⟨fun alike => alike 0, fun alike index => by
      cases index with
      | zero => exact alike
      | succ index => exact .inl rfl⟩
  | vector =>
    match left, length with
    | [x, y, z], _ =>
      cases known
      simp only [SavedValue.isZero, Vector3.isZero, Bool.and_eq_true, List.getD_cons_zero,
        List.getD_cons_succ, ← slot_alike_zero_iff]
      constructor
      · exact fun alike => ⟨⟨alike 0, alike 1⟩, alike 2⟩
      · rintro ⟨⟨first, second⟩, third⟩ index
        match index with
        | 0 => exact first
        | 1 => exact second
        | 2 => exact third
        | beyond + 3 => exact .inl rfl
  | string =>
    obtain ⟨text, read, -⟩ := legible
    rw [valueOf, read] at known
    cases known
    show after.strings.getText 0 = _ ↔ _
    have none : after.strings.getText 0 = .ok "" := congrArg (Text.decode <$> ·) empty.get
    rw [read, none, SavedValue.isZero, String.isEmpty_iff, Except.ok.injEq, eq_comm]
  | entity =>
    obtain ⟨first, rfl⟩ := List.length_eq_one_iff.mp length
    cases known
    show [0] = [first] ↔ decide (Slot.signed first = 0) = true
    rw [decide_eq_true_eq]
    constructor
    · intro same
      rw [← List.head_eq_of_cons_eq same]
      rfl
    · intro zero
      rw [← Slot.ofSigned_signed first, zero]
      rfl
  | function =>
    obtain ⟨first, rfl⟩ := List.length_eq_one_iff.mp length
    have valid : first.toNat < program.functions.size := legible
    cases known
    show [0] = [first] ↔ (program.functionName first.toNat).isEmpty = true
    rw [String.isEmpty_iff]
    constructor
    · intro same
      rw [← List.head_eq_of_cons_eq same]
      exact restorable.unnamed
    · intro unnamed
      rw [restorable.eq_zero_of_unnamed valid unnamed]
  | void | field | pointer | integer | unsigned | longInteger | longUnsigned | double => cases known

/-! ### Giving a field its value -/

/-- A machine has an entity of the program, and its strings name what they were added for. -/
structure Receives (program : Program) (entity : Nat) (machine : Machine) : Prop
    extends machine.HasEntity program entity where
  faithful : machine.strings.Faithful
  empty : machine.strings.Stands 0 []

/-- The machine with other entity slots and other strings. -/
def moved (machine : Machine) (slots : Cells) (strings : StringHeap) : Machine :=
  { machine with entities := { machine.entities with slots }, strings }

/-- The entity keeps its record with other slots of the same number. -/
theorem hasEntity_moved (has : machine.HasEntity program target) {slots : Cells}
    (size : slots.size = machine.entities.slots.size) (strings : StringHeap) :
    (moved machine slots strings).HasEntity program target where
  sound := has.sound.of_size size
  stride_eq := has.stride_eq
  addressable := size ▸ has.addressable
  present := has.present

theorem Receives.moved (receives : Receives program target machine) {slots : Cells}
    {strings : StringHeap} (size : slots.size = machine.entities.slots.size)
    (grows : machine.strings.Grows strings) :
    Receives program target (moved machine slots strings) where
  toHasEntity := hasEntity_moved receives.toHasEntity size strings
  faithful := grows.faithful receives.faithful
  empty := receives.empty.grows grows

/-- The field that is found by a name is given a value of its type. -/
theorem applyField_of_found (found : program.findField? field.name = some field.definition)
    (fits : program.FieldsFit) (has : machine.HasEntity program target)
    (saves : program.SavesField field) (typed : value.type = field.type)
    (resolves : value.Resolves program) :
    ∃ slots strings, slotsOf program value machine = .ok slots { machine with strings } ∧
      slots.length = field.type.width ∧ machine.strings.Grows strings ∧
      applyField program target field.name value machine = .ok () (moved machine
        (machine.entities.slots.put (field.place program target) slots) strings) := by
  obtain ⟨slots, strings, made, length, grows⟩ := slotsOf_eq_ok resolves machine
  rw [typed] at length
  refine ⟨slots, strings, made, length, grows, ?_⟩
  have address := has.address_eq fits saves
  have checked := has.checkPointer_eq fits saves
  have written : machine.entities.write (field.place program target : Nat) slots =
      .ok { machine.entities with
        slots := machine.entities.slots.put (field.place program target) slots } := by
    rw [EntityStore.write, length, checked]
    rfl
  unfold applyField
  rw [found]
  dsimp only
  rw [slotsFor_eq (typed ▸ saves.type_eq), Action.bind_apply, made]
  dsimp only
  rw [Action.bind_apply, Action.inspect_apply (length ▸ address)]
  exact Action.changeEntities_apply written

/-- Giving a field a value of its type writes the slots of the value to the field. -/
theorem applyField_eq_ok (distinct : program.FieldsNamed) (fits : program.FieldsFit)
    (receives : Receives program target machine) (saves : program.SavesField field)
    (typed : value.type = field.type) (resolves : value.Resolves program) :
    ∃ slots strings, slots.length = field.type.width ∧ machine.strings.Grows strings ∧
      Written program value slots strings ∧
      applyField program target field.name value machine = .ok () (moved machine
        (machine.entities.slots.put (field.place program target) slots) strings) := by
  obtain ⟨slots, strings, made, length, grows, given⟩ := applyField_of_found
    (saves.findField? distinct) fits receives.toHasEntity saves typed resolves
  exact ⟨slots, strings, length, grows,
    ⟨machine, strings, receives.faithful, receives.empty, made, .same⟩, given⟩

/-! ### Giving all of them -/

/-- Two fields have no slot in common. -/
def Apart (field other : SavedField) : Prop :=
  field.definition.start + field.type.width ≤ other.definition.start ∨
    other.definition.start + other.type.width ≤ field.definition.start

instance : Decidable (Apart field other) :=
  inferInstanceAs (Decidable (_ ∨ _))

/-- A field that is no component of an exported field lies apart from it. -/
theorem apart_of_not_component (restorable : program.RestorableFields)
    (saves : program.SavesField field) (exports : program.ExportsField other)
    (different : other ≠ field)
    (whole : ¬ program.IsComponentOf field.definition other.definition) : Apart field other := by
  refine Decidable.byContradiction fun shared => whole ?_
  unfold Apart at shared
  have width := saves.width_eq
  have otherWidth := exports.width_eq
  have positive := field.type.width_pos
  have otherPositive := other.type.width_pos
  -- The later of the two starts is a slot of both.
  have covers : field.definition.Covers (max field.definition.start other.definition.start) := by
    unfold Definition.Covers
    omega
  have covered : other.definition.Covers (max field.definition.start other.definition.start) := by
    unfold Definition.Covers
    omega
  exact restorable.component_of_shared saves exports different covers covered

theorem apart_of_exports (restorable : program.RestorableFields)
    (exports : program.ExportsField field) (exported : program.ExportsField other)
    (different : other ≠ field) : Apart field other := by
  refine apart_of_not_component restorable exports.toSavesField exported different fun part => ?_
  have component := part.isComponent
  rw [exports.name_eq, exports.plain] at component
  cases component

/-- What applying the entries of a snapshot to an entity does. Every exported field that has an
entry holds what was made for it, a field that is apart from all of them is as it was, and besides
nothing changes but the strings. -/
structure Given (program : Program) (entity : Nat) (entries : List (String × SavedValue))
    (before after : Machine) : Prop where
  rest : after = moved before after.entities.slots after.strings
  size : after.entities.slots.size = before.entities.slots.size
  grows : before.strings.Grows after.strings
  given : ∀ field value, program.ExportsField field → (field.name, value) ∈ entries →
    Written program value
      (after.entities.slots.window (field.place program entity) field.type.width) after.strings
  kept : ∀ field, (∀ other value, program.ExportsField other → (other.name, value) ∈ entries →
      Apart field other) →
    after.entities.slots.window (field.place program entity) field.type.width =
      before.entities.slots.window (field.place program entity) field.type.width

theorem forM_applyField_given (restorable : program.RestorableFields) (fits : program.FieldsFit)
    {entries : List (String × SavedValue)}
    (each : ∀ name value, (name, value) ∈ entries → Exported program source entity name value)
    (receives : Receives program target machine) :
    ∃ after, (entries.forM fun (name, value) => applyField program target name value) machine =
      .ok () after ∧ Given program target entries machine after := by
  induction entries generalizing machine with
  | nil => exact ⟨machine, rfl, rfl, rfl, .same, nofun, fun _ _ => rfl⟩
  | cons entry rest inductionHypothesis =>
    obtain ⟨name, value⟩ := entry
    have exported := each name value List.mem_cons_self
    obtain ⟨field, exports, rfl, held, -⟩ := exported
    obtain ⟨slots, -, known⟩ := Except.bind_eq_ok_iff.mp held
    obtain ⟨made, strings, length, grows, written, applied⟩ :=
      applyField_eq_ok restorable.fieldsNamed fits receives exports.toSavesField
        (type_of_valueOf known) (resolves_of_valueOf known)
    have size := Cells.size_put machine.entities.slots (field.place program target) made
    have place := receives.place_le fits exports.toSavesField
    have later := fun name value member => each name value (List.mem_cons_of_mem _ member)
    obtain ⟨after, applies, given⟩ := inductionHypothesis later (receives.moved size grows)
    have window : (machine.entities.slots.put (field.place program target) made).window
        (field.place program target) field.type.width = made :=
      Cells.window_put_self length place
    refine ⟨after, ?_, ?_, given.size.trans size, grows.trans given.grows, ?_, ?_⟩
    · rw [Action.forM_cons_apply]
      dsimp only
      rw [applied]
      exact applies
    · rw [given.rest]
      rfl
    · intro other kept exporting member
      by_cases again : (other.name, kept) ∈ rest
      · exact given.given other kept exporting again
      -- No later entry writes to the field, since there is none with its name.
      obtain ⟨sameName, rfl⟩ := Prod.mk.inj ((List.mem_cons.mp member).resolve_right again)
      obtain rfl := exports.eq_of_name exporting.toSavesField restorable.fieldsNamed sameName
      rw [given.kept other fun third value exporting member => ?_]
      · show Written program kept ((machine.entities.slots.put _ made).window _ _) after.strings
        rw [window]
        exact written.grows given.grows
      · refine apart_of_exports restorable exports exporting fun same => again ?_
        have unique := Exported.eq restorable.fieldsNamed (each _ _ List.mem_cons_self)
          (later _ _ (same ▸ member))
        exact unique ▸ same ▸ member
    · intro other apart
      rw [given.kept other fun third value exporting member =>
        apart third value exporting (List.mem_cons_of_mem _ member)]
      refine Cells.window_put_other ?_
      have sides := apart field value exports List.mem_cons_self
      unfold Apart at sides
      rw [length]
      unfold SavedField.place
      omega

/-! ### From one entity to another one -/

/-- The record of an entity other than the world is cleared. -/
theorem clearFields_eq_ok (has : machine.HasEntity program target) (other : target ≠ 0) :
    clearFields target machine =
      .ok () { machine with entities := machine.entities.clearRecord target } := by
  have world : (target : Int) ≠ 0 := Int.natCast_ne_zero.mpr other
  rw [clearFields, Action.bind_apply, Action.get_apply]
  dsimp only
  by_cases positive : 0 < machine.entities.stride
  · have room : 0 + machine.entities.stride ≤ machine.entities.stride :=
      Nat.le_of_eq (Nat.zero_add _)
    have address := has.sound.address_run has.addressable has.present positive room
    have checked := has.sound.checkPointer_run has.addressable has.present positive room
    have written : machine.entities.write (target * machine.entities.stride : Nat)
        (List.replicate machine.entities.stride 0) = .ok (machine.entities.clearRecord target) := by
      rw [EntityStore.write, List.length_replicate, ← Nat.add_zero (target * _), checked]
      rfl
    rw [if_pos ⟨world, positive⟩, Action.bind_apply, Action.inspect_apply address]
    exact Action.changeEntities_apply written
  · have same : machine.entities.slots.put (target * machine.entities.stride)
        (List.replicate machine.entities.stride 0) = machine.entities.slots := by
      rw [Nat.eq_zero_of_not_pos positive]
      rfl
    rw [if_neg (positive ·.2), EntityStore.clearRecord, same]
    rfl

theorem hasEntity_clearRecord (has : machine.HasEntity program target) :
    { machine with entities := machine.entities.clearRecord target }.HasEntity program target where
  sound := has.sound.clearRecord target
  stride_eq := has.stride_eq
  addressable := (Cells.size_put _ _ _).symm ▸ has.addressable
  present := has.present

theorem Receives.clearRecord (receives : Receives program target machine) :
    Receives program target
      { machine with entities := machine.entities.clearRecord target } where
  toHasEntity := hasEntity_clearRecord receives.toHasEntity
  faithful := receives.faithful
  empty := receives.empty

/-- All fields of a cleared record are zero. -/
theorem window_clearRecord (fits : program.FieldsFit) (receives : Receives program target machine)
    (saves : program.SavesField field) :
    (machine.entities.clearRecord target).slots.window (field.place program target)
      field.type.width = List.replicate field.type.width 0 := by
  have room := fits _ saves.mem
  rw [saves.width_eq, ← receives.stride_eq] at room
  have whole := receives.sound.field_le receives.present (Nat.le_of_eq (Nat.zero_add _))
  refine List.ext_getElem? fun index => ?_
  by_cases inside : index < field.type.width
  · rw [Cells.getElem?_window _ _ _ _ inside, List.getElem?_replicate_of_lt inside,
      EntityStore.clearRecord, SavedField.place, ← receives.stride_eq, Nat.add_assoc]
    rw [Cells.getElem?_put_self, List.getElem?_replicate_of_lt]
    · omega
    · rw [List.length_replicate]
      omega
    · rw [List.length_replicate]
      exact whole
  · rw [List.getElem?_eq_none, List.getElem?_eq_none]
    · rw [List.length_replicate]
      omega
    · rw [Cells.length_window]
      omega

variable {snapshot : Snapshot}

/-- An entity is given the fields of any entity of the same program. -/
theorem exists_applyToEntity (restorable : program.RestorableFields) (fits : program.FieldsFit)
    (receives : Receives program target machine) (other : target ≠ 0)
    (each : ∀ name value, (name, value) ∈ snapshot.entries →
      Exported program source entity name value) :
    ∃ after, applyToEntity program target snapshot machine = .ok () after ∧
      Given program target snapshot.entries
        { machine with entities := machine.entities.clearRecord target } after := by
  have valid : machine.entities.checkEntity target = .ok target :=
    if_pos ⟨Int.natCast_nonneg _, receives.present⟩
  obtain ⟨after, applied, given⟩ :=
    forM_applyField_given restorable fits each receives.clearRecord
  refine ⟨after, ?_, given⟩
  rw [applyToEntity, Action.bind_apply, Action.inspect_apply valid]
  dsimp only
  rw [Action.bind_apply, clearFields_eq_ok receives.toHasEntity other]
  exact applied

theorem agrees_iff (fits : program.FieldsFit) (has : source.HasEntity program entity)
    (receives : after.HasEntity program target) (saves : program.SavesField field) :
    field.Agrees source after entity target ↔
      field.type.Alike source after
        (source.entities.slots.window (field.place program entity) field.type.width)
        (after.entities.slots.window (field.place program target) field.type.width) := by
  unfold SavedField.Agrees
  rw [has.slots_eq fits saves, receives.slots_eq fits saves]
  constructor
  · rintro ⟨left, right, first, second, alike⟩
    rwa [← Except.ok.inj first, ← Except.ok.inj second] at alike
  · exact fun alike => ⟨_, _, rfl, rfl, alike⟩

/-- What is known after the fields of an entity were given to another one. -/
structure Revived (program : Program) (source machine after : Machine) (entity target : Nat)
    (snapshot : Snapshot) : Prop where
  has : source.HasEntity program entity
  legible : ∀ field, program.SavesField field → field.Legible program source entity
  receives : Receives program target machine
  taken : ∀ name value, (name, value) ∈ snapshot.entries ↔
    Exported program source entity name value
  given : Given program target snapshot.entries
    { machine with entities := machine.entities.clearRecord target } after

namespace Revived

variable (restorable : program.RestorableFields) (fits : program.FieldsFit)
  (revived : Revived program source machine after entity target snapshot)

include revived

theorem received : Receives program target after := by
  rw [revived.given.rest]
  exact revived.receives.clearRecord.moved revived.given.size revived.given.grows

include fits

/-- A field that is apart from all fields with entries is zero. -/
theorem zeros (saves : program.SavesField field)
    (apart : ∀ other value, program.ExportsField other → (other.name, value) ∈ snapshot.entries →
      Apart field other) :
    after.entities.slots.window (field.place program target) field.type.width =
      List.replicate field.type.width 0 :=
  (revived.given.kept field apart).trans (window_clearRecord fits revived.receives saves)

/-- A field was read from its slots, which refer to nothing that does not exist. -/
theorem source_eq (saves : program.SavesField field)
    (held : field.read program source entity = .ok value) :
    valueOf program source.strings field.type
        (source.entities.slots.window (field.place program entity) field.type.width) = .ok value ∧
      (source.entities.slots.window (field.place program entity) field.type.width).length =
        field.type.width ∧
      field.type.Legible program source
        (source.entities.slots.window (field.place program entity) field.type.width) := by
  have slots := revived.has.slots_eq fits saves
  rw [SavedField.read, slots] at held
  obtain ⟨left, same, legible⟩ := revived.legible field saves
  obtain rfl := Except.ok.inj (slots.symm.trans same)
  refine ⟨held, ?_, legible⟩
  have inside := revived.has.place_le fits saves
  rw [Cells.length_window]
  omega

include restorable

/-- A field that is apart from all fields with entries is the same exactly if it was zero. -/
theorem agrees_iff_isZero (saves : program.SavesField field)
    (held : field.read program source entity = .ok value)
    (apart : ∀ other value, program.ExportsField other → (other.name, value) ∈ snapshot.entries →
      Apart field other) :
    field.Agrees source after entity target ↔ value.isZero = true := by
  obtain ⟨known, length, legible⟩ := revived.source_eq fits saves held
  have received := revived.received
  rw [agrees_iff fits revived.has received.toHasEntity saves, revived.zeros fits saves apart]
  exact alike_zeros_iff restorable known length legible received.empty

/-- A field that is exported is the same. -/
theorem agrees_of_exports (room : after.strings.table.size ≤ 0x80000000)
    (exports : program.ExportsField field)
    (held : field.read program source entity = .ok value) :
    field.Agrees source after entity target := by
  cases zero : value.isZero with
  | true =>
    refine (revived.agrees_iff_isZero restorable fits exports.toSavesField held ?_).mpr zero
    intro other kept exported member
    refine apart_of_exports restorable exports exported fun same => ?_
    obtain ⟨again, exporting, named, read, filled⟩ := (revived.taken _ _).mp member
    obtain rfl := exports.eq_of_name exporting.toSavesField restorable.fieldsNamed
      (named.trans (congrArg SavedField.name same))
    rw [Except.ok.inj (read.symm.trans held), zero] at filled
    cases filled
  | false =>
    obtain ⟨known, length, legible⟩ := revived.source_eq fits exports.toSavesField held
    rw [agrees_iff fits revived.has revived.received.toHasEntity exports.toSavesField]
    refine alike_of_written restorable known length legible ?_ room
    exact revived.given.given field value exports
      ((revived.taken _ _).mpr ⟨field, exports, rfl, held, zero⟩)

/-- A component of a field that is exported is the same. -/
theorem agrees_of_component (room : after.strings.table.size ≤ 0x80000000)
    (saves : program.SavesField field) (exports : program.ExportsField other)
    (part : program.IsComponentOf field.definition other.definition)
    (held : other.read program source entity = .ok value) :
    field.Agrees source after entity target := by
  obtain ⟨float, vector, axis, member, -, start⟩ := part
  have type : field.type = .float := Option.some.inj (saves.type_eq.symm.trans float)
  have otherType : other.type = .vector := Option.some.inj (exports.type_eq.symm.trans vector)
  have inside : axis.2 < 3 := by
    simp only [List.mem_cons, List.not_mem_nil, or_false] at member
    rcases member with rfl | rfl | rfl <;> decide
  have whole : ∀ index, Slot.Alike
      ((source.entities.slots.window (other.place program entity) 3).getD index 0)
      ((after.entities.slots.window (other.place program target) 3).getD index 0) := by
    have agrees := revived.agrees_of_exports restorable fits room exports held
    rw [agrees_iff fits revived.has revived.received.toHasEntity exports.toSavesField,
      otherType] at agrees
    exact agrees
  have place (entity : Nat) : field.place program entity = other.place program entity + axis.2 := by
    rw [SavedField.place, start, ← Nat.add_assoc]
    rfl
  rw [agrees_iff fits revived.has revived.received.toHasEntity saves, type]
  show ∀ index, Slot.Alike
    ((source.entities.slots.window (field.place program entity) 1).getD index 0)
    ((after.entities.slots.window (field.place program target) 1).getD index 0)
  intro index
  cases index with
  | zero =>
    have same := whole axis.2
    rw [Cells.getD_window _ _ _ _ inside, Cells.getD_window _ _ _ _ inside] at same
    rw [Cells.getD_window _ _ _ _ Nat.one_pos, Cells.getD_window _ _ _ _ Nat.one_pos, place, place]
    exact same
  | succ index =>
    have beyond (cells : Cells) (offset : Nat) :
        (cells.window offset 1).getD (index + 1) 0 = 0 := by
      rw [List.getD_eq_getElem?_getD, List.getElem?_eq_none (by rw [Cells.length_window]; omega)]
      rfl
    exact .inl ((beyond _ _).trans (beyond _ _).symm)

end Revived

/-! ### Which fields come along -/

/-- A snapshot brings along what an entity has in a field: the field is not named like a component,
or it holds nothing but zeros, or it is a component of a field that snapshots hold. -/
def Brings (program : Program) (source : Machine) (entity : Nat) (field : SavedField) : Prop :=
  isComponent field.name = false ∨
    (∃ value, field.read program source entity = .ok value ∧ value.isZero = true) ∨
    ∃ vector, program.ExportsField vector ∧
      program.IsComponentOf field.definition vector.definition

/-- Fields that refer to nothing that does not exist can be read. -/
theorem exists_read (saves : program.SavesField field)
    (legible : field.Legible program source entity) :
    ∃ value, field.read program source entity = .ok value := by
  obtain ⟨slots, same, legible⟩ := legible
  rw [SavedField.read, same]
  have saveable := (Program.nameAndType?_eq_some_iff.mp saves.known).2.1
  show ∃ value, valueOf program source.strings field.type slots = .ok value
  cases type : field.type with
  | float | vector | entity | function => exact ⟨_, rfl⟩
  | string =>
    rw [type] at legible
    obtain ⟨text, read, -⟩ := legible
    exact ⟨.string text, by rw [valueOf, read]; rfl⟩
  | void | field | pointer | integer | unsigned | longInteger | longUnsigned | double =>
    rw [type] at saveable
    cases saveable

theorem Revived.agrees_iff_brings (restorable : program.RestorableFields)
    (fits : program.FieldsFit)
    (revived : Revived program source machine after entity target snapshot)
    (room : after.strings.table.size ≤ 0x80000000) (saves : program.SavesField field) :
    field.Agrees source after entity target ↔ Brings program source entity field := by
  obtain ⟨value, held⟩ := exists_read saves (revived.legible field saves)
  unfold Brings
  cases plain : isComponent field.name with
  | false =>
    have agrees := revived.agrees_of_exports restorable fits room ⟨saves, plain⟩ held
    exact iff_of_true agrees (.inl rfl)
  | true =>
    by_cases part : ∃ vector, program.ExportsField vector ∧
        program.IsComponentOf field.definition vector.definition
    · obtain ⟨vector, exports, component⟩ := part
      obtain ⟨whole, read⟩ := exists_read exports.toSavesField
        (revived.legible _ exports.toSavesField)
      exact iff_of_true
        (revived.agrees_of_component restorable fits room saves exports component read)
        (.inr (.inr ⟨vector, exports, component⟩))
    · rw [revived.agrees_iff_isZero restorable fits saves held, or_iff_right nofun,
        or_iff_left part, held]
      · exact ⟨fun zero => ⟨value, rfl, zero⟩, fun ⟨_, same, zero⟩ => Except.ok.inj same ▸ zero⟩
      · intro other kept exports member
        refine apart_of_not_component restorable saves exports (fun same => ?_)
          fun component => part ⟨other, exports, component⟩
        rw [← same, exports.plain] at plain
        cases plain

variable {image : Array UInt8} {expectation : Image.Expectation} {environment : Environment}
  {limit reserved sourceLimit sourceReserved : Nat}

/-- The snapshot of an entity is accepted for every other entity than the world, and afterwards the
two have the same in exactly those fields that the snapshot brings along. -/
theorem applyToEntity_ofEntity_iff
    (loads : Image.load image expectation = .ok environment.program)
    (restorable : environment.program.RestorableFields)
    (respects : environment.builtins.Respects Machine.StringsGrow environment.program)
    (sourceBuilt : source.entities.Built environment.program.entityFields sourceLimit
      sourceReserved)
    (sourceAddressable : source.entities.slots.size ≤ 0x80000000)
    (present : entity < source.entities.count)
    (legible : ∀ field, environment.program.SavesField field →
      field.Legible environment.program source entity)
    (arises : machine.Arises environment)
    (built : machine.entities.Built environment.program.entityFields limit reserved)
    (addressable : machine.entities.slots.size ≤ 0x80000000)
    (received : target < machine.entities.count) (other : target ≠ 0) :
    ∃ snapshot after, ofEntity environment.program source entity = .ok snapshot ∧
      applyToEntity environment.program target snapshot machine = .ok () after ∧
        (after.strings.table.size ≤ 0x80000000 → ∀ field, environment.program.SavesField field →
          (field.Agrees source after entity target ↔
            Brings environment.program source entity field)) := by
  have fits := Image.fieldsFit_of_load loads
  have has := Machine.hasEntity_of_built sourceBuilt sourceAddressable present
  have grows := arises.grows respects
  have receives : Receives environment.program target machine :=
    { Machine.hasEntity_of_built built addressable received with
      faithful := grows.faithful (StringHeap.faithful_create _ _)
      empty := (StringHeap.stands_create restorable.empty _).grows grows }
  obtain ⟨snapshot, exported, taken⟩ := exists_ofEntity restorable.fieldsNamed has
    fun field saves => exists_read saves (legible field saves)
  obtain ⟨after, applied, given⟩ := exists_applyToEntity restorable fits receives other
    fun name value => (taken name value).mp
  refine ⟨snapshot, after, exported, applied, fun room field saves => ?_⟩
  exact Revived.agrees_iff_brings restorable fits ⟨has, legible, receives, taken, given⟩ room saves

end Snapshot

/-! ### A field that is named like a component -/

namespace Orphan

/-- A program whose entities have a vector `v` with the component `v_x`, a float `tag_x`, a string
`s` and a function `f`. It has no field `tag`. -/
def program : Program :=
  { header :=
      { version := 6
        checksum := 0
        statements := ⟨60, 0⟩
        globalDefinitions := ⟨60, 0⟩
        fieldDefinitions := ⟨60, 5⟩
        functions := ⟨100, 2⟩
        strings := ⟨172, 20⟩
        globals := ⟨192, 28⟩
        entityFields := 6 }
    statements := #[]
    globalDefinitions := #[]
    fieldDefinitions := #[⟨3, 0, 1⟩, ⟨2, 0, 3⟩, ⟨2, 3, 7⟩, ⟨1, 4, 13⟩, ⟨6, 5, 15⟩]
    functions := #[⟨-1, 0, 0, 0, 0, 0, [], false⟩, ⟨-2, 0, 0, 0, 17, 0, [], false⟩]
    -- The names are `v`, `v_x`, `tag_x`, `s`, `f` and `go`.
    strings := #[0, 0x76, 0, 0x76, 0x5F, 0x78, 0, 0x74, 0x61, 0x67, 0x5F, 0x78, 0, 0x73, 0, 0x66, 0,
      0x67, 0x6F, 0]
    globals := Array.replicate 28 0
    entityFields := 6 }

def environment : Environment :=
  ⟨program, .standard, Builtins.installClassic .empty⟩

def fields : List SavedField :=
  [⟨⟨3, 0, 1⟩, "v", .vector⟩, ⟨⟨2, 0, 3⟩, "v_x", .float⟩, ⟨⟨2, 3, 7⟩, "tag_x", .float⟩,
    ⟨⟨1, 4, 13⟩, "s", .string⟩, ⟨⟨6, 5, 15⟩, "f", .function⟩]

/-- A machine with two entities. The first one has ones in `v_x` and `tag_x`, and refers to the
string `v` and to the function `go`. -/
def machine : Machine :=
  { Machine.create program .standard with
    entities := (EntityStore.create 6 1024 1).run
      [.spawn, .spawn, .set 1 0 0x3F800000, .set 1 3 0x3F800000, .set 1 4 1, .set 1 5 1] }

/-- What the second entity has in the float `tag_x` once a snapshot was applied to it. -/
def revived? (snapshot : Snapshot) : Option Slot :=
  match Snapshot.applyToEntity environment.program 2 snapshot machine with
  | .ok _ after => (after.entities.get 2 3).toOption
  | .error _ _ => none

theorem loaded : Image.load (Image.save program) .none = .ok environment.program :=
  Image.load_save_of_check (by decide +kernel) (by decide) (by decide)

theorem respects :
    environment.builtins.Respects Machine.StringsGrow environment.program :=
  Builtins.respects_installClassic Builtins.respects_empty

theorem restorable : environment.program.RestorableFields where
  empty := rfl
  unnamed := by decide
  functionsNamed := by decide
  functionsDistinct first second named same := by
    have only (function : Nat) (named : program.functionName function ≠ "") : function = 1 := by
      match function with
      | 0 => exact absurd (by decide) named
      | 1 => rfl
      | _ + 2 => exact absurd rfl named
    rw [only first named, only second (same.symm ▸ named)]
  fieldsNamed := by
    unfold Program.FieldsNamed
    decide
  apart first member second other _ _ different slot covers covered := by
    have sides : ∀ first ∈ program.fieldDefinitions, ∀ second ∈ program.fieldDefinitions,
        second ≠ first → (program.IsComponentOf first second ∨ program.IsComponentOf second first) ∨
          first.start + first.width ≤ second.start ∨
            second.start + second.width ≤ first.start := by
      decide
    refine (sides first member second other different).resolve_right ?_
    unfold Definition.Covers at covers covered
    omega

theorem mem_fields {field : SavedField} (saves : environment.program.SavesField field) :
    field ∈ fields := by
  have each : ∀ definition ∈ program.fieldDefinitions,
      ∀ known ∈ Snapshot.nameAndType? program definition,
        (⟨definition, known.1, known.2⟩ : SavedField) ∈ fields := by
    decide
  exact each _ saves.mem _ saves.known

theorem legible (field : SavedField) (saves : environment.program.SavesField field) :
    field.Legible environment.program machine 1 := by
  have member := mem_fields saves
  simp only [fields, List.mem_cons, List.not_mem_nil, or_false] at member
  rcases member with rfl | rfl | rfl | rfl | rfl
  · exact ⟨[0x3F800000, 0, 0], Except.eq_ok_of_toOption (by decide), trivial⟩
  · exact ⟨[0x3F800000], Except.eq_ok_of_toOption (by decide), trivial⟩
  · exact ⟨[0x3F800000], Except.eq_ok_of_toOption (by decide), trivial⟩
  · exact ⟨[1], Except.eq_ok_of_toOption (by decide), "v",
      Except.eq_ok_of_toOption (by decide), by decide⟩
  · exact ⟨[1], Except.eq_ok_of_toOption (by decide),
      show (1 : Slot).toNat < program.functions.size by decide⟩

theorem arises : machine.Arises environment :=
  .changed .created rfl

theorem built : machine.entities.Built environment.program.entityFields 1024 1 :=
  EntityStore.Built.created.run _

end Orphan

namespace Snapshot

/-- All fields come along, except for the one that is named like a component and is none. -/
theorem applyToEntity_ofEntity_iff_orphan :
    Image.load (Image.save Orphan.environment.program) .none = .ok Orphan.environment.program ∧
      Orphan.environment.program.RestorableFields ∧
      Orphan.environment.builtins.Respects Machine.StringsGrow Orphan.environment.program ∧
      Orphan.machine.entities.Built Orphan.environment.program.entityFields 1024 1 ∧
      Orphan.machine.entities.slots.size ≤ 0x80000000 ∧ 1 < Orphan.machine.entities.count ∧
      (∀ field, Orphan.environment.program.SavesField field →
        field.Legible Orphan.environment.program Orphan.machine 1) ∧
      Orphan.machine.Arises Orphan.environment ∧ 2 < Orphan.machine.entities.count ∧ 2 ≠ 0 ∧
      ∃ snapshot after, ofEntity Orphan.environment.program Orphan.machine 1 = .ok snapshot ∧
        applyToEntity Orphan.environment.program 2 snapshot Orphan.machine = .ok () after ∧
          (after.strings.table.size ≤ 0x80000000 →
            ∀ field, Orphan.environment.program.SavesField field →
            (field.Agrees Orphan.machine after 1 2 ↔
              Brings Orphan.environment.program Orphan.machine 1 field)) := by
  have addressable : Orphan.machine.entities.slots.size ≤ 0x80000000 := by decide
  have count : Orphan.machine.entities.count = 3 := by decide
  have first : 1 < Orphan.machine.entities.count := count ▸ by decide
  have second : 2 < Orphan.machine.entities.count := count ▸ by decide
  refine ⟨Orphan.loaded, Orphan.restorable, Orphan.respects, Orphan.built, addressable, first,
    Orphan.legible, Orphan.arises, second, by decide, ?_⟩
  exact applyToEntity_ofEntity_iff Orphan.loaded Orphan.restorable Orphan.respects Orphan.built
    addressable first Orphan.legible Orphan.arises Orphan.built addressable second (by decide)

/-- The float `tag_x` is one in the first entity, but zero in the second one after that was given
the fields of the first one. -/
theorem orphan_lost :
    ∃ snapshot after,
      ofEntity Orphan.environment.program Orphan.machine 1 = .ok snapshot ∧
      applyToEntity Orphan.environment.program 2 snapshot Orphan.machine = .ok () after ∧
      Orphan.environment.program.RestorableFields ∧
      Orphan.environment.program.SavesField ⟨⟨2, 3, 7⟩, "tag_x", .float⟩ ∧
      Orphan.machine.entities.get 1 3 = .ok 0x3F800000 ∧ after.entities.get 2 3 = .ok 0 := by
  let snapshot : Snapshot :=
    ⟨[("f", .function "go"), ("s", .string "v"), ("v", .vector ⟨0x3F800000, 0, 0⟩)]⟩
  have taken : ofEntity Orphan.environment.program Orphan.machine 1 = .ok snapshot :=
    Except.eq_ok_of_toOption (by decide +kernel)
  have zero : Orphan.revived? snapshot = some 0 := by decide +kernel
  unfold Orphan.revived? at zero
  cases applied : applyToEntity Orphan.environment.program 2 snapshot Orphan.machine with
  | error fault after =>
    rw [applied] at zero
    cases zero
  | ok _ after =>
    rw [applied] at zero
    exact ⟨snapshot, after, taken, applied, Orphan.restorable,
      ⟨by decide +kernel, by decide⟩, Except.eq_ok_of_toOption (by decide),
      Except.eq_ok_of_toOption zero⟩

end Snapshot

end Gamecode
