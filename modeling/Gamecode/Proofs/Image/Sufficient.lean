/-
This file shows that what the loader checks once is enough for good. No matter how a program has
been used since it was loaded, its globals and the fields of its entities lie where its tables say.
So snapshots are taken and applied, arguments are put in place, results are read and state changes
find their fields without ever missing a slot. What may still go wrong is a string reference that
names no string, and a snapshot that does not suit the program.
-/

import Gamecode.Proofs.Paired.Reset
import Gamecode.Proofs.Snapshot.Revived
import Gamecode.Proofs.Snapshot.Stopped
import Gamecode.Proofs.Storage.Footprint

namespace Gamecode

namespace Machine

/-! ### Machines that a host comes to -/

/-- What a host does to a machine and what a builtin does by itself. It runs no function, leaves the
globals as many as they are, and changes entities by operations of their store. -/
structure Manages (before after : Machine) : Prop where
  handles : before.Handles after
  size : after.globals.size = before.globals.size

instance : IsPreorder Machine Manages where
  refl machine := ⟨refl_of Handles machine, rfl⟩
  trans _ _ _ first second :=
    ⟨trans_of Handles first.handles second.handles, second.size.trans first.size⟩

instance : Builtins.Allowed Manages where
  globals sized := ⟨AllowsGlobals.globals sized, sized⟩
  temporary machine text := ⟨Builtins.Allowed.temporary machine text, rfl⟩
  spawned spawned := ⟨Builtins.Allowed.spawned spawned, rfl⟩
  removed removed := ⟨Builtins.Allowed.removed removed, rfl⟩
  printed machine text := ⟨Builtins.Allowed.printed machine text, rfl⟩
  traced machine tracing := ⟨Builtins.Allowed.traced machine tracing, rfl⟩

/-- A machine that a host comes to, also in the middle of a run. From one to the next lead calls and
runs, the steps of a run, a reset, snapshots, and whatever a host or a builtin does by itself. The
builtins may be others from one run to the next. -/
inductive Attained (program : Program) (configuration : Configuration) : Machine → Prop
  | created : Attained program configuration (create program configuration)
  | reset {machine : Machine} (attained : Attained program configuration machine) :
      Attained program configuration (machine.reset program configuration)
  | managed {machine after : Machine} (attained : Attained program configuration machine)
      (manages : machine.Manages after) : Attained program configuration after
  | importedGlobals {machine : Machine} (attained : Attained program configuration machine)
      (snapshot : Snapshot) :
      Attained program configuration ((Snapshot.applyToGlobals program snapshot).leaves machine)
  | importedEntity {machine : Machine} (attained : Attained program configuration machine)
      (entity : Int) (snapshot : Snapshot) :
      Attained program configuration
        ((Snapshot.applyToEntity program entity snapshot).leaves machine)
  | entered {machine : Machine} (attained : Attained program configuration machine)
      (function : Nat) : Attained program configuration ((enter program function).leaves machine)
  | advanced {machine : Machine} (attained : Attained program configuration machine)
      (builtins : BuiltinTable) (index : Nat) (statement : Statement) :
      Attained program configuration
        ((advance ⟨program, configuration, builtins⟩ index statement).leaves machine)
  | left {machine : Machine} (attained : Attained program configuration machine) :
      Attained program configuration (leave.leaves machine)
  | invoked {machine after : Machine} {builtins : BuiltinTable} {budget function : Nat}
      {result : Except Fault Unit} (attained : Attained program configuration machine)
      (keep : builtins.KeepByThemselves Manages program)
      (ends : invoke ⟨program, configuration, builtins⟩ budget function machine =
        some (result, after)) : Attained program configuration after
  | called {machine after : Machine} {builtins : BuiltinTable} {budget function : Nat}
      {arguments : List Value} {result : Except Report Vector3}
      (attained : Attained program configuration machine)
      (keep : builtins.KeepByThemselves Manages program)
      (ends : call ⟨program, configuration, builtins⟩ budget function arguments machine =
        some (result, after)) : Attained program configuration after

/-! ### The shape of a machine -/

/-- There are as many globals as the program asks for, and the entities were made by operations on
the records that it asks for. -/
structure Shaped (program : Program) (configuration : Configuration)
    (machine : Machine) : Prop where
  size : machine.globals.size = program.globals.size
  entities : EntityStore.Built program.entityFields configuration.maxEntities
    configuration.reservedEntities machine.entities

variable {program : Program} {configuration : Configuration} {machine after : Machine}

/-- A machine of the right shape stays so. -/
def KeepsShape (program : Program) (configuration : Configuration)
    (before after : Machine) : Prop :=
  before.Shaped program configuration → after.Shaped program configuration

instance : IsPreorder Machine (KeepsShape program configuration) where
  refl _ := id
  trans _ _ _ first second := second ∘ first

instance : AllowsCalls (KeepsShape program configuration) where
  globals sized shaped := ⟨sized.trans shaped.size, shaped.entities⟩
  entities written shaped := ⟨shaped.size, shaped.entities.written written⟩
  stack _ _ _ shaped := ⟨shaped.size, shaped.entities⟩
  profiled _ _ shaped := ⟨shaped.size, shaped.entities⟩
  noted _ _ _ _ _ _ shaped := ⟨shaped.size, shaped.entities⟩

theorem Manages.keepsShape (manages : machine.Manages after) :
    KeepsShape program configuration machine after := by
  obtain ⟨⟨-, operations, entities⟩, size⟩ := manages
  refine fun shaped => ⟨size.trans shaped.size, ?_⟩
  rw [entities]
  exact shaped.entities.run operations

theorem keepsShape_interned (machine : Machine) (text : String) :
    KeepsShape program configuration machine
      { machine with strings := (machine.strings.intern (Text.encode text)).2 } :=
  fun shaped => ⟨shaped.size, shaped.entities⟩

theorem Attained.shaped (attained : Attained program configuration machine) :
    machine.Shaped program configuration := by
  have steps (builtins : BuiltinTable) :
      StepsKeep (KeepsShape program configuration) ⟨program, configuration, builtins⟩ :=
    stepsKeep _
  induction attained with
  | created => exact ⟨rfl, .created⟩
  | reset _ shaped => exact ⟨rfl, shaped.entities.cleared⟩
  | managed _ manages shaped => exact manages.keepsShape shaped
  | importedGlobals _ snapshot shaped =>
    exact keeps_applyToGlobals keepsShape_interned program snapshot _ shaped
  | importedEntity _ entity snapshot shaped =>
    exact keeps_applyToEntity keepsShape_interned program entity snapshot _ shaped
  | entered _ function shaped => exact (steps .empty).enter function _ shaped
  | advanced _ builtins index statement shaped =>
    exact (steps builtins).advance index statement _ shaped
  | left _ shaped => exact (steps .empty).leave _ shaped
  | invoked _ keep ends shaped =>
    exact (steps _).invoke (keep.respects Manages.keepsShape) ends shaped
  | called _ keep ends shaped =>
    exact (steps _).call (keep.respects Manages.keepsShape) ends shaped

end Machine

/-! ### Faults that may be -/

/-- The fault of a string reference that names no string. -/
def Fault.IsBadString (fault : Fault) : Prop :=
  ∃ reference, fault = .badString reference

/-- The fault of a snapshot that does not suit the program. -/
def Fault.IsSnapshot (fault : Fault) : Prop :=
  ∃ defect, fault = .snapshot defect

/-- If it fails, then with an allowed fault. -/
def FailsOnly {α : Type} (allowed : Fault → Prop) (computation : Except Fault α) : Prop :=
  ∀ fault, computation = .error fault → allowed fault

section FailsOnly

variable {α β : Type} {allowed : Fault → Prop}

theorem failsOnly_ok (value : α) : FailsOnly allowed (.ok value) :=
  nofun

theorem FailsOnly.bind {first : Except Fault α} {next : α → Except Fault β}
    (fails : FailsOnly allowed first) (rest : ∀ value, FailsOnly allowed (next value)) :
    FailsOnly allowed (first >>= next) := by
  cases first with
  | ok value => exact rest value
  | error fault =>
    intro other same
    cases same
    exact fails fault rfl

theorem FailsOnly.map {computation : Except Fault α} (change : α → β)
    (fails : FailsOnly allowed computation) : FailsOnly allowed (change <$> computation) := by
  cases computation with
  | ok value => exact failsOnly_ok (change value)
  | error fault =>
    intro other same
    cases same
    exact fails fault rfl

/-- Steps over the members of a list fail only as one of the steps does. -/
theorem failsOnly_foldlM {step : β → α → Except Fault β} {members : List α}
    (each : ∀ member ∈ members, ∀ state, FailsOnly allowed (step state member)) (state : β) :
    FailsOnly allowed (members.foldlM step state) := by
  induction members generalizing state with
  | nil => exact failsOnly_ok state
  | cons head rest inductionHypothesis =>
    rw [List.foldlM_cons]
    exact (each head List.mem_cons_self state).bind
      (inductionHypothesis fun member inRest => each member (List.mem_cons_of_mem head inRest))

end FailsOnly

/-! ### Taking snapshots -/

theorem StringHeap.failsOnly_getText (heap : StringHeap) (reference : Int) :
    FailsOnly Fault.IsBadString (heap.getText reference) := by
  have failsOnly_get : FailsOnly Fault.IsBadString (heap.get reference) := by
    intro fault failed
    unfold StringHeap.get at failed
    dsimp only at failed
    split at failed
    · split at failed <;> cases failed
    · split at failed
      · cases failed
      · cases failed
        exact ⟨reference, rfl⟩
  exact failsOnly_get.map Text.decode

namespace Snapshot

variable {program : Program} {machine : Machine} {entity : Nat}

/-- Of the types that can be saved, only strings may not be read. -/
theorem failsOnly_valueOf {strings : StringHeap} {type : ValueType} {slots : List Slot}
    (saveable : SavedValue.isSaveable type = true) :
    FailsOnly Fault.IsBadString (valueOf program strings type slots) := by
  cases type with
  | float | vector | entity | function => exact failsOnly_ok _
  | string => exact (strings.failsOnly_getText _).map SavedValue.string
  | void | field | pointer | integer | unsigned | longInteger | longUnsigned | double =>
    cases saveable

theorem failsOnly_ofGlobals (fits : program.DefinitionsFit)
    (sized : machine.globals.size = program.globals.size) :
    FailsOnly Fault.IsBadString (ofGlobals program machine) := by
  rw [ofGlobals_eq]
  refine failsOnly_foldlM (fun global member snapshot => ?_) empty
  have saves := Program.mem_savedGlobals.mp member
  have covers : machine.globals.Covers global.definition.start global.type.width := by
    have inside := fits _ saves.mem
    rwa [Definition.width, saves.type_eq, Option.map_some, Option.getD_some, ← sized] at inside
  have read : FailsOnly Fault.IsBadString (global.read program machine) := by
    rw [SavedGlobal.read, Globals.slice, if_pos covers]
    exact failsOnly_valueOf saves.saveable
  exact read.bind fun value => failsOnly_ok _

theorem failsOnly_ofEntity (fits : program.FieldsFit) (has : machine.HasEntity program entity) :
    FailsOnly Fault.IsBadString (ofEntity program machine entity) := by
  have present : machine.entities.checkEntity entity = .ok entity :=
    EntityStore.checkEntity_eq_ok_iff.mpr ⟨rfl, has.present⟩
  rw [ofEntity, present]
  change FailsOnly _
    (program.fieldDefinitions.toList.foldlM (addField program machine entity) empty)
  rw [foldlM_addField_eq]
  refine failsOnly_foldlM (fun field member snapshot => ?_) empty
  have saves := (Program.mem_exportedFields.mp member).toSavesField
  have read : FailsOnly Fault.IsBadString (field.read program machine entity) := by
    rw [SavedField.read, has.slots_eq fits saves]
    exact failsOnly_valueOf (Program.nameAndType?_eq_some_iff.mp saves.known).2.1
  exact read.bind fun value => failsOnly_ok _

/-! ### Applying snapshots -/

variable {snapshot : Snapshot} {fault : Fault} {after : Machine} {name : String}
  {value : SavedValue} {entries : List (String × SavedValue)}

theorem isSnapshot_of_applyToGlobals (fits : program.DefinitionsFit)
    (sized : machine.globals.size = program.globals.size)
    (failed : applyToGlobals program snapshot machine = .error fault after) : fault.IsSnapshot := by
  obtain ⟨-, name, value, -, -, -, refuses, refused, -⟩ :=
    exists_of_forM_applyGlobal_error fits sized failed
  obtain ⟨defect, same⟩ := applyGlobal_eq_error (Program.refuses_iff.mp refuses) after
  rw [refused] at same
  exact ⟨defect, (EStateM.Result.error.inj same).1⟩

/-- A field takes a value or refuses it, and the entity keeps its record. -/
theorem applyField_cases (fits : program.FieldsFit) (has : machine.HasEntity program entity)
    (name : String) (value : SavedValue) :
    (∃ defect, applyField program entity name value machine = .error (.snapshot defect) machine) ∨
      ∃ after, applyField program entity name value machine = .ok () after ∧
        after.HasEntity program entity := by
  cases found : program.findField? name with
  | none =>
    left
    unfold applyField
    rw [found]
    exact ⟨_, rfl⟩
  | some definition =>
    by_cases typed : definition.type? = some value.type
    · by_cases resolves : value.Resolves program
      · right
        obtain ⟨member, named, nonempty⟩ := Program.findField?_some found
        have saves : program.SavesField ⟨definition, name, value.type⟩ :=
          ⟨member, Program.nameAndType?_eq_some_iff.mpr
            ⟨typed, value.isSaveable_type, named, nonempty⟩⟩
        obtain ⟨slots, strings, -, -, -, given⟩ :=
          applyField_of_found found fits has saves rfl resolves
        exact ⟨_, given, hasEntity_moved has (Cells.size_put _ _ _) strings⟩
      · left
        obtain ⟨defect, failed⟩ := slotsOf_eq_error resolves machine
        unfold applyField
        rw [found]
        dsimp only
        rw [slotsFor_eq typed, Action.bind_apply, failed]
        exact ⟨defect, rfl⟩
    · left
      obtain ⟨defect, thrown⟩ := @slotsFor_eq_throw program name value definition typed
      unfold applyField
      rw [found]
      dsimp only
      rw [thrown]
      exact ⟨defect, rfl⟩

theorem isSnapshot_of_forM_applyField (fits : program.FieldsFit)
    (has : machine.HasEntity program entity)
    (failed : (entries.forM fun (name, value) => applyField program entity name value) machine =
      .error fault after) : fault.IsSnapshot := by
  induction entries generalizing machine with
  | nil => cases failed
  | cons entry rest inductionHypothesis =>
    obtain ⟨name, value⟩ := entry
    rw [Action.forM_cons_apply] at failed
    dsimp only at failed
    rcases applyField_cases fits has name value with ⟨defect, refused⟩ | ⟨middle, given, keeps⟩
    · rw [refused] at failed
      exact ⟨defect, (EStateM.Result.error.inj failed).1.symm⟩
    · rw [given] at failed
      exact inductionHypothesis keeps failed

theorem isSnapshot_of_applyToEntity (fits : program.FieldsFit)
    (has : machine.HasEntity program entity)
    (failed : applyToEntity program entity snapshot machine = .error fault after) :
    fault.IsSnapshot := by
  have present : machine.entities.checkEntity entity = .ok entity :=
    EntityStore.checkEntity_eq_ok_iff.mpr ⟨rfl, has.present⟩
  unfold applyToEntity at failed
  rw [Action.bind_apply, Action.inspect_apply present] at failed
  dsimp only at failed
  rw [Action.bind_apply] at failed
  -- The fields of the world are not cleared before they are given values.
  by_cases world : entity = 0
  · have untouched : clearFields entity machine = .ok () machine := by
      rw [clearFields, Action.bind_apply, Action.get_apply]
      dsimp only
      rw [if_neg fun both => both.1 (Int.natCast_eq_zero.mpr world)]
      rfl
    rw [untouched] at failed
    exact isSnapshot_of_forM_applyField fits has failed
  · rw [clearFields_eq_ok has world] at failed
    exact isSnapshot_of_forM_applyField fits (hasEntity_clearRecord has) failed

end Snapshot

/-! ### What the loader makes sure of -/

/-- Every definition takes a slot at least, also one of an unknown type. -/
theorem Definition.width_pos (definition : Definition) : 0 < definition.width := by
  unfold width
  cases definition.type? with
  | none => exact Nat.one_pos
  | some type => exact type.width_pos

namespace Machine

variable {program : Program} {configuration : Configuration} {machine : Machine}

/-- A global that state changes need can be read. -/
theorem exists_reference_of_boundGlobal (fits : program.DefinitionsFit)
    (sized : machine.globals.size = program.globals.size) {name : String} {offset : Nat}
    (bound : boundGlobal program name = .ok offset) :
    ∃ reference, machine.reference offset = .ok reference := by
  unfold boundGlobal at bound
  split at bound
  · next definition found =>
    cases bound
    have inside := fits _ (Program.findGlobal?_some found).1
    have positive := definition.width_pos
    have present : definition.start < machine.globals.slots.size := by
      unfold Globals.size at sized
      omega
    refine ⟨Slot.signed machine.globals.slots[definition.start], ?_⟩
    rw [reference, Globals.getSigned, Globals.get, Array.getElem?_eq_getElem present]
    rfl
  · cases bound

/-- A field that state changes need has an address in every entity. -/
theorem exists_address_of_boundField (fits : program.FieldsFit) {entity : Nat}
    (has : machine.HasEntity program entity) {name : String} {field : Int}
    (bound : boundField program name = .ok field) :
    ∃ pointer, machine.entities.address entity field 1 = .ok pointer := by
  unfold boundField at bound
  split at bound
  · next definition found =>
    cases bound
    have room := fits _ (Program.findField?_some found).1
    have positive := definition.width_pos
    rw [← has.stride_eq] at room
    exact ⟨_, has.sound.address_run has.addressable has.present Nat.one_pos (by omega)⟩
  · cases bound

/-- Of a machine of a loaded program, what is asked is where it should be. The snapshot of the
globals fails only for a string, and so does the snapshot of an entity that exists. Both are applied
unless they do not suit the program. As many arguments as there are parameter blocks can be put in
place, and the result of a call can be read. If a program has what state changes need, `self` can be
read, and as long as it stands for an entity that exists the three fields have addresses. -/
structure InBounds (program : Program) (machine : Machine) : Prop where
  ofGlobals : FailsOnly Fault.IsBadString (Snapshot.ofGlobals program machine)
  ofEntity : ∀ entity : Nat, entity < machine.entities.count →
    FailsOnly Fault.IsBadString (Snapshot.ofEntity program machine entity)
  applyToGlobals : ∀ snapshot fault after,
    Snapshot.applyToGlobals program snapshot machine = .error fault after → fault.IsSnapshot
  applyToEntity : ∀ entity : Nat, entity < machine.entities.count → ∀ snapshot fault after,
    Snapshot.applyToEntity program entity snapshot machine = .error fault after → fault.IsSnapshot
  arguments : ∀ arguments : List Value, arguments.length ≤ Region.maxParameters →
    ∃ after, stageArguments arguments 0 machine = .ok () after
  result : machine.globals.readPadded Region.returnStart = .ok machine.returned
  state : ∀ bindings, stateBindings program = .ok bindings →
    ∃ entity, machine.reference bindings.entity = .ok entity ∧
      ∀ number : Nat, entity = number → number < machine.entities.count →
        ∀ field ∈ bindings.fields, ∃ pointer, machine.entities.address entity field 1 = .ok pointer

theorem inBounds_of_shaped {image : Array UInt8} {expectation : Image.Expectation}
    (loads : Image.load image expectation = .ok program)
    (shaped : machine.Shaped program configuration)
    (addressable : machine.entities.slots.size ≤ 0x80000000) : machine.InBounds program := by
  have globalsFit := Image.definitionsFit_of_load loads
  have fieldsFit := Image.fieldsFit_of_load loads
  have region : Region.size ≤ machine.globals.size := by
    rw [shaped.size]
    exact (Image.loaded_of_load loads).region_le
  have has (entity : Nat) (present : entity < machine.entities.count) :
      machine.HasEntity program entity := hasEntity_of_built shaped.entities addressable present
  refine
    { ofGlobals := Snapshot.failsOnly_ofGlobals globalsFit shaped.size
      ofEntity := fun entity present => Snapshot.failsOnly_ofEntity fieldsFit (has entity present)
      applyToGlobals := fun snapshot fault after =>
        Snapshot.isSnapshot_of_applyToGlobals globalsFit shaped.size
      applyToEntity := fun entity present snapshot fault after =>
        Snapshot.isSnapshot_of_applyToEntity fieldsFit (has entity present)
      arguments := fun arguments few => ?_
      result := ?_
      state := fun bindings bound => ?_ }
  · have fewFromFirst : 0 + arguments.length ≤ Region.maxParameters := by
      rwa [Nat.zero_add]
    obtain ⟨globals, -, staged⟩ := stageArguments_eq_ok fewFromFirst region
    exact ⟨_, staged⟩
  · have present : Region.returnStart < machine.globals.slots.size :=
      Nat.lt_of_lt_of_le (by decide) region
    rw [returned, Globals.readPadded, Globals.get, Array.getElem?_eq_getElem present]
    rfl
  · obtain ⟨_, entityBound, bound⟩ := Except.bind_eq_ok_iff.mp bound
    obtain ⟨_, _, bound⟩ := Except.bind_eq_ok_iff.mp bound
    obtain ⟨_, nextThinkBound, bound⟩ := Except.bind_eq_ok_iff.mp bound
    obtain ⟨_, frameBound, bound⟩ := Except.bind_eq_ok_iff.mp bound
    obtain ⟨_, thinkBound, bound⟩ := Except.bind_eq_ok_iff.mp bound
    cases bound
    obtain ⟨entity, read⟩ := exists_reference_of_boundGlobal globalsFit shaped.size entityBound
    refine ⟨entity, read, ?_⟩
    rintro number rfl present field member
    simp only [StateBindings.fields, List.mem_cons, List.not_mem_nil, or_false] at member
    rcases member with rfl | rfl | rfl
    · exact exists_address_of_boundField fieldsFit (has number present) nextThinkBound
    · exact exists_address_of_boundField fieldsFit (has number present) frameBound
    · exact exists_address_of_boundField fieldsFit (has number present) thinkBound

/-- However a loaded program has been used, nothing is asked of the machine that lies out of bounds,
while all entity slots have addresses that a slot can hold. -/
theorem Attained.inBounds {image : Array UInt8} {expectation : Image.Expectation}
    (loads : Image.load image expectation = .ok program)
    (attained : Attained program configuration machine)
    (addressable : machine.entities.slots.size ≤ 0x80000000) : machine.InBounds program :=
  inBounds_of_shaped loads attained.shaped addressable

end Machine

/-! ### A program with odd definitions -/

namespace Odd

/-- The program has what state changes need. Apart from that, there is a persistent global `time` of
an unknown type, a persistent string `self`, and a field `think` of an unknown type. -/
def program : Program :=
  { header :=
      { version := 6
        checksum := 0
        statements := ⟨60, 0⟩
        globalDefinitions := ⟨60, 4⟩
        fieldDefinitions := ⟨92, 4⟩
        functions := ⟨124, 0⟩
        strings := ⟨124, 33⟩
        globals := ⟨157, 32⟩
        entityFields := 4 }
    statements := #[]
    globalDefinitions := #[⟨4, 28, 1⟩, ⟨2, 29, 6⟩, ⟨0x8063, 30, 6⟩, ⟨0x8001, 31, 1⟩]
    fieldDefinitions := #[⟨2, 0, 11⟩, ⟨2, 1, 21⟩, ⟨6, 2, 27⟩, ⟨0x63, 3, 27⟩]
    functions := #[]
    -- The names are `self`, `time`, `nextthink`, `frame` and `think`.
    strings := #[0, 0x73, 0x65, 0x6C, 0x66, 0, 0x74, 0x69, 0x6D, 0x65, 0, 0x6E, 0x65, 0x78, 0x74,
      0x74, 0x68, 0x69, 0x6E, 0x6B, 0, 0x66, 0x72, 0x61, 0x6D, 0x65, 0,
      0x74, 0x68, 0x69, 0x6E, 0x6B, 0]
    globals := Array.replicate 32 0
    entityFields := 4 }

/-- The host has created an entity, which is `self` now, and the string `self` names no string. -/
def machine : Machine :=
  { Machine.create program .standard with
    globals := ⟨Array.replicate 28 0 ++ #[1, 0, 0, 99]⟩
    entities := (EntityStore.create 4 1024 1).run [.spawn] }

theorem loaded : Image.load (Image.save program) .none = .ok program :=
  Image.load_save_of_check (by decide +kernel) (by decide) (by decide)

theorem attained : Machine.Attained program .standard machine :=
  .managed .created ⟨⟨rfl, [.spawn], rfl⟩, by decide⟩

/-- The fault with which its globals are saved. -/
def unsaved? : Option Fault :=
  match Snapshot.ofGlobals program machine with
  | .ok _ => none
  | .error fault => some fault

/-- Where the three fields of a state change lie. -/
def pointers? : Option (List Int) := do
  let bindings ← (Machine.stateBindings program).toOption
  bindings.fields.mapM fun field => (machine.entities.address 1 field 1).toOption

end Odd

namespace Machine

/-- The string cannot be saved, and the fields of the entity have addresses. -/
theorem Attained.inBounds_odd :
    Image.load (Image.save Odd.program) .none = .ok Odd.program ∧
      Attained Odd.program .standard Odd.machine ∧
      Odd.machine.entities.slots.size ≤ 0x80000000 ∧
      Odd.machine.InBounds Odd.program ∧
      Odd.unsaved? = some (.badString 99) ∧ Odd.pointers? = some [4, 5, 6] := by
  have addressable : Odd.machine.entities.slots.size ≤ 0x80000000 := by decide
  exact ⟨Odd.loaded, Odd.attained, addressable,
    Attained.inBounds Odd.loaded Odd.attained addressable, by decide, by decide⟩

end Machine

end Gamecode
