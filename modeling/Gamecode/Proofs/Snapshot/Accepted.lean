/-
This file says which snapshots are accepted. A value can be given to a global if the first
definition of its name is persistent and has the type of the value, and if the function that the
value may name is known. Snapshots are applied entry by entry, and an entry that can be given never
stands in the way of another one, so a snapshot is accepted exactly if each of its entries can be
given.

A snapshot is taken of the last definitions of the names, but it is applied to the first ones. This
is all that can keep a machine from accepting a snapshot of itself.
-/

import Gamecode.Proofs.Image.WellFormed
import Gamecode.Proofs.Snapshot.Saved
import Gamecode.Proofs.Storage.Strings

namespace Gamecode

/-! ### Values that can be given -/

/-- A value names no function, or one that the program has. -/
def SavedValue.Resolves (program : Program) : SavedValue → Prop
  | .function name => name = "" ∨ ∃ function, program.findFunction? name = some function
  | .float _ | .vector _ | .string _ | .entity _ => True

theorem SavedValue.isSaveable_type (value : SavedValue) : isSaveable value.type = true := by
  cases value <;> rfl

/-- A value can be given to the global of a name. -/
structure Program.Accepts (program : Program) (name : String) (value : SavedValue)
    (definition : Definition) : Prop where
  found : program.findGlobal? name = some definition
  persistent : definition.isPersistent = true
  typed : definition.type? = some value.type
  resolves : value.Resolves program

/-- Definitions lie inside the globals. -/
def Program.DefinitionsFit (program : Program) : Prop :=
  ∀ definition ∈ program.globalDefinitions,
    definition.start + definition.width ≤ program.globals.size

theorem Image.definitionsFit_of_load {image : Array UInt8} {expectation : Expectation}
    {program : Program} (loaded : load image expectation = .ok program) :
    program.DefinitionsFit := by
  obtain ⟨wellFormed, rfl⟩ := wellFormed_of_load loaded
  exact fun definition member => (wellFormed.globals definition member).extent_le

theorem Program.findGlobal?_some {program : Program} {name : String} {definition : Definition}
    (found : program.findGlobal? name = some definition) :
    definition ∈ program.globalDefinitions ∧ program.nameText definition.name = name ∧
      name ≠ "" := by
  have named := Array.find?_some found
  unfold isNamed at named
  rw [Bool.and_eq_true, decide_eq_true_eq, decide_eq_true_eq] at named
  exact ⟨Array.mem_of_find?_eq_some found, named.2, named.1⟩

theorem Program.findField?_some {program : Program} {name : String} {definition : Definition}
    (found : program.findField? name = some definition) :
    definition ∈ program.fieldDefinitions ∧ program.nameText definition.name = name ∧
      name ≠ "" := by
  have named := Array.find?_some found
  unfold isNamed at named
  rw [Bool.and_eq_true, decide_eq_true_eq, decide_eq_true_eq] at named
  exact ⟨Array.mem_of_find?_eq_some found, named.2, named.1⟩

/-- A function that is found has the name, and is one of the program's. -/
theorem Program.findFunction?_some {program : Program} {name : String} {function : Nat}
    (found : program.findFunction? name = some function) :
    program.functionName function = name ∧ function < program.functions.size := by
  obtain ⟨inside, named, -⟩ := Array.findIdx?_eq_some_iff_getElem.mp found
  unfold isNamed at named
  rw [Bool.and_eq_true, decide_eq_true_eq, decide_eq_true_eq] at named
  refine ⟨?_, inside⟩
  rw [functionName, Array.getElem?_eq_getElem inside]
  exact named.2

/-- A function with a name is found by that name, or an earlier one is. -/
theorem Program.exists_findFunction? (program : Program) (function : Nat) :
    program.functionName function = "" ∨
      ∃ first, program.findFunction? (program.functionName function) = some first := by
  unfold functionName
  cases known : program.functions[function]? with
  | none => exact .inl rfl
  | some found =>
    refine (Decidable.em (program.nameText found.name = "")).imp_right fun named => ?_
    refine Option.isSome_iff_exists.mp (Array.findIdx?_isSome.trans (Array.any_eq_true'.mpr ?_))
    exact ⟨found, Array.mem_of_getElem? known, by simp [isNamed, named]⟩

namespace Snapshot

variable {program : Program} {machine after : Machine} {name : String} {value : SavedValue}
  {definition : Definition}

/-! ### Giving one value -/

/-- The slots of a value are as many as its type takes, and making them adds a string at most. -/
theorem slotsOf_eq_ok (resolves : value.Resolves program) (machine : Machine) :
    ∃ slots strings, slotsOf program value machine = .ok slots { machine with strings } ∧
      slots.length = value.type.width ∧ machine.strings.Grows strings := by
  cases value with
  | float bits => exact ⟨[bits], machine.strings, rfl, rfl, .same⟩
  | vector components => exact ⟨components.toList, machine.strings, rfl, rfl, .same⟩
  | string text => exact ⟨_, _, rfl, rfl, .interned .same (Text.encode text)⟩
  | entity number => exact ⟨_, machine.strings, rfl, rfl, .same⟩
  | function name =>
    unfold slotsOf
    dsimp only
    split
    · exact ⟨[0], machine.strings, rfl, rfl, .same⟩
    · next named =>
      obtain ⟨function, found⟩ := resolves.resolve_left named
      rw [found]
      exact ⟨_, machine.strings, rfl, rfl, .same⟩

/-- A value that names a function that the program does not have is refused, and nothing is changed.
-/
theorem slotsOf_eq_error (unresolved : ¬ value.Resolves program) (machine : Machine) :
    ∃ defect, slotsOf program value machine = .error (.snapshot defect) machine := by
  cases value with
  | float | vector | string | entity => exact absurd trivial unresolved
  | function name =>
    obtain ⟨named, absent⟩ := not_or.mp unresolved
    have unknown : program.findFunction? name = none :=
      Option.eq_none_iff_forall_ne_some.mpr fun function found => absent ⟨function, found⟩
    unfold slotsOf
    dsimp only
    rw [if_neg named, unknown]
    exact ⟨_, rfl⟩

/-- A value of the type of a definition is turned into slots whatever the definition. -/
theorem slotsFor_eq (typed : definition.type? = some value.type) :
    slotsFor program name definition value = slotsOf program value := by
  have saveable : definition.type?.filter SavedValue.isSaveable = some value.type :=
    Option.filter_eq_some_iff.mpr ⟨typed, value.isSaveable_type⟩
  unfold slotsFor
  rw [saveable]
  dsimp only
  rw [if_neg (not_not_intro rfl)]

/-- A value of another type than a definition is not turned into slots. -/
theorem slotsFor_eq_throw (untyped : definition.type? ≠ some value.type) :
    ∃ defect, slotsFor program name definition value = throw (.snapshot defect) := by
  unfold slotsFor
  cases saveable : definition.type?.filter SavedValue.isSaveable with
  | none => exact ⟨_, rfl⟩
  | some type =>
    obtain ⟨typed, -⟩ := Option.filter_eq_some_iff.mp saveable
    have other : value.type ≠ type := fun same => untyped (typed.trans (congrArg some same.symm))
    dsimp only
    rw [if_pos other]
    exact ⟨_, rfl⟩

/-- A value that can be given is written to its global. -/
theorem applyGlobal_eq (accepts : program.Accepts name value definition) :
    applyGlobal program name value =
      slotsOf program value >>= fun slots =>
        Action.changeGlobals fun globals => globals.write definition.start slots := by
  have known : (program.findGlobal? name).filter Definition.isPersistent = some definition :=
    Option.filter_eq_some_iff.mpr ⟨accepts.found, accepts.persistent⟩
  unfold applyGlobal
  rw [known]
  dsimp only
  rw [slotsFor_eq accepts.typed]

/-- A value that cannot be given is refused, and nothing is changed. -/
theorem applyGlobal_eq_error
    (refused : ¬ ∃ definition, program.Accepts name value definition) (machine : Machine) :
    ∃ defect, applyGlobal program name value machine = .error (.snapshot defect) machine := by
  unfold applyGlobal
  cases known : (program.findGlobal? name).filter Definition.isPersistent with
  | none => exact ⟨_, rfl⟩
  | some definition =>
    obtain ⟨found, persistent⟩ := Option.filter_eq_some_iff.mp known
    dsimp only
    rw [Action.bind_apply]
    by_cases typed : definition.type? = some value.type
    · obtain ⟨defect, failed⟩ := slotsOf_eq_error
        (fun resolves => refused ⟨definition, found, persistent, typed, resolves⟩) machine
      rw [slotsFor_eq typed, failed]
      exact ⟨defect, rfl⟩
    · obtain ⟨defect, thrown⟩ := @slotsFor_eq_throw program name value definition typed
      rw [thrown]
      exact ⟨defect, rfl⟩

/-- Only values that can be given are given. -/
theorem accepts_of_applyGlobal (given : applyGlobal program name value machine = .ok () after) :
    ∃ definition, program.Accepts name value definition := by
  refine Classical.byContradiction fun refused => ?_
  obtain ⟨defect, failed⟩ := applyGlobal_eq_error refused machine
  rw [failed] at given
  cases given

/-- A value that can be given lies inside the globals. -/
theorem covers_of_accepts (accepts : program.Accepts name value definition)
    (fits : program.DefinitionsFit) (sized : machine.globals.size = program.globals.size) :
    machine.globals.Covers definition.start value.type.width := by
  have inside := fits definition (Program.findGlobal?_some accepts.found).1
  rwa [Definition.width, accepts.typed, Option.map_some, Option.getD_some, ← sized] at inside

/-- Giving a value writes the slots of its global, and adds a string at most. -/
theorem applyGlobal_eq_ok (accepts : program.Accepts name value definition)
    (fits : program.DefinitionsFit) (sized : machine.globals.size = program.globals.size) :
    ∃ slots strings, slotsOf program value machine = .ok slots { machine with strings } ∧
      slots.length = value.type.width ∧ machine.strings.Grows strings ∧
        applyGlobal program name value machine = .ok ()
          { machine with
            strings
            globals := ⟨machine.globals.slots.put definition.start slots⟩ } := by
  obtain ⟨slots, strings, made, length, grows⟩ := slotsOf_eq_ok accepts.resolves machine
  refine ⟨slots, strings, made, length, grows, ?_⟩
  have covers : machine.globals.Covers definition.start slots.length :=
    length ▸ covers_of_accepts accepts fits sized
  rw [applyGlobal_eq accepts, Action.bind_apply, made]
  unfold Action.changeGlobals
  dsimp only
  rw [Globals.write_eq_ok_iff.mpr ⟨covers, rfl⟩]

/-! ### Applying a snapshot -/

/-- Entries are all applied exactly if each of them can be given. -/
theorem forM_applyGlobal_iff (fits : program.DefinitionsFit)
    {entries : List (String × SavedValue)}
    (sized : machine.globals.size = program.globals.size) :
    (∃ after, (entries.forM fun (name, value) => applyGlobal program name value) machine =
        .ok () after) ↔
      ∀ name value, (name, value) ∈ entries →
        ∃ definition, program.Accepts name value definition := by
  induction entries generalizing machine with
  | nil => exact iff_of_true ⟨machine, rfl⟩ nofun
  | cons entry rest inductionHypothesis =>
    obtain ⟨name, value⟩ := entry
    simp only [Action.forM_cons_apply]
    constructor
    · rintro ⟨after, applied⟩ other held member
      cases given : applyGlobal program name value machine with
      | error fault middle =>
        rw [given] at applied
        cases applied
      | ok _ middle =>
        rw [given] at applied
        obtain ⟨definition, accepts⟩ := accepts_of_applyGlobal given
        rcases List.mem_cons.mp member with same | later
        · cases same
          exact ⟨definition, accepts⟩
        · obtain ⟨slots, strings, -, -, -, known⟩ := applyGlobal_eq_ok accepts fits sized
          obtain ⟨-, rfl⟩ := EStateM.Result.ok.inj (given.symm.trans known)
          refine (inductionHypothesis ?_).mp ⟨after, applied⟩ other held later
          exact (Cells.size_put _ _ _).trans sized
    · intro all
      obtain ⟨definition, accepts⟩ := all name value List.mem_cons_self
      obtain ⟨slots, strings, -, -, -, given⟩ := applyGlobal_eq_ok accepts fits sized
      rw [given]
      refine (inductionHypothesis ?_).mpr fun other held member =>
        all other held (List.mem_cons_of_mem _ member)
      exact (Cells.size_put _ _ _).trans sized

/-- A value that was read has the type that it was read as. -/
theorem type_of_valueOf {strings : StringHeap} {type : ValueType} {slots : List Slot}
    (read : valueOf program strings type slots = .ok value) : value.type = type := by
  cases type with
  | float | vector | entity | function =>
    cases read
    rfl
  | string =>
    obtain ⟨text, -, same⟩ := Except.bind_eq_ok_iff.mp read
    cases same
    rfl
  | void | field | pointer | integer | unsigned | longInteger | longUnsigned | double => cases read

/-- A value that was read names no function, or one that the program has. -/
theorem resolves_of_valueOf {strings : StringHeap} {type : ValueType} {slots : List Slot}
    (read : valueOf program strings type slots = .ok value) : value.Resolves program := by
  cases type with
  | float | vector | entity =>
    cases read
    exact trivial
  | function =>
    cases read
    exact program.exists_findFunction? _
  | string =>
    obtain ⟨text, -, same⟩ := Except.bind_eq_ok_iff.mp read
    cases same
    exact trivial
  | void | field | pointer | integer | unsigned | longInteger | longUnsigned | double => cases read

variable {image : Array UInt8} {expectation : Image.Expectation} {snapshot : Snapshot}

/-- A machine accepts the snapshot that was taken of it exactly if, of each name that the snapshot
holds, the first definition is persistent and has the type of the last saved one. -/
theorem applyToGlobals_ofGlobals_iff (loads : Image.load image expectation = .ok program)
    (sized : machine.globals.size = program.globals.size)
    (taken : ofGlobals program machine = .ok snapshot) :
    (∃ after, applyToGlobals program snapshot machine = .ok () after) ↔
      ∀ name global, program.lastSaved? name = some global →
        ∃ first, program.findGlobal? name = some first ∧ first.isPersistent = true ∧
          first.type? = some global.type := by
  unfold applyToGlobals
  rw [forM_applyGlobal_iff (Image.definitionsFit_of_load loads) sized]
  constructor
  · intro accepted name global last
    obtain ⟨value, read, member⟩ := exists_mem_ofGlobals taken last
    obtain ⟨slots, -, known⟩ := Except.bind_eq_ok_iff.mp read
    obtain ⟨first, accepts⟩ := accepted name value member
    exact ⟨first, accepts.found, accepts.persistent, type_of_valueOf known ▸ accepts.typed⟩
  · intro agree name value member
    obtain ⟨global, last, read⟩ := (mem_ofGlobals_iff taken).mp member
    obtain ⟨slots, -, known⟩ := Except.bind_eq_ok_iff.mp read
    obtain ⟨first, found, persistent, typed⟩ := agree name global last
    exact ⟨first, found, persistent, type_of_valueOf known ▸ typed, resolves_of_valueOf known⟩

end Snapshot

namespace Repeated

/-- A program with two floats that have the name `x`. Of the first one only the tag is not given,
and the second one is persistent. -/
def program (tag : UInt16) : Program :=
  { header :=
      { version := 6
        checksum := 0
        statements := ⟨60, 0⟩
        globalDefinitions := ⟨60, 2⟩
        fieldDefinitions := ⟨76, 0⟩
        functions := ⟨76, 0⟩
        strings := ⟨76, 3⟩
        globals := ⟨79, 30⟩
        entityFields := 0 }
    statements := #[]
    globalDefinitions := #[⟨tag, 28, 1⟩, ⟨0x8002, 29, 1⟩]
    fieldDefinitions := #[]
    functions := #[]
    strings := #[0, 0x78, 0]
    globals := Array.replicate 29 0 ++ #[0x3F800000]
    entityFields := 0 }

def machine (tag : UInt16) : Machine :=
  .create (program tag) .standard

theorem loaded {tag : UInt16} (float : tag = 2 ∨ tag = 0x8002) :
    Image.load (Image.save (program tag)) .none = .ok (program tag) := by
  rcases float with rfl | rfl <;>
    exact Image.load_save_of_check (by decide +kernel) (by decide) (by decide)

/-- A snapshot holds the second float, whether the first one is persistent or not. -/
theorem taken {tag : UInt16} (float : tag = 2 ∨ tag = 0x8002) :
    Snapshot.ofGlobals (program tag) (machine tag) = .ok ⟨[("x", .float 0x3F800000)]⟩ := by
  refine Except.eq_ok_of_toOption ?_
  rcases float with rfl | rfl <;> decide

end Repeated

namespace Snapshot

/-- If both definitions are persistent, the machine accepts its snapshot. -/
theorem applyToGlobals_ofGlobals_iff_repeated :
    Image.load (Image.save (Repeated.program 0x8002)) .none = .ok (Repeated.program 0x8002) ∧
      (Repeated.machine 0x8002).globals.size = (Repeated.program 0x8002).globals.size ∧
      ofGlobals (Repeated.program 0x8002) (Repeated.machine 0x8002) =
        .ok ⟨[("x", .float 0x3F800000)]⟩ ∧
      ∃ after, applyToGlobals (Repeated.program 0x8002) ⟨[("x", .float 0x3F800000)]⟩
        (Repeated.machine 0x8002) = .ok () after := by
  have alike : ∀ definition ∈ (Repeated.program 0x8002).globalDefinitions,
      (Repeated.program 0x8002).nameText definition.name = "x" ∧
        definition.type? = some .float := by
    decide
  have loaded := Repeated.loaded (.inr rfl)
  have taken := Repeated.taken (.inr rfl)
  refine ⟨loaded, rfl, taken, ?_⟩
  refine (applyToGlobals_ofGlobals_iff loaded rfl taken).mpr fun name global last => ?_
  obtain ⟨saves, rfl⟩ := Program.lastSaved?_some last
  obtain ⟨named, typed⟩ := alike _ saves.mem
  have first : (Repeated.program 0x8002).findGlobal? "x" = some ⟨0x8002, 28, 1⟩ := by
    decide
  rw [← saves.name_eq, named, ← saves.type_eq, typed]
  exact ⟨_, first, by decide, by decide⟩

/-- If only the second definition is persistent, the machine refuses the snapshot that was taken of
it. -/
theorem own_snapshot_refused :
    Image.load (Image.save (Repeated.program 2)) .none = .ok (Repeated.program 2) ∧
      ∃ snapshot, ofGlobals (Repeated.program 2) (Repeated.machine 2) = .ok snapshot ∧
        applyToGlobals (Repeated.program 2) snapshot (Repeated.machine 2) =
          .error (.snapshot (.notPersistent "x")) (Repeated.machine 2) := by
  refine ⟨Repeated.loaded (.inl rfl), _, Repeated.taken (.inl rfl), ?_⟩
  have first : ((Repeated.program 2).findGlobal? "x").filter Definition.isPersistent = none := by
    decide
  unfold applyToGlobals
  rw [Action.forM_cons_apply]
  dsimp only
  unfold applyGlobal
  rw [first]
  rfl

end Snapshot

end Gamecode
