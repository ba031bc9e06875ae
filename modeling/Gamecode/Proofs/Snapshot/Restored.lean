/-
This file takes the globals of one machine to another one. A saved global that holds no reference is
copied: whatever is written for it is what its slots held in the machine that the snapshot was taken
of. So saved globals may overlap, as the components of a vector do with the vector, and each of them
still holds its value when all entries were applied. Strings and functions are other references in
the machine that takes them, but they name the same texts and functions, and they keep their slots
for themselves. A text that begins beyond `2 ^ 31` is out of the reach of a slot, so the snapshot is
taken again only from a table that ends before.
-/

import Gamecode.Proofs.Snapshot.Accepted
import Gamecode.Proofs.Storage.Interned
import Gamecode.Proofs.Storage.Temporaries
import Gamecode.Proofs.Text.Encoding

namespace Gamecode

/-! ### Saved globals and their slots -/

namespace SavedGlobal

/-- The slots of a saved global. -/
def Covers (global : SavedGlobal) (slot : Nat) : Prop :=
  global.definition.start ≤ slot ∧ slot < global.definition.start + global.type.width

/-- Strings and functions are held by reference. -/
def IsReference (global : SavedGlobal) : Prop :=
  global.type = .string ∨ global.type = .function

/-- A machine holds a value that was read in another one: a string or a function by some reference
to it, and anything else in the same slots. -/
def Holds (program : Program) (source machine : Machine) (global : SavedGlobal) :
    SavedValue → Prop
  | .string text => ∃ place : Nat,
      machine.globals.slots[global.definition.start]? = some (Slot.ofSigned place) ∧
        machine.strings.Stands place (Text.encode text)
  | .function name => ∃ function,
      machine.globals.slots[global.definition.start]? = some function ∧
        program.functionName function.toNat = name
  | .float _ | .vector _ | .entity _ => ∀ slot, global.Covers slot →
      machine.globals.slots[slot]? = source.globals.slots[slot]?

variable {program : Program} {source machine after : Machine} {global other : SavedGlobal}
  {value : SavedValue}

theorem covers_start (global : SavedGlobal) : global.Covers global.definition.start :=
  ⟨Nat.le_refl _, Nat.lt_add_of_pos_right global.type.width_pos⟩

theorem read_eq_ok_iff :
    global.read program machine = .ok value ↔
      machine.globals.Covers global.definition.start global.type.width ∧
        Snapshot.valueOf program machine.strings global.type
          (machine.globals.slots.window global.definition.start global.type.width) = .ok value := by
  unfold read Globals.slice
  rw [Except.bind_eq_ok_iff]
  constructor
  · rintro ⟨slots, taken, read⟩
    split at taken
    · next covers =>
      cases taken
      exact ⟨covers, read⟩
    · cases taken
  · rintro ⟨covers, read⟩
    exact ⟨_, if_pos covers, read⟩

/-- A value is held as long as nothing is written to its slots. -/
theorem Holds.of_same (holds : global.Holds program source machine value)
    (same : ∀ slot, global.Covers slot →
      after.globals.slots[slot]? = machine.globals.slots[slot]?)
    (grows : machine.strings.Grows after.strings) : global.Holds program source after value := by
  have start := same _ global.covers_start
  cases value with
  | string text =>
    obtain ⟨place, slot, stands⟩ := holds
    exact ⟨place, start.trans slot, stands.grows grows⟩
  | function name =>
    obtain ⟨function, slot, named⟩ := holds
    exact ⟨function, start.trans slot, named⟩
  | float | vector | entity => exact fun slot covers => (same slot covers).trans (holds slot covers)

/-- A value that is no reference is held by the slots that it was read from. -/
theorem holds_iff_of_plain (held : global.read program source = .ok value)
    (plain : ¬ global.IsReference) :
    global.Holds program source machine value ↔ ∀ slot, global.Covers slot →
      machine.globals.slots[slot]? = source.globals.slots[slot]? := by
  have typed := Snapshot.type_of_valueOf (read_eq_ok_iff.mp held).2
  cases value with
  | string => exact absurd (.inl typed.symm) plain
  | function => exact absurd (.inr typed.symm) plain
  | float | vector | entity => exact Iff.rfl

/-- A value that is held is read as it was. Only of references past `2 ^ 31` nothing can be said,
since a slot has no room for them. -/
theorem Holds.read (holds : global.Holds program source machine value)
    (held : global.read program source = .ok value)
    (covers : machine.globals.Covers global.definition.start global.type.width)
    (room : machine.strings.table.size ≤ 0x80000000) :
    global.read program machine = .ok value := by
  obtain ⟨-, known⟩ := read_eq_ok_iff.mp held
  have typed := Snapshot.type_of_valueOf known
  refine read_eq_ok_iff.mpr ⟨covers, ?_⟩
  cases value with
  | string text =>
    obtain ⟨place, slot, stands⟩ := holds
    have small := stands.ended
    have reference : Slot.signed (Slot.ofSigned place) = place :=
      Slot.signed_ofSigned (by omega) (by omega)
    have text : machine.strings.getText (Slot.signed (Slot.ofSigned place)) = .ok text := by
      rw [reference, StringHeap.getText, stands.get]
      exact congrArg Except.ok (Text.decode_encode text)
    rw [← typed]
    change Snapshot.valueOf _ _ _ (machine.globals.slots.window _ 1) = _
    rw [Cells.window_one slot]
    exact congrArg (SavedValue.string <$> ·) text
  | function name =>
    obtain ⟨function, slot, named⟩ := holds
    rw [← typed]
    change Snapshot.valueOf _ _ _ (machine.globals.slots.window _ 1) = _
    rw [Cells.window_one slot]
    exact congrArg (Except.ok ∘ SavedValue.function) named
  | float | vector | entity =>
    have same : machine.globals.slots.window global.definition.start global.type.width =
        source.globals.slots.window global.definition.start global.type.width :=
      Cells.window_congr fun index inside => holds _ ⟨Nat.le_add_right _ _, by omega⟩
    rw [same]
    rw [← typed] at known ⊢
    exact known

end SavedGlobal

/-! ### Programs whose globals can be restored -/

/-- What a program fulfils whose globals can be taken from one machine to another one: references
that name nothing are zero, every saved global is the first one of its name, and those that hold
references have their slots for themselves. -/
structure Program.Restorable (program : Program) : Prop where
  empty : program.strings[0]? = some 0
  unnamed : program.functionName 0 = ""
  found : ∀ global, program.Saves global →
    program.findGlobal? global.name = some global.definition
  apart : ∀ global other, program.Saves global → program.Saves other → global.IsReference →
    other.definition ≠ global.definition → ∀ slot, global.Covers slot → ¬ other.Covers slot

theorem Program.Restorable.eq_of_name {program : Program} (restorable : program.Restorable)
    {global other : SavedGlobal} (saves : program.Saves global) (saved : program.Saves other)
    (same : other.name = global.name) : other = global := by
  refine saves.eq_of_definition saved (Option.some.inj ?_)
  rw [← restorable.found _ saved, same, restorable.found _ saves]

/-- A program has fewer functions than a reference can count. -/
theorem Image.functions_lt_of_load {image : Array UInt8} {expectation : Expectation}
    {program : Program} (loaded : load image expectation = .ok program) :
    program.functions.size < 0x80000000 := by
  obtain ⟨-, rfl⟩ := wellFormed_of_load loaded
  have bound : Table.functions.count image < 0x80000000 := signedAt_lt image _
  have size : (described image).functions.size = (Table.functions.count image).toNat :=
    Table.functions.size_rows image _
  omega

/-- A saved value is a text without NUL, or no text. -/
def SavedValue.Visible : SavedValue → Prop
  | .string text => '\x00' ∉ text.toList
  | .float _ | .vector _ | .entity _ | .function _ => True

instance : (value : SavedValue) → Decidable value.Visible
  | .string _ => inferInstanceAs (Decidable (¬ _))
  | .float _ | .vector _ | .entity _ | .function _ => .isTrue trivial

namespace Snapshot

/-! ### Machines that globals are restored in -/

/-- A machine has the globals of a program, and its strings name what they were added for. -/
structure Target (program : Program) (machine : Machine) : Prop where
  size : machine.globals.size = program.globals.size
  faithful : machine.strings.Faithful
  empty : machine.strings.Stands 0 []

/-- Only globals and strings differ, as many globals are there, and strings were added at most. -/
structure Moved (before after : Machine) : Prop where
  rest : after = { before with globals := after.globals, strings := after.strings }
  size : after.globals.size = before.globals.size
  grows : before.strings.Grows after.strings

variable {program : Program} {source machine middle after : Machine} {global other : SavedGlobal}
  {value : SavedValue}

theorem Moved.trans (first : Moved machine middle) (second : Moved middle after) :
    Moved machine after where
  rest := by
    rw [second.rest, first.rest]
  size := second.size.trans first.size
  grows := first.grows.trans second.grows

theorem Moved.target (moved : Moved machine after) (target : Target program machine) :
    Target program after :=
  ⟨moved.size.trans target.size, moved.grows.faithful target.faithful,
    target.empty.grows moved.grows⟩

/-! ### Restoring one global -/

/-- The slots of a value without references are those that it was read from. -/
theorem slotsOf_of_valueOf {strings : StringHeap} {type : ValueType} {slots : List Slot}
    (known : valueOf program strings type slots = .ok value) (length : slots.length = type.width)
    (plain : ¬ (type = .string ∨ type = .function)) (machine : Machine) :
    slotsOf program value machine = .ok slots machine := by
  cases type with
  | float =>
    obtain ⟨first, rfl⟩ := List.length_eq_one_iff.mp length
    cases known
    rfl
  | vector =>
    match slots, length, known with
    | [_, _, _], _, rfl => rfl
  | entity =>
    obtain ⟨first, rfl⟩ := List.length_eq_one_iff.mp length
    cases known
    change EStateM.Result.ok [Slot.ofSigned (Slot.signed first)] machine = _
    rw [Slot.ofSigned_signed]
  | string => exact absurd (.inl rfl) plain
  | function => exact absurd (.inr rfl) plain
  | void | field | pointer | integer | unsigned | longInteger | longUnsigned | double => cases known

/-- A value that was read from a saved global is accepted for it. -/
theorem accepts_of_read (restorable : program.Restorable) (saves : program.Saves global)
    (held : global.read program source = .ok value) :
    program.Accepts global.name value global.definition := by
  obtain ⟨-, known⟩ := SavedGlobal.read_eq_ok_iff.mp held
  exact ⟨restorable.found _ saves, saves.persistent, type_of_valueOf known ▸ saves.type_eq,
    resolves_of_valueOf known⟩

section Written

variable {slots : List Slot} (written : ∀ index < slots.length,
  after.globals.slots[global.definition.start + index]? = slots[index]?)

include written

/-- The reference to a text that was made for it names the text. -/
theorem holds_string {text : String} (target : Target program machine)
    (visible : '\x00' ∉ text.toList)
    (made : slotsOf program (.string text) machine =
      .ok slots { machine with strings := after.strings }) :
    global.Holds program source after (.string text) := by
  obtain ⟨place, reference, stands⟩ := target.faithful.stands_intern target.empty
    fun byte member => Text.ne_zero_of_mem_encode visible member
  obtain ⟨rfl, machines⟩ := EStateM.Result.ok.inj made
  have strings : (machine.strings.intern (Text.encode text)).2 = after.strings :=
    congrArg Machine.strings machines
  refine ⟨place, (written 0 Nat.one_pos).trans ?_, strings ▸ stands⟩
  rw [← Slot.ofSigned_wrap place, ← reference]
  rfl

/-- The number of a function that was found by its name is one of a function with that name. -/
theorem holds_function {name : String} (unnamed : program.functionName 0 = "")
    (few : program.functions.size < 0x80000000)
    (made : slotsOf program (.function name) machine =
      .ok slots { machine with strings := after.strings }) :
    global.Holds program source after (.function name) := by
  unfold slotsOf at made
  dsimp only at made
  split at made
  · next empty =>
    obtain ⟨rfl, -⟩ := EStateM.Result.ok.inj made
    exact ⟨0, written 0 Nat.one_pos, unnamed.trans empty.symm⟩
  cases found : program.findFunction? name with
  | none =>
    rw [found] at made
    cases made
  | some function =>
    rw [found] at made
    obtain ⟨rfl, -⟩ := EStateM.Result.ok.inj made
    obtain ⟨named, bound⟩ := Program.findFunction?_some found
    have same : (UInt32.ofNat function).toNat = function := by
      rw [UInt32.toNat_ofNat']
      exact Nat.mod_eq_of_lt (by omega)
    exact ⟨UInt32.ofNat function, written 0 Nat.one_pos, same.symm ▸ named⟩

/-- A value without references is written as it was read. -/
theorem holds_plain (held : global.read program source = .ok value)
    (plain : ¬ global.IsReference)
    (made : slotsOf program value machine = .ok slots { machine with strings := after.strings }) :
    global.Holds program source after value := by
  obtain ⟨inside, known⟩ := SavedGlobal.read_eq_ok_iff.mp held
  have length : (source.globals.slots.window global.definition.start global.type.width).length =
      global.type.width := by
    rw [Cells.length_window]
    unfold Globals.Covers Globals.size at inside
    omega
  obtain ⟨rfl, -⟩ := EStateM.Result.ok.inj
    (made.symm.trans (slotsOf_of_valueOf known length plain machine))
  refine (SavedGlobal.holds_iff_of_plain held plain).mpr fun slot covers => ?_
  obtain ⟨index, rfl⟩ := Nat.exists_eq_add_of_le covers.1
  have bound : index < global.type.width := Nat.lt_of_add_lt_add_left covers.2
  rw [written index (Nat.lt_of_lt_of_eq bound length.symm),
    Cells.getElem?_window _ _ _ _ bound]

/-- What is written for a value that was read is held where it was written. -/
theorem holds_of_slotsOf (restorable : program.Restorable)
    (few : program.functions.size < 0x80000000) (target : Target program machine)
    (held : global.read program source = .ok value) (visible : value.Visible)
    (made : slotsOf program value machine = .ok slots { machine with strings := after.strings }) :
    global.Holds program source after value := by
  have typed := type_of_valueOf (SavedGlobal.read_eq_ok_iff.mp held).2
  by_cases reference : global.IsReference
  · rw [SavedGlobal.IsReference, ← typed] at reference
    cases value with
    | string text => exact holds_string written target visible made
    | function name => exact holds_function written restorable.unnamed few made
    | float | vector | entity => rcases reference with same | same <;> cases same
  · exact holds_plain written held reference made

end Written

/-- Giving a saved global the value that was read in another machine changes no other slot, and the
global holds the value afterwards. -/
theorem applyGlobal_restores (restorable : program.Restorable) (fits : program.DefinitionsFit)
    (few : program.functions.size < 0x80000000) (target : Target program machine)
    (saves : program.Saves global) (held : global.read program source = .ok value)
    (visible : value.Visible) :
    ∃ after, applyGlobal program global.name value machine = .ok () after ∧ Moved machine after ∧
      (∀ slot, ¬ global.Covers slot →
        after.globals.slots[slot]? = machine.globals.slots[slot]?) ∧
      global.Holds program source after value := by
  have accepts := accepts_of_read restorable saves held
  obtain ⟨slots, strings, made, length, grows, given⟩ :=
    applyGlobal_eq_ok accepts fits target.size
  have typed := type_of_valueOf (SavedGlobal.read_eq_ok_iff.mp held).2
  rw [typed] at length
  refine ⟨_, given, ⟨rfl, Cells.size_put _ _ _, grows⟩, fun slot outside => ?_, ?_⟩
  · refine Cells.getElem?_put_other _ _ _ _ ?_
    unfold SavedGlobal.Covers at outside
    omega
  · refine holds_of_slotsOf (fun index inside => ?_) restorable few target held visible made
    refine Cells.getElem?_put_self _ _ _ _ inside ?_
    rw [length, ← typed]
    exact covers_of_accepts accepts fits target.size

/-- Restoring one saved global keeps what all others hold. Two that overlap hold no references, and
hold what the same slots held where they were read. -/
theorem holds_of_restored (restorable : program.Restorable) (saves : program.Saves global)
    (saved : program.Saves other) {kept : SavedValue}
    (held : global.read program source = .ok value)
    (keptHeld : other.read program source = .ok kept) (grows : machine.strings.Grows after.strings)
    (outside : ∀ slot, ¬ global.Covers slot →
      after.globals.slots[slot]? = machine.globals.slots[slot]?)
    (restored : global.Holds program source after value)
    (holds : other.Holds program source machine kept) : other.Holds program source after kept := by
  by_cases same : other.definition = global.definition
  · obtain rfl := saves.eq_of_definition saved same
    obtain rfl := Except.ok.inj (held.symm.trans keptHeld)
    exact restored
  by_cases references : global.IsReference ∨ other.IsReference
  · refine holds.of_same (fun slot covers => outside slot fun covered => ?_) grows
    rcases references with reference | reference
    · exact restorable.apart global other saves saved reference same slot covered covers
    · exact restorable.apart other global saved saves reference (Ne.symm same) slot covers covered
  -- Neither holds a reference, so both hold what the source has in the slots that they share.
  have copied := (SavedGlobal.holds_iff_of_plain held (mt .inl references)).mp restored
  have keptCopied := (SavedGlobal.holds_iff_of_plain keptHeld (mt .inr references)).mp holds
  refine (SavedGlobal.holds_iff_of_plain keptHeld (mt .inr references)).mpr fun slot covers => ?_
  by_cases covered : global.Covers slot
  · exact copied slot covered
  · exact (outside slot covered).trans (keptCopied slot covers)

/-! ### Restoring all of them -/

/-- What applying entries that were read in another machine does. Besides the saved globals nothing
changes but the strings, and every saved global that has an entry, or held its value before, holds
its value afterwards. -/
structure Applied (program : Program) (source before after : Machine)
    (entries : List (String × SavedValue)) : Prop extends Moved before after where
  kept : ∀ slot, (∀ global, program.Saves global → ¬ global.Covers slot) →
    after.globals.slots[slot]? = before.globals.slots[slot]?
  holds : ∀ global value, program.Saves global → global.read program source = .ok value →
    (global.name, value) ∈ entries ∨ global.Holds program source before value →
      global.Holds program source after value

theorem forM_applyGlobal_restores (restorable : program.Restorable)
    (fits : program.DefinitionsFit) (few : program.functions.size < 0x80000000)
    {entries : List (String × SavedValue)}
    (each : ∀ name value, (name, value) ∈ entries → ∃ global, program.Saves global ∧
      global.name = name ∧ global.read program source = .ok value ∧ value.Visible)
    (target : Target program machine) :
    ∃ after, (entries.forM fun (name, value) => applyGlobal program name value) machine =
      .ok () after ∧ Applied program source machine after entries := by
  induction entries generalizing machine with
  | nil =>
    refine ⟨machine, rfl, ⟨rfl, rfl, .same⟩, fun _ _ => rfl, fun global value _ _ held => ?_⟩
    exact held.resolve_left List.not_mem_nil
  | cons entry rest inductionHypothesis =>
    obtain ⟨name, value⟩ := entry
    obtain ⟨global, saves, rfl, held, visible⟩ := each name value List.mem_cons_self
    obtain ⟨middle, given, moved, outside, restored⟩ :=
      applyGlobal_restores restorable fits few target saves held visible
    obtain ⟨after, applied, rests⟩ := inductionHypothesis
      (fun name value member => each name value (List.mem_cons_of_mem _ member))
      (moved.target target)
    refine ⟨after, ?_, moved.trans rests.toMoved, fun slot uncovered => ?_, ?_⟩
    · rw [Action.forM_cons_apply]
      dsimp only
      rw [given]
      exact applied
    · exact (rests.kept slot uncovered).trans (outside slot (uncovered global saves))
    · intro other kept saved keptHeld known
      refine rests.holds other kept saved keptHeld ?_
      rcases known with member | holds
      · rcases List.mem_cons.mp member with same | later
        · obtain ⟨sameName, rfl⟩ := Prod.mk.inj same
          obtain rfl := restorable.eq_of_name saves saved sameName
          exact .inr restored
        · exact .inl later
      · exact .inr (holds_of_restored restorable saves saved held keptHeld moved.grows outside
          restored holds)

/-- The machines have the same temporaries. -/
def SameRing (before after : Machine) : Prop :=
  after.strings.ring = before.strings.ring

instance : IsPreorder Machine SameRing where
  refl _ := rfl
  trans _ _ _ first second := Eq.trans second first

instance : Machine.AllowsCalls SameRing where
  globals _ := rfl
  entities _ := rfl
  stack _ _ _ := rfl
  profiled _ _ := rfl
  noted _ _ _ _ _ _ := rfl

/-- A snapshot adds no temporaries. -/
theorem sameRing_applyToGlobals {snapshot : Snapshot}
    (applied : applyToGlobals program snapshot machine = .ok () after) : SameRing machine after :=
  (Machine.keeps_applyToGlobals (fun machine _ => (machine.strings.ring_intern _).1) program
    snapshot).ok applied

/-- What it means that a machine was given the globals of another one. Every saved global holds its
value, and those without references are copies. The snapshot of the machine is the same, if slots
have room for the references to all of its strings. Nothing else changed, and no string did. -/
structure Restores (program : Program) (source target after : Machine) (snapshot : Snapshot) :
    Prop where
  holds : ∀ global value, program.Saves global → (global.name, value) ∈ snapshot.entries →
    global.Holds program source after value
  again : after.strings.table.size ≤ 0x80000000 → ofGlobals program after = .ok snapshot
  copied : ∀ global, program.Saves global → ¬ global.IsReference → ∀ slot, global.Covers slot →
    after.globals.slots[slot]? = source.globals.slots[slot]?
  kept : ∀ slot, (∀ global, program.Saves global → ¬ global.Covers slot) →
    after.globals.slots[slot]? = target.globals.slots[slot]?
  interned : ∀ text reference, (text, reference) ∈ target.strings.interned →
    after.strings.get reference = target.strings.get reference ∧
      (target.strings.table.size ≤ 0x80000000 →
        target.strings.get reference = .ok (StringHeap.terminated text))
  rest : after = { target with globals := after.globals, strings := after.strings }

variable {target : Machine} {snapshot : Snapshot}

/-- A machine is given all globals that were read in another one. -/
theorem restores_of_target (restorable : program.Restorable) (fits : program.DefinitionsFit)
    (few : program.functions.size < 0x80000000) (receives : Target program target)
    (taken : ofGlobals program source = .ok snapshot)
    (visible : ∀ name value, (name, value) ∈ snapshot.entries → value.Visible) :
    ∃ after, applyToGlobals program snapshot target = .ok () after ∧
      Restores program source target after snapshot := by
  have each (name : String) (value : SavedValue) (member : (name, value) ∈ snapshot.entries) :
      ∃ global, program.Saves global ∧ global.name = name ∧
        global.read program source = .ok value ∧ value.Visible := by
    obtain ⟨global, last, held⟩ := (mem_ofGlobals_iff taken).mp member
    obtain ⟨saves, named⟩ := Program.lastSaved?_some last
    exact ⟨global, saves, named, held, visible name value member⟩
  have entry (global : SavedGlobal) (saves : program.Saves global) :
      ∃ value, global.read program source = .ok value ∧
        (global.name, value) ∈ snapshot.entries := by
    obtain ⟨last, found⟩ := Program.exists_lastSaved? saves
    obtain ⟨saved, named⟩ := Program.lastSaved?_some found
    obtain rfl := restorable.eq_of_name saves saved named
    exact exists_mem_ofGlobals taken found
  obtain ⟨after, applied, moved⟩ :=
    forM_applyGlobal_restores restorable fits few each receives
  have holds (global : SavedGlobal) (value : SavedValue) (saves : program.Saves global)
      (member : (global.name, value) ∈ snapshot.entries) :
      global.Holds program source after value := by
    obtain ⟨known, saved, named, held, -⟩ := each _ _ member
    obtain rfl := restorable.eq_of_name saves saved named
    exact moved.holds known value saves held (.inl member)
  refine ⟨after, applied, holds, fun room => ?_, fun global saves plain => ?_, moved.kept,
    fun text reference member => ?_, moved.rest⟩
  · refine (ofGlobals_congr fun global saves => ?_).trans taken
    obtain ⟨value, held, member⟩ := entry global saves
    have covers := covers_of_accepts (accepts_of_read restorable saves held) fits
      (moved.target receives).size
    rw [type_of_valueOf (SavedGlobal.read_eq_ok_iff.mp held).2] at covers
    rw [held]
    exact (holds global value saves member).read held covers room
  · obtain ⟨value, held, member⟩ := entry global saves
    exact (SavedGlobal.holds_iff_of_plain held plain).mp (holds global value saves member)
  · obtain ⟨place, -, rfl, stands⟩ := receives.faithful.placed text reference member
    refine ⟨stands.get_wrap moved.grows (sameRing_applyToGlobals applied), fun short => ?_⟩
    have ended := stands.ended
    rw [Slot.wrap_natCast (by omega)]
    exact stands.get

/-! ### Machines that a host comes to -/

/-- The strings of a machine that a host comes to name what they were added for. -/
theorem target_of_arises {environment : Environment}
    (respects : environment.builtins.Respects Machine.StringsGrow environment.program)
    (starts : environment.program.strings[0]? = some 0)
    (arises : target.Arises environment)
    (sized : target.globals.size = environment.program.globals.size) :
    Target environment.program target := by
  have grows := arises.grows respects
  exact ⟨sized, grows.faithful (StringHeap.faithful_create _ _),
    (StringHeap.stands_create starts _).grows grows⟩

variable {image : Array UInt8} {expectation : Image.Expectation} {environment : Environment}

/-- A machine that a host comes to is given the globals of any machine of the same program. -/
theorem applyToGlobals_restores
    (loads : Image.load image expectation = .ok environment.program)
    (restorable : environment.program.Restorable)
    (respects : environment.builtins.Respects Machine.StringsGrow environment.program)
    (arises : target.Arises environment)
    (sized : target.globals.size = environment.program.globals.size)
    (taken : ofGlobals environment.program source = .ok snapshot)
    (visible : ∀ name value, (name, value) ∈ snapshot.entries → value.Visible) :
    ∃ after, applyToGlobals environment.program snapshot target = .ok () after ∧
      Restores environment.program source target after snapshot :=
  restores_of_target restorable (Image.definitionsFit_of_load loads)
    (Image.functions_lt_of_load loads) (target_of_arises respects restorable.empty arises sized)
    taken visible

end Snapshot

/-! ### Two machines of one program -/

namespace Traveller

/-- A program with a vector `v` and its component `v_x`, a string `s`, a function `f` and an entity
`e`, all persistent, and with the function `go`. -/
def program : Program :=
  { header :=
      { version := 6
        checksum := 0
        statements := ⟨60, 0⟩
        globalDefinitions := ⟨60, 5⟩
        fieldDefinitions := ⟨100, 0⟩
        functions := ⟨100, 2⟩
        strings := ⟨172, 16⟩
        globals := ⟨188, 34⟩
        entityFields := 0 }
    statements := #[]
    globalDefinitions := #[⟨0x8003, 28, 1⟩, ⟨0x8002, 28, 3⟩, ⟨0x8001, 31, 7⟩, ⟨0x8006, 32, 9⟩,
      ⟨0x8004, 33, 11⟩]
    fieldDefinitions := #[]
    functions := #[⟨-1, 0, 0, 0, 0, 0, [], false⟩, ⟨-2, 0, 0, 0, 13, 0, [], false⟩]
    -- The names are `v`, `v_x`, `s`, `f`, `e` and `go`.
    strings := #[0, 0x76, 0, 0x76, 0x5F, 0x78, 0, 0x73, 0, 0x66, 0, 0x65, 0, 0x67, 0x6F, 0]
    globals := Array.replicate 34 0
    entityFields := 0 }

def environment : Environment :=
  ⟨program, .standard, Builtins.installClassic .empty⟩

/-- A machine whose string `hey` is a temporary. -/
def source : Machine :=
  let machine := Machine.create program .standard
  { machine with
    globals := ⟨Array.replicate 28 0 ++ #[0x3F800000, 0x40000000, 0x40400000, Slot.ofSigned (-1), 1,
      5]⟩
    strings := (machine.strings.addTemporary [0x68, 0x65, 0x79]).2 }

/-- A machine to whose strings its host has added one. -/
def target : Machine :=
  let machine := Machine.create program .standard
  { machine with strings := (machine.strings.intern (Text.encode "abc")).2 }

def snapshot : Snapshot :=
  ⟨[("e", .entity 5), ("f", .function "go"), ("s", .string "hey"),
    ("v", .vector ⟨0x3F800000, 0x40000000, 0x40400000⟩), ("v_x", .float 0x3F800000)]⟩

theorem loaded : Image.load (Image.save program) .none = .ok environment.program :=
  Image.load_save_of_check (by decide +kernel) (by decide) (by decide)

theorem respects :
    environment.builtins.Respects Machine.StringsGrow environment.program :=
  Builtins.respects_installClassic Builtins.respects_empty

theorem restorable : program.Restorable where
  empty := rfl
  unnamed := by decide
  found global saves := by
    have first : ∀ definition ∈ program.globalDefinitions,
        program.findGlobal? (program.nameText definition.name) = some definition := by
      decide
    rw [← saves.name_eq]
    exact first _ saves.mem
  apart global other saves saved reference different slot covers covered := by
    have apart : ∀ definition ∈ program.globalDefinitions, ∀ other ∈ program.globalDefinitions,
        definition.type? = some .string ∨ definition.type? = some .function →
          other ≠ definition → other.start + other.width ≤ definition.start ∨
            definition.start + definition.width ≤ other.start := by
      decide
    have sides := apart _ saves.mem _ saved.mem
      (reference.imp (saves.type_eq.trans <| congrArg some ·)
        (saves.type_eq.trans <| congrArg some ·)) different
    unfold SavedGlobal.Covers at covers covered
    rw [Definition.width, Definition.width, saves.type_eq, saved.type_eq] at sides
    simp only [Option.map_some, Option.getD_some] at sides
    omega

theorem taken : Snapshot.ofGlobals environment.program source = .ok snapshot :=
  Except.eq_ok_of_toOption (by decide)

theorem arises : target.Arises environment := .interned .created "abc"

theorem sized : target.globals.size = environment.program.globals.size := by decide

end Traveller

namespace Snapshot

/-- The vector, its component and the references are all taken over. -/
theorem applyToGlobals_restores_traveller :
    Image.load (Image.save Traveller.program) .none = .ok Traveller.environment.program ∧
      Traveller.environment.program.Restorable ∧
      Traveller.environment.builtins.Respects Machine.StringsGrow Traveller.environment.program ∧
      Traveller.target.Arises Traveller.environment ∧
      Traveller.target.globals.size = Traveller.environment.program.globals.size ∧
      ofGlobals Traveller.environment.program Traveller.source = .ok Traveller.snapshot ∧
      ∃ after, applyToGlobals Traveller.environment.program Traveller.snapshot Traveller.target =
          .ok () after ∧
        Restores Traveller.environment.program Traveller.source Traveller.target after
          Traveller.snapshot := by
  have visible : ∀ entry ∈ Traveller.snapshot.entries, entry.2.Visible := by decide
  refine ⟨Traveller.loaded, Traveller.restorable, Traveller.respects, Traveller.arises,
    Traveller.sized, Traveller.taken, ?_⟩
  exact applyToGlobals_restores Traveller.loaded Traveller.restorable Traveller.respects
    Traveller.arises Traveller.sized Traveller.taken
    fun name value member => visible (name, value) member

end Snapshot

/-! ### Strings beyond what a slot can refer to -/

/-- While nothing was put into the ring, all temporaries read as the empty text. -/
theorem StringHeap.getText_of_blank {heap : StringHeap} {reference : Int}
    (blank : ∀ temporary ∈ heap.ring, temporary.text = []) (negative : reference < 0) :
    heap.getText reference = .ok "" := by
  have read : heap.get reference = .ok [] := by
    unfold StringHeap.get
    rw [isTemporary, decide_eq_true negative, if_pos rfl]
    dsimp only
    split
    · next temporary found => rw [blank temporary (Array.mem_of_getElem? found), ite_self]
    · rfl
  rw [getText, read]
  rfl

namespace Stretched

/-- A program with one global, the persistent string `s`, and an unnamed function. -/
def program : Program :=
  { header :=
      { version := 6
        checksum := 0
        statements := ⟨60, 0⟩
        globalDefinitions := ⟨60, 1⟩
        fieldDefinitions := ⟨68, 0⟩
        functions := ⟨68, 1⟩
        strings := ⟨104, 3⟩
        globals := ⟨107, 29⟩
        entityFields := 0 }
    statements := #[]
    globalDefinitions := #[⟨0x8001, 28, 1⟩]
    fieldDefinitions := #[]
    functions := #[⟨-1, 0, 0, 0, 0, 0, [], false⟩]
    strings := #[0, 0x73, 0]
    globals := Array.replicate 29 0
    entityFields := 0 }

def environment : Environment :=
  ⟨program, .standard, Builtins.installClassic .empty⟩

/-- A machine whose string `hey` is a temporary. -/
def source : Machine :=
  let machine := Machine.create program .standard
  { machine with
    globals := ⟨Array.replicate 28 0 ++ #[Slot.ofSigned (-1)]⟩
    strings := (machine.strings.addTemporary [0x68, 0x65, 0x79]).2 }

/-- A machine to whose strings its host has added a text. -/
def target (text : String) : Machine :=
  let machine := Machine.create program .standard
  { machine with strings := (machine.strings.intern (Text.encode text)).2 }

def snapshot : Snapshot :=
  ⟨[("s", .string "hey")]⟩

theorem loaded : Image.load (Image.save program) .none = .ok environment.program :=
  Image.load_save_of_check (by decide +kernel) (by decide) (by decide)

theorem respects :
    environment.builtins.Respects Machine.StringsGrow environment.program :=
  Builtins.respects_installClassic Builtins.respects_empty

theorem definition_eq {global : SavedGlobal} (saves : program.Saves global) :
    global.definition = ⟨0x8001, 28, 1⟩ :=
  Array.mem_singleton.mp saves.mem

theorem length_encode_replicate (length : Nat) :
    (Text.encode (String.ofList (List.replicate length 'a'))).length = length := by
  have single : String.utf8EncodeChar 'a' = [0x61] := by decide
  rw [Text.encode_eq, String.toList_ofList, List.flatMap_replicate, single,
    List.flatten_replicate_singleton, List.length_replicate]

theorem restorable : program.Restorable where
  empty := rfl
  unnamed := by decide
  found global saves := by
    rw [← saves.name_eq, definition_eq saves]
    decide
  apart global other saves saved _ different :=
    absurd ((definition_eq saved).trans (definition_eq saves).symm) different

theorem source_arises : source.Arises environment :=
  .changed (.stored .created [0x68, 0x65, 0x79]) rfl

theorem target_arises (text : String) : (target text).Arises environment :=
  .interned .created text

theorem taken : Snapshot.ofGlobals environment.program source = .ok snapshot :=
  Except.eq_ok_of_toOption (by decide)

theorem visible (name : String) (value : SavedValue) (member : (name, value) ∈ snapshot.entries) :
    value.Visible := by
  obtain ⟨rfl, rfl⟩ := Prod.mk.inj (List.mem_singleton.mp member)
  decide

/-- The string is accepted, and its global lies at the end of the globals. -/
theorem accepts : program.Accepts "s" (.string "hey") ⟨0x8001, 28, 1⟩ :=
  ⟨by decide, by decide, by decide, trivial⟩

theorem sized (text : String) : (target text).globals.size = environment.program.globals.size := by
  show (Machine.create program .standard).globals.size = _
  decide

section Long

variable {text : String} (long : (Text.encode text).length = 0x80000000)

include long

/-- The strings of the machine end beyond what a slot can refer to, and the long text is the only
one that was added. -/
theorem strings_target :
    (target text).strings.table.size = 0x80000004 ∧
      (target text).strings.interned = [(Text.encode text, Slot.wrap 3)] ∧
      (target text).strings.ring = (Machine.create program .standard).strings.ring := by
  have filled : Text.encode text ≠ [] := fun empty => by
    rw [empty] at long
    cases long
  have missing : (Machine.create program .standard).strings.interned.lookup (Text.encode text) =
      none := rfl
  have short : (Machine.create program .standard).strings.table.size = 3 := by decide
  unfold target
  dsimp only
  rw [StringHeap.intern_of_lookup_none filled missing]
  refine ⟨?_, ?_, rfl⟩
  · show ((Machine.create program .standard).strings.table ++ (Text.encode text).toArray ++
      #[0]).size = _
    rw [Array.size_append, Array.size_append, short, List.size_toArray.trans long]
    rfl
  · rw [short]
    rfl

/-- A text that is added behind the long one gets a reference for a place beyond `2 ^ 31`. -/
theorem reference_intern_target :
    ((target text).strings.intern (Text.encode "hey")).1 = Slot.wrap 0x80000004 := by
  obtain ⟨size, interned, -⟩ := strings_target long
  have bytes : Text.encode "hey" = [0x68, 0x65, 0x79] := by decide +kernel
  have filled : Text.encode "hey" ≠ [] := bytes ▸ List.cons_ne_nil _ _
  have different : Text.encode "hey" ≠ Text.encode text := fun same => by
    rw [← same, bytes] at long
    exact absurd long (by decide)
  have missing : (target text).strings.interned.lookup (Text.encode "hey") = none := by
    rw [interned, List.lookup_cons, beq_false_of_ne different, List.lookup_nil]
  rw [StringHeap.intern_of_lookup_none filled missing, size]
  rfl

/-- That reference comes out negative, and no temporary was ever put into the ring. -/
theorem getText_intern_target :
    ((target text).strings.intern (Text.encode "hey")).2.getText
      (Slot.signed (Slot.ofSigned ((target text).strings.intern (Text.encode "hey")).1)) =
        .ok "" := by
  rw [reference_intern_target long]
  have ring : ((target text).strings.intern (Text.encode "hey")).2.ring =
      (Machine.create program .standard).strings.ring :=
    ((target text).strings.ring_intern _).1.trans (strings_target long).2.2
  have blank : ∀ temporary ∈ ((target text).strings.intern (Text.encode "hey")).2.ring,
      temporary.text = [] := by
    rw [ring]
    intro temporary member
    rw [(Array.mem_replicate.mp member).2]
  exact StringHeap.getText_of_blank blank (by decide)

/-- Once the snapshot was applied, the string reads as the empty text. -/
theorem read_empty_of_applied : ∃ after,
    Snapshot.applyToGlobals program snapshot (target text) = .ok () after ∧
      ∀ global, program.Saves global → global.read program after = .ok (.string "") := by
  obtain ⟨slots, strings, made, -, -, given⟩ :=
    Snapshot.applyGlobal_eq_ok accepts (Image.definitionsFit_of_load loaded) (sized text)
  have added : Snapshot.slotsOf program (.string "hey") (target text) = .ok
      [Slot.ofSigned ((target text).strings.intern (Text.encode "hey")).1]
      { target text with strings := ((target text).strings.intern (Text.encode "hey")).2 } := rfl
  obtain ⟨rfl, machines⟩ := EStateM.Result.ok.inj (added.symm.trans made)
  obtain rfl : ((target text).strings.intern (Text.encode "hey")).2 = strings :=
    congrArg Machine.strings machines
  have single : Snapshot.applyToGlobals program snapshot (target text) =
      Snapshot.applyGlobal program "s" (.string "hey") (target text) := by
    unfold Snapshot.applyToGlobals snapshot
    rw [Action.forM_cons_apply]
    dsimp only
    rw [given]
    rfl
  refine ⟨_, single.trans given, fun global saves => ?_⟩
  have typed : global.type = .string := by
    have type := saves.type_eq
    rw [definition_eq saves] at type
    exact (Option.some.inj type).symm
  have room : 28 + 1 ≤ (target text).globals.slots.size := Nat.le_of_eq (sized text).symm
  refine SavedGlobal.read_eq_ok_iff.mpr ?_
  rw [definition_eq saves, typed]
  refine ⟨Nat.le_trans room (Nat.le_of_eq (Cells.size_put _ _ _).symm), ?_⟩
  have held : ((target text).globals.slots.put 28
      [Slot.ofSigned ((target text).strings.intern (Text.encode "hey")).1]).window 28 1 =
      [Slot.ofSigned ((target text).strings.intern (Text.encode "hey")).1] :=
    Cells.window_put_self rfl room
  refine (congrArg (Snapshot.valueOf program _ .string) held).trans ?_
  exact congrArg (SavedValue.string <$> ·) (getText_intern_target long)

end Long

end Stretched

namespace Snapshot

/-- A text of `2 ^ 31` bytes was added to the strings. The string `hey` is put behind it, where no
slot can refer to it: the reference comes out negative, and the global reads as a temporary that is
not there. -/
theorem unheld_reference_lost :
    Image.load (Image.save Stretched.program) .none = .ok Stretched.environment.program ∧
      Stretched.environment.program.Restorable ∧
      Stretched.environment.builtins.Respects Machine.StringsGrow Stretched.environment.program ∧
      Stretched.source.Arises Stretched.environment ∧
      ofGlobals Stretched.environment.program Stretched.source = .ok Stretched.snapshot ∧
      (∀ name value, (name, value) ∈ Stretched.snapshot.entries → value.Visible) ∧
      ∃ target, target.Arises Stretched.environment ∧
        target.globals.size = Stretched.environment.program.globals.size ∧
        ∃ after, applyToGlobals Stretched.environment.program Stretched.snapshot target =
            .ok () after ∧
          ofGlobals Stretched.environment.program after ≠ .ok Stretched.snapshot := by
  have long := Stretched.length_encode_replicate 0x80000000
  obtain ⟨after, applied, empty⟩ := Stretched.read_empty_of_applied long
  refine ⟨Stretched.loaded, Stretched.restorable, Stretched.respects, Stretched.source_arises,
    Stretched.taken, Stretched.visible, _, Stretched.target_arises _, Stretched.sized _, after,
    applied, fun again => ?_⟩
  obtain ⟨global, last, read⟩ := (mem_ofGlobals_iff again).mp (List.mem_singleton_self _)
  have lost := empty global (Program.lastSaved?_some last).1
  have same := SavedValue.string.inj (Except.ok.inj (lost.symm.trans read))
  exact absurd same (by decide)

end Snapshot

end Gamecode
