/-
This file says what a snapshot of globals holds. The saved globals of a program are its persistent
definitions that have a name and a type that can be saved. A snapshot has one entry for each of
their names, in the order of the names, and where several of them have one name the last one counts.
-/

import Gamecode.Proofs.Loaded
import Gamecode.Snapshot

namespace Gamecode

/-! ### Saved globals -/

/-- A global that snapshots hold, with the name and the type that they hold it by. -/
structure SavedGlobal where
  definition : Definition
  name : String
  type : ValueType
deriving Repr, DecidableEq

/-- The value that the slots of a saved global hold. -/
def SavedGlobal.read (program : Program) (machine : Machine) (global : SavedGlobal) :
    Except Fault SavedValue := do
  let slots ← machine.globals.slice global.definition.start global.type.width
  Snapshot.valueOf program machine.strings global.type slots

namespace Program

/-- A definition as a saved global, if it is one. -/
def savedGlobal? (program : Program) (definition : Definition) : Option SavedGlobal :=
  if definition.isPersistent then
    (Snapshot.nameAndType? program definition).map fun known => ⟨definition, known.1, known.2⟩
  else none

/-- The saved globals in the order of their definitions. -/
def savedGlobals (program : Program) : List SavedGlobal :=
  program.globalDefinitions.toList.filterMap program.savedGlobal?

/-- The last saved global of a name. -/
def lastSaved? (program : Program) (name : String) : Option SavedGlobal :=
  program.savedGlobals.reverse.find? fun global => global.name = name

variable {program : Program} {global : SavedGlobal} {name : String}

/-- A saved global is a persistent definition with its name and its type. -/
structure Saves (program : Program) (global : SavedGlobal) : Prop where
  mem : global.definition ∈ program.globalDefinitions
  persistent : global.definition.isPersistent = true
  type_eq : global.definition.type? = some global.type
  saveable : SavedValue.isSaveable global.type = true
  name_eq : program.nameText global.definition.name = global.name
  named : global.name ≠ ""

theorem nameAndType?_eq_some_iff {definition : Definition} {type : ValueType} :
    Snapshot.nameAndType? program definition = some (name, type) ↔
      definition.type? = some type ∧ SavedValue.isSaveable type = true ∧
        program.nameText definition.name = name ∧ name ≠ "" := by
  unfold Snapshot.nameAndType?
  rw [Option.bind_eq_bind, Option.bind_eq_some_iff]
  simp only [Option.filter_eq_some_iff]
  constructor
  · rintro ⟨found, ⟨typed, saveable⟩, known⟩
    split at known
    · cases known
    next named =>
    cases known
    exact ⟨typed, saveable, rfl, named⟩
  · rintro ⟨typed, saveable, rfl, named⟩
    exact ⟨type, ⟨typed, saveable⟩, if_neg named⟩

theorem mem_savedGlobals : global ∈ program.savedGlobals ↔ program.Saves global := by
  unfold savedGlobals savedGlobal?
  rw [List.mem_filterMap]
  simp only [Option.ite_none_right_eq_some, Option.map_eq_some_iff, Prod.exists,
    nameAndType?_eq_some_iff, Array.mem_toList_iff]
  constructor
  · rintro ⟨definition, member, persistent, name, type, ⟨typed, saveable, same, named⟩, rfl⟩
    exact ⟨member, persistent, typed, saveable, same, named⟩
  · rintro ⟨member, persistent, typed, saveable, same, named⟩
    exact ⟨_, member, persistent, _, _, ⟨typed, saveable, same, named⟩, rfl⟩

/-- Saved globals with one definition are one. -/
theorem Saves.eq_of_definition {other : SavedGlobal} (saves : program.Saves global)
    (saved : program.Saves other) (same : other.definition = global.definition) :
    other = global := by
  obtain ⟨definition, name, type⟩ := global
  obtain ⟨_, otherName, otherType⟩ := other
  obtain rfl : _ = definition := same
  obtain rfl : otherName = name := saved.name_eq.symm.trans saves.name_eq
  obtain rfl : otherType = type := Option.some.inj (saved.type_eq.symm.trans saves.type_eq)
  rfl

theorem lastSaved?_some (found : program.lastSaved? name = some global) :
    program.Saves global ∧ global.name = name := by
  have member := List.mem_of_find?_eq_some found
  unfold lastSaved? at found
  have named := List.find?_some found
  exact ⟨mem_savedGlobals.mp (List.mem_reverse.mp member), of_decide_eq_true named⟩

/-- There is a last one of all saved globals with one name. -/
theorem exists_lastSaved? (saves : program.Saves global) :
    ∃ last, program.lastSaved? global.name = some last := by
  refine Option.isSome_iff_exists.mp (List.find?_isSome.mpr ⟨global, ?_, decide_eq_true rfl⟩)
  exact List.mem_reverse.mpr (mem_savedGlobals.mpr saves)

end Program

namespace Snapshot

/-! ### Entries in order -/

/-- The entries of a snapshot stand in the order of their names, and no two have one name. -/
def Sorted (entries : List (String × SavedValue)) : Prop :=
  entries.Pairwise fun first second => first.1 < second.1

variable {name : String} {value : SavedValue} {entries : List (String × SavedValue)}

theorem mem_insertSorted {entry : String × SavedValue}
    (member : entry ∈ insertSorted name value entries) :
    entry = (name, value) ∨ entry ∈ entries := by
  induction entries with
  | nil => exact .inl (List.mem_singleton.mp member)
  | cons head rest inductionHypothesis =>
    rw [insertSorted] at member
    split at member
    · exact List.mem_cons.mp member
    split at member
    · exact (List.mem_cons.mp member).imp_right (List.mem_cons_of_mem _)
    · rcases List.mem_cons.mp member with rfl | later
      · exact .inr List.mem_cons_self
      · exact (inductionHypothesis later).imp_right (List.mem_cons_of_mem _)

theorem sorted_insertSorted (sorted : Sorted entries) :
    Sorted (insertSorted name value entries) := by
  induction entries with
  | nil => exact List.pairwise_singleton _ _
  | cons head rest inductionHypothesis =>
    obtain ⟨headLess, restSorted⟩ := List.pairwise_cons.mp sorted
    rw [insertSorted]
    split
    · next less =>
      refine List.pairwise_cons.mpr ⟨fun entry member => ?_, sorted⟩
      rcases List.mem_cons.mp member with rfl | later
      · exact less
      · exact String.lt_trans less (headLess entry later)
    split
    · next same =>
      subst same
      exact List.pairwise_cons.mpr ⟨headLess, restSorted⟩
    · next notLess different =>
      refine List.pairwise_cons.mpr ⟨fun entry member => ?_, inductionHypothesis restSorted⟩
      rcases mem_insertSorted member with rfl | later
      · refine String.not_le.mp fun below => different ?_
        exact String.le_antisymm below (String.not_lt.mp notLess)
      · exact headLess entry later

/-- Among sorted entries each one is found by its name. -/
theorem Sorted.mem_iff (sorted : Sorted entries) :
    (name, value) ∈ entries ↔ entries.lookup name = some value := by
  induction entries with
  | nil => exact iff_of_false List.not_mem_nil nofun
  | cons head rest inductionHypothesis =>
    obtain ⟨headLess, restSorted⟩ := List.pairwise_cons.mp sorted
    obtain ⟨headName, headValue⟩ := head
    rw [List.mem_cons, List.lookup_cons]
    by_cases same : name = headName
    · subst same
      have absent : (name, value) ∉ rest := fun member =>
        String.lt_irrefl name (headLess (name, value) member)
      rw [beq_self_eq_true, or_iff_left absent, Prod.mk.injEq, and_iff_right rfl, Option.some_inj,
        eq_comm]
    · rw [beq_false_of_ne same, or_iff_right fun entry => same (congrArg Prod.fst entry)]
      exact inductionHypothesis restSorted

/-! ### Snapshots of globals -/

variable {program : Program} {machine : Machine} {globals : List SavedGlobal}
  {snapshot final : Snapshot}

/-- Add the value of a saved global. -/
def addSaved (program : Program) (machine : Machine) (snapshot : Snapshot) (global : SavedGlobal) :
    Except Fault Snapshot := do
  let value ← global.read program machine
  return snapshot.insert global.name value

/-- A snapshot is made up from the saved globals alone. -/
theorem ofGlobals_eq (program : Program) (machine : Machine) :
    ofGlobals program machine =
      program.savedGlobals.foldlM (addSaved program machine) empty := by
  unfold ofGlobals Program.savedGlobals
  rw [List.foldlM_filter, List.foldlM_filterMap]
  congr 1
  funext snapshot definition
  unfold Program.savedGlobal?
  by_cases persistent : definition.isPersistent = true
  · rw [if_pos persistent, if_pos persistent, addGlobal]
    cases nameAndType? program definition with
    | none => rfl
    | some known =>
      simp only [Option.map_some, addSaved, SavedGlobal.read, bind_assoc]
  · rw [if_neg persistent, if_neg persistent]

/-- Adding saved globals one after the other gives the value of the last one of a name. -/
theorem lookup_of_foldlM (made : globals.foldlM (addSaved program machine) snapshot = .ok final)
    (name : String) :
    match globals.reverse.find? fun global => global.name = name with
    | some global => ∃ value, global.read program machine = .ok value ∧
        final.entries.lookup name = some value
    | none => final.entries.lookup name = snapshot.entries.lookup name := by
  induction globals generalizing snapshot with
  | nil =>
    cases made
    rfl
  | cons global rest inductionHypothesis =>
    rw [List.foldlM_cons] at made
    obtain ⟨middle, added, made⟩ := Except.bind_eq_ok_iff.mp made
    obtain ⟨value, read, rfl⟩ : ∃ value, global.read program machine = .ok value ∧
        middle = snapshot.insert global.name value := by
      obtain ⟨value, read, same⟩ := Except.bind_eq_ok_iff.mp added
      exact ⟨value, read, (Except.ok.inj same).symm⟩
    have later := inductionHypothesis made
    rw [List.reverse_cons, List.find?_append]
    cases found : rest.reverse.find? fun global => global.name = name with
    | some last =>
      rw [found] at later
      exact later
    | none =>
      rw [found] at later
      dsimp only at later
      rw [Option.none_or, List.find?_singleton, later, insert]
      by_cases same : global.name = name
      · rw [decide_eq_true same, if_pos rfl, ← same]
        exact ⟨value, read, lookup_insertSorted_self _ _ _⟩
      · rw [decide_eq_false same, if_neg Bool.false_ne_true]
        exact lookup_insertSorted_other (Ne.symm same) _ _

theorem sorted_of_foldlM (made : globals.foldlM (addSaved program machine) snapshot = .ok final)
    (sorted : Sorted snapshot.entries) : Sorted final.entries := by
  induction globals generalizing snapshot with
  | nil =>
    cases made
    exact sorted
  | cons global rest inductionHypothesis =>
    rw [List.foldlM_cons] at made
    obtain ⟨middle, added, made⟩ := Except.bind_eq_ok_iff.mp made
    obtain ⟨value, -, same⟩ := Except.bind_eq_ok_iff.mp added
    cases same
    exact inductionHypothesis made (sorted_insertSorted sorted)

theorem sorted_ofGlobals (taken : ofGlobals program machine = .ok snapshot) :
    Sorted snapshot.entries :=
  sorted_of_foldlM (ofGlobals_eq program machine ▸ taken) .nil

/-- The last saved global of each name has an entry, with its value. -/
theorem exists_mem_ofGlobals (taken : ofGlobals program machine = .ok snapshot) {name : String}
    {global : SavedGlobal} (last : program.lastSaved? name = some global) :
    ∃ value, global.read program machine = .ok value ∧ (name, value) ∈ snapshot.entries := by
  have found := lookup_of_foldlM (ofGlobals_eq program machine ▸ taken) name
  change match program.lastSaved? name with | some _ => _ | none => _ at found
  rw [last] at found
  obtain ⟨value, read, held⟩ := found
  exact ⟨value, read, (sorted_ofGlobals taken).mem_iff.mpr held⟩

/-- A snapshot holds the values of the last saved globals of each name, and nothing else. -/
theorem mem_ofGlobals_iff (taken : ofGlobals program machine = .ok snapshot) {name : String}
    {value : SavedValue} :
    (name, value) ∈ snapshot.entries ↔
      ∃ global, program.lastSaved? name = some global ∧
        global.read program machine = .ok value := by
  have sorted := sorted_ofGlobals taken
  cases last : program.lastSaved? name with
  | none =>
    have found := lookup_of_foldlM (ofGlobals_eq program machine ▸ taken) name
    change match program.lastSaved? name with | some _ => _ | none => _ at found
    rw [last] at found
    rw [sorted.mem_iff, found]
    exact iff_of_false nofun fun ⟨_, same, _⟩ => nomatch same
  | some global =>
    obtain ⟨known, read, member⟩ := exists_mem_ofGlobals taken last
    constructor
    · intro entry
      have same := (sorted.mem_iff.mp member).symm.trans (sorted.mem_iff.mp entry)
      exact ⟨global, rfl, read.trans (congrArg Except.ok (Option.some.inj same))⟩
    · rintro ⟨_, ⟨⟩, same⟩
      rwa [← Except.ok.inj (read.symm.trans same)]

/-- Where all saved globals read the same, the snapshots are the same. -/
theorem ofGlobals_congr {other : Machine}
    (same : ∀ global, program.Saves global →
      global.read program other = global.read program machine) :
    ofGlobals program other = ofGlobals program machine := by
  have each : ∀ global ∈ program.savedGlobals,
      global.read program other = global.read program machine :=
    fun global member => same global (Program.mem_savedGlobals.mp member)
  rw [ofGlobals_eq, ofGlobals_eq]
  generalize empty = snapshot
  revert each
  generalize program.savedGlobals = globals
  intro each
  induction globals generalizing snapshot with
  | nil => rfl
  | cons global rest inductionHypothesis =>
    obtain ⟨head, rest⟩ := List.forall_mem_cons.mp each
    rw [List.foldlM_cons, List.foldlM_cons, addSaved, addSaved, head]
    refine congrArg _ (funext fun middle => ?_)
    exact inductionHypothesis middle rest

end Snapshot

end Gamecode
