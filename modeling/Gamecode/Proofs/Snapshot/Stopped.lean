/-
This file is about snapshots of which some value cannot be given. The values are given in the order
of their names, so the first one that is refused ends it all. It leaves the machine as if the
snapshot had ended before it, and whatever the snapshot holds, nothing is touched but the globals
that it names and the strings.
-/

import Gamecode.Proofs.Snapshot.Fields
import Gamecode.Proofs.Snapshot.Restored
import Gamecode.Proofs.Text.Encoding

namespace Gamecode

/-! ### Values that cannot be given -/

namespace Program

variable {program : Program} {name : String} {value : SavedValue}

/-- The first global of a name is persistent, and has a type that can be saved. -/
def Persists (program : Program) (name : String) (type : ValueType) : Prop :=
  ∃ definition, program.findGlobal? name = some definition ∧ definition.isPersistent = true ∧
    definition.type? = some type ∧ SavedValue.isSaveable type = true

/-- Why a value cannot be given to the global of a name. -/
inductive Refuses (program : Program) (name : String) (value : SavedValue) : Prop
  | absent (absent : ∀ type, ¬ program.Persists name type)
  | mistyped {type : ValueType} (persists : program.Persists name type) (other : value.type ≠ type)
  | unresolved {function : String} (names : value = .function function) (named : function ≠ "")
      (unknown : program.findFunction? function = none)

theorem Accepts.persists {definition : Definition}
    (accepts : program.Accepts name value definition) : program.Persists name value.type :=
  ⟨definition, accepts.found, accepts.persistent, accepts.typed, value.isSaveable_type⟩

theorem not_resolves_iff :
    ¬ value.Resolves program ↔ ∃ function, value = .function function ∧ function ≠ "" ∧
      program.findFunction? function = none := by
  cases value with
  | float | vector | string | entity => exact iff_of_false (not_not_intro trivial) nofun
  | function name =>
    simp only [SavedValue.Resolves, SavedValue.function.injEq, exists_eq_left', not_or, ne_eq,
      ← Option.ne_none_iff_exists', Decidable.not_not]

/-- A value is refused exactly if it cannot be given. -/
theorem refuses_iff :
    program.Refuses name value ↔ ¬ ∃ definition, program.Accepts name value definition := by
  constructor
  · rintro refuses ⟨definition, accepts⟩
    cases refuses with
    | absent absent => exact absent value.type accepts.persists
    | mistyped persists other =>
      obtain ⟨first, found, -, typed, -⟩ := persists
      obtain rfl : definition = first := Option.some.inj (accepts.found.symm.trans found)
      exact other (Option.some.inj (accepts.typed.symm.trans typed))
    | unresolved names named unknown =>
      exact not_resolves_iff.mpr ⟨_, names, named, unknown⟩ accepts.resolves
  · intro refused
    by_cases persists : ∃ type, program.Persists name type
    · obtain ⟨type, persists⟩ := persists
      by_cases same : value.type = type
      · obtain ⟨definition, found, persistent, typed, -⟩ := persists
        have unresolved : ¬ value.Resolves program := fun resolves =>
          refused ⟨definition, found, persistent, same ▸ typed, resolves⟩
        obtain ⟨function, names, named, unknown⟩ := not_resolves_iff.mp unresolved
        exact .unresolved names named unknown
      · exact .mistyped persists same
    · exact .absent (not_exists.mp persists)

end Program

namespace Snapshot

variable {program : Program} {machine middle after : Machine} {name : String} {value : SavedValue}
  {entries : List (String × SavedValue)}

/-! ### What values touch -/

/-- Nothing was touched but the globals that entries name and the strings. -/
structure Confined (program : Program) (entries : List (String × SavedValue))
    (before after : Machine) : Prop extends Moved before after where
  untouched : ∀ slot, (∀ entry ∈ entries, ∀ definition,
      program.findGlobal? entry.1 = some definition → ¬ definition.Covers slot) →
    after.globals.slots[slot]? = before.globals.slots[slot]?

theorem Confined.refl (program : Program) (machine : Machine) :
    Confined program [] machine machine where
  rest := rfl
  size := rfl
  grows := .same
  untouched _ _ := rfl

theorem Confined.cons {entry : String × SavedValue}
    (first : Confined program [entry] machine middle)
    (second : Confined program entries middle after) :
    Confined program (entry :: entries) machine after where
  toMoved := first.toMoved.trans second.toMoved
  untouched slot outside := by
    obtain ⟨head, rest⟩ := List.forall_mem_cons.mp outside
    exact (second.untouched slot rest).trans
      (first.untouched slot (List.forall_mem_singleton.mpr head))

/-- A value that is given touches its global only. -/
theorem confined_applyGlobal {definition : Definition}
    (accepts : program.Accepts name value definition) (fits : program.DefinitionsFit)
    (sized : machine.globals.size = program.globals.size) :
    ∃ after, applyGlobal program name value machine = .ok () after ∧
      Confined program [(name, value)] machine after := by
  obtain ⟨slots, strings, -, length, grows, given⟩ := applyGlobal_eq_ok accepts fits sized
  refine ⟨_, given, ⟨rfl, Cells.size_put _ _ _, grows⟩, fun slot outside => ?_⟩
  have uncovered := outside (name, value) (List.mem_singleton_self _) definition accepts.found
  refine Cells.getElem?_put_other _ _ _ _ ?_
  have width : definition.width = slots.length := by
    rw [length, Definition.width, accepts.typed]
    rfl
  unfold Definition.Covers at uncovered
  omega

/-! ### Giving values one after the other -/

/-- Entries that can all be given are given. -/
theorem exists_forM_applyGlobal (fits : program.DefinitionsFit)
    (sized : machine.globals.size = program.globals.size)
    (accepted : ∀ name value, (name, value) ∈ entries →
      ∃ definition, program.Accepts name value definition) :
    ∃ after, (entries.forM fun (name, value) => applyGlobal program name value) machine =
        .ok () after ∧ Confined program entries machine after := by
  induction entries generalizing machine with
  | nil => exact ⟨machine, rfl, .refl program machine⟩
  | cons entry rest inductionHypothesis =>
    obtain ⟨name, value⟩ := entry
    obtain ⟨definition, accepts⟩ := accepted name value List.mem_cons_self
    obtain ⟨middle, given, first⟩ := confined_applyGlobal accepts fits sized
    obtain ⟨after, applied, second⟩ := inductionHypothesis (first.size.trans sized)
      fun other held member => accepted other held (List.mem_cons_of_mem _ member)
    refine ⟨after, ?_, first.cons second⟩
    rw [Action.forM_cons_apply]
    dsimp only
    rw [given]
    exact applied

/-- Where giving entries ends with a fault, it does so at the first one that is refused. -/
theorem exists_of_forM_applyGlobal_error (fits : program.DefinitionsFit)
    (sized : machine.globals.size = program.globals.size) {fault : Fault}
    (failed : (entries.forM fun (name, value) => applyGlobal program name value) machine =
      .error fault after) :
    ∃ first name value rest, entries = first ++ (name, value) :: rest ∧
      (∀ name value, (name, value) ∈ first → ∃ definition, program.Accepts name value definition) ∧
      program.Refuses name value ∧ applyGlobal program name value after = .error fault after ∧
      (first.forM fun (name, value) => applyGlobal program name value) machine = .ok () after := by
  induction entries generalizing machine with
  | nil => cases failed
  | cons entry rest inductionHypothesis =>
    obtain ⟨name, value⟩ := entry
    rw [Action.forM_cons_apply] at failed
    dsimp only at failed
    by_cases accepted : ∃ definition, program.Accepts name value definition
    · obtain ⟨definition, accepts⟩ := accepted
      obtain ⟨middle, given, moved⟩ := confined_applyGlobal accepts fits sized
      rw [given] at failed
      obtain ⟨first, other, held, later, rfl, earlier, refuses, same, applied⟩ :=
        inductionHypothesis (moved.size.trans sized) failed
      refine ⟨(name, value) :: first, other, held, later, rfl, fun known saved member => ?_,
        refuses, same, ?_⟩
      · rcases List.mem_cons.mp member with same | inside
        · cases same
          exact ⟨definition, accepts⟩
        · exact earlier known saved inside
      · rw [Action.forM_cons_apply]
        dsimp only
        rw [given]
        exact applied
    · obtain ⟨defect, refused⟩ := applyGlobal_eq_error accepted machine
      rw [refused] at failed
      cases failed
      exact ⟨[], name, value, rest, rfl, nofun, Program.refuses_iff.mpr accepted, refused, rfl⟩

/-! ### Entries before a name -/

/-- The entries whose names come before a name, byte by byte. -/
def before (snapshot : Snapshot) (name : String) : Snapshot :=
  ⟨snapshot.entries.filter fun entry => decide (Text.encode entry.1 < Text.encode name)⟩

/-- Of sorted entries, those before the name of one of them are the ones that stand before it. -/
theorem Sorted.before_eq {first rest : List (String × SavedValue)}
    (sorted : Sorted (first ++ (name, value) :: rest)) :
    before ⟨first ++ (name, value) :: rest⟩ name = ⟨first⟩ := by
  obtain ⟨-, restSorted, apart⟩ := List.pairwise_append.mp sorted
  have later := (List.pairwise_cons.mp restSorted).1
  refine congrArg Snapshot.mk ?_
  simp only [Text.encode_lt_encode_iff]
  have kept : first.filter (fun entry => decide (entry.1 < name)) = first :=
    List.filter_eq_self.mpr fun entry member =>
      decide_eq_true (apart entry member (name, value) List.mem_cons_self)
  have dropped : ((name, value) :: rest).filter (fun entry => decide (entry.1 < name)) = [] := by
    refine List.filter_eq_nil_iff.mpr fun entry member => ?_
    rw [decide_eq_true_eq]
    rcases List.mem_cons.mp member with rfl | after
    · exact String.lt_irrefl name
    · exact String.lt_asymm (later entry after)
  rw [List.filter_append, kept, dropped, List.append_nil]

/-! ### Refused snapshots -/

/-- How a machine takes a snapshot. If it ends with a fault, that is the fault of an entry that is
refused, and the machine is as after the entries before that one, which could all be given. If no
entry is refused, there is no fault. Either way nothing is touched but the strings and the globals
that were given values. -/
structure StopsCleanly (program : Program) (snapshot : Snapshot) (machine : Machine) : Prop where
  stopped : ∀ fault after, applyToGlobals program snapshot machine = .error fault after →
    ∃ name value, (name, value) ∈ snapshot.entries ∧ program.Refuses name value ∧
      applyGlobal program name value after = .error fault after ∧
      applyToGlobals program (snapshot.before name) machine = .ok () after ∧
      Confined program (snapshot.before name).entries machine after
  accepted : (∀ name value, (name, value) ∈ snapshot.entries → ¬ program.Refuses name value) →
    ∃ after, applyToGlobals program snapshot machine = .ok () after
  confined : ∀ after, applyToGlobals program snapshot machine = .ok () after →
    Confined program snapshot.entries machine after

/-- Applying a snapshot stops cleanly at the first entry that is refused. -/
theorem stopsCleanly_of_load {image : Array UInt8} {expectation : Image.Expectation}
    {snapshot : Snapshot} (loads : Image.load image expectation = .ok program)
    (sized : machine.globals.size = program.globals.size) (sorted : Sorted snapshot.entries) :
    StopsCleanly program snapshot machine := by
  have fits := Image.definitionsFit_of_load loads
  obtain ⟨entries⟩ := snapshot
  constructor
  · intro fault after failed
    obtain ⟨first, name, value, rest, rfl, earlier, refuses, refused, applied⟩ :=
      exists_of_forM_applyGlobal_error fits sized failed
    refine ⟨name, value, List.mem_append_right first List.mem_cons_self, refuses, refused, ?_⟩
    rw [sorted.before_eq]
    obtain ⟨reached, given, confined⟩ := exists_forM_applyGlobal fits sized earlier
    obtain ⟨-, rfl⟩ := EStateM.Result.ok.inj (applied.symm.trans given)
    exact ⟨applied, confined⟩
  · intro none
    have each : ∀ name value, (name, value) ∈ entries →
        ∃ definition, program.Accepts name value definition := fun name value member =>
      Classical.byContradiction fun refused =>
        none name value member (Program.refuses_iff.mpr refused)
    obtain ⟨after, applied, -⟩ := exists_forM_applyGlobal fits sized each
    exact ⟨after, applied⟩
  · intro after applied
    have each := (forM_applyGlobal_iff fits sized).mp ⟨after, applied⟩
    obtain ⟨reached, given, confined⟩ := exists_forM_applyGlobal fits sized each
    obtain ⟨-, rfl⟩ := EStateM.Result.ok.inj (applied.symm.trans given)
    exact confined

end Snapshot

namespace Traveller

/-- A snapshot that names a function which the program does not have. -/
def misled : Snapshot :=
  ⟨[("e", .entity 5), ("f", .function "stay"), ("s", .string "hey")]⟩

/-- The fault with which giving it ends, and the entity that the machine then holds. -/
def refusal? : Option (Fault × Option Slot) :=
  match Snapshot.applyToGlobals program misled target with
  | .ok _ _ => none
  | .error fault after => some (fault, after.globals.slots[33]?)

theorem sorted_misled : Snapshot.Sorted misled.entries := by
  unfold misled Snapshot.Sorted
  decide

end Traveller

namespace Snapshot

/-- The entity is given, and then the function is refused. -/
theorem stopsCleanly_of_load_traveller :
    Image.load (Image.save Traveller.program) .none = .ok Traveller.program ∧
      Traveller.target.globals.size = Traveller.program.globals.size ∧
      Sorted Traveller.misled.entries ∧
      StopsCleanly Traveller.program Traveller.misled Traveller.target ∧
      Traveller.refusal? = some (.snapshot (.unknownFunction "stay"), some 5) :=
  ⟨Traveller.loaded, Traveller.sized, Traveller.sorted_misled,
    stopsCleanly_of_load Traveller.loaded Traveller.sized Traveller.sorted_misled,
    by decide +kernel⟩

end Snapshot

end Gamecode
