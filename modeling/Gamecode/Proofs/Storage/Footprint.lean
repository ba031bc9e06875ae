/-
This file says what a statement may write. Where it writes can be told before it is executed: from
its third operand on if it computes something, and otherwise at the place that its operation names.
A statement that succeeds leaves every other slot as it was, and everything that is no slot as well.
One that fails changes nothing: all of its checks are made before its first write, and once the
three addresses of a state change have been found none of its three writes can fail.
-/

import Gamecode.Machine.Step
import Gamecode.Proofs.Action
import Gamecode.Proofs.Storage.Entities
import Mathlib.Data.List.Forall2

namespace Gamecode

/-! ### Slots and runs of slots -/

/-- The place of a slot in the global segment or among the records of the entities. -/
inductive Machine.Place
  | global (offset : Nat)
  | entity (slot : Nat)
deriving DecidableEq

/-- The slot at a place. -/
def Machine.slot? (machine : Machine) : Place → Option Slot
  | .global offset => machine.globals.slots[offset]?
  | .entity slot => machine.entities.slots[slot]?

/-- A run of slots. -/
inductive Extent
  | globals (start width : Nat)
  | entities (start width : Nat)
deriving DecidableEq

namespace Extent

/-- Whether a run holds a place. -/
def Holds : Extent → Machine.Place → Prop
  | .globals start width, .global offset => start ≤ offset ∧ offset < start + width
  | .entities start width, .entity slot => start ≤ slot ∧ slot < start + width
  | .globals _ _, .entity _ | .entities _ _, .global _ => False

/-- A run has to lie inside the global segment, or inside the record of one entity. -/
def Inside (machine : Machine) : Extent → Prop
  | .globals start width => machine.globals.Covers start width
  | .entities start width =>
    ∃ number < machine.entities.count, number * machine.entities.stride ≤ start ∧
      start + width ≤ (number + 1) * machine.entities.stride

end Extent

/-! ### Destinations -/

/-- How many slots an operation leaves at its third operand. -/
def Opcode.resultWidth : Opcode → Nat
  | .scaleRight | .scaleLeft | .addVectors | .subtractVectors => 3
  | .load kind => kind.width
  | _ => 1

/-- The fields that a state change writes. -/
def Machine.StateBindings.fields (bindings : StateBindings) : List Int :=
  [bindings.nextThink, bindings.frame, bindings.think]

/-- The slots of these fields in the record of the entity that the program calls `self`. -/
def Machine.stateDestination (program : Program) (machine : Machine) :
    Except Fault (List Extent) := do
  let bindings ← stateBindings program
  let entity ← machine.reference bindings.entity
  return bindings.fields.map fun field =>
    .entities (entity.toNat * machine.entities.stride + field.toNat) 1

/-- Where an operation writes. The list is empty for an operation that cannot tell, which then
fails. -/
def Machine.destination (program : Program) (machine : Machine) (a b c : Nat) :
    Opcode → List Extent
  | .done => [.globals Region.returnStart 3]
  | .leave => if a = 0 then [] else [.globals Region.returnStart 3]
  | .store kind => [.globals b kind.width]
  | .storeThrough kind =>
    match machine.reference b with
    | .ok pointer => [.entities pointer.toNat kind.width]
    | .error _ => []
  | .state => (machine.stateDestination program).toOption.getD []
  | .branchIf | .branchUnless | .goto | .call _ => []
  | operation => [.globals c operation.resultWidth]

/-- Where a statement writes; nowhere if its number stands for no operation. -/
def Statement.destination (program : Program) (machine : Machine) (statement : Statement) :
    List Extent :=
  match statement.operation? with
  | some operation =>
    machine.destination program statement.a.toNat statement.b.toNat statement.c.toNat operation
  | none => []

/-! ### Changes that stay in their place -/

/-- The slots of some runs may differ, and nothing else does. -/
structure Machine.ConfinedTo (extents : List Extent) (before after : Machine) : Prop where
  eq_except_slots : ∃ globals slots,
    after = { before with globals, entities := { before.entities with slots } }
  globals_size : after.globals.size = before.globals.size
  slots_size : after.entities.slots.size = before.entities.slots.size
  slot?_eq : ∀ place, (∀ extent ∈ extents, ¬ extent.Holds place) →
    after.slot? place = before.slot? place

namespace Machine.ConfinedTo

variable {before middle after : Machine} {extents more : List Extent}

theorem refl (machine : Machine) : machine.ConfinedTo extents machine :=
  ⟨⟨_, _, rfl⟩, rfl, rfl, fun _ _ => rfl⟩

theorem trans (first : before.ConfinedTo extents middle)
    (second : middle.ConfinedTo extents after) :
    before.ConfinedTo extents after where
  eq_except_slots := by
    obtain ⟨_, _, rfl⟩ := first.eq_except_slots
    obtain ⟨_, _, rfl⟩ := second.eq_except_slots
    exact ⟨_, _, rfl⟩
  globals_size := second.globals_size.trans first.globals_size
  slots_size := second.slots_size.trans first.slots_size
  slot?_eq place outside := (second.slot?_eq place outside).trans (first.slot?_eq place outside)

theorem mono (confined : before.ConfinedTo extents after) (fewer : extents ⊆ more) :
    before.ConfinedTo more after :=
  { confined with
    slot?_eq := fun place outside =>
      confined.slot?_eq place fun extent member => outside extent (fewer member) }

/-- No string differs. -/
theorem strings_eq (confined : before.ConfinedTo extents after) :
    after.strings = before.strings := by
  obtain ⟨_, _, rfl⟩ := confined.eq_except_slots
  rfl

theorem of_writeGlobals {machine : Machine} {globals : Globals} {offset : Nat} {values : List Slot}
    (written : machine.globals.write offset values = .ok globals) :
    machine.ConfinedTo [.globals offset values.length] { machine with globals } where
  eq_except_slots := ⟨_, _, rfl⟩
  globals_size := Globals.size_write written
  slots_size := rfl
  slot?_eq := by
    rintro (index | slot) outside
    · have passed := outside _ List.mem_cons_self
      refine Globals.getElem?_write_other written ?_
      simp only [Extent.Holds] at passed
      omega
    · rfl

theorem of_writeEntities {machine : Machine} {entities : EntityStore} {pointer : Int}
    {values : List Slot} (written : machine.entities.write pointer values = .ok entities) :
    machine.ConfinedTo [.entities pointer.toNat values.length] { machine with entities } := by
  obtain ⟨-, rfl⟩ := EntityStore.write_eq_ok written
  refine ⟨⟨_, _, rfl⟩, rfl, Cells.size_put _ _ _, ?_⟩
  rintro (index | slot) outside
  · rfl
  · have passed := outside _ List.mem_cons_self
    refine Cells.getElem?_put_other _ _ _ _ ?_
    simp only [Extent.Holds] at passed
    omega

end Machine.ConfinedTo

/-! ### Actions that write in one place only -/

/-- Where the action succeeds it has changed nothing but some runs of slots, all of which exist.
Where it fails it has changed nothing. -/
def Action.WritesOnly {α : Type} (extents : List Extent) (machine : Machine) (action : Action α) :
    Prop :=
  match action machine with
  | .ok _ after => machine.ConfinedTo extents after ∧ ∀ extent ∈ extents, extent.Inside machine
  | .error _ after => after = machine

namespace Action

variable {α β : Type} {machine : Machine} {extents : List Extent}

theorem writesOnly_pure (value : α) : (pure value : Action α).WritesOnly [] machine :=
  ⟨.refl machine, nofun⟩

/-- What is looked up beforehand can only make an action fail early. -/
theorem writesOnly_inspect_bind {look : Machine → Except Fault α} {next : α → Action β}
    (rest : ∀ value, look machine = .ok value → (next value).WritesOnly extents machine) :
    (inspect look >>= next).WritesOnly extents machine := by
  unfold WritesOnly
  rw [bind_apply, inspect]
  cases looked : look machine with
  | ok value => exact rest value looked
  | error fault => rfl

/-- Giving a result after the last write writes nothing more. -/
theorem WritesOnly.bind_pure {action : Action α} (writes : action.WritesOnly extents machine)
    (value : β) : (action >>= fun _ => pure value).WritesOnly extents machine := by
  unfold WritesOnly at writes ⊢
  rw [bind_apply]
  cases ends : action machine with
  | ok _ after | error fault after =>
    rw [ends] at writes
    exact writes

/-- A change of the globals that amounts to one write changes what is written. -/
theorem writesOnly_changeGlobals {change : Globals → Except Fault Globals} {offset width : Nat}
    (amounts : ∀ after, change machine.globals = .ok after → ∃ values, values.length = width ∧
      machine.globals.write offset values = .ok after) :
    (changeGlobals change).WritesOnly [.globals offset width] machine := by
  unfold WritesOnly changeGlobals
  cases changed : change machine.globals with
  | error fault => rfl
  | ok after =>
    obtain ⟨values, rfl, written⟩ := amounts after changed
    refine ⟨.of_writeGlobals written, fun extent member => ?_⟩
    rw [List.mem_singleton.mp member]
    exact (Globals.write_eq_ok_iff.mp written).1

theorem writesOnly_write {offset width : Nat} {values : List Slot}
    (length : values.length = width) :
    (changeGlobals fun globals => globals.write offset values).WritesOnly [.globals offset width]
      machine :=
  writesOnly_changeGlobals fun _ written => ⟨values, length, written⟩

/-- A write through a pointer changes a run inside the record that the pointer leads to. -/
theorem writesOnly_writeEntities (sound : machine.entities.Sound) {pointer : Int}
    (small : pointer < 0x80000000) {values : List Slot} {width : Nat}
    (length : values.length = width) (positive : 0 < width) (narrow : width ≤ 3) :
    (changeEntities fun entities => entities.write pointer values).WritesOnly
      [.entities pointer.toNat width] machine := by
  subst length
  unfold WritesOnly changeEntities
  dsimp only
  cases written : machine.entities.write pointer values with
  | error fault => rfl
  | ok after =>
    refine ⟨.of_writeEntities written, fun extent member => ?_⟩
    obtain ⟨checked, -⟩ := EntityStore.write_eq_ok written
    obtain ⟨-, bound, together⟩ := EntityStore.checkPointer_eq_ok small (by omega) checked
    rw [List.mem_singleton.mp member]
    exact sound.record_of_run positive bound together

/-- Writes through pointers that pass their check all succeed, also after earlier writes, of which
none moves a record. -/
theorem exists_forM_write {middle : Machine} {writes : List (Int × Slot)}
    (checked : ∀ write ∈ writes, machine.entities.checkPointer write.1 1 = .ok write.1.toNat)
    (listed : ∀ write ∈ writes, Extent.entities write.1.toNat 1 ∈ extents)
    (confined : machine.ConfinedTo extents middle) :
    ∃ after, (writes.forM fun (pointer, value) =>
        changeEntities fun entities => entities.write pointer [value]) middle = .ok () after ∧
      machine.ConfinedTo extents after := by
  -- The checks speak of the store before the first write, so the induction is over any machine that
  -- the writes so far may have left.
  induction writes generalizing middle with
  | nil => exact ⟨_, rfl, confined⟩
  | cons first rest inductionHypothesis =>
    have same := EntityStore.checkPointer_of_size confined.slots_size first.1 1
    have passed : middle.entities.checkPointer first.1 1 = .ok first.1.toNat := by
      obtain ⟨_, _, rfl⟩ := confined.eq_except_slots
      exact same.trans (checked first List.mem_cons_self)
    have written : middle.entities.write first.1 [first.2] = .ok
        { middle.entities with slots := middle.entities.slots.put first.1.toNat [first.2] } := by
      simp only [EntityStore.write, List.length_singleton, passed]
      rfl
    have step := (Machine.ConfinedTo.of_writeEntities written).mono
      (List.cons_subset.mpr ⟨listed first List.mem_cons_self, List.nil_subset _⟩)
    obtain ⟨after, ends, kept⟩ := inductionHypothesis
      (fun write member => checked write (List.mem_cons_of_mem _ member))
      (fun write member => listed write (List.mem_cons_of_mem _ member)) (confined.trans step)
    refine ⟨after, ?_, kept⟩
    unfold List.forM
    rw [bind_apply]
    simp only [changeEntities, written]
    exact ends

theorem writesOnly_forM_write {writes : List (Int × Slot)}
    (checked : ∀ write ∈ writes, machine.entities.checkPointer write.1 1 = .ok write.1.toNat)
    (listed : ∀ write ∈ writes, Extent.entities write.1.toNat 1 ∈ extents)
    (inside : ∀ extent ∈ extents, extent.Inside machine) :
    (writes.forM fun (pointer, value) =>
      changeEntities fun entities => entities.write pointer [value]).WritesOnly extents
        machine := by
  obtain ⟨after, ends, confined⟩ := exists_forM_write checked listed (.refl machine)
  unfold WritesOnly
  rw [ends]
  exact ⟨confined, inside⟩

end Action

/-! ### Reads and copies of runs -/

namespace Globals

/-- Filling a run writes as many slots as the run has. -/
theorem write_of_fill {globals after : Globals} {offset width : Nat} {value : Slot}
    (filled : globals.fill offset width value = .ok after) :
    ∃ values, values.length = width ∧ globals.write offset values = .ok after := by
  unfold fill at filled
  split at filled
  · exact ⟨_, List.length_replicate, filled⟩
  · cases filled

/-- Copying a run writes as many slots as the run has. -/
theorem write_of_copy {globals after : Globals} {source target width : Nat}
    (copied : globals.copy source target width = .ok after) :
    ∃ values, values.length = width ∧ globals.write target values = .ok after := by
  obtain ⟨inside, room, rfl⟩ := copy_eq_ok_iff.mp copied
  have length : (globals.slots.window source width).length = width :=
    Cells.length_window_of_le inside
  exact ⟨_, length, write_eq_ok_iff.mpr ⟨by rwa [length], rfl⟩⟩

theorem length_of_slice {globals : Globals} {offset width : Nat} {values : List Slot}
    (read : globals.slice offset width = .ok values) : values.length = width := by
  unfold slice at read
  split at read
  · next covered =>
    cases read
    have bound : offset + width ≤ globals.slots.size := covered
    rw [Cells.length_window, Nat.min_eq_left bound, Nat.add_sub_cancel_left]
  · cases read

end Globals

namespace Machine

variable {machine : Machine} {values : List Slot} {a b : Nat}

theorem length_onFloats {operation : Slot → Slot → Slot}
    (computed : machine.onFloats a b operation = .ok values) : values.length = 1 := by
  obtain ⟨_, _, computed⟩ := Except.bind_eq_ok_iff.mp computed
  obtain ⟨_, _, computed⟩ := Except.bind_eq_ok_iff.mp computed
  cases computed
  rfl

theorem length_onVectors {operation : Vector3 → Vector3 → List Slot} {width : Nat}
    (computed : machine.onVectors a b operation = .ok values)
    (each : ∀ left right, (operation left right).length = width) : values.length = width := by
  obtain ⟨_, _, computed⟩ := Except.bind_eq_ok_iff.mp computed
  obtain ⟨_, _, computed⟩ := Except.bind_eq_ok_iff.mp computed
  cases computed
  exact each _ _

/-- A computation with one last step gives what that step gives. -/
theorem length_map {α : Type} {known : Except Fault α} {give : α → List Slot} {width : Nat}
    (computed : (known >>= fun value => pure (give value)) = .ok values)
    (each : ∀ value, (give value).length = width) : values.length = width := by
  obtain ⟨_, _, computed⟩ := Except.bind_eq_ok_iff.mp computed
  cases computed
  exact each _

theorem length_loaded {width : Nat} (narrow : width ≤ 3)
    (computed : machine.loaded a b width = .ok values) : values.length = width := by
  obtain ⟨_, _, computed⟩ := Except.bind_eq_ok_iff.mp computed
  obtain ⟨_, _, computed⟩ := Except.bind_eq_ok_iff.mp computed
  obtain ⟨pointer, found, computed⟩ := Except.bind_eq_ok_iff.mp computed
  obtain ⟨start, checked, computed⟩ := Except.bind_eq_ok_iff.mp computed
  cases computed
  have small : pointer < 0x80000000 := by
    obtain ⟨_, _, found⟩ := Except.bind_eq_ok_iff.mp found
    obtain ⟨_, _, found⟩ := Except.bind_eq_ok_iff.mp found
    cases found
    exact Slot.signed_lt _
  obtain ⟨-, bound, -⟩ := EntityStore.checkPointer_eq_ok small (by omega) checked
  rw [Cells.length_window, Nat.min_eq_left bound, Nat.add_sub_cancel_left]

/-- An operation that computes something leaves as many slots as it says. -/
theorem length_of_computed (protectWorld : Bool) (a b : Nat) {operation : Opcode}
    (computed : machine.computed? protectWorld a b operation = some (.ok values)) :
    values.length = operation.resultWidth := by
  cases operation with
  | done | store | storeThrough | leave | branchIf | branchUnless | call | state | goto =>
    cases computed
  | multiply | divide | add | subtract | atMost | atLeast | less | greater | bitConjunction
  | bitDisjunction =>
    exact length_onFloats (Option.some.inj computed)
  | dot | addVectors | subtractVectors =>
    exact length_onVectors (Option.some.inj computed) fun _ _ => rfl
  | scaleRight | scaleLeft =>
    obtain ⟨_, _, computed⟩ := Except.bind_eq_ok_iff.mp (Option.some.inj computed)
    exact length_map computed fun _ => rfl
  | equal | different | negation | conjunction | disjunction =>
    exact length_map (Option.some.inj computed) fun _ => rfl
  | load kind =>
    refine length_loaded ?_ (Option.some.inj computed)
    cases kind <;> decide
  | address =>
    obtain ⟨entity, _, computed⟩ := Except.bind_eq_ok_iff.mp (Option.some.inj computed)
    split at computed
    · cases computed
    · obtain ⟨_, _, computed⟩ := Except.bind_eq_ok_iff.mp computed
      exact length_map computed fun _ => rfl

/-! ### Statements -/

variable {program : Program} {configuration : Configuration}

theorem lt_of_boundField {name : String} {field : Int}
    (bound : boundField program name = .ok field) :
    field < 0x80000000 := by
  unfold boundField at bound
  split at bound
  · next definition _ =>
    cases bound
    have small := definition.offset.toNat_lt
    simp only [Definition.start]
    omega
  · cases bound

theorem lt_of_stateBindings {bindings : StateBindings}
    (bound : stateBindings program = .ok bindings) :
    ∀ field ∈ bindings.fields, field < 0x80000000 := by
  obtain ⟨_, _, bound⟩ := Except.bind_eq_ok_iff.mp bound
  obtain ⟨_, _, bound⟩ := Except.bind_eq_ok_iff.mp bound
  obtain ⟨nextThink, nextThinkBound, bound⟩ := Except.bind_eq_ok_iff.mp bound
  obtain ⟨frame, frameBound, bound⟩ := Except.bind_eq_ok_iff.mp bound
  obtain ⟨think, thinkBound, bound⟩ := Except.bind_eq_ok_iff.mp bound
  cases bound
  intro field member
  simp only [StateBindings.fields, List.mem_cons, List.not_mem_nil, or_false] at member
  rcases member with rfl | rfl | rfl
  · exact lt_of_boundField nextThinkBound
  · exact lt_of_boundField frameBound
  · exact lt_of_boundField thinkBound

/-- The pointers of a state change are the addresses of its fields, one by one. -/
theorem stateWrites_eq_ok {interval : Slot} {writes : List (Int × Slot)}
    (found : stateWrites program interval a b machine = .ok writes) :
    ∃ bindings entity, stateBindings program = .ok bindings ∧
      machine.reference bindings.entity = .ok entity ∧
      List.Forall₂ (fun field write => machine.entities.address entity field 1 = .ok write.1)
        bindings.fields writes := by
  obtain ⟨bindings, bound, found⟩ := Except.bind_eq_ok_iff.mp found
  obtain ⟨entity, entityRead, found⟩ := Except.bind_eq_ok_iff.mp found
  obtain ⟨nextThink, nextThinkFound, found⟩ := Except.bind_eq_ok_iff.mp found
  obtain ⟨frame, frameFound, found⟩ := Except.bind_eq_ok_iff.mp found
  obtain ⟨think, thinkFound, found⟩ := Except.bind_eq_ok_iff.mp found
  obtain ⟨_, _, found⟩ := Except.bind_eq_ok_iff.mp found
  obtain ⟨_, _, found⟩ := Except.bind_eq_ok_iff.mp found
  obtain ⟨_, _, found⟩ := Except.bind_eq_ok_iff.mp found
  cases found
  exact ⟨bindings, entity, bound, entityRead,
    .cons nextThinkFound (.cons frameFound (.cons thinkFound .nil))⟩

theorem writesOnly_changeState (sound : machine.entities.Sound)
    (addressable : machine.entities.slots.size ≤ 0x80000000) (interval : Slot) :
    (changeState program interval a b).WritesOnly
      ((machine.stateDestination program).toOption.getD []) machine := by
  unfold changeState
  refine Action.writesOnly_inspect_bind fun writes found => ?_
  obtain ⟨bindings, entity, bound, entityRead, addresses⟩ := stateWrites_eq_ok found
  -- Each write goes to a field of a record that exists.
  have places : List.Forall₂ (fun (field : Int) (write : Int × Slot) =>
      entity.toNat < machine.entities.count ∧ field.toNat + 1 ≤ machine.entities.stride ∧
        write.1 = (entity.toNat * machine.entities.stride + field.toNat : Nat))
      bindings.fields writes := by
    refine ((List.forall₂_and_left _ _).mpr ⟨lt_of_stateBindings bound, addresses⟩).imp ?_
    rintro field write ⟨small, address⟩
    exact sound.address_eq_ok addressable small Nat.one_pos (by omega) address
  have destination : machine.stateDestination program =
      .ok (writes.map fun write => .entities write.1.toNat 1) := by
    refine Except.bind_eq_ok_iff.mpr
      ⟨bindings, bound, Except.bind_eq_ok_iff.mpr ⟨entity, entityRead, congrArg Except.ok ?_⟩⟩
    rw [← List.forall₂_eq_eq_eq, List.forall₂_map_left_iff, List.forall₂_map_right_iff]
    exact places.imp fun field write place => by rw [place.2.2, Int.toNat_natCast]
  have each : ∀ write ∈ writes, ∃ offset, entity.toNat < machine.entities.count ∧
      offset + 1 ≤ machine.entities.stride ∧
      write.1 = (entity.toNat * machine.entities.stride + offset : Nat) := by
    clear found destination addresses bound
    generalize bindings.fields = fields at places
    induction places with
    | nil => exact nofun
    | cons place _ inductionHypothesis =>
      exact List.forall_mem_cons.mpr ⟨⟨_, place⟩, inductionHypothesis⟩
  rw [destination]
  change Action.WritesOnly (writes.map fun write => .entities write.1.toNat 1) machine _
  refine Action.writesOnly_forM_write ?_ (fun write member => List.mem_map_of_mem member) ?_
  · intro write member
    obtain ⟨offset, present, room, place⟩ := each write member
    rw [place]
    exact sound.checkPointer_field addressable present room
  · intro extent member
    obtain ⟨write, written, rfl⟩ := List.mem_map.mp member
    obtain ⟨offset, present, room, place⟩ := each write written
    refine ⟨entity.toNat, present, ?_, ?_⟩ <;> rw [place, Int.toNat_natCast]
    · exact Nat.le_add_right _ _
    · rw [Nat.succ_mul]
      omega

theorem writesOnly_placeResult :
    (placeResult a).WritesOnly (if a = 0 then [] else [.globals Region.returnStart 3]) machine := by
  unfold placeResult
  by_cases none : a = 0
  · rw [if_pos none, if_neg (not_not_intro none)]
    exact Action.writesOnly_pure ()
  · rw [if_neg none, if_pos none]
    exact Action.writesOnly_inspect_bind fun _ _ => Action.writesOnly_write rfl

theorem writesOnly_branch (taken : Slot → Bool) (index : Nat) (delta : UInt16) :
    (branch taken index a delta).WritesOnly [] machine := by
  refine Action.writesOnly_inspect_bind fun condition _ => ?_
  split
  · exact Action.writesOnly_inspect_bind fun _ _ => Action.writesOnly_pure _
  · exact Action.writesOnly_pure _

/-- Computing some values and leaving them somewhere writes them there. -/
theorem writesOnly_computed {compute : Machine → Option (Except Fault (List Slot))}
    {known : Except Fault (List Slot)} {offset width : Nat}
    (computes : compute machine = some known)
    (length : ∀ values, known = .ok values → values.length = width) :
    (do
      match ← get >>= fun machine => pure (compute machine) with
      | some values =>
        let values ← Action.inspect fun _ => values
        Action.changeGlobals fun globals => globals.write offset values
        return .next
      | none => return .next : Action Flow).WritesOnly [.globals offset width] machine := by
  unfold Action.WritesOnly
  rw [Action.bind_apply, Action.bind_apply, Action.get_apply]
  simp only [Action.pure_apply, computes]
  exact Action.writesOnly_inspect_bind fun values computed =>
    (Action.writesOnly_write (length values computed)).bind_pure _

theorem lt_of_reference {offset : Nat} {reference : Int}
    (read : machine.reference offset = .ok reference) : reference < 0x80000000 := by
  unfold Machine.reference Globals.getSigned at read
  cases found : machine.globals.get offset with
  | ok slot =>
    rw [found] at read
    cases read
    exact Slot.signed_lt slot
  | error fault =>
    rw [found] at read
    cases read

/-- A statement whose operation is decoded has a number that stands for it. -/
theorem operation?_of_operation {statement : Statement} {operation : Opcode}
    (decoded : statement.operation = .ok operation) : statement.operation? = some operation := by
  unfold Statement.operation at decoded
  cases known : statement.operation? with
  | some found =>
    rw [known] at decoded
    cases decoded
    rfl
  | none =>
    rw [known] at decoded
    cases decoded

/-- Every operation that is no call keeps to its destination. -/
theorem writesOnly_step (sound : machine.entities.Sound)
    (addressable : machine.entities.slots.size ≤ 0x80000000) (index : Nat) {statement : Statement}
    (noCall : ∀ arguments, statement.operation? ≠ some (.call arguments)) :
    (step program configuration index statement).WritesOnly (statement.destination program machine)
      machine := by
  unfold step
  refine Action.writesOnly_inspect_bind fun operation decoded => ?_
  have known : statement.operation? = some operation := operation?_of_operation decoded
  simp only [Statement.destination, known]
  cases operation with
  | done =>
    exact (Action.writesOnly_changeGlobals fun _ => Globals.write_of_fill).bind_pure _
  | leave => exact writesOnly_placeResult.bind_pure _
  | store kind =>
    exact (Action.writesOnly_changeGlobals fun _ => Globals.write_of_copy).bind_pure _
  | storeThrough kind =>
    refine Action.writesOnly_inspect_bind fun pointer read => ?_
    refine Action.writesOnly_inspect_bind fun values sliced => ?_
    simp only [destination, read]
    have small := lt_of_reference read
    refine (Action.writesOnly_writeEntities sound small (Globals.length_of_slice sliced)
      ?_ ?_).bind_pure _
    · cases kind <;> decide
    · cases kind <;> decide
  | branchIf => exact writesOnly_branch _ _ _
  | branchUnless => exact writesOnly_branch _ _ _
  | goto => exact Action.writesOnly_inspect_bind fun _ _ => Action.writesOnly_pure _
  | call arguments => exact absurd known (noCall arguments)
  | state => exact (writesOnly_changeState sound addressable _).bind_pure _
  | _ =>
    exact writesOnly_computed rfl fun values computed =>
      length_of_computed configuration.protectWorld _ statement.b.toNat (congrArg some computed)

/-- A statement that is no call, executed on whatever a host has made of the entities as long as all
their slots have addresses, changes nothing but the slots of its destination if it succeeds. The
destination lies inside the segment, or inside the record of one entity, and no string changes. A
statement that fails leaves the machine as it was. -/
theorem statement_confined {stride limit reserved : Nat}
    (built : machine.entities.Built stride limit reserved)
    (addressable : machine.entities.slots.size ≤ 0x80000000) (index : Nat) {statement : Statement}
    (noCall : ∀ arguments, statement.operation? ≠ some (.call arguments)) :
    match step program configuration index statement machine with
    | .ok _ after =>
      machine.ConfinedTo (statement.destination program machine) after ∧
        (∀ extent ∈ statement.destination program machine, extent.Inside machine) ∧
        after.strings = machine.strings
    | .error _ after => after = machine := by
  have writes : (step program configuration index statement).WritesOnly
      (statement.destination program machine) machine :=
    writesOnly_step built.sound addressable index noCall
  unfold Action.WritesOnly at writes
  split
  · next ends =>
    rw [ends] at writes
    exact ⟨writes.1, writes.2, writes.1.strings_eq⟩
  · next ends =>
    rw [ends] at writes
    exact writes

/-- A program whose own globals are a pointer and a vector. -/
def pointing : Program :=
  { header :=
      { version := 6
        checksum := 0
        statements := ⟨60, 0⟩
        globalDefinitions := ⟨60, 0⟩
        fieldDefinitions := ⟨60, 0⟩
        functions := ⟨60, 0⟩
        strings := ⟨60, 1⟩
        globals := ⟨61, 32⟩
        entityFields := 4 }
    statements := #[]
    globalDefinitions := #[]
    fieldDefinitions := #[]
    functions := #[]
    strings := #[0]
    globals := Array.replicate 28 0 ++ #[1, 0x3f800000, 0x40000000, 0x40400000]
    entityFields := 4 }

/-- The vector is stored through the pointer, into the last three slots of the world. -/
theorem statement_confined_storing :
    (create pointing .standard).entities.Built 4 1024 1 ∧
      (create pointing .standard).entities.slots.size ≤ 0x80000000 ∧
      ∃ after, step pointing .standard 0 ⟨38, 29, 28, 0⟩ (create pointing .standard) =
          .ok .next after ∧
        after.entities.slots = #[0, 0x3f800000, 0x40000000, 0x40400000] ∧
        (create pointing .standard).ConfinedTo [.entities 1 3] after := by
  have addressable : (create pointing .standard).entities.slots.size ≤ 0x80000000 := by
    decide
  have confined : (create pointing .standard).ConfinedTo [.entities 1 3] _ ∧ _ ∧ _ :=
    @statement_confined (create pointing .standard) pointing .standard 4 1024 1 .created addressable
      0 ⟨38, 29, 28, 0⟩ (by decide)
  exact ⟨.created, addressable, _, rfl, by decide, confined.1⟩

end Machine

end Gamecode
