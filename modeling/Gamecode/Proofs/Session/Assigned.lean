/-
This file is about the command that gives a global a value. It goes by the number of numbers that
were typed, not by the type of the global: one number is written over the first slot, and three are
written over three slots, whatever these belong to. Then the global is shown, which is a step of its
own and may fail although the value was written. So the command keeps to its global, and leaves
everything as it was where it fails, in some cases only, and they are told apart here.
-/

import Gamecode.Proofs.Snapshot.Accepted
import Gamecode.Proofs.Snapshot.Fields
import Gamecode.Session.Conversation

namespace Gamecode

namespace Session

variable {session : Session} {name value : String} {definition : Definition} {numbers : List Slot}

/-! ### What is written -/

/-- The command finds a global and reads one number or three, and there are slots to write them
over. -/
structure Writes (session : Session) (name value : String) (definition : Definition)
    (numbers : List Slot) : Prop where
  found : session.program.findGlobal? name = some definition
  read : numbers? value = some numbers
  shape : numbers.length = 1 ∨ numbers.length = 3
  covered : session.machine.globals.Covers definition.start numbers.length

/-- The session once numbers were written from the first slot of a global on. -/
def wrote (session : Session) (definition : Definition) (numbers : List Slot) : Session :=
  session.withMachine { session.machine with
    globals := ⟨session.machine.globals.slots.put definition.start numbers⟩ }

/-- One number or three are written over as many slots, and then the global is shown. -/
theorem assign_of_shape (session : Session) (name : String) (read : numbers? value = some numbers)
    (shape : numbers.length = 1 ∨ numbers.length = 3) :
    session.assign name value =
      match session.changeGlobal name fun offset globals => globals.write offset numbers with
      | (.error fault, session) => (.error (.fault fault), session)
      | (.ok (), session) => (session.globalText name, session) := by
  unfold assign
  rw [read]
  -- A single slot is set as a row of one slot is written, and a vector as a row of three.
  match numbers, shape with
  | [_], _ => rfl
  | [_, _, _], _ => rfl

theorem changeGlobal_of_found {change : Nat → Globals → Except Fault Globals}
    (found : session.program.findGlobal? name = some definition) :
    session.changeGlobal name change =
      session.act (Action.changeGlobals (change definition.start)) := by
  unfold changeGlobal globalOffset
  rw [found]

theorem Writes.assign_eq (writes : session.Writes name value definition numbers) :
    session.assign name value =
      ((session.wrote definition numbers).globalText name, session.wrote definition numbers) := by
  have written := Globals.write_eq_ok_iff.mpr ⟨writes.covered, rfl⟩
  rw [session.assign_of_shape name writes.read writes.shape,
    changeGlobal_of_found writes.found, act, Action.changeGlobals, written]
  rfl

/-- The slots that the numbers are written over hold them. -/
theorem Writes.getElem?_inside {place : Nat} (writes : session.Writes name value definition numbers)
    (inside : place < numbers.length) :
    (session.assign name value).2.machine.globals.slots[definition.start + place]? =
      numbers[place]? := by
  rw [writes.assign_eq]
  exact Cells.getElem?_put_self _ _ _ _ inside writes.covered

/-- All other slots are as they were. -/
theorem Writes.getElem?_outside {slot : Nat} (writes : session.Writes name value definition numbers)
    (outside : slot < definition.start ∨ definition.start + numbers.length ≤ slot) :
    (session.assign name value).2.machine.globals.slots[slot]? =
      session.machine.globals.slots[slot]? := by
  rw [writes.assign_eq]
  exact Cells.getElem?_put_other _ _ _ _ outside

/-- Any other count is refused. -/
theorem assign_of_misshapen (session : Session) (name : String)
    (read : numbers? value = some numbers)
    (shape : ¬ (numbers.length = 1 ∨ numbers.length = 3)) :
    ∃ failure, session.assign name value = (.error failure, session) := by
  unfold assign
  rw [read]
  match numbers, shape with
  | [], _ | [_, _], _ | _ :: _ :: _ :: _ :: _, _ => exact ⟨_, rfl⟩
  | [_], shape => exact absurd (.inl rfl) shape
  | [_, _, _], shape => exact absurd (.inr rfl) shape

/-- A command that writes nothing fails and changes nothing. -/
theorem assign_of_not_writes
    (nothing : ¬ ∃ definition numbers, session.Writes name value definition numbers) :
    ∃ failure, session.assign name value = (.error failure, session) := by
  cases read : numbers? value with
  | none =>
    unfold assign
    rw [read]
    exact ⟨_, rfl⟩
  | some numbers =>
    by_cases shape : numbers.length = 1 ∨ numbers.length = 3
    · rw [session.assign_of_shape name read shape]
      cases found : session.program.findGlobal? name with
      | none =>
        unfold changeGlobal globalOffset
        rw [found]
        exact ⟨_, rfl⟩
      | some definition =>
        have uncovered : ¬ session.machine.globals.Covers definition.start numbers.length :=
          fun covered => nothing ⟨definition, numbers, found, read, shape, covered⟩
        rw [changeGlobal_of_found found, act, Action.changeGlobals, Globals.write, if_neg uncovered]
        exact ⟨_, rfl⟩
    · exact session.assign_of_misshapen name read shape

/-! ### What is shown -/

theorem getSigned_of_get {globals : Globals} {offset : Nat} {slot : Slot}
    (held : globals.get offset = .ok slot) : globals.getSigned offset = .ok (Slot.signed slot) := by
  rw [Globals.getSigned, held]
  rfl

/-- A global that is no string can be shown, if its slots are there. -/
theorem exists_globalText {first : Slot}
    (found : session.program.findGlobal? name = some definition)
    (held : session.machine.globals.get definition.start = .ok first)
    (room : definition.type? = some .vector → session.machine.globals.Covers definition.start 3)
    (other : definition.type? ≠ some .string) : ∃ text, session.globalText name = .ok text := by
  unfold globalText
  rw [found]
  dsimp only
  cases typed : definition.type? with
  | none =>
    rw [getSigned_of_get held]
    exact ⟨_, rfl⟩
  | some type =>
    cases type with
    | string => exact absurd typed other
    | float =>
      rw [held]
      exact ⟨_, rfl⟩
    | vector =>
      rw [Globals.getVector, if_pos (room typed)]
      exact ⟨_, rfl⟩
    | _ =>
      rw [getSigned_of_get held]
      exact ⟨_, rfl⟩

/-- A global that is a string is shown as the text that its slot refers to. -/
theorem globalText_of_string {first : Slot}
    (found : session.program.findGlobal? name = some definition)
    (held : session.machine.globals.get definition.start = .ok first)
    (typed : definition.type? = some .string) :
    session.globalText name =
      (Text.quoted <$> session.machine.strings.getText (Slot.signed first)).mapError .fault := by
  unfold globalText
  rw [found]
  dsimp only
  rw [typed, getSigned_of_get held]
  rfl

/-- Showing a global fails for strings only, and there if nothing is under the reference. -/
theorem globalText_fails_iff {first : Slot}
    (found : session.program.findGlobal? name = some definition)
    (held : session.machine.globals.get definition.start = .ok first)
    (room : definition.type? = some .vector → session.machine.globals.Covers definition.start 3) :
    (∃ failure, session.globalText name = .error failure) ↔
      definition.type? = some .string ∧
        ∃ fault, session.machine.strings.getText (Slot.signed first) = .error fault := by
  by_cases typed : definition.type? = some .string
  · rw [globalText_of_string found held typed, and_iff_right typed]
    cases session.machine.strings.getText (Slot.signed first) with
    | error fault => exact iff_of_true ⟨_, rfl⟩ ⟨_, rfl⟩
    | ok text =>
      constructor
      · rintro ⟨failure, failed⟩
        cases failed
      · rintro ⟨fault, failed⟩
        cases failed
  · obtain ⟨text, shown⟩ := exists_globalText found held room typed
    rw [shown]
    exact iff_of_false (fun ⟨_, failed⟩ => nomatch failed) fun both => typed both.1

/-! ### Where the command keeps to its global -/

/-- No slot changes but those of the global that has the name. -/
def KeepsToGlobal (session : Session) (name value : String) : Prop :=
  ∀ slot, (∀ definition, session.program.findGlobal? name = some definition →
      ¬ definition.Covers slot) →
    (session.assign name value).2.machine.globals.slots[slot]? =
      session.machine.globals.slots[slot]?

/-- Where the command fails, no slot changes. -/
def FailsUnchanged (session : Session) (name value : String) : Prop :=
  ∀ failure, (session.assign name value).1 = .error failure →
    (session.assign name value).2.machine.globals = session.machine.globals

/-- There are more numbers than the global has slots, and one of them changes a slot behind it. -/
def Spills (session : Session) (name value : String) : Prop :=
  ∃ definition numbers place, session.Writes name value definition numbers ∧
    definition.width ≤ place ∧ place < numbers.length ∧
    session.machine.globals.slots[definition.start + place]? ≠ numbers[place]?

/-- A string is overwritten with a number under which no string is, and a slot changes by that. -/
def BreaksString (session : Session) (name value : String) : Prop :=
  ∃ definition first rest fault, session.Writes name value definition (first :: rest) ∧
    definition.type? = some .string ∧
    session.machine.strings.getText (Slot.signed first) = .error fault ∧
    session.machine.globals.slots.put definition.start (first :: rest) ≠
      session.machine.globals.slots

theorem Writes.unique {other : Definition} {others : List Slot}
    (writes : session.Writes name value definition numbers)
    (same : session.Writes name value other others) : other = definition ∧ others = numbers :=
  ⟨Option.some.inj (same.found.symm.trans writes.found),
    Option.some.inj (same.read.symm.trans writes.read)⟩

theorem keepsToGlobal_iff :
    session.KeepsToGlobal name value ↔ ¬ session.Spills name value := by
  by_cases writes : ∃ definition numbers, session.Writes name value definition numbers
  · obtain ⟨definition, numbers, writes⟩ := writes
    constructor
    · rintro keeps ⟨other, others, place, same, beyond, inside, differs⟩
      obtain ⟨rfl, rfl⟩ := writes.unique same
      have outside : ∀ definition, session.program.findGlobal? name = some definition →
          ¬ definition.Covers (other.start + place) := by
        intro definition found covers
        obtain rfl := Option.some.inj (writes.found.symm.trans found)
        have upper := covers.2
        omega
      exact differs ((keeps _ outside).symm.trans (writes.getElem?_inside inside))
    · intro unspilled slot outside
      have uncovered := outside definition writes.found
      by_cases written : definition.start ≤ slot ∧ slot < definition.start + numbers.length
      · obtain ⟨place, rfl⟩ := Nat.exists_eq_add_of_le written.1
        have inside : place < numbers.length := by omega
        have beyond : definition.width ≤ place := by
          unfold Definition.Covers at uncovered
          omega
        rw [writes.getElem?_inside inside]
        exact (Decidable.of_not_not fun differs =>
          unspilled ⟨definition, numbers, place, writes, beyond, inside, differs⟩).symm
      · exact writes.getElem?_outside (by omega)
  · obtain ⟨failure, same⟩ := assign_of_not_writes writes
    refine iff_of_true (fun slot _ => by rw [same]) ?_
    rintro ⟨definition, numbers, place, written, -⟩
    exact writes ⟨definition, numbers, written⟩

/-- Once it was written, the global fails to be shown only if it is a string that was broken. -/
theorem Writes.fails_iff {first : Slot} {rest : List Slot}
    (writes : session.Writes name value definition (first :: rest))
    (fits : session.program.DefinitionsFit)
    (sized : session.machine.globals.size = session.program.globals.size) :
    (∃ failure, (session.assign name value).1 = .error failure) ↔ definition.type? = some .string ∧
      ∃ fault, session.machine.strings.getText (Slot.signed first) = .error fault := by
  rw [writes.assign_eq]
  have held : (session.wrote definition (first :: rest)).machine.globals.get definition.start =
      .ok first := by
    have stored : (session.machine.globals.slots.put definition.start (first :: rest))[
        definition.start]? = some first :=
      Cells.getElem?_put_self _ _ (first :: rest) 0 (Nat.zero_lt_succ _) writes.covered
    unfold Globals.get wrote withMachine
    dsimp only
    rw [stored]
  refine globalText_fails_iff writes.found held fun isVector => ?_
  have inside := fits definition (Program.findGlobal?_some writes.found).1
  have wide : definition.width = 3 := by
    rw [Definition.width, isVector]
    rfl
  unfold Globals.Covers Globals.size wrote withMachine
  dsimp only
  rw [Cells.size_put]
  unfold Globals.size at sized
  omega

theorem failsUnchanged_iff (fits : session.program.DefinitionsFit)
    (sized : session.machine.globals.size = session.program.globals.size) :
    session.FailsUnchanged name value ↔ ¬ session.BreaksString name value := by
  by_cases writes : ∃ definition numbers, session.Writes name value definition numbers
  · obtain ⟨definition, numbers, writes⟩ := writes
    obtain ⟨first, rest, rfl⟩ : ∃ first rest, numbers = first :: rest := by
      match numbers, writes.shape with
      | first :: rest, _ => exact ⟨first, rest, rfl⟩
    have fails := writes.fails_iff fits sized
    have after : (session.assign name value).2.machine.globals =
        ⟨session.machine.globals.slots.put definition.start (first :: rest)⟩ := by
      rw [writes.assign_eq]
      rfl
    constructor
    · rintro unchanged ⟨other, number, others, fault, same, isString, missing, differs⟩
      obtain ⟨rfl, ⟨⟩⟩ := writes.unique same
      obtain ⟨failure, failed⟩ := fails.mpr ⟨isString, fault, missing⟩
      exact differs (congrArg Globals.slots (after.symm.trans (unchanged failure failed)))
    · intro unbroken failure failed
      obtain ⟨isString, fault, missing⟩ := fails.mp ⟨failure, failed⟩
      rw [after]
      exact congrArg Globals.mk (Decidable.of_not_not fun differs =>
        unbroken ⟨definition, first, rest, fault, writes, isString, missing, differs⟩)
  · obtain ⟨failure, same⟩ := assign_of_not_writes writes
    refine iff_of_true (fun _ _ => by rw [same]) ?_
    rintro ⟨definition, first, rest, fault, written, -⟩
    exact writes ⟨definition, _, written⟩

/-- Whatever the program, the state, the name and the value are: the command fails and changes
nothing, or it changes the slots that the numbers are written over. It keeps to its global unless
the numbers spill, and it fails without a change unless it breaks a string. -/
theorem assign_confined_iff {image : Array UInt8} {expectation : Image.Expectation}
    (loaded : Image.load image expectation = .ok session.program)
    (sized : session.machine.globals.size = session.program.globals.size) :
    ((∃ failure, session.assign name value = (.error failure, session)) ∨
        ∃ definition numbers, session.Writes name value definition numbers ∧
          (session.assign name value).2 = session.wrote definition numbers) ∧
      (session.KeepsToGlobal name value ↔ ¬ session.Spills name value) ∧
      (session.FailsUnchanged name value ↔ ¬ session.BreaksString name value) := by
  refine ⟨?_, keepsToGlobal_iff, failsUnchanged_iff (Image.definitionsFit_of_load loaded) sized⟩
  by_cases writes : ∃ definition numbers, session.Writes name value definition numbers
  · obtain ⟨definition, numbers, writes⟩ := writes
    exact .inr ⟨definition, numbers, writes, by rw [writes.assign_eq]⟩
  · exact .inl (assign_of_not_writes writes)

/-- Nothing spills into a global that has room for all the numbers. -/
theorem not_spills_of_wide (found : session.program.findGlobal? name = some definition)
    (wide : 3 ≤ definition.width) : ¬ session.Spills name value := by
  rintro ⟨other, numbers, place, writes, beyond, inside, -⟩
  obtain rfl := Option.some.inj (found.symm.trans writes.found)
  have few := writes.shape
  omega

/-- Nothing but a string is broken. -/
theorem not_breaksString (found : session.program.findGlobal? name = some definition)
    (typed : definition.type? ≠ some .string) : ¬ session.BreaksString name value := by
  rintro ⟨other, first, rest, fault, writes, isString, -⟩
  obtain rfl := Option.some.inj (found.symm.trans writes.found)
  exact typed isString

end Session

namespace Neighbours

/-- A program with the float `x`, and behind it the string `s` and the vector `v`. -/
def program : Program :=
  { header :=
      { version := 6
        checksum := 0
        statements := ⟨60, 1⟩
        globalDefinitions := ⟨68, 3⟩
        fieldDefinitions := ⟨92, 0⟩
        functions := ⟨92, 1⟩
        strings := ⟨128, 7⟩
        globals := ⟨135, 33⟩
        entityFields := 0 }
    statements := #[⟨0, 0, 0, 0⟩]
    globalDefinitions := #[⟨2, 28, 1⟩, ⟨1, 29, 3⟩, ⟨3, 30, 5⟩]
    fieldDefinitions := #[]
    functions := #[⟨0, 0, 0, 0, 0, 0, [], false⟩]
    strings := #[0, 0x78, 0, 0x73, 0, 0x76, 0]
    globals := Array.replicate 33 0
    entityFields := 0 }

/-- A session that has just loaded it. -/
def fresh : Session :=
  .create program .standard

theorem loaded : Image.load (Image.save program) .none = .ok fresh.program :=
  Image.load_save_of_check (by decide +kernel) (by decide) (by decide)

end Neighbours

namespace Session

open Neighbours

/-- Three numbers are a value for the vector: they fill it, and nothing else happens. -/
theorem assign_confined_iff_vector :
    Image.load (Image.save Neighbours.program) .none = .ok fresh.program ∧
      fresh.machine.globals.size = fresh.program.globals.size ∧
      fresh.KeepsToGlobal "v" "1 2 3" ∧ fresh.FailsUnchanged "v" "1 2 3" ∧
      (fresh.assign "v" "1 2 3").2.machine.globals.slots.toList.drop 28 =
        [0, 0, 0x3F800000, 0x40000000, 0x40400000] := by
  have found : fresh.program.findGlobal? "v" = some ⟨3, 30, 5⟩ := by decide
  have sized : fresh.machine.globals.size = fresh.program.globals.size := rfl
  obtain ⟨-, keeps, unchanged⟩ := @assign_confined_iff _ "v" "1 2 3" _ _ loaded sized
  exact ⟨loaded, sized, keeps.mpr (not_spills_of_wide found (by decide)),
    unchanged.mpr (not_breaksString found (by decide)), by decide⟩

/-- Three numbers for the float reach into the string and the vector behind it. One number for the
string is written although there is no such string, and only then the command fails. -/
theorem assign_strays :
    (Command.ofLine ".set x '1 2 3'").toOption = some (some (.assign "x" "1 2 3")) ∧
      (fresh.assign "x" "1 2 3").2.machine.globals.slots.toList.drop 28 =
        [0x3F800000, 0x40000000, 0x40400000, 0, 0] ∧
      ¬ fresh.KeepsToGlobal "x" "1 2 3" ∧
      (Command.ofLine ".set s 5").toOption = some (some (.assign "s" "5")) ∧
      (fresh.assign "s" "5").2.machine.globals.slots.toList.drop 28 = [0, 0x40A00000, 0, 0, 0] ∧
      ¬ fresh.FailsUnchanged "s" "5" := by
  have found : fresh.program.findGlobal? "x" = some ⟨2, 28, 1⟩ := by decide
  refine ⟨by decide, by decide, fun keeps => ?_, by decide,
    by decide, fun unchanged => ?_⟩
  · have outside : ∀ definition, fresh.program.findGlobal? "x" = some definition →
        ¬ definition.Covers 29 := by
      intro definition same
      obtain rfl := Option.some.inj (found.symm.trans same)
      unfold Definition.Covers
      decide
    exact absurd (keeps 29 outside) (by decide)
  · have differs : (fresh.assign "s" "5").2.machine.globals ≠ fresh.machine.globals := by
      decide
    have failed : (fresh.assign "s" "5").1.toOption = none := by decide
    cases answer : (fresh.assign "s" "5").1 with
    | ok text =>
      rw [answer] at failed
      cases failed
    | error failure => exact differs (unchanged failure answer)

end Session

end Gamecode
