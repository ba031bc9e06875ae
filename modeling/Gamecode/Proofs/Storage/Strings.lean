/-
This file is about the strings that a host can come to. Whatever runs only ever adds to the table of
permanent strings, and what is added stands behind everything that was there. A text that ends
inside the table of the program is therefore the same for ever. A last text without a terminator is
not: what is added next is read as its continuation.
-/

import Gamecode.Proofs.Image.RoundTrip
import Gamecode.Proofs.Run
import Gamecode.Snapshot

namespace Gamecode

/-! ### Tables that grow -/

/-- A text that ends before the end of the table is not touched by what is added behind it; one that
does not end there goes on in what is added. -/
theorem Text.untilNul_append {table longer : Array UInt8} {more : List UInt8}
    (same : longer.toList = table.toList ++ more) {start : Nat} (inside : start ≤ table.size) :
    Text.untilNul longer start =
      if start + (Text.untilNul table start).length < table.size then Text.untilNul table start
      else Text.untilNul table start ++ more.takeWhile (· ≠ 0) := by
  rw [Text.untilNul_eq, Text.untilNul_eq, same,
    List.drop_append_of_le_length (by rwa [Array.length_toList]), List.takeWhile_append]
  have rest : (table.toList.drop start).length = table.size - start := by
    rw [List.length_drop, Array.length_toList]
  have shorter : ((table.toList.drop start).takeWhile (· ≠ 0)).length ≤ table.size - start :=
    rest ▸ (List.takeWhile_sublist _).length_le
  by_cases ended : start + ((table.toList.drop start).takeWhile (· ≠ 0)).length < table.size
  · rw [if_pos ended, if_neg (by omega)]
  · have whole : ((table.toList.drop start).takeWhile (· ≠ 0)).length =
        (table.toList.drop start).length := by omega
    rw [if_neg ended, if_pos whole,
      (List.takeWhile_sublist _).eq_of_length whole]

namespace StringHeap

/-- A heap that came from another one by adding permanent strings and temporaries. -/
inductive Grows (heap : StringHeap) : StringHeap → Prop
  | same : Grows heap heap
  | interned {reached : StringHeap} (grows : Grows heap reached) (text : List UInt8) :
      Grows heap (reached.intern text).2
  | stored {reached : StringHeap} (grows : Grows heap reached) (text : List UInt8) :
      Grows heap (reached.addTemporary text).2

variable {heap middle after : StringHeap}

theorem Grows.trans (first : heap.Grows middle) (second : middle.Grows after) :
    heap.Grows after := by
  induction second with
  | same => exact first
  | interned _ text inductionHypothesis => exact inductionHypothesis.interned text
  | stored _ text inductionHypothesis => exact inductionHypothesis.stored text

/-- Adding a permanent string puts it behind the table, if anything. -/
theorem table_intern (heap : StringHeap) (text : List UInt8) :
    ∃ more, (heap.intern text).2.table.toList = heap.table.toList ++ more := by
  unfold intern
  split
  · exact ⟨[], (List.append_nil _).symm⟩
  · split
    · exact ⟨[], (List.append_nil _).symm⟩
    · exact ⟨text ++ [0], by simp⟩

/-- The table of permanent strings is only ever added to. -/
theorem Grows.table_eq (grows : heap.Grows after) :
    ∃ more, after.table.toList = heap.table.toList ++ more := by
  induction grows with
  | same => exact ⟨[], (List.append_nil _).symm⟩
  | @interned reached _ text inductionHypothesis =>
    obtain ⟨before, reachedEq⟩ := inductionHypothesis
    obtain ⟨more, added⟩ := reached.table_intern text
    exact ⟨before ++ more, by rw [added, reachedEq, List.append_assoc]⟩
  | stored _ _ inductionHypothesis => exact inductionHypothesis

/-- A reference that is not negative is a place in the table. -/
theorem get_natCast (heap : StringHeap) (place : Nat) :
    heap.get place =
      if place < heap.table.size then .ok (Text.untilNul heap.table place)
      else .error (.badString place) := by
  have permanent : isTemporary (place : Int) = false :=
    decide_eq_false (Int.not_lt.mpr (Int.natCast_nonneg place))
  unfold get
  rw [permanent, if_neg Bool.false_ne_true, Int.toNat_natCast]

/-- A text with a terminator reads the same however much was added. -/
theorem Grows.get_eq (grows : heap.Grows after) {offset : Nat} {text : List UInt8}
    (known : heap.get offset = .ok text) (ended : offset + text.length < heap.table.size) :
    after.get offset = .ok text := by
  obtain ⟨more, same⟩ := grows.table_eq
  have size : heap.table.size ≤ after.table.size := by
    rw [← Array.length_toList, ← Array.length_toList, same, List.length_append]
    omega
  rw [get_natCast, if_pos (by omega)] at known
  rw [get_natCast, if_pos (by omega)]
  cases known
  rw [Text.untilNul_append same (by omega), if_pos ended]

end StringHeap

/-! ### Machines whose strings grow -/

namespace Machine

/-- The strings of the one machine came from those of the other one by adding to them. -/
def StringsGrow (before after : Machine) : Prop :=
  before.strings.Grows after.strings

instance : IsPreorder Machine StringsGrow where
  refl _ := .same
  trans _ _ _ first second := StringHeap.Grows.trans first second

theorem stringsGrow_of_eq {before after : Machine} (same : after.strings = before.strings) :
    StringsGrow before after := by
  unfold StringsGrow
  rw [same]
  exact .same

instance : AllowsCalls StringsGrow where
  globals _ := .same
  entities _ := .same
  stack _ _ _ := .same
  profiled _ _ := .same
  noted _ _ _ _ _ _ := .same

instance : Builtins.Allowed StringsGrow where
  temporary _ text := StringHeap.Grows.same.stored text
  spawned _ := .same
  removed _ := .same
  printed _ _ := .same
  traced _ _ := .same

/-! ### Snapshots -/

section Applied

variable {relation : Machine → Machine → Prop} [IsPreorder Machine relation]
  (interned : ∀ (machine : Machine) (text : String), relation machine
    { machine with strings := (machine.strings.intern (Text.encode text)).2 })

include interned

/-- A text is the only saved value that changes the machine, and it is added to the strings. -/
theorem keeps_slotsOf (program : Program) (value : SavedValue) :
    (Snapshot.slotsOf program value).Keeps relation := by
  cases value with
  | float | vector | entity => exact Action.keeps_pure _
  | string text => exact fun machine => interned machine text
  | function name =>
    unfold Snapshot.slotsOf
    dsimp only
    split
    · exact Action.keeps_pure _
    · split
      · exact Action.keeps_pure _
      · exact Action.keeps_throw _

theorem keeps_slotsFor (program : Program) (name : String) (definition : Definition)
    (value : SavedValue) : (Snapshot.slotsFor program name definition value).Keeps relation := by
  unfold Snapshot.slotsFor
  dsimp only
  split
  · split
    · exact Action.keeps_throw _
    · exact keeps_slotsOf interned program value
  · exact Action.keeps_throw _

variable [AllowsCalls relation]

/-- Giving a snapshot to the globals adds texts to the strings and writes to the globals. -/
theorem keeps_applyToGlobals (program : Program) (snapshot : Snapshot) :
    (Snapshot.applyToGlobals program snapshot).Keeps relation := by
  refine Action.keeps_forM fun (name, value) => ?_
  unfold Snapshot.applyGlobal
  dsimp only
  split
  · exact (keeps_slotsFor interned _ _ _ _).bind fun _ => keeps_writeGlobals _ _
  · exact Action.keeps_throw _

/-- Giving a snapshot to an entity adds texts to the strings and writes to the entities. -/
theorem keeps_applyToEntity (program : Program) (entity : Int) (snapshot : Snapshot) :
    (Snapshot.applyToEntity program entity snapshot).Keeps relation := by
  refine (Action.keeps_inspect _).bind fun _ => Action.Keeps.bind ?_ fun _ => ?_
  · unfold Snapshot.clearFields
    refine Action.keeps_get.bind fun _ => ?_
    dsimp only
    split
    · exact (Action.keeps_inspect _).bind fun _ => keeps_writeEntities _ _
    · exact Action.keeps_pure _
  · refine Action.keeps_forM fun (name, value) => ?_
    unfold Snapshot.applyField
    dsimp only
    split
    · refine (keeps_slotsFor interned _ _ _ _).bind fun _ => ?_
      exact (Action.keeps_inspect _).bind fun _ => keeps_writeEntities _ _
    · exact Action.keeps_throw _

end Applied

theorem stringsGrow_interned (machine : Machine) (text : String) : StringsGrow machine
    { machine with strings := (machine.strings.intern (Text.encode text)).2 } :=
  StringHeap.Grows.same.interned (Text.encode text)

/-! ### Machines that a host comes to -/

/-- A machine that a host comes to. The machine right after loading is one, and from one to the next
lead calls, runs, snapshots, strings that the host adds, a new start, and whatever leaves the
strings alone. -/
inductive Arises (environment : Environment) : Machine → Prop
  | created : Arises environment (create environment.program environment.configuration)
  | called {machine after : Machine} {budget function : Nat} {arguments : List Value}
      {result : Except Report Vector3} (arises : Arises environment machine)
      (ends : call environment budget function arguments machine = some (result, after)) :
      Arises environment after
  | invoked {machine after : Machine} {budget function : Nat} {result : Except Fault Unit}
      (arises : Arises environment machine)
      (ends : invoke environment budget function machine = some (result, after)) :
      Arises environment after
  | importedGlobals {machine : Machine} (arises : Arises environment machine)
      (snapshot : Snapshot) :
      Arises environment ((Snapshot.applyToGlobals environment.program snapshot).leaves machine)
  | importedEntity {machine : Machine} (arises : Arises environment machine) (entity : Int)
      (snapshot : Snapshot) :
      Arises environment
        ((Snapshot.applyToEntity environment.program entity snapshot).leaves machine)
  | interned {machine : Machine} (arises : Arises environment machine) (text : String) :
      Arises environment
        { machine with strings := (machine.strings.intern (Text.encode text)).2 }
  | stored {machine : Machine} (arises : Arises environment machine) (text : List UInt8) :
      Arises environment { machine with strings := (machine.strings.addTemporary text).2 }
  | restarted {machine : Machine} (arises : Arises environment machine) :
      Arises environment (machine.reset environment.program environment.configuration)
  | changed {machine after : Machine} (arises : Arises environment machine)
      (same : after.strings = machine.strings) : Arises environment after

variable {environment : Environment} {machine : Machine}

/-- The strings of every machine came from those right after loading by adding to them. -/
theorem Arises.grows (respects : environment.builtins.Respects StringsGrow environment.program)
    (arises : Arises environment machine) :
    (create environment.program environment.configuration).StringsGrow machine := by
  have steps : StepsKeep StringsGrow environment := stepsKeep environment
  induction arises with
  | created => exact .same
  | called _ ends grows => exact grows.trans (steps.call respects ends)
  | invoked _ ends grows => exact grows.trans (steps.invoke respects ends)
  | importedGlobals _ snapshot grows =>
    exact grows.trans (keeps_applyToGlobals stringsGrow_interned environment.program snapshot _)
  | importedEntity _ entity snapshot grows =>
    exact grows.trans
      (keeps_applyToEntity stringsGrow_interned environment.program entity snapshot _)
  | interned _ text grows => exact grows.interned (Text.encode text)
  | stored _ text grows => exact grows.stored text
  | restarted => exact .same
  | changed _ same grows => exact grows.trans (stringsGrow_of_eq same)

/-- The heap right after loading gives every string of the program. Only an empty table is made
longer for that. -/
theorem get_create {program : Program} {offset : Int} {text : List UInt8}
    (known : program.stringBytes? offset = some text) (ringSize : Nat) :
    ∃ place : Nat, offset = place ∧
      (StringHeap.create program.strings ringSize).get place = .ok text ∧
      place < (StringHeap.create program.strings ringSize).table.size ∧
      (place + text.length < (StringHeap.create program.strings ringSize).table.size ↔
        program.strings = #[] ∨ place + text.length < program.strings.size) := by
  unfold Program.stringBytes? at known
  split at known
  · cases known
  next natural =>
  obtain ⟨place, rfl⟩ := Int.eq_ofNat_of_zero_le (Int.not_lt.mp natural)
  refine ⟨place, rfl, ?_⟩
  rw [Int.toNat_natCast] at known
  rw [StringHeap.get_natCast]
  unfold StringHeap.create
  dsimp only
  split at known
  · next inside =>
    have filled : program.strings ≠ #[] := by
      intro empty
      rw [empty] at inside
      exact Nat.not_lt_zero _ inside
    cases known
    rw [if_neg (mt Array.isEmpty_iff.mp filled), if_pos inside]
    exact ⟨rfl, inside, (or_iff_right filled).symm⟩
  · next outside =>
    split at known
    · next zero =>
      cases known
      obtain rfl : place = 0 := Int.ofNat_eq_zero.mp zero
      have empty : program.strings = #[] := Array.size_eq_zero_iff.mp (by omega)
      rw [empty]
      exact ⟨rfl, Nat.one_pos, iff_of_true Nat.one_pos (.inl rfl)⟩
    · cases known

/-- A plus sign that is added right after loading is read as the end of a text that has no
terminator. -/
theorem get_create_intern {table : Array UInt8} {ringSize place : Nat} {text : List UInt8}
    (read : (StringHeap.create table ringSize).get place = .ok text)
    (inside : place < (StringHeap.create table ringSize).table.size)
    (unended : ¬ place + text.length < (StringHeap.create table ringSize).table.size) :
    ((StringHeap.create table ringSize).intern (Text.encode "+")).2.get place =
      .ok (text ++ [0x2b]) := by
  have bytes : Text.encode "+" = [0x2b] := by decide +kernel
  rw [bytes]
  generalize heapEq : StringHeap.create table ringSize = heap at read inside unended ⊢
  have fresh : heap.interned = [] := by rw [← heapEq]; rfl
  have added : (heap.intern [0x2b]).2.table.toList = heap.table.toList ++ [0x2b, 0] := by
    unfold StringHeap.intern
    rw [fresh]
    simp
  have longer : heap.table.size < (heap.intern [0x2b]).2.table.size := by
    rw [← Array.length_toList, ← Array.length_toList, added, List.length_append]
    exact Nat.lt_add_of_pos_right Nat.two_pos
  rw [StringHeap.get_natCast, if_pos inside] at read
  rw [StringHeap.get_natCast, if_pos (Nat.lt_trans inside longer)]
  cases read
  rw [Text.untilNul_append added (Nat.le_of_lt inside), if_neg unended]
  rfl

/-- A string of the program reads the same in every machine that a host comes to exactly where it
has a terminator in the table of the program, or where that table is empty. -/
theorem string_kept_iff (respects : environment.builtins.Respects StringsGrow environment.program)
    {offset : Int} {text : List UInt8}
    (known : environment.program.stringBytes? offset = some text) :
    (∀ machine, Arises environment machine → machine.strings.get offset = .ok text) ↔
      environment.program.strings = #[] ∨
        offset.toNat + text.length < environment.program.strings.size := by
  obtain ⟨place, rfl, read, inside, ended⟩ :=
    get_create known environment.configuration.temporaryStrings
  rw [Int.toNat_natCast, ← ended]
  constructor
  · intro kept
    refine Decidable.byContradiction fun unended => ?_
    have longer := get_create_intern read inside unended
    have same := kept _ (.interned .created "+")
    rw [create] at same
    rw [same] at longer
    have lengths := congrArg List.length (Except.ok.inj longer)
    rw [List.length_append, List.length_singleton] at lengths
    omega
  · intro room machine arises
    exact (arises.grows respects).get_eq read room

end Machine

namespace Unterminated

/-- A program with the strings `a` and `ab`, of which the last one has no terminator. -/
def program : Program :=
  { header :=
      { version := 6
        checksum := 0
        statements := ⟨60, 0⟩
        globalDefinitions := ⟨60, 0⟩
        fieldDefinitions := ⟨60, 0⟩
        functions := ⟨60, 0⟩
        strings := ⟨60, 5⟩
        globals := ⟨65, 28⟩
        entityFields := 0 }
    statements := #[]
    globalDefinitions := #[]
    fieldDefinitions := #[]
    functions := #[]
    strings := #[0, 0x61, 0, 0x61, 0x62]
    globals := Array.replicate 28 0
    entityFields := 0 }

def environment : Environment :=
  ⟨program, .standard, Builtins.installClassic .empty⟩

theorem loaded : Image.load (Image.save program) .none = .ok environment.program :=
  Image.load_save_of_check (by decide +kernel) (by decide) (by decide)

theorem respects :
    environment.builtins.Respects Machine.StringsGrow environment.program :=
  Builtins.respects_installClassic Builtins.respects_empty

end Unterminated

namespace Machine

/-- The first string keeps its text, and the last one does not. -/
theorem string_kept_iff_unterminated :
    Image.load (Image.save Unterminated.program) .none = .ok Unterminated.environment.program ∧
      Unterminated.environment.builtins.Respects StringsGrow Unterminated.environment.program ∧
      Unterminated.environment.program.stringBytes? 1 = some [0x61] ∧
      Unterminated.environment.program.stringBytes? 3 = some [0x61, 0x62] ∧
      (∀ machine, Arises Unterminated.environment machine →
        machine.strings.get 1 = .ok [0x61]) ∧
      ¬ ∀ machine, Arises Unterminated.environment machine →
        machine.strings.get 3 = .ok [0x61, 0x62] := by
  have first : Unterminated.environment.program.stringBytes? 1 = some [0x61] := by decide
  have last : Unterminated.environment.program.stringBytes? 3 = some [0x61, 0x62] := by
    decide
  refine ⟨Unterminated.loaded, Unterminated.respects, first, last, ?_, ?_⟩
  · exact (string_kept_iff Unterminated.respects first).mpr (by decide)
  · exact (not_congr (string_kept_iff Unterminated.respects last)).mpr (by decide)

/-- Once a host adds `c`, the last string of the program reads `abc`. -/
theorem last_string_continued :
    ∃ machine, Arises Unterminated.environment machine ∧
      Image.load (Image.save Unterminated.program) .none = .ok Unterminated.environment.program ∧
      Unterminated.environment.program.stringBytes? 3 = some [0x61, 0x62] ∧
      machine.strings.get 3 = .ok [0x61, 0x62, 0x63] :=
  ⟨_, .interned .created "c", Unterminated.loaded, by decide,
    Except.eq_ok_of_toOption (by decide +kernel)⟩

end Machine

end Gamecode
