/-
This file is about the slots that an assembler hands out. It takes all of them one behind the other,
but it hands them out as words of 16 bits, and it writes a constant through the word. So as long as
every run of slots starts at one that such a word can number, no slot is handed out twice and every
constant stays what it is. Behind the last of them the numbers start over: there a constant is
written over a slot that something else was told to use.
-/

import Gamecode.Proofs.Assembly.Declared
import Mathlib.Data.List.Pairwise

namespace Gamecode

namespace Cells

/-- Values that are written over new slots are as good as new slots that hold them. -/
theorem put_append_replicate (cells : Cells) (values : List Slot) :
    (cells ++ Array.replicate values.length 0).put cells.size values = cells ++ values.toArray := by
  have size : (cells ++ Array.replicate values.length 0).size = cells.size + values.length := by
    rw [Array.size_append, Array.size_replicate]
  refine Array.ext_getElem? fun index => ?_
  by_cases old : index < cells.size
  · rw [getElem?_put_other _ _ _ _ (.inl old), Array.getElem?_append_left old,
      Array.getElem?_append_left old]
  · obtain ⟨place, rfl⟩ := Nat.exists_eq_add_of_le (Nat.le_of_not_lt old)
    have right : (cells ++ values.toArray)[cells.size + place]? = values[place]? := by
      rw [Array.getElem?_append_right (Nat.le_add_right _ _), Nat.add_sub_cancel_left]
      exact List.getElem?_toArray
    by_cases inside : place < values.length
    · rw [right, getElem?_put_self _ _ _ _ inside (Nat.le_of_eq size.symm)]
    · rw [right, List.getElem?_eq_none (Nat.le_of_not_lt inside), Array.getElem?_eq_none]
      rw [size_put, size]
      omega

end Cells

namespace Assembler

variable {assembler before middle after : Assembler} {operation : Operation}
  {history rest : List Operation} {start stop slot place : Nat}

/-! ### Grants -/

/-- A run of slots that a step hands out. -/
structure Grant where
  /-- How many slots there were before, so the first one of these has this number. -/
  start : Nat
  /-- The offset that is handed out for the first one. -/
  first : UInt16
  /-- What the slots hold at first. -/
  values : List Slot
deriving Repr, DecidableEq

namespace Grant

variable {grant : Grant} {grants more : List Grant}

/-- Whoever goes by the offset takes the slot for one of the run. -/
def Covers (grant : Grant) (slot : Nat) : Prop :=
  grant.first.toNat ≤ slot ∧ slot < grant.first.toNat + grant.values.length

/-- No slot is taken for one of both runs. -/
def Apart (left right : Grant) : Prop :=
  ∀ slot, left.Covers slot → ¬ right.Covers slot

instance : Std.Symm Apart where
  symm _ _ apart slot covers coversToo := apart slot coversToo covers

/-- The run has no slots, or a word of 16 bits can number the first one. -/
def Numbered (grant : Grant) : Prop :=
  grant.values ≠ [] → grant.start < slotLimit

/-- Runs that were handed out one behind the other, the first of them when there were `start` slots.
With the last one there are `stop`. -/
inductive Tiles : Nat → List Grant → Nat → Prop
  | nil {start : Nat} : Tiles start [] start
  | cons {grant : Grant} {grants : List Grant} {stop : Nat} :
      grant.first = UInt16.ofNat grant.start →
      Tiles (grant.start + grant.values.length) grants stop →
        Tiles grant.start (grant :: grants) stop

theorem Tiles.single {first : UInt16} {values : List Slot} (offset : first = UInt16.ofNat start) :
    Tiles start [⟨start, first, values⟩] (start + values.length) :=
  @Tiles.cons ⟨start, first, values⟩ [] _ offset .nil

theorem Tiles.append {middle : Nat} (tiles : Tiles start grants middle)
    (behind : Tiles middle more stop) : Tiles start (grants ++ more) stop := by
  induction tiles with
  | nil => exact behind
  | cons offset _ inductionHypothesis => exact .cons offset (inductionHypothesis behind)

theorem Tiles.le (tiles : Tiles start grants stop) : start ≤ stop := by
  induction tiles with
  | nil => exact Nat.le_refl _
  | cons _ _ inductionHypothesis => omega

/-- Every run lies between the first and the last slot. -/
theorem Tiles.within (tiles : Tiles start grants stop) (isGrant : grant ∈ grants) :
    grant.first = UInt16.ofNat grant.start ∧ start ≤ grant.start ∧
      grant.start + grant.values.length ≤ stop := by
  induction tiles with
  | nil => cases isGrant
  | cons offset behind inductionHypothesis =>
    have le := behind.le
    rcases List.mem_cons.mp isGrant with rfl | later
    · exact ⟨offset, Nat.le_refl _, le⟩
    · obtain ⟨same, lower, upper⟩ := inductionHypothesis later
      exact ⟨same, by omega, upper⟩

/-- No slot is left out. -/
theorem Tiles.exists_mem (tiles : Tiles start grants stop) (lower : start ≤ slot)
    (upper : slot < stop) :
    ∃ grant ∈ grants, grant.start ≤ slot ∧ slot < grant.start + grant.values.length := by
  induction tiles with
  | nil => omega
  | @cons grant grants stop offset behind inductionHypothesis =>
    by_cases inside : slot < grant.start + grant.values.length
    · exact ⟨grant, List.mem_cons_self, lower, inside⟩
    · obtain ⟨other, later, covers⟩ := inductionHypothesis (Nat.le_of_not_lt inside) upper
      exact ⟨other, List.mem_cons_of_mem _ later, covers⟩

/-- Behind the slots that were there already, each run holds its values. -/
theorem Tiles.getElem?_append (tiles : Tiles start grants stop) {cells : Cells}
    (size : cells.size = start) (isGrant : grant ∈ grants) (inside : place < grant.values.length) :
    (cells ++ (grants.flatMap Grant.values).toArray)[grant.start + place]? =
      grant.values[place]? := by
  induction tiles generalizing cells with
  | nil => cases isGrant
  | @cons head grants stop offset behind inductionHypothesis =>
    have length : (cells ++ head.values.toArray).size = head.start + head.values.length := by
      rw [Array.size_append, size, List.size_toArray]
    rw [List.flatMap_cons, ← List.append_toArray, ← Array.append_assoc]
    rcases List.mem_cons.mp isGrant with rfl | later
    · rw [Array.getElem?_append_left (by omega), Array.getElem?_append_right (by omega),
        List.getElem?_toArray, size, Nat.add_sub_cancel_left]
    · exact inductionHypothesis length later

/-- A run that starts where a word can number is reached by its offset. -/
theorem covers_iff (offset : grant.first = UInt16.ofNat grant.start)
    (few : grant.start < slotLimit) :
    grant.Covers slot ↔ grant.start ≤ slot ∧ slot < grant.start + grant.values.length := by
  rw [Covers, offset, toNat_offset few]

theorem Covers.start_lt (covers : grant.Covers slot) (numbered : grant.Numbered) :
    grant.start < slotLimit := by
  refine numbered fun isEmpty => ?_
  rw [Covers, isEmpty, List.length_nil] at covers
  omega

/-- Runs that are all numbered as they were taken do not meet. -/
theorem Tiles.apart (tiles : Tiles start grants stop)
    (numbered : ∀ grant ∈ grants, grant.Numbered) : grants.Pairwise Apart := by
  induction tiles with
  | nil => exact .nil
  | @cons head grants stop offset behind inductionHypothesis =>
    obtain ⟨first, others⟩ := List.forall_mem_cons.mp numbered
    refine .cons (fun other later slot covers coversToo => ?_) (inductionHypothesis others)
    obtain ⟨sameOffset, lower, -⟩ := behind.within later
    rw [covers_iff offset (covers.start_lt first)] at covers
    rw [covers_iff sameOffset (coversToo.start_lt (others other later))] at coversToo
    omega

/-- A run that starts behind all numbers is reached by an offset that is reserved or that was handed
out already. So runs that do not meet are numbered as they were taken. -/
theorem Tiles.numbered (tiles : Tiles Region.size grants stop) (apart : grants.Pairwise Apart)
    (unreserved : ∀ grant ∈ grants, ∀ slot, grant.Covers slot → Region.size ≤ slot) :
    ∀ grant ∈ grants, grant.Numbered := by
  intro grant isGrant filled
  refine Nat.lt_of_not_le fun many => ?_
  have covers : grant.Covers grant.first.toNat :=
    ⟨Nat.le_refl _, Nat.lt_add_of_pos_right (List.length_pos_iff.mpr filled)⟩
  have bound : grant.first.toNat < slotLimit := grant.first.toNat_lt
  -- The runs before this one take all slots below its start, and its offset is one of those.
  obtain ⟨-, -, inside⟩ := tiles.within isGrant
  obtain ⟨other, isOther, lower, upper⟩ :=
    tiles.exists_mem (unreserved grant isGrant _ covers) (Nat.lt_of_lt_of_le bound (by omega))
  have coversToo : other.Covers grant.first.toNat :=
    (covers_iff (tiles.within isOther).1 (by omega)).mpr ⟨lower, upper⟩
  have different : other ≠ grant := by
    rintro rfl
    omega
  exact apart.forall isOther isGrant different _ coversToo covers

end Grant

/-! ### What the steps hand out -/

/-- The runs that a step hands out. The parameters of a function are handed out with it. -/
def Operation.grants (assembler : Assembler) : Operation → List Grant
  | .global name type persistent =>
    [⟨assembler.globals.size, (assembler.global name type persistent).1,
      List.replicate type.width 0⟩]
  | .floatConstant value =>
    [⟨assembler.globals.size, (assembler.floatConstant value).1, [value]⟩]
  | .vectorConstant value =>
    [⟨assembler.globals.size, (assembler.vectorConstant value).1, value.toList⟩]
  | .stringConstant text =>
    [⟨assembler.globals.size, (assembler.stringConstant text).1, [(assembler.string text).1]⟩]
  | .integerConstant number =>
    [⟨assembler.globals.size, (assembler.integerConstant number).1, [Slot.ofSigned number]⟩]
  | .field name type =>
    let symbol := (assembler.field name type).1
    [⟨assembler.globals.size, symbol.global, [symbol.offset.toUInt32]⟩]
  | .beginFunction name widths =>
    let (symbol, opened) := assembler.beginFunction name widths.1
    [⟨assembler.globals.size, symbol.global, [UInt32.ofNat symbol.index]⟩,
      ⟨assembler.globals.size + 1, opened.parameter symbol.index 0,
        List.replicate (totalWidth widths.1) 0⟩]
  | .builtin name number widths =>
    let symbol := (assembler.builtin name number widths.1).1
    [⟨assembler.globals.size, symbol.global, [UInt32.ofNat symbol.index]⟩]
  | .localSlots width =>
    [⟨assembler.globals.size, (assembler.localSlots width).1, List.replicate width 0⟩]
  | _ => []

/-- Between two points these runs are handed out, one behind the other. If they are numbered as they
are taken, they are put behind the slots that are there, and nothing else happens to any slot. -/
structure HandsOut (before : Assembler) (grants : List Grant) (after : Assembler) : Prop where
  tiles : Grant.Tiles before.globals.size grants after.globals.size
  globals_eq : (∀ grant ∈ grants, grant.Numbered) →
    after.globals = before.globals ++ (grants.flatMap Grant.values).toArray

variable {grants more : List Grant}

theorem handsOut_of_eq (same : after.globals = before.globals) : before.HandsOut [] after where
  tiles := by
    rw [same]
    exact .nil
  globals_eq := fun _ => same.trans Array.append_empty.symm

theorem HandsOut.trans (first : before.HandsOut grants middle)
    (second : middle.HandsOut more after) :
    before.HandsOut (grants ++ more) after where
  tiles := first.tiles.append second.tiles
  globals_eq := by
    intro numbered
    obtain ⟨early, late⟩ := List.forall_mem_append.mp numbered
    rw [second.globals_eq late, first.globals_eq early, List.flatMap_append, ← List.append_toArray,
      Array.append_assoc]

/-- What does not touch the slots may come before and after. -/
theorem HandsOut.congr {named declared : Assembler} (handsOut : named.HandsOut grants declared)
    (before : named.globals = assembler.globals) (behind : after.globals = declared.globals) :
    assembler.HandsOut grants after where
  tiles := by
    rw [behind, ← before]
    exact handsOut.tiles
  globals_eq := by
    rw [behind, ← before]
    exact handsOut.globals_eq

theorem globals_allocate (assembler : Assembler) (width : Nat) :
    (assembler.allocate width).2.globals = assembler.globals ++ Array.replicate width 0 := by
  unfold allocate stretchWindow
  dsimp only
  split <;> rfl

theorem handsOut_allocate (assembler : Assembler) (width : Nat) :
    assembler.HandsOut
      [⟨assembler.globals.size, (assembler.allocate width).1, List.replicate width 0⟩]
      (assembler.allocate width).2 where
  tiles := by
    rw [size_allocate]
    have tiles := @Grant.Tiles.single assembler.globals.size _ (List.replicate width 0) rfl
    rwa [List.length_replicate] at tiles
  globals_eq := fun _ => by
    rw [globals_allocate, List.flatMap_singleton, List.toArray_replicate]

theorem globals_constant (assembler : Assembler) (values : List Slot) :
    (assembler.constant values).2.globals =
      (assembler.globals ++ Array.replicate values.length 0).put
        (UInt16.ofNat assembler.globals.size).toNat values := by
  rw [← globals_allocate]
  rfl

theorem handsOut_constant (assembler : Assembler) (values : List Slot) :
    assembler.HandsOut [⟨assembler.globals.size, (assembler.constant values).1, values⟩]
      (assembler.constant values).2 where
  tiles := by
    rw [size_constant]
    exact .single rfl
  globals_eq := by
    intro numbered
    rw [List.flatMap_singleton, globals_constant]
    cases values with
    | nil => rfl
    | cons value others =>
      have few : assembler.globals.size < slotLimit :=
        numbered _ List.mem_cons_self (List.cons_ne_nil _ _)
      rw [toNat_offset few]
      exact Cells.put_append_replicate _ _

theorem handsOut_functionGlobal (assembler : Assembler) (name : String) :
    assembler.HandsOut
      [⟨assembler.globals.size, (assembler.functionGlobal name).1,
        [UInt32.ofNat assembler.functions.size]⟩]
      (assembler.functionGlobal name).2 :=
  (assembler.handsOut_constant _).congr rfl (globals_define _ _ _ _)

theorem handsOut_opened (assembler : Assembler) (index : Nat) (function : Function) :
    assembler.HandsOut
      [⟨assembler.globals.size, UInt16.ofNat assembler.globals.size,
        List.replicate function.parameterSlots 0⟩]
      (assembler.opened index function) :=
  (handsOut_allocate { assembler with
    functions := assembler.functions.push function
    current := some index } function.parameterSlots).congr rfl rfl

/-- The first parameter of a function that was just opened is the first slot behind the old ones. -/
theorem parameter_opened (assembler : Assembler) {function : Function}
    (window : function.window = UInt32.ofNat assembler.globals.size) :
    (assembler.opened assembler.functions.size function).parameter assembler.functions.size 0 =
      UInt16.ofNat assembler.globals.size := by
  rw [parameter, functions_opened, Array.getElem?_push_size]
  refine UInt16.toNat_inj.mp ?_
  rw [UInt16.toNat_ofNat', UInt16.toNat_ofNat']
  dsimp only [Function.stretched]
  rw [window, List.take_zero, UInt32.toNat_ofNat']
  exact Nat.mod_mod_of_dvd _ (by decide)

theorem handsOut_beginFunction (assembler : Assembler) (name : String) (widths : Widths) :
    assembler.HandsOut ((Operation.beginFunction name widths).grants assembler)
      (assembler.perform (.beginFunction name widths)) := by
  obtain ⟨named, function, -, closed, globals, functions, sameWidths, window, same⟩ :=
    assembler.beginFunction_eq name widths.1
  have functionsThen : (named.functionGlobal name).2.functions = assembler.functions :=
    (functions_functionGlobal_of_none closed name).trans functions
  have handsOut := (named.handsOut_functionGlobal name).trans
    ((named.functionGlobal name).2.handsOut_opened assembler.functions.size function)
  have parameter := (named.functionGlobal name).2.parameter_opened window
  rw [functionsThen] at parameter
  rw [perform, Operation.grants, same]
  dsimp only
  rw [parameter, size_functionGlobal, ← globals, ← sameWidths]
  rw [size_functionGlobal, functions] at handsOut
  exact handsOut.congr globals rfl

theorem handsOut_builtin (assembler : Assembler) (name : String) (number : Nat) (widths : Widths) :
    assembler.HandsOut ((Operation.builtin name number widths).grants assembler)
      (assembler.perform (.builtin name number widths)) := by
  obtain ⟨named, function, -, -, globals, functions, -, -, same⟩ :=
    assembler.builtin_eq name number widths.1
  rw [perform, Operation.grants, same, ← globals, ← functions]
  exact (named.handsOut_functionGlobal name).congr globals rfl

/-- Every step but the one that changes a slot only puts new slots behind the old ones. -/
theorem handsOut_perform (assembler : Assembler) (operation : Operation)
    (unset : ∀ offset value, operation ≠ .setGlobal offset value) :
    assembler.HandsOut (operation.grants assembler) (assembler.perform operation) := by
  cases operation with
  | setGlobal offset value => exact absurd rfl (unset offset value)
  | string text => exact handsOut_of_eq (globals_string _ _)
  | global name type persistent =>
    exact (assembler.handsOut_allocate _).congr rfl (globals_define _ _ _ _)
  | floatConstant value => exact assembler.handsOut_constant _
  | vectorConstant value => exact assembler.handsOut_constant _
  | stringConstant text =>
    rw [Operation.grants, ← globals_string assembler text]
    exact ((assembler.string text).2.handsOut_constant _).congr (globals_string _ _) rfl
  | integerConstant number => exact assembler.handsOut_constant _
  | field name type =>
    obtain ⟨named, -, globals, -, same⟩ := assembler.field_eq name type
    rw [perform, Operation.grants, same, ← globals]
    exact (named.handsOut_constant _).congr globals (globals_define _ _ _ _)
  | beginFunction name widths => exact assembler.handsOut_beginFunction name widths
  | builtin name number widths => exact assembler.handsOut_builtin name number widths
  | localSlots width => exact assembler.handsOut_allocate width
  | setChecksum | endFunction | emitRaw | emit | emitBranch | emitGoto | patchBranch =>
    exact handsOut_of_eq rfl

theorem tiles_perform (assembler : Assembler) (operation : Operation) :
    Grant.Tiles assembler.globals.size (operation.grants assembler)
      (assembler.perform operation).globals.size := by
  by_cases sets : ∃ offset value, operation = .setGlobal offset value
  · obtain ⟨offset, value, rfl⟩ := sets
    rw [perform, setGlobal, place, Cells.size_put]
    exact .nil
  · exact (assembler.handsOut_perform operation fun offset value same =>
      sets ⟨offset, value, same⟩).tiles

/-- An old slot keeps what it holds, unless the step is to change it. -/
theorem getElem?_perform (numbered : ∀ grant ∈ operation.grants assembler, grant.Numbered)
    (old : slot < assembler.globals.size)
    (unset : ∀ offset value, operation = .setGlobal offset value → offset.toNat ≠ slot) :
    (assembler.perform operation).globals[slot]? = assembler.globals[slot]? := by
  by_cases sets : ∃ offset value, operation = .setGlobal offset value
  · obtain ⟨offset, value, rfl⟩ := sets
    have other := unset offset value rfl
    refine Cells.getElem?_put_other _ _ _ _ ?_
    rw [List.length_singleton]
    omega
  · have handsOut := assembler.handsOut_perform operation fun offset value same =>
      sets ⟨offset, value, same⟩
    rw [handsOut.globals_eq numbered, Array.getElem?_append_left old]

/-- A slot that a step hands out holds the value that it is made for. -/
theorem getElem?_grant (numbered : ∀ grant ∈ operation.grants assembler, grant.Numbered)
    {grant : Grant} (isGrant : grant ∈ operation.grants assembler)
    (inside : place < grant.values.length) :
    (assembler.perform operation).globals[grant.start + place]? = grant.values[place]? := by
  have handsOut := assembler.handsOut_perform operation <| by
    rintro offset value rfl
    cases isGrant
  rw [handsOut.globals_eq numbered]
  exact handsOut.tiles.getElem?_append rfl isGrant inside

/-! ### What a whole sequence hands out -/

/-- The runs that the steps hand out one after the other. -/
def grantsFrom (assembler : Assembler) : List Operation → List Grant
  | [] => []
  | operation :: rest =>
    operation.grants assembler ++ grantsFrom (assembler.perform operation) rest

/-- The runs that were handed out by a sequence of steps. -/
def granted (history : List Operation) : List Grant :=
  empty.grantsFrom history

theorem grantsFrom_append (assembler : Assembler) (before rest : List Operation) :
    assembler.grantsFrom (before ++ rest) =
      assembler.grantsFrom before ++ (before.foldl perform assembler).grantsFrom rest := by
  induction before generalizing assembler with
  | nil => rfl
  | cons operation before inductionHypothesis =>
    rw [List.cons_append, grantsFrom, grantsFrom, inductionHypothesis, List.foldl_cons,
      List.append_assoc]

theorem tiles_grantsFrom (assembler : Assembler) (rest : List Operation) :
    Grant.Tiles assembler.globals.size (assembler.grantsFrom rest)
      (rest.foldl perform assembler).globals.size := by
  induction rest generalizing assembler with
  | nil => exact .nil
  | cons operation rest inductionHypothesis =>
    exact (assembler.tiles_perform operation).append (inductionHypothesis _)

/-- All the slots behind the reserved ones were handed out, one behind the other. -/
theorem tiles_granted (history : List Operation) :
    Grant.Tiles Region.size (granted history) (run history).globals.size := by
  have size : empty.globals.size = Region.size := Array.size_replicate
  exact size ▸ empty.tiles_grantsFrom history

/-- An old slot keeps what it holds, unless one of the steps is to change it. -/
theorem getElem?_foldl (numbered : ∀ grant ∈ assembler.grantsFrom rest, grant.Numbered)
    (old : slot < assembler.globals.size)
    (unset : ∀ offset value, .setGlobal offset value ∈ rest → offset.toNat ≠ slot) :
    (rest.foldl perform assembler).globals[slot]? = assembler.globals[slot]? := by
  induction rest generalizing assembler with
  | nil => rfl
  | cons operation rest inductionHypothesis =>
    obtain ⟨early, late⟩ := List.forall_mem_append.mp numbered
    have oldThen := Nat.lt_of_lt_of_le old (assembler.tiles_perform operation).le
    rw [List.foldl_cons, inductionHypothesis late oldThen fun offset value later =>
      unset offset value (List.mem_cons_of_mem _ later)]
    exact getElem?_perform early old fun offset value same =>
      unset offset value (same ▸ List.mem_cons_self)

/-- No slot is handed out twice: none of those that were handed out is reserved, none belongs to two
runs, and in the program each holds the value that it was made for, unless it was changed later on.
-/
structure GrantedOnce (history : List Operation) (program : Program) : Prop where
  apart : (granted history).Pairwise Grant.Apart
  unreserved : ∀ grant ∈ granted history, ∀ slot, grant.Covers slot → Region.size ≤ slot
  intact : ∀ {before rest : List Operation} {operation : Operation} {grant : Grant} {place : Nat},
    history = before ++ operation :: rest → grant ∈ operation.grants (run before) →
    place < grant.values.length →
    (∀ offset value, .setGlobal offset value ∈ rest →
      offset.toNat ≠ grant.first.toNat + place) →
      program.globals[grant.first.toNat + place]? = grant.values[place]?

/-- What was handed out and not changed since is still there. -/
theorem getElem?_run {before : List Operation} {grant : Grant}
    (numbered : ∀ grant ∈ granted (before ++ operation :: rest), grant.Numbered)
    (isGrant : grant ∈ operation.grants (run before)) (inside : place < grant.values.length)
    (unset : ∀ offset value, .setGlobal offset value ∈ rest →
      offset.toNat ≠ grant.first.toNat + place) :
    (run (before ++ operation :: rest)).globals[grant.first.toNat + place]? =
      grant.values[place]? := by
  have split : granted (before ++ operation :: rest) = granted before ++
      (operation.grants (run before) ++ ((run before).perform operation).grantsFrom rest) :=
    empty.grantsFrom_append before (operation :: rest)
  have numberedHere := List.forall_mem_append.mp
    (List.forall_mem_append.mp (split ▸ numbered)).2
  have tiles := (run before).tiles_perform operation
  obtain ⟨offset, -, upper⟩ := tiles.within isGrant
  have filled : grant.values ≠ [] := List.ne_nil_of_length_pos (Nat.zero_lt_of_lt inside)
  have number : grant.first.toNat = grant.start := by
    rw [offset, toNat_offset (numberedHere.1 grant isGrant filled)]
  have goesOn : run (before ++ operation :: rest) =
      rest.foldl perform ((run before).perform operation) := by
    rw [run, List.foldl_append, List.foldl_cons, run]
  rw [number] at unset ⊢
  rw [goesOn, getElem?_foldl numberedHere.2 (by omega) unset,
    getElem?_grant numberedHere.1 isGrant inside]

/-- Whatever the steps are that a program was built by: no slot was handed out twice and the values
are still there, exactly if a word of 16 bits can number the first slot of every run. -/
theorem granted_once_iff {program : Program} (built : (run history).build = .ok program) :
    GrantedOnce history program ↔ ∀ grant ∈ granted history, grant.Numbered := by
  obtain ⟨-, rfl⟩ := (made_run history).loaded_of_build built
  have tiles := tiles_granted history
  constructor
  · exact fun once => tiles.numbered once.apart once.unreserved
  · intro numbered
    refine ⟨tiles.apart numbered, fun grant isGrant slot covers => ?_, ?_⟩
    · obtain ⟨offset, lower, -⟩ := tiles.within isGrant
      rw [Grant.covers_iff offset (covers.start_lt (numbered grant isGrant))] at covers
      exact Nat.le_trans lower covers.1
    · rintro before rest operation grant place rfl isGrant inside unset
      exact getElem?_run numbered isGrant inside unset

/-- As long as there are not too many slots, all runs are numbered as they are taken. -/
theorem numbered_of_few (few : (run history).globals.size ≤ slotLimit) :
    ∀ grant ∈ granted history, grant.Numbered := by
  intro grant isGrant filled
  obtain ⟨-, -, inside⟩ := (tiles_granted history).within isGrant
  have positive := List.length_pos_iff.mpr filled
  omega

/-- Slots of every kind, of which one is changed after it was handed out. -/
def everyKind : List Operation :=
  [.global "health" .float true, .setGlobal 28 0x42C80000, .vectorConstant ⟨1, 2, 3⟩,
    .stringConstant "armour", .field "origin" .vector, .builtin "announce" 1 ⟨[3], by decide⟩,
    .beginFunction "main" ⟨[3, 1], by decide⟩, .localSlots 2, .emit .done 0 0 0,
    .integerConstant (-1)]

/-- The program is built, and its slots start as they were made: the health with what it was set to,
the parameters and local slots with zeros. -/
theorem granted_once_iff_every_kind :
    ∃ program, (run everyKind).build = .ok program ∧ GrantedOnce everyKind program ∧
      (granted everyKind).map (fun grant => (grant.first, grant.values)) =
        [(28, [0]), (29, [1, 2, 3]), (32, [8]), (33, [0]), (34, [1]), (35, [2]),
          (36, [0, 0, 0, 0]), (40, [0, 0]), (42, [0xFFFFFFFF])] ∧
      program.globals.toList.drop 28 =
        [0x42C80000, 1, 2, 3, 8, 0, 1, 2, 0, 0, 0, 0, 0, 0, 0xFFFFFFFF] := by
  have few : (run everyKind).globals.size ≤ slotLimit := by decide +kernel
  have succeeds : (run everyKind).build.toOption.isSome := by decide +kernel
  cases built : (run everyKind).build with
  | error fault =>
    rw [built] at succeeds
    cases succeeds
  | ok program =>
    obtain ⟨-, rfl⟩ := (made_run everyKind).loaded_of_build built
    exact ⟨_, rfl, (granted_once_iff built).mpr (numbered_of_few few), by decide +kernel,
      by decide +kernel⟩

/-- A constant, so many slots behind it that their numbers run out, and another constant. -/
def overflowing : List Operation :=
  [.integerConstant 7, .localSlots 65535, .floatConstant 0x3F800000]

theorem globals_assemble (assembler : Assembler) :
    assembler.assemble.globals = assembler.globals := rfl

/-- The program of some slots and nothing else. -/
def onlySlots (cells : Cells) : Assembler :=
  { empty with globals := cells }

/-- Such a program is built if it has the reserved slots. -/
theorem build_onlySlots {cells : Cells} (region : Region.size ≤ cells.size) :
    (onlySlots cells).build = .ok (onlySlots cells).assemble := by
  have enough : ¬ (onlySlots cells).assemble.globals.size < Region.size := Nat.not_lt_of_le region
  rw [build_eq, Image.check, if_neg enough]
  rfl

/-- Both constants are handed out as slot 28, the program is built nevertheless, and in it the
second one has replaced the first. -/
theorem slot_granted_twice :
    granted overflowing = [⟨28, 28, [7]⟩, ⟨29, 29, List.replicate 65535 0⟩,
        ⟨65564, 28, [0x3F800000]⟩] ∧
      ∃ program, (run overflowing).build = .ok program ∧
        program.globals[28]? = some 0x3F800000 ∧ ¬ GrantedOnce overflowing program := by
  let one := (empty.integerConstant 7).2
  let many := (one.localSlots 65535).2
  have sizeOne : one.globals.size = 29 := size_constant _ _
  have sizeMany : many.globals.size = 65564 := by
    rw [show many.globals.size = _ from size_allocate one 65535, sizeOne]
  have grants : granted overflowing = [⟨28, 28, [7]⟩, ⟨29, 29, List.replicate 65535 0⟩,
      ⟨65564, 28, [0x3F800000]⟩] := by
    have split : granted overflowing = [⟨28, 28, [7]⟩,
        ⟨one.globals.size, UInt16.ofNat one.globals.size, List.replicate 65535 0⟩,
        ⟨many.globals.size, UInt16.ofNat many.globals.size, [0x3F800000]⟩] := rfl
    rw [split, sizeOne, sizeMany]
    rfl
  -- The slots are too many to be computed, so only their number and slot 28 are looked at.
  have last : run overflowing = (many.constant [0x3F800000]).2 := rfl
  have size : (run overflowing).globals.size = 65565 := by
    rw [last, size_constant, sizeMany]
    rfl
  obtain ⟨cells, slots⟩ : ∃ cells, run overflowing = onlySlots cells := ⟨_, rfl⟩
  have built : (run overflowing).build = .ok (run overflowing).assemble := by
    rw [slots] at size ⊢
    exact build_onlySlots (Nat.le_trans (by decide) (Nat.le_of_eq size.symm))
  refine ⟨grants, _, built, ?_, fun once => ?_⟩
  · rw [globals_assemble, last, globals_constant, sizeMany]
    refine Cells.getElem?_put_self _ 28 [0x3F800000] 0 (by decide) ?_
    rw [Array.size_append, sizeMany]
    decide
  · have apart := once.apart
    rw [grants] at apart
    have first := List.rel_of_pairwise_cons apart (List.mem_cons_of_mem _ List.mem_cons_self)
    exact first 28 ⟨by decide, by decide⟩ ⟨by decide, by decide⟩

end Assembler

end Gamecode
