/-
This file says which slots belong to the local windows of a program in the making. Whatever is
declared takes its slots behind all others, and they become part of the window of the function that
is open. So no step changes to whom an old slot belongs, and the new ones belong to the open
function or to none. This holds as long as the slots are numbered by words of 16 bits.
-/

import Gamecode.Proofs.Calls.Entry
import Gamecode.Proofs.Image.Assembled

namespace Gamecode

/-! ### Windows of functions -/

namespace Function

variable {function : Function} {size slot : Nat}

/-- The slot lies in the local window. -/
def Contains (function : Function) (slot : Nat) : Prop :=
  function.windowBase ≤ slot ∧ slot < function.windowBase + function.windowLength

/-- The function has no slots of its own: it is the null function or one of the host. -/
structure Windowless (function : Function) : Prop where
  window_eq : function.window = 0
  locals_eq : function.locals = 0

/-- The window lies behind the reserved slots and among the first `size` slots, and the parameters
have room in it. -/
structure Placed (function : Function) (size : Nat) : Prop where
  reserved : Region.size ≤ function.windowBase
  inside : function.windowBase + function.windowLength ≤ size
  parameters : function.parameterSlots ≤ function.windowLength

theorem Windowless.windowBase_eq (windowless : function.Windowless) : function.windowBase = 0 := by
  rw [windowBase, windowStart, windowless.window_eq]
  rfl

theorem Windowless.windowLength_eq (windowless : function.Windowless) :
    function.windowLength = 0 := by
  rw [windowLength, windowSize, windowless.locals_eq]
  rfl

theorem Windowless.not_contains (windowless : function.Windowless) : ¬ function.Contains slot := by
  rintro ⟨-, upper⟩
  rw [windowless.windowBase_eq, windowless.windowLength_eq] at upper
  exact Nat.not_lt_zero slot upper

theorem Placed.mono {larger : Nat} (placed : function.Placed size) (le : size ≤ larger) :
    function.Placed larger :=
  ⟨placed.reserved, Nat.le_trans placed.inside le, placed.parameters⟩

theorem lt_of_contains (shape : function.Windowless ∨ function.Placed size)
    (contains : function.Contains slot) : slot < size := by
  rcases shape with windowless | placed
  · exact absurd contains windowless.not_contains
  · exact Nat.lt_of_lt_of_le contains.2 placed.inside

/-- A window that does not start at zero starts where its word says. -/
theorem toNat_window (positive : 0 < function.windowBase) :
    function.window.toNat = function.windowBase := by
  unfold windowBase windowStart Slot.signed at positive ⊢
  split at positive
  · next natural => rw [if_pos natural, Int.toNat_natCast]
  · have bound := function.window.toNat_lt
    omega

/-- The function with a window that reaches up to the first `size` slots. -/
def stretched (function : Function) (size : Nat) : Function :=
  { function with locals := UInt32.ofNat size - function.window }

@[simp] theorem windowBase_stretched (function : Function) (size : Nat) :
    (function.stretched size).windowBase = function.windowBase := rfl

@[simp] theorem parameterSlots_stretched (function : Function) (size : Nat) :
    (function.stretched size).parameterSlots = function.parameterSlots := rfl

/-- The words for the first slot and for the length of the window do not overflow. -/
theorem windowLength_stretched (positive : 0 < function.windowBase)
    (le : function.windowBase ≤ size) (small : size < 0x80000000) :
    (function.stretched size).windowLength = size - function.windowBase := by
  have start := toNat_window positive
  have length : (UInt32.ofNat size - function.window).toNat = size - function.windowBase := by
    rw [UInt32.toNat_sub, UInt32.toNat_ofNat', start]
    omega
  unfold windowLength windowSize Slot.signed stretched
  rw [length, if_pos (by omega), Int.toNat_natCast]

theorem contains_stretched_iff (positive : 0 < function.windowBase)
    (le : function.windowBase ≤ size) (small : size < 0x80000000) :
    (function.stretched size).Contains slot ↔ function.windowBase ≤ slot ∧ slot < size := by
  rw [Contains, windowLength_stretched positive le small, windowBase_stretched,
    Nat.add_sub_of_le le]

end Function

namespace Assembler

variable {assembler before middle after : Assembler} {index slot width : Nat}
  {function : Function}

/-- How many slots the words of 16 bits number. -/
def slotLimit : Nat := 0x10000

/-! ### Slots of functions -/

/-- The slot lies in the window of the function of this number. -/
def Owns (assembler : Assembler) (index slot : Nat) : Prop :=
  ∃ function, assembler.functions[index]? = some function ∧ function.Contains slot

/-- Every window lies behind the reserved slots, no slot lies in two of them, and the window of the
open function ends with the last slot. -/
structure Arranged (assembler : Assembler) : Prop where
  region_le : Region.size ≤ assembler.globals.size
  shape : ∀ {index : Nat} {function : Function}, assembler.functions[index]? = some function →
    function.Windowless ∨ function.Placed assembler.globals.size
  apart : ∀ {first second slot : Nat}, assembler.Owns first slot → assembler.Owns second slot →
    first = second
  current : ∀ {current : Nat}, assembler.current = some current →
    ∃ function, assembler.functions[current]? = some function ∧
      function.Placed assembler.globals.size ∧
      function.windowBase + function.windowLength = assembler.globals.size

theorem Arranged.lt_size (arranged : assembler.Arranged) (owns : assembler.Owns index slot) :
    slot < assembler.globals.size := by
  obtain ⟨function, found, contains⟩ := owns
  exact Function.lt_of_contains (arranged.shape found) contains

/-- The old functions are the same but for the ends of their windows, and no old slot has changed
its owner. -/
structure Extends (before after : Assembler) : Prop where
  kept : ∀ {index : Nat} {function : Function}, before.functions[index]? = some function →
    ∃ locals, after.functions[index]? = some { function with locals }
  owns_iff : ∀ {index slot : Nat}, slot < before.globals.size →
    (after.Owns index slot ↔ before.Owns index slot)

/-- No slots are lost, and unless there are too many of them the windows stay arranged. -/
structure Advances (before after : Assembler) : Prop where
  size_le : before.globals.size ≤ after.globals.size
  arranged : before.Arranged → after.globals.size ≤ slotLimit → after.Arranged
  extend : before.Arranged → after.globals.size ≤ slotLimit → before.Extends after

theorem Extends.trans (first : before.Extends middle) (second : middle.Extends after)
    (size : before.globals.size ≤ middle.globals.size) : before.Extends after where
  kept := by
    intro index function found
    obtain ⟨locals, foundThen⟩ := first.kept found
    obtain ⟨later, foundLast⟩ := second.kept foundThen
    exact ⟨later, foundLast⟩
  owns_iff := by
    intro index slot old
    rw [second.owns_iff (Nat.lt_of_lt_of_le old size), first.owns_iff old]

theorem Advances.trans (first : before.Advances middle) (second : middle.Advances after) :
    before.Advances after where
  size_le := Nat.le_trans first.size_le second.size_le
  arranged := fun arranged few =>
    second.arranged (first.arranged arranged (Nat.le_trans second.size_le few)) few
  extend := fun arranged few => by
    have fewThen := Nat.le_trans second.size_le few
    exact (first.extend arranged fewThen).trans
      (second.extend (first.arranged arranged fewThen) few) first.size_le

/-! ### What the steps are made of -/

/-- Neither the functions nor the number of slots change. The open function may be closed. -/
theorem advances_of_eq (functions : after.functions = before.functions)
    (size : after.globals.size = before.globals.size)
    (current : after.current = before.current ∨ after.current = none) : before.Advances after where
  size_le := Nat.le_of_eq size.symm
  arranged := by
    intro arranged _
    have same (index slot : Nat) : after.Owns index slot ↔ before.Owns index slot := by
      rw [Owns, functions, Owns]
    refine ⟨?_, ?_, ?_, ?_⟩
    · rw [size]
      exact arranged.region_le
    · intro index function found
      rw [size]
      exact arranged.shape (functions ▸ found)
    · intro first second slot ownsFirst ownsSecond
      exact arranged.apart ((same _ _).mp ownsFirst) ((same _ _).mp ownsSecond)
    · intro opened isOpen
      rcases current with kept | closed
      · rw [size, functions]
        exact arranged.current (kept ▸ isOpen)
      · exact nomatch closed.symm.trans isOpen
  extend := by
    intro _ _
    refine ⟨fun {index function} found => ⟨function.locals, functions ▸ found⟩, fun _ => ?_⟩
    rw [Owns, functions, Owns]

theorem advances_string (assembler : Assembler) (text : String) :
    assembler.Advances (assembler.string text).2 := by
  unfold string
  split <;> exact advances_of_eq rfl rfl (.inl rfl)

@[simp] theorem functions_string (assembler : Assembler) (text : String) :
    (assembler.string text).2.functions = assembler.functions := by
  unfold string
  split <;> rfl

@[simp] theorem globals_string (assembler : Assembler) (text : String) :
    (assembler.string text).2.globals = assembler.globals := by
  unfold string
  split <;> rfl

@[simp] theorem current_string (assembler : Assembler) (text : String) :
    (assembler.string text).2.current = assembler.current := by
  unfold string
  split <;> rfl

@[simp] theorem functions_define (assembler : Assembler) (name : String) (tag offset : UInt16) :
    (assembler.define name tag offset).functions = assembler.functions :=
  functions_string assembler name

@[simp] theorem globals_define (assembler : Assembler) (name : String) (tag offset : UInt16) :
    (assembler.define name tag offset).globals = assembler.globals :=
  globals_string assembler name

@[simp] theorem current_define (assembler : Assembler) (name : String) (tag offset : UInt16) :
    (assembler.define name tag offset).current = assembler.current :=
  current_string assembler name

theorem advances_define (assembler : Assembler) (name : String) (tag offset : UInt16) :
    assembler.Advances (assembler.define name tag offset) :=
  advances_of_eq (functions_define ..) (congrArg Array.size (globals_define ..))
    (.inl (current_define ..))

theorem advances_place (assembler : Assembler) (offset : UInt16) (values : List Slot) :
    assembler.Advances (assembler.place offset values) :=
  advances_of_eq rfl (Cells.size_put _ _ _) (.inl rfl)

theorem advances_endFunction (assembler : Assembler) :
    assembler.Advances assembler.endFunction :=
  advances_of_eq rfl rfl (.inr rfl)

/-! ### New slots -/

@[simp] theorem size_allocate (assembler : Assembler) (width : Nat) :
    (assembler.allocate width).2.globals.size = assembler.globals.size + width := by
  have added : (assembler.globals ++ Array.replicate width 0).size =
      assembler.globals.size + width := by
    rw [Array.size_append, Array.size_replicate]
  unfold allocate stretchWindow
  dsimp only
  split <;> exact added

@[simp] theorem current_allocate (assembler : Assembler) (width : Nat) :
    (assembler.allocate width).2.current = assembler.current := by
  unfold allocate stretchWindow
  dsimp only
  split <;> rfl

/-- New slots stretch the window of the open function. -/
theorem getElem?_functions_allocate (assembler : Assembler) (width index : Nat) :
    (assembler.allocate width).2.functions[index]? =
      assembler.functions[index]?.map fun function =>
        if assembler.current = some index then function.stretched (assembler.globals.size + width)
        else function := by
  have size := size_allocate assembler width
  unfold allocate stretchWindow at size ⊢
  dsimp only at size ⊢
  cases isOpen : assembler.current with
  | none =>
    simp only [reduceCtorEq, if_false, Option.map_id']
  | some current =>
    rw [isOpen] at size
    dsimp only at size ⊢
    rw [Array.getElem?_modify, size]
    by_cases same : current = index
    · subst same
      rw [if_pos rfl]
      simp only [if_true]
      rfl
    · simp only [same, if_false, Option.some.injEq, Option.map_id']

/-- While no function is open, new slots change no function. -/
theorem functions_allocate_of_none (closed : assembler.current = none) (width : Nat) :
    (assembler.allocate width).2.functions = assembler.functions := by
  unfold allocate stretchWindow
  dsimp only
  rw [closed]

/-- New slots belong to the open function, and to no other one. -/
theorem Arranged.owns_allocate_iff (arranged : assembler.Arranged)
    (few : assembler.globals.size + width ≤ slotLimit) :
    (assembler.allocate width).2.Owns index slot ↔ assembler.Owns index slot ∨
      assembler.current = some index ∧ assembler.globals.size ≤ slot ∧
        slot < assembler.globals.size + width := by
  by_cases isOpen : assembler.current = some index
  · obtain ⟨function, found, placed, ends⟩ := arranged.current isOpen
    have reserved := placed.reserved
    unfold Region.size Region.parameterStart at reserved
    unfold slotLimit at few
    have grown : (assembler.allocate width).2.functions[index]? =
        some (function.stretched (assembler.globals.size + width)) := by
      rw [getElem?_functions_allocate, found, Option.map_some, if_pos isOpen]
    simp only [Owns, grown, found, Option.some.injEq, exists_eq_left', isOpen, true_and]
    rw [Function.contains_stretched_iff (by omega) (by omega) (by omega), Function.Contains, ends]
    omega
  · have kept : (assembler.allocate width).2.functions[index]? = assembler.functions[index]? := by
      simp only [getElem?_functions_allocate, isOpen, if_false, Option.map_id']
    rw [Owns, kept]
    exact ⟨.inl, fun owned => owned.elim id fun opened => absurd opened.1 isOpen⟩

/-- New slots stretch the window of the open function up to the last of them. -/
theorem Arranged.exists_stretched (arranged : assembler.Arranged)
    (few : assembler.globals.size + width ≤ slotLimit) (isOpen : assembler.current = some index) :
    ∃ function, (assembler.allocate width).2.functions[index]? = some function ∧
      function.Placed (assembler.globals.size + width) ∧
      function.windowBase + function.windowLength = assembler.globals.size + width := by
  obtain ⟨function, found, placed, ends⟩ := arranged.current isOpen
  obtain ⟨reserved, inside, parameters⟩ := placed
  have positive : 0 < function.windowBase := Nat.lt_of_lt_of_le (by decide) reserved
  have le : function.windowBase ≤ assembler.globals.size + width := by omega
  have length := Function.windowLength_stretched positive le (Nat.lt_of_le_of_lt few (by decide))
  refine ⟨function.stretched (assembler.globals.size + width), ?_, ⟨reserved, ?_, ?_⟩, ?_⟩
  · rw [getElem?_functions_allocate, found, Option.map_some, if_pos isOpen]
  all_goals
    simp only [Function.windowBase_stretched, Function.parameterSlots_stretched, length]
    omega

theorem Arranged.allocate (arranged : assembler.Arranged)
    (few : assembler.globals.size + width ≤ slotLimit) :
    (assembler.allocate width).2.Arranged where
  region_le := by
    rw [size_allocate]
    exact Nat.le_trans arranged.region_le (Nat.le_add_right _ _)
  shape := by
    intro index function found
    rw [size_allocate]
    by_cases isOpen : assembler.current = some index
    · obtain ⟨other, same, placed, -⟩ := arranged.exists_stretched few isOpen
      obtain rfl := Option.some.inj (same.symm.trans found)
      exact .inr placed
    · simp only [getElem?_functions_allocate, isOpen, if_false, Option.map_id'] at found
      exact (arranged.shape found).imp_right fun placed => placed.mono (Nat.le_add_right _ _)
  apart := by
    intro first second slot ownsFirst ownsSecond
    rcases (arranged.owns_allocate_iff few).mp ownsFirst with
      oldFirst | ⟨openFirst, newFirst, -⟩ <;>
      rcases (arranged.owns_allocate_iff few).mp ownsSecond with
        oldSecond | ⟨openSecond, newSecond, -⟩
    · exact arranged.apart oldFirst oldSecond
    · exact absurd (arranged.lt_size oldFirst) (Nat.not_lt.mpr newSecond)
    · exact absurd (arranged.lt_size oldSecond) (Nat.not_lt.mpr newFirst)
    · exact Option.some.inj (openFirst.symm.trans openSecond)
  current := by
    intro current isOpen
    rw [size_allocate]
    exact arranged.exists_stretched few ((current_allocate assembler width).symm.trans isOpen)

theorem advances_allocate (assembler : Assembler) (width : Nat) :
    assembler.Advances (assembler.allocate width).2 where
  size_le := by
    rw [size_allocate]
    exact Nat.le_add_right _ _
  arranged := by
    intro arranged few
    rw [size_allocate] at few
    exact arranged.allocate few
  extend := by
    intro arranged few
    rw [size_allocate] at few
    refine ⟨fun {index function} found => ?_, fun {index slot} old => ?_⟩
    · rw [getElem?_functions_allocate, found]
      by_cases isOpen : assembler.current = some index
      · exact ⟨_, congrArg some (if_pos isOpen)⟩
      · exact ⟨function.locals, congrArg some (if_neg isOpen)⟩
    · rw [arranged.owns_allocate_iff few]
      exact or_iff_left fun opened => Nat.not_le.mpr old opened.2.1

/-! ### New functions -/

/-- A new function owns the slots of its window, and no other slot changes its owner. -/
theorem owns_push_iff (functions : after.functions = before.functions.push function) :
    after.Owns index slot ↔
      before.Owns index slot ∨ index = before.functions.size ∧ function.Contains slot := by
  unfold Owns
  rw [functions, Array.getElem?_push]
  by_cases isNew : index = before.functions.size
  · have missing : before.functions[index]? = none :=
      Array.getElem?_eq_none (Nat.le_of_eq isNew.symm)
    simp only [isNew, if_true, Option.some.injEq, exists_eq_left', true_and]
    rw [← isNew, missing]
    simp only [reduceCtorEq, false_and, exists_false, false_or]
  · simp only [isNew, if_false, false_and, or_false]

/-- A new function takes no old slots, and if it is open its window ends with the last slot. -/
theorem advances_push (functions : after.functions = before.functions.push function)
    (size : before.globals.size ≤ after.globals.size)
    (shape : before.Arranged → after.globals.size ≤ slotLimit → function.Windowless ∨
      before.globals.size ≤ function.windowBase ∧ function.Placed after.globals.size)
    (current : before.Arranged → after.globals.size ≤ slotLimit → after.current = none ∨
      after.current = some before.functions.size ∧ function.Placed after.globals.size ∧
        function.windowBase + function.windowLength = after.globals.size) :
    before.Advances after := by
  have behind {slot : Nat} (arranged : before.Arranged) (few : after.globals.size ≤ slotLimit)
      (contains : function.Contains slot) : before.globals.size ≤ slot := by
    rcases shape arranged few with windowless | ⟨lower, -⟩
    · exact absurd contains windowless.not_contains
    · exact Nat.le_trans lower contains.1
  refine ⟨size, fun arranged few => ⟨?_, ?_, ?_, ?_⟩, fun arranged few => ⟨?_, ?_⟩⟩
  · exact Nat.le_trans arranged.region_le size
  · intro index found isFunction
    rw [functions, Array.getElem?_push] at isFunction
    split at isFunction
    · cases isFunction
      exact (shape arranged few).imp_right And.right
    · exact (arranged.shape isFunction).imp_right fun placed => placed.mono size
  · intro first second slot ownsFirst ownsSecond
    rcases (owns_push_iff functions).mp ownsFirst with oldFirst | ⟨newFirst, containsFirst⟩ <;>
      rcases (owns_push_iff functions).mp ownsSecond with oldSecond | ⟨newSecond, containsSecond⟩
    · exact arranged.apart oldFirst oldSecond
    · exact absurd (arranged.lt_size oldFirst)
        (Nat.not_lt.mpr (behind arranged few containsSecond))
    · exact absurd (arranged.lt_size oldSecond)
        (Nat.not_lt.mpr (behind arranged few containsFirst))
    · exact newFirst.trans newSecond.symm
  · intro opened isOpen
    rcases current arranged few with closed | ⟨isNew, placed, ends⟩
    · exact nomatch closed.symm.trans isOpen
    · obtain rfl := Option.some.inj (isNew.symm.trans isOpen)
      exact ⟨function, by rw [functions, Array.getElem?_push_size], placed, ends⟩
  · intro index found isFunction
    obtain ⟨inside, -⟩ := Array.getElem?_eq_some_iff.mp isFunction
    refine ⟨found.locals, ?_⟩
    rw [functions, Array.getElem?_push, if_neg (Nat.ne_of_lt inside)]
    exact isFunction
  · intro index slot old
    rw [owns_push_iff functions]
    exact or_iff_left fun added => Nat.not_le.mpr old (behind arranged few added.2)

end Assembler

end Gamecode
