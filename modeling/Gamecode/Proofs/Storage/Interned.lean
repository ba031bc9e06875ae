/-
This file is about strings that a host adds while a program runs. The reference that it is given for
a text names the text up to its first zero, with a terminator behind it, so it names the same text
however many strings are added afterwards. This holds of every text that was ever added, since the
heap only remembers what it put into the table itself.
-/

import Gamecode.Proofs.Storage.Strings
import Mathlib.Data.List.TakeWhile

namespace Gamecode

namespace StringHeap

/-! ### Texts with a terminator -/

/-- A text stands at a place of the table, and its terminator lies in the table as well. -/
structure Stands (heap : StringHeap) (place : Nat) (text : List UInt8) : Prop where
  read : Text.untilNul heap.table place = text
  ended : place + text.length < heap.table.size

variable {heap after : StringHeap} {place : Nat} {text : List UInt8}

theorem Grows.size_le (grows : heap.Grows after) : heap.table.size ≤ after.table.size := by
  obtain ⟨more, same⟩ := grows.table_eq
  rw [← Array.length_toList, ← Array.length_toList, same, List.length_append]
  exact Nat.le_add_right _ _

/-- Whatever is added later, a text stands where it stood. -/
theorem Stands.grows (stands : heap.Stands place text) (grows : heap.Grows after) :
    after.Stands place text := by
  obtain ⟨more, same⟩ := grows.table_eq
  have ended := stands.ended
  refine ⟨?_, Nat.lt_of_lt_of_le ended grows.size_le⟩
  rw [Text.untilNul_append same (by omega), stands.read, if_pos ended]

/-- The place of a text is a reference to it. -/
theorem Stands.get (stands : heap.Stands place text) : heap.get place = .ok text := by
  have ended := stands.ended
  rw [get_natCast, if_pos (by omega), stands.read]

/-- A text ends before the terminator of a text that stands behind its start. -/
theorem Stands.ended_of_le (stands : heap.Stands place text) {start : Nat}
    (before : start ≤ place) :
    start + (Text.untilNul heap.table start).length < heap.table.size := by
  have ended := stands.ended
  have untilEnd (first : Nat) :
      (heap.table.toList.drop first).length = heap.table.size - first := by
    rw [List.length_drop, Array.length_toList]
  rw [Text.untilNul_eq]
  refine Decidable.byContradiction fun unended => ?_
  have sublist := List.takeWhile_sublist (l := heap.table.toList.drop start) (· ≠ 0)
  have whole := sublist.eq_of_length_le (by have := untilEnd start; omega)
  -- Then no byte from the start on is zero, so the text does not end either.
  have visible := List.takeWhile_eq_self_iff.mp whole
  have rest :
      heap.table.toList.drop place = (heap.table.toList.drop start).drop (place - start) := by
    rw [List.drop_drop, Nat.add_sub_cancel' before]
  have read := stands.read
  rw [Text.untilNul_eq, List.takeWhile_eq_self_iff.mpr fun byte member =>
    visible byte (List.mem_of_mem_drop (rest ▸ member))] at read
  have length := untilEnd place
  rw [read] at length
  omega

/-- Reading at a place that is not behind a text with a terminator gives the same whatever is added
later. -/
theorem Stands.get_eq_of_le (stands : heap.Stands place text) (grows : heap.Grows after)
    {start : Nat} (before : start ≤ place) : after.get start = heap.get start := by
  have ended := stands.ended
  have known : heap.get start = .ok (Text.untilNul heap.table start) := by
    rw [get_natCast, if_pos (by omega)]
  rw [known]
  exact grows.get_eq known (stands.ended_of_le before)

/-- What a slot holds for the place of a text with a terminator reads the same whatever permanent
strings are added later. -/
theorem Stands.get_wrap (stands : heap.Stands place text) (grows : heap.Grows after)
    (ring : after.ring = heap.ring) : after.get (Slot.wrap place) = heap.get (Slot.wrap place) := by
  have upper := Slot.wrap_natCast_le place
  by_cases negative : Slot.wrap place < 0
  · simp only [StringHeap.get, isTemporary, decide_eq_true negative, if_true,
      StringHeap.place, ring]
  · obtain ⟨start, held⟩ := Int.eq_ofNat_of_zero_le (Int.not_lt.mp negative)
    rw [held] at upper ⊢
    exact stands.get_eq_of_le grows (Int.ofNat_le.mp upper)

/-- A text up to its first zero. -/
def terminated (text : List UInt8) : List UInt8 :=
  text.takeWhile (· ≠ 0)

theorem terminated_eq_self (visible : ∀ byte ∈ text, byte ≠ 0) : terminated text = text := by
  rw [terminated, ← List.append_nil text, List.takeWhile_append_of_pos
    fun byte member => decide_eq_true (visible byte member)]
  rfl

/-- What is put at the end of a table, with a zero behind it, stands there. -/
theorem stands_of_append {before : Array UInt8}
    (added : heap.table.toList = before.toList ++ (text ++ [0])) :
    heap.Stands before.size (terminated text) := by
  have size : heap.table.size = before.size + (text.length + 1) := by
    rw [← Array.length_toList, added, List.length_append, List.length_append, Array.length_toList]
    rfl
  have short : (terminated text).length ≤ text.length := (List.takeWhile_sublist _).length_le
  have read : Text.untilNul heap.table before.size = terminated text := by
    have whole : (text ++ [0]).takeWhile (· ≠ 0) = text.takeWhile (· ≠ 0) := by
      rw [List.takeWhile_append]
      split
      · next all => rw [(List.takeWhile_sublist _).eq_of_length all]; exact List.append_nil _
      · rfl
    rw [Text.untilNul_eq, added, ← Array.length_toList, List.drop_left, whole, terminated]
  exact ⟨read, by omega⟩

/-- The empty text stands at the beginning of a table that begins with a zero. -/
theorem stands_create {table : Array UInt8} (starts : table[0]? = some 0) (ringSize : Nat) :
    (create table ringSize).Stands 0 [] := by
  have filled : 0 < table.size := (Array.getElem?_eq_some_iff.mp starts).1
  have same : (create table ringSize).table = table := by
    unfold create
    dsimp only
    rw [if_neg (mt Array.isEmpty_iff_size_eq_zero.mp (Nat.ne_of_gt filled))]
  have read : Text.untilNul table 0 = [] := by
    rw [Text.untilNul_eq, List.drop_zero]
    rw [← Array.getElem?_toList] at starts
    cases bytes : table.toList with
    | nil => rfl
    | cons first rest =>
      rw [bytes] at starts
      cases starts
      rfl
  rw [← same] at read filled
  exact ⟨read, filled⟩

/-! ### What the heap remembers -/

/-- The table is not empty, and every text that was added stands behind its beginning, at a place
for which a slot holds its reference. -/
structure Faithful (heap : StringHeap) : Prop where
  filled : 0 < heap.table.size
  placed : ∀ text reference, (text, reference) ∈ heap.interned →
    ∃ place : Nat, 0 < place ∧ reference = Slot.wrap place ∧ heap.Stands place (terminated text)

theorem faithful_create (table : Array UInt8) (ringSize : Nat) :
    (create table ringSize).Faithful where
  filled := by
    unfold create
    dsimp only
    split
    · exact Nat.one_pos
    · next given => exact Nat.pos_of_ne_zero (mt Array.isEmpty_iff_size_eq_zero.mpr given)
  placed _ _ member := absurd member List.not_mem_nil

/-- A text that was added before is not added again. -/
theorem intern_of_lookup (filled : text ≠ []) {reference : Int}
    (found : heap.interned.lookup text = some reference) :
    heap.intern text = (reference, heap) := by
  unfold intern
  rw [if_neg (mt List.isEmpty_iff.mp filled), found]

/-- A text that was not added before is put behind the table. -/
theorem intern_of_lookup_none (filled : text ≠ []) (missing : heap.interned.lookup text = none) :
    heap.intern text = (Slot.wrap heap.table.size,
      { heap with
        table := heap.table ++ text.toArray ++ #[0]
        interned := (text, Slot.wrap heap.table.size) :: heap.interned }) := by
  unfold intern
  rw [if_neg (mt List.isEmpty_iff.mp filled), missing]

theorem mem_of_lookup {reference : Int} (found : heap.interned.lookup text = some reference) :
    (text, reference) ∈ heap.interned := by
  obtain ⟨earlier, later, split, -⟩ := List.lookup_eq_some_iff.mp found
  exact split ▸ List.mem_append_right _ List.mem_cons_self

/-- The reference of a text that is added is held for a place at which the text stands, and that is
a place of the table as it was, or the one behind it. -/
theorem Faithful.exists_place (faithful : heap.Faithful) (filled : text ≠ []) :
    ∃ place : Nat, 0 < place ∧ place ≤ heap.table.size ∧
      (heap.intern text).1 = Slot.wrap place ∧
      (heap.intern text).2.Stands place (terminated text) := by
  cases found : heap.interned.lookup text with
  | some reference =>
    obtain ⟨place, positive, held, stands⟩ := faithful.placed _ _ (mem_of_lookup found)
    have ended := stands.ended
    rw [intern_of_lookup filled found]
    exact ⟨place, positive, by omega, held, stands⟩
  | none =>
    rw [intern_of_lookup_none filled found]
    exact ⟨heap.table.size, faithful.filled, Nat.le_refl _, rfl, stands_of_append (by simp)⟩

/-- Adding a text keeps the references that were given out, and gives out one more at most. -/
theorem Faithful.intern (faithful : heap.Faithful) (text : List UInt8) :
    (heap.intern text).2.Faithful := by
  by_cases empty : text = []
  · rw [empty]
    exact faithful
  have grows : heap.Grows (heap.intern text).2 := .interned .same text
  have new := faithful.exists_place empty
  refine ⟨Nat.lt_of_lt_of_le faithful.filled grows.size_le, fun other reference member => ?_⟩
  have older (known : (other, reference) ∈ heap.interned) : ∃ place : Nat, 0 < place ∧
      reference = Slot.wrap place ∧ (heap.intern text).2.Stands place (terminated other) := by
    obtain ⟨place, positive, held, stands⟩ := faithful.placed other reference known
    exact ⟨place, positive, held, stands.grows grows⟩
  cases found : heap.interned.lookup text with
  | some known =>
    rw [intern_of_lookup empty found] at member
    exact older member
  | none =>
    rw [intern_of_lookup_none empty found] at member new
    rcases List.mem_cons.mp member with same | known
    · cases same
      obtain ⟨place, positive, -, held, stands⟩ := new
      rw [intern_of_lookup_none empty found]
      exact ⟨place, positive, held, stands⟩
    · exact older known

theorem Grows.faithful (grows : heap.Grows after) (faithful : heap.Faithful) : after.Faithful := by
  induction grows with
  | same => exact faithful
  | interned _ text inductionHypothesis => exact inductionHypothesis.intern text
  | stored _ text inductionHypothesis =>
    refine ⟨inductionHypothesis.filled, fun other reference member => ?_⟩
    obtain ⟨place, positive, held, stands⟩ := inductionHypothesis.placed other reference member
    exact ⟨place, positive, held, stands.grows (.stored .same text)⟩

/-- The reference to a text that was added is held for a place of the text, also after other strings
were added. -/
theorem Faithful.stands_intern (faithful : heap.Faithful) (empty : heap.Stands 0 [])
    (visible : ∀ byte ∈ text, byte ≠ 0) :
    ∃ place : Nat, (heap.intern text).1 = Slot.wrap place ∧
      (heap.intern text).2.Stands place text := by
  by_cases filled : text = []
  · rw [filled]
    exact ⟨0, rfl, empty⟩
  · obtain ⟨place, -, -, reference, stands⟩ := faithful.exists_place filled
    rw [terminated_eq_self visible] at stands
    exact ⟨place, reference, stands⟩

end StringHeap

end Gamecode
