/-
This file is about the references of the strings that a host adds. The heap remembers every text
that it put into the table, and what it remembers only grows. A text therefore keeps its reference
for ever: it is read there whatever is added afterwards, it gets the same reference whenever it is
added again, and no other text ever gets that reference. The table has less than `2 ^ 31` bytes
whenever a text is added, so that a slot holds where it begins.
-/

import Gamecode.Proofs.Storage.Interned
import Gamecode.Proofs.Storage.Temporaries

namespace Gamecode.StringHeap

variable {heap after : StringHeap} {text other : List UInt8} {reference : Int}

theorem grows_perform (heap : StringHeap) (operation : Operation) :
    heap.Grows (heap.perform operation) := by
  cases operation with
  | intern text => exact .interned .same text
  | store text => exact .stored .same text

/-- A history only adds to a heap. -/
theorem grows_run (heap : StringHeap) (history : List Operation) :
    heap.Grows (heap.run history) := by
  induction history generalizing heap with
  | nil => exact .same
  | cons operation rest inductionHypothesis =>
    exact (heap.grows_perform operation).trans (inductionHypothesis _)

/-! ### Remembered texts -/

/-- The text was added to the table, and this is its reference. -/
structure Remembers (heap : StringHeap) (text : List UInt8) (reference : Int) : Prop where
  filled : text ≠ []
  found : heap.interned.lookup text = some reference

/-- A text that is remembered is not added again. -/
theorem Remembers.intern_eq (remembers : heap.Remembers text reference) :
    heap.intern text = (reference, heap) :=
  intern_of_lookup remembers.filled remembers.found

/-- A text that is added is remembered, under the reference that is given out for it. -/
theorem remembers_intern (heap : StringHeap) (filled : text ≠ []) :
    (heap.intern text).2.Remembers text (heap.intern text).1 := by
  cases found : heap.interned.lookup text with
  | some reference =>
    rw [intern_of_lookup filled found]
    exact ⟨filled, found⟩
  | none =>
    rw [intern_of_lookup_none filled found]
    exact ⟨filled, List.lookup_cons_self⟩

/-- Adding a text forgets none. -/
theorem Remembers.intern (remembers : heap.Remembers text reference) (other : List UInt8) :
    (heap.intern other).2.Remembers text reference := by
  refine ⟨remembers.filled, ?_⟩
  by_cases filled : other = []
  · rw [filled]
    exact remembers.found
  cases found : heap.interned.lookup other with
  | some known =>
    rw [intern_of_lookup filled found]
    exact remembers.found
  | none =>
    -- The new text is looked up first, so it must not be the one that is remembered.
    have different : (text == other) = false := by
      refine beq_eq_false_iff_ne.mpr fun same => ?_
      rw [← same, remembers.found] at found
      cases found
    rw [intern_of_lookup_none filled found, List.lookup_cons, different]
    exact remembers.found

theorem Remembers.grows (remembers : heap.Remembers text reference) (grows : heap.Grows after) :
    after.Remembers text reference := by
  induction grows with
  | same => exact remembers
  | interned _ other inductionHypothesis => exact inductionHypothesis.intern other
  | stored _ _ inductionHypothesis => exact ⟨remembers.filled, inductionHypothesis.found⟩

/-- As long as a slot can hold all places of the table, the reference of a text is a place at which
it stands, behind the beginning of the table. -/
theorem Faithful.reference_stands (faithful : heap.Faithful) (short : heap.tableSize < 0x80000000)
    (filled : text ≠ []) (visible : ∀ byte ∈ text, byte ≠ 0) :
    ∃ place : Nat, 0 < place ∧ place < 0x80000000 ∧ (heap.intern text).1 = place ∧
      (heap.intern text).2.Stands place text := by
  obtain ⟨place, positive, bound, reference, stands⟩ := faithful.exists_place filled
  have small : place < 0x80000000 := Nat.lt_of_le_of_lt bound short
  rw [Slot.wrap_natCast small] at reference
  rw [terminated_eq_self visible] at stands
  exact ⟨place, positive, small, reference, stands⟩

/-! ### The reference of a text -/

/-- What a host can rely on when it adds a text to the heap, whatever is added later. -/
structure Canonical (heap : StringHeap) (text : List UInt8) : Prop where
  /-- The reference is neither a temporary nor the one of the empty text. -/
  positive : 0 < (heap.intern text).1
  /-- A slot holds the reference. -/
  fits : (heap.intern text).1 < 0x80000000
  /-- The text never expires. -/
  kept : ∀ later, ((heap.intern text).2.run later).get (heap.intern text).1 = .ok text
  /-- Adding it again gives out the same reference and changes nothing. -/
  same : ∀ later, ((heap.intern text).2.run later).intern text =
    ((heap.intern text).1, (heap.intern text).2.run later)
  /-- No other text gets the reference, as long as a slot can hold all places of the table. -/
  own : ∀ later other, ((heap.intern text).2.run later).tableSize < 0x80000000 → other ≠ [] →
    (∀ byte ∈ other, byte ≠ 0) →
    (((heap.intern text).2.run later).intern other).1 = (heap.intern text).1 → other = text

/-- The reference of a text is permanent and its own, whatever the table of the program holds and
whatever was added before, as long as a slot can hold all places of the table. -/
theorem canonical_run (table : Array UInt8) (ringSize : Nat) (history : List Operation)
    (short : ((create table ringSize).run history).tableSize < 0x80000000) (filled : text ≠ [])
    (visible : ∀ byte ∈ text, byte ≠ 0) :
    ((create table ringSize).run history).Canonical text := by
  have faithful := ((create table ringSize).grows_run history).faithful
    (faithful_create table ringSize)
  generalize (create table ringSize).run history = heap at short faithful
  have added : heap.Grows (heap.intern text).2 := .interned .same text
  have remembers := heap.remembers_intern filled
  obtain ⟨place, positive, small, reference, stands⟩ :=
    faithful.reference_stands short filled visible
  have later (more : List Operation) : ((heap.intern text).2.run more).Stands place text :=
    stands.grows (grows_run _ more)
  constructor
  · rw [reference]
    exact Int.natCast_pos.mpr positive
  · rw [reference]
    omega
  · intro more
    rw [reference]
    exact (later more).get
  · intro more
    exact (remembers.grows (grows_run _ more)).intern_eq
  · intro more other shortLater otherFilled otherVisible equal
    have faithfulLater := (added.trans (grows_run _ more)).faithful faithful
    obtain ⟨otherPlace, -, -, otherReference, otherStands⟩ :=
      faithfulLater.reference_stands shortLater otherFilled otherVisible
    -- Both texts stand at the one place.
    rw [reference, otherReference, Int.natCast_inj] at equal
    subst equal
    have grown : ((heap.intern text).2.run more).Grows
        (((heap.intern text).2.run more).intern other).2 := .interned .same other
    exact otherStands.read.symm.trans ((later more).grows grown).read

/-- The last text of the program has no terminator, and the text that is added is the end of one
that was added before. -/
theorem canonical_run_unterminated :
    ((create #[0, 98, 99] 2).run [.intern [97, 98, 99], .store [98]]).tableSize < 0x80000000 ∧
      ([98, 99] : List UInt8) ≠ [] ∧ (∀ byte ∈ ([98, 99] : List UInt8), byte ≠ 0) ∧
      ((create #[0, 98, 99] 2).run [.intern [97, 98, 99], .store [98]]).Canonical [98, 99] := by
  have short : ((create #[0, 98, 99] 2).run [.intern [97, 98, 99], .store [98]]).tableSize <
      0x80000000 := by decide
  have filled : ([98, 99] : List UInt8) ≠ [] := by decide
  have visible : ∀ byte ∈ ([98, 99] : List UInt8), byte ≠ 0 := by simp
  exact ⟨short, filled, visible, canonical_run _ _ _ short filled visible⟩

end Gamecode.StringHeap
