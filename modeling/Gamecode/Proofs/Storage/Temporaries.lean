/-
This file says for how long a temporary string can be read. Temporaries are numbered one after the
other and the numbering starts again at one, so the place of the ring goes by the number: a ring
whose size does not divide the greatest number is left before its last place when the numbering
starts again. Temporaries that are in the ring at that time are overwritten too early or too late.
All others are readable for exactly one round of the ring.
-/

import Gamecode.StringHeap

namespace Gamecode.StringHeap

/-! ### Histories -/

/-- What adds to a heap. -/
inductive Operation
  | intern (text : List UInt8)
  | store (text : List UInt8)
deriving Repr, DecidableEq

/-- The heap after an operation. -/
def perform (heap : StringHeap) : Operation → StringHeap
  | .intern text => (heap.intern text).2
  | .store text => (heap.addTemporary text).2

/-- The heap after operations in a row. -/
def run (heap : StringHeap) (history : List Operation) : StringHeap :=
  history.foldl perform heap

/-- How many temporaries a history adds. -/
def stored : List Operation → Nat
  | [] => 0
  | .intern _ :: rest => stored rest
  | .store _ :: rest => stored rest + 1

theorem stored_replicate (number : Nat) (text : List UInt8) :
    stored (List.replicate number (.store text)) = number := by
  induction number with
  | zero => rfl
  | succ number inductionHypothesis => rw [List.replicate_succ, stored, inductionHypothesis]

variable {heap : StringHeap} {ringSize count later : Nat} {text : List UInt8}

/-- Permanent strings take no place in the ring. -/
theorem ring_intern (heap : StringHeap) (text : List UInt8) :
    (heap.intern text).2.ring = heap.ring ∧ (heap.intern text).2.lastSerial = heap.lastSerial := by
  unfold intern
  split
  · exact ⟨rfl, rfl⟩
  · split <;> exact ⟨rfl, rfl⟩

/-! ### Numbers -/

/-- The number of the temporary that comes after `count` others. -/
def serialAfter (count : Nat) : Nat :=
  count % maxSerial + 1

theorem serialAfter_le (count : Nat) : serialAfter count ≤ maxSerial :=
  Nat.mod_lt count (by decide)

/-- A heap of a ring size to which `count` temporaries were added. -/
structure Numbered (ringSize count : Nat) (heap : StringHeap) : Prop where
  size : heap.ring.size = ringSize
  next : heap.nextSerial = serialAfter count

theorem numbered_create (table : Array UInt8) (positive : 1 ≤ ringSize) :
    Numbered ringSize 0 (create table ringSize) where
  size := by
    show (Array.replicate (max ringSize 1) _).size = ringSize
    rw [Array.size_replicate, Nat.max_eq_left positive]
  next := rfl

theorem Numbered.intern (numbered : Numbered ringSize count heap) (text : List UInt8) :
    Numbered ringSize count (heap.intern text).2 := by
  obtain ⟨ring, last⟩ := heap.ring_intern text
  refine ⟨ring ▸ numbered.size, ?_⟩
  rw [← numbered.next, nextSerial, nextSerial, last]

theorem Numbered.store (numbered : Numbered ringSize count heap) (text : List UInt8) :
    Numbered ringSize (count + 1) (heap.addTemporary text).2 where
  size := (heap.ringSize_addTemporary text).trans numbered.size
  next := by
    show (if heap.nextSerial = maxSerial then 1 else heap.nextSerial + 1) = serialAfter (count + 1)
    rw [numbered.next]
    unfold serialAfter maxSerial
    split <;> omega

theorem Numbered.run (numbered : Numbered ringSize count heap) (history : List Operation) :
    Numbered ringSize (count + stored history) (heap.run history) := by
  induction history generalizing heap count with
  | nil => exact numbered
  | cons operation rest inductionHypothesis =>
    cases operation with
    | intern text => exact inductionHypothesis (numbered.intern text)
    | store text =>
      rw [stored, Nat.add_comm (stored rest), ← Nat.add_assoc]
      exact inductionHypothesis (numbered.store text)

theorem Numbered.place_eq (numbered : Numbered ringSize count heap) (number : Nat) :
    heap.place (serialAfter number) = number % maxSerial % ringSize := by
  rw [place, numbered.size, serialAfter, Nat.add_sub_cancel]

/-! ### Places -/

/-- For how many temporaries, itself included, a temporary is the last one of its place: for one
round of the ring, unless the numbering starts again before. -/
def lifetime (ringSize serial : Nat) : Nat :=
  if serial + ringSize ≤ maxSerial then ringSize
  else maxSerial - serial + (serial - 1) % ringSize + 1

theorem lifetime_pos (positive : 1 ≤ ringSize) (serial : Nat) : 0 < lifetime ringSize serial := by
  unfold lifetime
  split
  · exact positive
  · exact Nat.succ_pos _

/-- Up to the end of its lifetime no later temporary has the place of a temporary, and at the end of
it one has. -/
theorem place_eq_iff {before age : Nat} (inside : before < maxSerial) (positive : 0 < age)
    (early : age ≤ lifetime ringSize (before + 1)) (room : 1 ≤ ringSize) (again : age < maxSerial) :
    (before + age) % maxSerial % ringSize = before % ringSize ↔
      age = lifetime ringSize (before + 1) := by
  have bound : before % ringSize < ringSize := Nat.mod_lt _ room
  have apart (short : age < ringSize) : (before + age) % ringSize ≠ before % ringSize := by
    intro same
    have divides := Nat.sub_mod_eq_zero_of_mod_eq same
    rw [Nat.add_sub_cancel_left, Nat.mod_eq_of_lt short] at divides
    omega
  unfold lifetime at early ⊢
  rw [Nat.add_sub_cancel] at early ⊢
  split at early
  · next whole =>
    rw [if_pos whole, Nat.mod_eq_of_lt (show before + age < maxSerial by omega)]
    constructor
    · intro same
      exact Nat.le_antisymm early (Nat.le_of_not_lt fun short => apart short same)
    · rintro rfl
      exact Nat.add_mod_right before age
  · next cut =>
    rw [if_neg cut]
    by_cases restarted : before + age < maxSerial
    · rw [Nat.mod_eq_of_lt restarted]
      exact iff_of_false (apart (by omega)) (by omega)
    · have wrapped : (before + age) % maxSerial = before + age - maxSerial := by
        rw [Nat.mod_eq_sub_mod (Nat.le_of_not_lt restarted), Nat.mod_eq_of_lt (by omega)]
      rw [wrapped, Nat.mod_eq_of_lt (by omega)]
      omega

/-! ### One temporary -/

/-- A heap to which `later` temporaries were added after one that came after `count` others: that
one is in its place until its lifetime ends, and another one is afterwards. -/
structure Aged (ringSize count : Nat) (text : List UInt8) (later : Nat) (heap : StringHeap) :
    Prop extends Numbered ringSize (count + later + 1) heap where
  slot : ∃ temporary, heap.ring[count % maxSerial % ringSize]? = some temporary ∧
    if later < lifetime ringSize (serialAfter count) then
      temporary = ⟨serialAfter count, text⟩
    else temporary.serial ≠ serialAfter count

theorem Numbered.aged (numbered : Numbered ringSize count heap) (positive : 1 ≤ ringSize)
    (text : List UInt8) : Aged ringSize count text 0 (heap.addTemporary text).2 where
  toNumbered := numbered.store text
  slot := by
    refine ⟨⟨serialAfter count, text⟩, ?_, by rw [if_pos (lifetime_pos positive _)]⟩
    have inside : count % maxSerial % ringSize < heap.ring.size := by
      rw [numbered.size]
      exact Nat.mod_lt _ positive
    simp only [addTemporary, numbered.next, numbered.place_eq, Array.getElem?_setIfInBounds_self,
      if_pos inside]

theorem Aged.intern (aged : Aged ringSize count text later heap) (other : List UInt8) :
    Aged ringSize count text later (heap.intern other).2 where
  toNumbered := aged.toNumbered.intern other
  slot := (heap.ring_intern other).1 ▸ aged.slot

theorem Aged.store (aged : Aged ringSize count text later heap) (positive : 1 ≤ ringSize)
    (again : later + 1 < maxSerial) (other : List UInt8) :
    Aged ringSize count text (later + 1) (heap.addTemporary other).2 where
  toNumbered := aged.toNumbered.store other
  slot := by
    obtain ⟨temporary, found, known⟩ := aged.slot
    have inside : count % maxSerial % ringSize < heap.ring.size :=
      (Array.getElem?_eq_some_iff.mp found).1
    -- No number is given out twice before the numbering has come round to it.
    have different : heap.nextSerial ≠ serialAfter count := by
      rw [aged.next]
      unfold serialAfter
      unfold maxSerial at again ⊢
      omega
    have place : heap.place heap.nextSerial =
        (count % maxSerial + (later + 1)) % maxSerial % ringSize := by
      rw [aged.next, aged.place_eq, Nat.mod_add_mod, Nat.add_assoc]
    by_cases same : heap.place heap.nextSerial = count % maxSerial % ringSize
    · refine ⟨⟨heap.nextSerial, other⟩, ?_, ?_⟩
      · simp only [addTemporary, same, Array.getElem?_setIfInBounds_self, if_pos inside]
      · rw [if_neg, serialAfter]
        · exact different
        · intro early
          rw [place, place_eq_iff (Nat.mod_lt _ (by decide)) (Nat.succ_pos later)
            (Nat.le_of_lt early) positive again] at same
          exact Nat.ne_of_lt early same
    · refine ⟨temporary, ?_, ?_⟩
      · simp only [addTemporary, Array.getElem?_setIfInBounds_ne same, found]
      · by_cases early : later < lifetime ringSize (serialAfter count)
        · rw [if_pos early] at known
          rw [place, place_eq_iff (Nat.mod_lt _ (by decide)) (Nat.succ_pos later) early positive
            again] at same
          rw [if_pos (Nat.lt_of_le_of_ne early same)]
          exact known
        · rw [if_neg early] at known
          rw [if_neg fun earlier => early (Nat.lt_of_succ_lt earlier)]
          exact known

theorem Aged.run (aged : Aged ringSize count text later heap) (positive : 1 ≤ ringSize)
    (history : List Operation) (again : later + stored history < maxSerial) :
    Aged ringSize count text (later + stored history) (heap.run history) := by
  induction history generalizing heap later with
  | nil => exact aged
  | cons operation rest inductionHypothesis =>
    cases operation with
    | intern other => exact inductionHypothesis (aged.intern other) again
    | store other =>
      rw [stored] at again ⊢
      rw [Nat.add_comm (stored rest), ← Nat.add_assoc] at again ⊢
      exact inductionHypothesis (aged.store positive (by omega) other) again

/-- A temporary is read until its lifetime ends, and reads as empty afterwards. -/
theorem Aged.get (aged : Aged ringSize count text later heap) :
    heap.get (-(serialAfter count : Int)) =
      .ok (if later < lifetime ringSize (serialAfter count) then text else []) := by
  obtain ⟨temporary, found, known⟩ := aged.slot
  have negative : isTemporary (-(serialAfter count : Int)) = true := by
    unfold isTemporary serialAfter
    exact decide_eq_true (by omega)
  have serial : serialOf (-(serialAfter count : Int)) = serialAfter count := by
    unfold serialOf
    rw [Int.neg_neg, Int.toNat_natCast]
    exact Nat.min_eq_left (serialAfter_le count)
  unfold StringHeap.get
  rw [negative, if_pos rfl]
  dsimp only
  rw [serial, aged.place_eq, found]
  dsimp only
  split at known
  · next early => rw [known, if_pos rfl, if_pos early]
  · next late => rw [if_neg known, if_neg late]

/-! ### The law of the ring -/

/-- A temporary is readable for exactly one round of the ring, as long as its number is not given
out again. -/
def OneRing (ringSize : Nat) (heap : StringHeap) : Prop :=
  ∀ text later, stored later < maxSerial →
    ((heap.addTemporary text).2.run later).get (heap.addTemporary text).1 =
      .ok (if stored later < ringSize then text else [])

/-- What a temporary reads as, whatever is added to the heap afterwards. -/
theorem Numbered.get_run (numbered : Numbered ringSize count heap) (positive : 1 ≤ ringSize)
    (text : List UInt8) {later : List Operation} (again : stored later < maxSerial) :
    ((heap.addTemporary text).2.run later).get (heap.addTemporary text).1 =
      .ok (if stored later < lifetime ringSize (serialAfter count) then text else []) := by
  have aged := (numbered.aged positive text).run positive later (by rwa [Nat.zero_add])
  rw [Nat.zero_add] at aged
  have reference : (heap.addTemporary text).1 = -(serialAfter count : Int) := by
    rw [← numbered.next, addTemporary]
  rw [reference]
  exact aged.get

/-- A lifetime that the numbering cuts off is one round only if the numbering ends with a round. -/
theorem lifetime_eq_iff {before : Nat} (inside : before < maxSerial) (positive : 1 ≤ ringSize) :
    lifetime ringSize (before + 1) = ringSize ↔
      before + 1 + ringSize ≤ maxSerial ∨ ringSize ∣ maxSerial := by
  unfold lifetime
  split
  · next whole => exact iff_of_true rfl (.inl whole)
  · next cut =>
    have rounds := Nat.div_add_mod before ringSize
    rw [Nat.add_sub_cancel, or_iff_right cut]
    constructor
    · intro same
      refine ⟨before / ringSize + 1, ?_⟩
      rw [Nat.mul_add_one]
      omega
    · rintro ⟨number, whole⟩
      -- The temporary is in the last round, which ends with the numbering.
      have last : before / ringSize + 1 = number := by
        refine Nat.le_antisymm ?_ ?_
        · exact (Nat.div_lt_iff_lt_mul positive).mpr (by rwa [Nat.mul_comm, ← whole])
        · have bound := Nat.mod_lt before positive
          have further : ringSize * number < ringSize * (before / ringSize + 1).succ := by
            rw [Nat.mul_succ, Nat.mul_add_one, ← whole]
            omega
          exact Nat.le_of_lt_succ (Nat.lt_of_mul_lt_mul_left further)
      rw [← last, Nat.mul_add_one] at whole
      omega

/-- In a ring that is not smaller than the numbering every temporary stays until its number is given
out again. -/
theorem lifetime_of_large {before : Nat} (inside : before < maxSerial)
    (large : maxSerial ≤ ringSize) : lifetime ringSize (before + 1) = maxSerial := by
  rw [lifetime, if_neg (by omega), Nat.add_sub_cancel, Nat.mod_eq_of_lt (by omega)]
  omega

/-- The law of the ring holds for a temporary exactly if the numbering does not start again within a
round of it, or the ring is filled exactly by the numbering, or is too large to be filled by it. -/
theorem oneRing_iff (table : Array UInt8) (positive : 1 ≤ ringSize) (history : List Operation) :
    OneRing ringSize ((create table ringSize).run history) ↔
      serialAfter (stored history) + ringSize ≤ maxSerial ∨ ringSize ∣ maxSerial ∨
        maxSerial ≤ ringSize := by
  have numbered := (numbered_create table positive).run history
  rw [Nat.zero_add] at numbered
  have inside : stored history % maxSerial < maxSerial := Nat.mod_lt _ (by decide)
  rw [← or_assoc, serialAfter, ← lifetime_eq_iff inside positive]
  constructor
  · intro law
    refine (Nat.lt_or_ge ringSize maxSerial).imp_left fun small => ?_
    -- At the shorter of the two times only one of them says that the text is still there.
    let time := min (lifetime ringSize (serialAfter (stored history))) ringSize
    have short : stored (List.replicate time (.store [])) < maxSerial := by
      rw [stored_replicate]
      exact Nat.lt_of_le_of_lt (Nat.min_le_right _ _) small
    have read := (numbered.get_run positive [0] short).symm.trans (law [0] _ short)
    rw [stored_replicate, Except.ok.injEq] at read
    show lifetime ringSize (serialAfter (stored history)) = ringSize
    split at read <;> split at read
    · omega
    · nomatch read
    · nomatch read
    · omega
  · intro fits text later again
    rw [numbered.get_run positive text again, serialAfter]
    rcases fits with whole | large
    · rw [whole]
    · rw [lifetime_of_large inside large, if_pos again, if_pos (Nat.lt_of_lt_of_le again large)]

/-- A ring of sixteen places far from the end of the numbering. -/
theorem oneRing_iff_sixteen :
    1 ≤ 16 ∧ OneRing 16 ((create #[0] 16).run [.store [97], .intern [98], .store [99]]) :=
  ⟨by decide, (oneRing_iff #[0] (by decide) _).mpr (by decide)⟩

/-- In a ring of two places the last temporary before the numbering starts again is lost as soon as
one more is added. -/
theorem last_serial_overwritten :
    let heap := (create #[0] 2).run (List.replicate 2147483646 (.store []))
    (heap.addTemporary [97]).1 = -2147483647 ∧
      ((heap.addTemporary [97]).2.run [.store [98]]).get (heap.addTemporary [97]).1 = .ok [] := by
  intro heap
  have numbered : Numbered 2 2147483646 heap := by
    have ran := (numbered_create #[0] (show 1 ≤ 2 by decide)).run
      (List.replicate 2147483646 (.store []))
    rwa [Nat.zero_add, stored_replicate] at ran
  refine ⟨?_, ?_⟩
  · show -(heap.nextSerial : Int) = -2147483647
    rw [numbered.next]
    decide
  · exact numbered.get_run (by decide) [97] (by decide)

end Gamecode.StringHeap
