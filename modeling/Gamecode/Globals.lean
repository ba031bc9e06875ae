/-
The global segment: one row of slots, addressed by offset. The segment stores raw bits and checks
bounds; it never grows or shrinks.
-/

import Gamecode.Cells
import Gamecode.Fault
import Gamecode.Vector3

namespace Gamecode

/-- The global segment of a program. -/
structure Globals where
  slots : Cells
deriving Repr, DecidableEq

namespace Globals

/-- The number of slots, which never changes. -/
def size (globals : Globals) : Nat :=
  globals.slots.size

/-- Whether `width` slots from `offset` lie inside the segment. -/
def Covers (globals : Globals) (offset width : Nat) : Prop :=
  offset + width ≤ globals.size

instance (globals : Globals) (offset width : Nat) : Decidable (globals.Covers offset width) :=
  inferInstanceAs (Decidable (_ ≤ _))

/-- The fault of an access that does not stay inside; it names where the access begins. -/
def outOfRange (globals : Globals) (offset : Nat) : Fault :=
  .globalOutOfRange offset globals.size

/-! ### Runs of slots -/

/-- Read a run of slots. -/
def slice (globals : Globals) (offset width : Nat) : Except Fault (List Slot) :=
  if globals.Covers offset width then .ok (globals.slots.window offset width)
  else .error (globals.outOfRange offset)

/-- Write a run of slots. -/
def write (globals : Globals) (offset : Nat) (values : List Slot) : Except Fault Globals :=
  if globals.Covers offset values.length then .ok ⟨globals.slots.put offset values⟩
  else .error (globals.outOfRange offset)

/-- Give a run of slots one value. -/
def fill (globals : Globals) (offset width : Nat) (value : Slot) : Except Fault Globals :=
  if globals.Covers offset width then globals.write offset (List.replicate width value)
  else .error (globals.outOfRange offset)

/-- Copy a run of slots; the two runs may overlap, and the source is read as it was. -/
def copy (globals : Globals) (source target width : Nat) : Except Fault Globals :=
  if ¬ globals.Covers source width then .error (globals.outOfRange source)
  else if ¬ globals.Covers target width then .error (globals.outOfRange target)
  else globals.write target (globals.slots.window source width)

/-! ### Single slots -/

/-- The slot at an offset. -/
def get (globals : Globals) (offset : Nat) : Except Fault Slot :=
  match globals.slots[offset]? with
  | some slot => .ok slot
  | none => .error (globals.outOfRange offset)

/-- Change the slot at an offset. -/
def set (globals : Globals) (offset : Nat) (value : Slot) : Except Fault Globals :=
  if offset < globals.size then .ok ⟨globals.slots.setIfInBounds offset value⟩
  else .error (globals.outOfRange offset)

/-- A slot as a reference: a string, entity, field, function or pointer. -/
def getSigned (globals : Globals) (offset : Nat) : Except Fault Int :=
  Slot.signed <$> globals.get offset

/-- Store a reference, in two's complement. -/
def setSigned (globals : Globals) (offset : Nat) (number : Int) : Except Fault Globals :=
  globals.set offset (Slot.ofSigned number)

/-! ### Vectors -/

/-- The slot at an offset, and zero past the end. -/
def getOrZero (globals : Globals) (offset : Nat) : Slot :=
  globals.slots.getD offset 0

/-- The three slots from an offset on. -/
def getVector (globals : Globals) (offset : Nat) : Except Fault Vector3 :=
  if globals.Covers offset 3 then
    .ok ⟨globals.getOrZero offset, globals.getOrZero (offset + 1), globals.getOrZero (offset + 2)⟩
  else .error (globals.outOfRange offset)

/-- Change the three slots from an offset on. -/
def setVector (globals : Globals) (offset : Nat) (vector : Vector3) : Except Fault Globals :=
  globals.write offset vector.toList

/-- Three slots of which only the first has to exist; the others read as zero past the end. -/
def readPadded (globals : Globals) (offset : Nat) : Except Fault Vector3 := do
  let first ← globals.get offset
  return ⟨first, globals.getOrZero (offset + 1), globals.getOrZero (offset + 2)⟩

/-! ### Size -/

/-- Writing a run keeps the size. -/
theorem size_write {globals after : Globals} {offset : Nat} {values : List Slot}
    (written : globals.write offset values = .ok after) : after.size = globals.size := by
  unfold write at written
  split at written
  · cases written
    exact Cells.size_put _ _ _
  · cases written

/-- A write succeeds exactly where the segment covers the run, and changes nothing but the run. -/
theorem write_eq_ok_iff {globals after : Globals} {offset : Nat} {values : List Slot} :
    globals.write offset values = .ok after ↔
      globals.Covers offset values.length ∧ after = ⟨globals.slots.put offset values⟩ := by
  unfold write
  split
  · next covered =>
    exact ⟨fun written => ⟨covered, (Except.ok.inj written).symm⟩,
      fun both => congrArg Except.ok both.2.symm⟩
  · next uncovered => exact iff_of_false nofun fun both => uncovered both.1

/-- A slot outside a written run keeps its value. -/
theorem getElem?_write_other {globals after : Globals} {offset index : Nat} {values : List Slot}
    (written : globals.write offset values = .ok after)
    (outside : index < offset ∨ offset + values.length ≤ index) :
    after.slots[index]? = globals.slots[index]? := by
  obtain ⟨_, rfl⟩ := write_eq_ok_iff.mp written
  exact Cells.getElem?_put_other _ _ _ _ outside

/-- A slot inside a written run has its new value. -/
theorem getElem?_write_self {globals after : Globals} {offset index : Nat} {values : List Slot}
    (written : globals.write offset values = .ok after) (inside : index < values.length) :
    after.slots[offset + index]? = values[index]? := by
  obtain ⟨covered, rfl⟩ := write_eq_ok_iff.mp written
  exact Cells.getElem?_put_self _ _ _ _ inside covered

/-- Writing a slot keeps the size. -/
theorem size_set {globals after : Globals} {offset : Nat} {value : Slot}
    (written : globals.set offset value = .ok after) : after.size = globals.size := by
  unfold set at written
  split at written
  · cases written
    exact Array.size_setIfInBounds
  · cases written

/-- A slot holds every reference that fits in 32 bits. -/
theorem getSigned_setSigned {globals : Globals} {offset : Nat} {number : Int}
    (present : offset < globals.size) (lower : -0x80000000 ≤ number) (upper : number < 0x80000000) :
    ∃ after, globals.setSigned offset number = .ok after ∧ after.getSigned offset = .ok number := by
  refine ⟨⟨globals.slots.setIfInBounds offset (Slot.ofSigned number)⟩, if_pos present, ?_⟩
  have stored : (globals.slots.setIfInBounds offset (Slot.ofSigned number))[offset]? =
      some (Slot.ofSigned number) := by
    rw [Array.getElem?_setIfInBounds_self, if_pos (show offset < globals.slots.size from present)]
  rw [Globals.getSigned, Globals.get, stored]
  exact congrArg Except.ok (Slot.signed_ofSigned lower upper)

end Globals

end Gamecode
