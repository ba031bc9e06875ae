/-
The strings of a running program. A reference that is not negative is an offset into the table of
permanent strings, which only grows. A negative reference is a temporary: temporaries are numbered
one after the other and live in a ring, so each is readable until the ring comes round to its place.
-/

import Gamecode.Fault
import Gamecode.Slot
import Gamecode.Text.Terminated
import Gamecode.Text.Lossy

namespace Gamecode

/-- One place of the ring, with the number of the temporary that was put there last. -/
structure Temporary where
  serial : Nat
  text : List UInt8
deriving Repr, DecidableEq

/-- The permanent strings and the ring of temporaries. -/
structure StringHeap where
  table : Array UInt8
  /-- The texts that were added to the table while running, with their references. -/
  interned : List (List UInt8 × Int)
  ring : Array Temporary
  lastSerial : Nat
deriving Repr, DecidableEq

namespace StringHeap

/-- The greatest serial number; after it the numbering starts again at one. -/
def maxSerial : Nat := 0x80000000 - 1

/-- A heap over the table of a program. The table has at least the empty text, and the ring at least
one place. -/
def create (table : Array UInt8) (ringSize : Nat) : StringHeap :=
  { table := if table.isEmpty then #[0] else table
    interned := []
    ring := Array.replicate (max ringSize 1) ⟨0, []⟩
    lastSerial := 0 }

/-- Whether a reference is to a temporary. -/
def isTemporary (reference : Int) : Bool :=
  reference < 0

/-- How many temporaries are readable at a time. -/
def ringSize (heap : StringHeap) : Nat :=
  heap.ring.size

/-- The number of bytes that the permanent strings take. -/
def tableSize (heap : StringHeap) : Nat :=
  heap.table.size

/-- The place of the ring that a serial number belongs to. -/
def place (heap : StringHeap) (serial : Nat) : Nat :=
  (serial - 1) % heap.ring.size

/-- The serial number of a temporary reference. -/
def serialOf (reference : Int) : Nat :=
  min (-reference).toNat maxSerial

/-! ### Reading -/

/-- The bytes of a string. A temporary whose place was taken since reads as empty. -/
def get (heap : StringHeap) (reference : Int) : Except Fault (List UInt8) :=
  if isTemporary reference then
    let serial := serialOf reference
    match heap.ring[heap.place serial]? with
    | some temporary => .ok (if temporary.serial = serial then temporary.text else [])
    | none => .ok []
  else if reference.toNat < heap.table.size then .ok (Text.untilNul heap.table reference.toNat)
  else .error (.badString reference)

/-- A string as text; bytes that are no text are replaced. -/
def getText (heap : StringHeap) (reference : Int) : Except Fault String :=
  Text.decode <$> heap.get reference

/-! ### Adding -/

/-- The number of the next temporary. -/
def nextSerial (heap : StringHeap) : Nat :=
  if heap.lastSerial = maxSerial then 1 else heap.lastSerial + 1

/-- Put a text into the ring and give out its reference. -/
def addTemporary (heap : StringHeap) (text : List UInt8) : Int × StringHeap :=
  let serial := heap.nextSerial
  (-(serial : Int),
    { heap with
      ring := heap.ring.setIfInBounds (heap.place serial) ⟨serial, text⟩
      lastSerial := serial })

/-- The reference of a permanent string, which is added to the table unless an earlier call did. The
reference is the offset of the string as a slot holds it. -/
def intern (heap : StringHeap) (text : List UInt8) : Int × StringHeap :=
  if text.isEmpty then (0, heap)
  else
    match heap.interned.lookup text with
    | some reference => (reference, heap)
    | none =>
      let reference := Slot.wrap heap.table.size
      (reference,
        { heap with
          table := heap.table ++ text.toArray ++ #[0]
          interned := (text, reference) :: heap.interned })

/-- The ring never grows. -/
@[simp] theorem ringSize_addTemporary (heap : StringHeap) (text : List UInt8) :
    (heap.addTemporary text).2.ringSize = heap.ringSize :=
  Array.size_setIfInBounds

/-- No temporary has the number zero, so every reference to one is negative. -/
theorem nextSerial_pos (heap : StringHeap) : 0 < heap.nextSerial := by
  unfold nextSerial
  split <;> omega

/-- The numbering stays below its end. -/
theorem nextSerial_le {heap : StringHeap} (bound : heap.lastSerial ≤ maxSerial) :
    heap.nextSerial ≤ maxSerial := by
  unfold nextSerial
  split
  · decide
  · omega

/-- A new temporary is readable. -/
theorem get_addTemporary {heap : StringHeap} (text : List UInt8) (room : 0 < heap.ringSize)
    (bound : heap.lastSerial ≤ maxSerial) :
    (heap.addTemporary text).2.get (heap.addTemporary text).1 = .ok text := by
  have positive := heap.nextSerial_pos
  have temporary : isTemporary (-(heap.nextSerial : Int)) = true := by
    simp only [isTemporary, decide_eq_true_eq]
    omega
  have serial : serialOf (-(heap.nextSerial : Int)) = heap.nextSerial := by
    simp only [serialOf, Int.neg_neg, Int.toNat_natCast]
    exact Nat.min_eq_left (nextSerial_le bound)
  have inside : heap.place heap.nextSerial < heap.ring.size := Nat.mod_lt _ room
  have same : (heap.addTemporary text).2.place heap.nextSerial = heap.place heap.nextSerial := by
    simp only [place, addTemporary, Array.size_setIfInBounds]
  simp only [get, addTemporary, temporary, if_true, serial]
  simp only [addTemporary] at same
  rw [same, Array.getElem?_setIfInBounds_self, if_pos inside]
  simp

/-! ### Comparing -/

/-- Permanent strings are equal when their bytes are, temporaries only when they are the same
reference. -/
def equal (heap : StringHeap) (left right : Int) : Except Fault Bool :=
  if isTemporary left || isTemporary right then .ok (left = right)
  else if left = right then .ok true
  else do
    let first ← heap.get left
    let second ← heap.get right
    return first = second

/-- Whether a reference is null or names an empty text. -/
def isNull (heap : StringHeap) (reference : Int) : Except Fault Bool :=
  if reference = 0 then .ok true else List.isEmpty <$> heap.get reference

end StringHeap

end Gamecode
