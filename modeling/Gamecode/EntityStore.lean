/-
Entities are records of equally many slots, stored one behind the other. A field is the same slot of
every record, so the pointer to a field is the number of the entity times the record size plus the
field. Entity 0 is the world: it always exists and cannot be removed. Freed records are used again.
-/

import Gamecode.Cells
import Gamecode.Fault
import Gamecode.Vector3

namespace Gamecode

/-- The records of all entities. -/
structure EntityStore where
  /-- The number of slots in a record. -/
  stride : Nat
  slots : Cells
  /-- How many records there are, free ones included. -/
  count : Nat
  /-- The records that have been removed and not been used again, in ascending order. -/
  removed : List Nat
  limit : Nat
  /-- The records below this number are never handed out. -/
  reserved : Nat
deriving Repr, DecidableEq

namespace EntityStore

/-- A store that holds the world only. -/
def create (stride limit reserved : Nat) : EntityStore :=
  { stride
    slots := Array.replicate stride 0
    count := 1
    removed := []
    limit := max limit 1
    reserved := max reserved 1 }

/-- How many records are in use. -/
def liveCount (store : EntityStore) : Nat :=
  store.count - store.removed.length

/-- A record that does not exist counts as free. -/
def isFree (store : EntityStore) (entity : Int) : Bool :=
  entity < 0 || store.count ≤ entity.toNat || store.removed.contains entity.toNat

/-! ### Addresses -/

/-- The number of an entity that exists, be it free or not. -/
def checkEntity (store : EntityStore) (entity : Int) : Except Fault Nat :=
  if 0 ≤ entity ∧ entity.toNat < store.count then .ok entity.toNat
  else .error (.badEntity entity)

/-- Offsets and widths are 64-bit words, and so are their sums. -/
def wordSum (offset width : Nat) : Nat :=
  (offset + width) % 0x10000000000000000

/-- A run of slots has to lie inside a record. -/
def checkField (store : EntityStore) (field : Int) (width : Nat) : Except Fault Nat :=
  if 0 ≤ field ∧ wordSum field.toNat width ≤ store.stride then .ok field.toNat
  else .error (.fieldOutsideRecord field store.stride)

/-- The pointer to a field, as it is stored in a slot. -/
def address (store : EntityStore) (entity field : Int) (width : Nat) : Except Fault Int := do
  let number ← store.checkEntity entity
  let offset ← store.checkField field width
  return Slot.signed (Slot.ofSigned (number * store.stride + offset : Nat))

/-- An access through a pointer has to stay inside the record in which it starts. -/
def checkPointer (store : EntityStore) (pointer : Int) (width : Nat) : Except Fault Nat :=
  if pointer < 0 ∨ store.slots.size < wordSum pointer.toNat width then .error (.badPointer pointer)
  else
    let offset := pointer.toNat % store.stride
    if 0 < store.stride ∧ store.stride < wordSum offset width then
      .error (.fieldOutsideRecord offset store.stride)
    else .ok pointer.toNat

/-! ### Reading and writing -/

/-- Read a run of slots through a pointer. -/
def read (store : EntityStore) (pointer : Int) (width : Nat) : Except Fault (List Slot) := do
  let start ← store.checkPointer pointer width
  return store.slots.window start width

/-- Write a run of slots through a pointer. -/
def write (store : EntityStore) (pointer : Int) (values : List Slot) :
    Except Fault EntityStore := do
  let start ← store.checkPointer pointer values.length
  return { store with slots := store.slots.put start values }

/-- All slots of an entity. -/
def record (store : EntityStore) (entity : Int) : Except Fault (List Slot) := do
  let number ← store.checkEntity entity
  return store.slots.window (number * store.stride) store.stride

/-- The place of the slot that a pointer leads to. There is none for a pointer that came out
negative, which is a huge number as an index, nor for one beyond the slots. -/
def place (store : EntityStore) (pointer : Int) : Except Fault Nat :=
  let index := (pointer % 0x10000000000000000).toNat
  if index < store.slots.size then .ok index
  else .error (.indexOutOfBounds index store.slots.size)

/-- The slot of a field. -/
def get (store : EntityStore) (entity field : Int) : Except Fault Slot := do
  let place ← store.place (← store.address entity field 1)
  return store.slots.getD place 0

/-- Change the slot of a field. -/
def set (store : EntityStore) (entity field : Int) (value : Slot) : Except Fault EntityStore := do
  let place ← store.place (← store.address entity field 1)
  return { store with slots := store.slots.setIfInBounds place value }

/-- The three slots of a vector field. -/
def getVector (store : EntityStore) (entity field : Int) : Except Fault Vector3 := do
  let pointer ← store.address entity field 3
  let start ← store.checkPointer pointer 3
  return ⟨store.slots.getD start 0, store.slots.getD (start + 1) 0, store.slots.getD (start + 2) 0⟩

/-- Change the three slots of a vector field. -/
def setVector (store : EntityStore) (entity field : Int) (vector : Vector3) :
    Except Fault EntityStore := do
  let pointer ← store.address entity field 3
  store.write pointer vector.toList

/-! ### Lifetimes -/

/-- A store is sound when it holds one record after the other, and the records that were removed are
some of those behind the world, each listed once and in ascending order. -/
structure Sound (store : EntityStore) : Prop where
  size_eq : store.slots.size = store.count * store.stride
  count_pos : 0 < store.count
  ascending : store.removed.Pairwise (· < ·)
  removed_bounds : ∀ number ∈ store.removed, 0 < number ∧ number < store.count

/-- Set every slot of a record to zero. -/
def clearRecord (store : EntityStore) (number : Nat) : EntityStore :=
  { store with
    slots := store.slots.put (number * store.stride) (List.replicate store.stride 0) }

/-- Mark a record as free or as used. -/
def mark (store : EntityStore) (number : Nat) (free : Bool) : EntityStore :=
  { store with
    removed := store.removed.filter (· < number) ++ (if free then [number] else []) ++
      store.removed.filter (number < ·) }

/-- The first free record that may be handed out. -/
def firstFree? (store : EntityStore) : Option Nat :=
  store.removed.find? (store.reserved ≤ ·)

/-- Add zeroed live records until record `number` exists. -/
def growTo (store : EntityStore) (number : Nat) : EntityStore :=
  let added := number + 1 - store.count
  { store with
    slots := store.slots ++ Array.replicate (added * store.stride) 0
    count := store.count + added }

/-- Hand out a freed record, or a new one behind all others. The number is given out as a slot holds
it. -/
def spawn (store : EntityStore) : Except Fault (Int × EntityStore) :=
  match store.firstFree? with
  | some number => .ok (Slot.wrap number, (store.clearRecord number).mark number false)
  | none =>
    let number := max store.count store.reserved
    if store.limit ≤ number then .error (.entityLimit store.limit)
    else .ok (Slot.wrap number, store.growTo number)

def remove (store : EntityStore) (entity : Int) : Except Fault EntityStore := do
  let number ← store.checkEntity entity
  if number = 0 then throw (.badEntity entity)
  return (store.clearRecord number).mark number true

/-- Keep the world only, and zero its record. -/
def clear (store : EntityStore) : EntityStore :=
  { store with
    slots := Array.replicate (min store.stride store.slots.size) 0
    count := min store.count 1
    removed := store.removed.filter (· < 1) }

/-- The first record in use from a given one on. -/
def firstLive? (store : EntityStore) (start : Nat) : Option Nat :=
  (List.range' start (store.count - start)).find? (! store.removed.contains ·)

/-- The first live entity after a given one, whose number is given out as a slot holds it. -/
def nextLive? (store : EntityStore) (entity : Int) : Option Int :=
  (store.firstLive? ((max entity 0).toNat + 1)).map fun number : Nat => Slot.wrap number

/-! ### Soundness -/

/-- Marking a record changes the mark of no other one. -/
theorem mem_removed_mark {store : EntityStore} {number other : Nat} {free : Bool} :
    other ∈ (store.mark number free).removed ↔
      other = number ∧ free = true ∨ other ≠ number ∧ other ∈ store.removed := by
  cases free <;> simp [mark] <;> grind

/-- A new store is sound. -/
theorem sound_create (stride limit reserved : Nat) : (create stride limit reserved).Sound where
  size_eq := by simp [create]
  count_pos := Nat.one_pos
  ascending := .nil
  removed_bounds _ member := absurd member List.not_mem_nil

/-- Growing keeps a store sound. -/
theorem Sound.growTo {store : EntityStore} (sound : store.Sound) (number : Nat) :
    (store.growTo number).Sound where
  size_eq := by
    simp only [EntityStore.growTo, Array.size_append, Array.size_replicate, sound.size_eq,
      Nat.add_mul]
  count_pos := Nat.lt_add_right _ sound.count_pos
  ascending := sound.ascending
  removed_bounds other member :=
    ⟨(sound.removed_bounds other member).1,
      Nat.lt_add_right _ (sound.removed_bounds other member).2⟩

/-- Clearing a record keeps a store sound. -/
theorem Sound.clearRecord {store : EntityStore} (sound : store.Sound) (number : Nat) :
    (store.clearRecord number).Sound where
  size_eq := by
    rw [EntityStore.clearRecord]
    exact (Cells.size_put _ _ _).trans sound.size_eq
  count_pos := sound.count_pos
  ascending := sound.ascending
  removed_bounds := sound.removed_bounds

/-- Marking a record behind the world keeps a store sound. -/
theorem Sound.mark {store : EntityStore} (sound : store.Sound) {number : Nat}
    (positive : 0 < number) (present : number < store.count) (free : Bool) :
    (store.mark number free).Sound where
  size_eq := sound.size_eq
  count_pos := sound.count_pos
  ascending := by
    have below := sound.ascending.filter (· < number)
    have above := sound.ascending.filter (number < ·)
    have single : (if free then [number] else []).Pairwise (· < ·) := by
      cases free <;> simp
    have middle (other : Nat) (member : other ∈ if free then [number] else []) :
        other = number := by
      cases free <;> simp_all
    refine List.pairwise_append.mpr ⟨List.pairwise_append.mpr ⟨below, single, ?_⟩, above, ?_⟩
    · intro lower inLower other inMiddle
      rw [middle other inMiddle]
      exact of_decide_eq_true (List.mem_filter.mp inLower).2
    · intro lower inLower upper inUpper
      have upperLess := of_decide_eq_true (List.mem_filter.mp inUpper).2
      rcases List.mem_append.mp inLower with inFirst | inMiddle
      · exact Nat.lt_trans (of_decide_eq_true (List.mem_filter.mp inFirst).2) upperLess
      · rw [middle lower inMiddle]
        exact upperLess
  removed_bounds other member := by
    rcases mem_removed_mark.mp member with ⟨rfl, -⟩ | ⟨-, known⟩
    · exact ⟨positive, present⟩
    · exact sound.removed_bounds other known

end EntityStore

end Gamecode
