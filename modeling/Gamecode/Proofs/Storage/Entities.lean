/-
This file is about every entity store that a host can come to. Spawning, removing, clearing and
writing never leave a record cut off and never free the world, so a store always holds one whole
record after the other. From there, as long as all slots have addresses that a slot can hold, the
address of a field is the place of that field, and a field that has an address can be written.
-/

import Gamecode.EntityStore
import Gamecode.Proofs.Loaded

namespace Gamecode.EntityStore

/-! ### Stores that were made by their operations -/

/-- A store that was made from a new one by its operations. -/
inductive Built (stride limit reserved : Nat) : EntityStore → Prop
  | created : Built stride limit reserved (create stride limit reserved)
  | spawned {store after : EntityStore} {entity : Int} (built : Built stride limit reserved store)
      (done : store.spawn = .ok (entity, after)) : Built stride limit reserved after
  | removed {store after : EntityStore} {entity : Int} (built : Built stride limit reserved store)
      (done : store.remove entity = .ok after) : Built stride limit reserved after
  | cleared {store : EntityStore} (built : Built stride limit reserved store) :
      Built stride limit reserved store.clear
  | written {store after : EntityStore} {pointer : Int} {values : List Slot}
      (built : Built stride limit reserved store) (done : store.write pointer values = .ok after) :
      Built stride limit reserved after
  | assigned {store after : EntityStore} {entity field : Int} {value : Slot}
      (built : Built stride limit reserved store)
      (done : store.set entity field value = .ok after) : Built stride limit reserved after

variable {store after : EntityStore}

/-- New slots of the same number keep a store sound. -/
theorem Sound.of_size (sound : store.Sound) {slots : Cells} (size : slots.size = store.slots.size) :
    Sound { store with slots } where
  size_eq := size.trans sound.size_eq
  count_pos := sound.count_pos
  ascending := sound.ascending
  removed_bounds := sound.removed_bounds

/-- A free record that is found lies behind the world. -/
theorem Sound.firstFree_bounds (sound : store.Sound) {number : Nat}
    (found : store.firstFree? = some number) : 0 < number ∧ number < store.count :=
  sound.removed_bounds number (List.mem_of_find?_eq_some found)

/-- The world is not among the records that were removed. -/
theorem Sound.world_live (sound : store.Sound) : 0 < store.count ∧ 0 ∉ store.removed :=
  ⟨sound.count_pos, fun member => Nat.lt_irrefl 0 (sound.removed_bounds 0 member).1⟩

theorem Sound.spawn (sound : store.Sound) {entity : Int}
    (done : store.spawn = .ok (entity, after)) : after.Sound := by
  unfold EntityStore.spawn at done
  split at done
  · next number found =>
    cases done
    obtain ⟨positive, present⟩ := sound.firstFree_bounds found
    exact (sound.clearRecord number).mark positive present false
  · dsimp only at done
    split at done
    · cases done
    · cases done
      exact sound.growTo _

theorem checkEntity_eq_ok_iff {entity : Int} {number : Nat} :
    store.checkEntity entity = .ok number ↔ entity = number ∧ number < store.count := by
  unfold checkEntity
  split
  · next present =>
    rw [Except.ok.injEq]
    omega
  · next absent =>
    refine iff_of_false nofun fun ⟨same, present⟩ => absent ?_
    omega

theorem Sound.remove (sound : store.Sound) {entity : Int}
    (done : store.remove entity = .ok after) : after.Sound := by
  unfold EntityStore.remove at done
  obtain ⟨number, checked, done⟩ := Except.bind_eq_ok_iff.mp done
  obtain ⟨-, present⟩ := checkEntity_eq_ok_iff.mp checked
  by_cases world : number = 0
  · rw [if_pos world] at done
    cases done
  · rw [if_neg world] at done
    cases done
    exact (sound.clearRecord number).mark (Nat.pos_of_ne_zero world) present true

/-- A sound store has a free record only behind the world, so none is left when it is cleared. -/
theorem Sound.filter_removed_eq_nil (sound : store.Sound) :
    store.removed.filter (· < 1) = [] := by
  refine List.filter_eq_nil_iff.mpr fun number member below => ?_
  have positive := (sound.removed_bounds number member).1
  exact Nat.not_lt.mpr positive (of_decide_eq_true below)

/-- The world keeps its record when a store is cleared. -/
theorem Sound.clear (sound : store.Sound) : store.clear.Sound where
  size_eq := by
    have whole : store.stride ≤ store.slots.size := by
      rw [sound.size_eq]
      exact Nat.le_mul_of_pos_left _ sound.count_pos
    simp only [EntityStore.clear, Array.size_replicate, Nat.min_eq_left whole,
      Nat.min_eq_right sound.count_pos, Nat.one_mul]
  count_pos := Nat.lt_min.mpr ⟨sound.count_pos, Nat.one_pos⟩
  ascending := sound.ascending.filter _
  removed_bounds number member := by
    rw [EntityStore.clear, sound.filter_removed_eq_nil] at member
    exact absurd member List.not_mem_nil

/-- Only a number that is not negative passes as a pointer, and the check gives it back. -/
theorem eq_toNat_of_checkPointer {pointer : Int} {width start : Nat}
    (checked : store.checkPointer pointer width = .ok start) :
    start = pointer.toNat ∧ 0 ≤ pointer := by
  unfold checkPointer at checked
  grind

/-- A write changes nothing but slots, and keeps their number. -/
theorem write_eq_ok {pointer : Int} {values : List Slot}
    (done : store.write pointer values = .ok after) :
    store.checkPointer pointer values.length = .ok pointer.toNat ∧
      after = { store with slots := store.slots.put pointer.toNat values } := by
  unfold EntityStore.write at done
  obtain ⟨start, checked, done⟩ := Except.bind_eq_ok_iff.mp done
  cases done
  obtain ⟨rfl, -⟩ := eq_toNat_of_checkPointer checked
  exact ⟨checked, rfl⟩

/-- A change of one field changes the slot that its address leads to. -/
theorem set_eq_ok {entity field : Int} {value : Slot}
    (done : store.set entity field value = .ok after) :
    ∃ pointer place, store.address entity field 1 = .ok pointer ∧
      store.place pointer = .ok place ∧
      after = { store with slots := store.slots.setIfInBounds place value } := by
  unfold EntityStore.set at done
  obtain ⟨pointer, found, done⟩ := Except.bind_eq_ok_iff.mp done
  obtain ⟨place, led, done⟩ := Except.bind_eq_ok_iff.mp done
  cases done
  exact ⟨pointer, place, found, led, rfl⟩

/-! ### Addresses and pointers -/

/-- A pointer that passes its check begins a run that lies inside the slots, and inside the record
that it points into. -/
theorem checkPointer_eq_ok {pointer : Int} {width start : Nat} (small : pointer < 0x80000000)
    (narrow : width ≤ 0x80000000) (checked : store.checkPointer pointer width = .ok start) :
    start = pointer.toNat ∧ start + width ≤ store.slots.size ∧
      (0 < store.stride → start % store.stride + width ≤ store.stride) := by
  unfold checkPointer at checked
  split at checked
  · cases checked
  next inside =>
  dsimp only at checked
  split at checked
  · cases checked
  next together =>
  cases checked
  have offset : pointer.toNat % store.stride ≤ pointer.toNat := Nat.mod_le _ _
  rw [wordSum, Nat.mod_eq_of_lt (by omega)] at inside together
  omega

/-- The check of a pointer only asks how many slots there are and how long a record is. -/
theorem checkPointer_of_size {slots : Cells} (size : slots.size = store.slots.size) (pointer : Int)
    (width : Nat) :
    { store with slots }.checkPointer pointer width = store.checkPointer pointer width := by
  simp only [checkPointer, size]

/-- A run that lies inside a record lies inside the slots. -/
theorem Sound.field_le (sound : store.Sound) {number offset width : Nat}
    (present : number < store.count) (room : offset + width ≤ store.stride) :
    number * store.stride + offset + width ≤ store.slots.size := by
  have whole : (number + 1) * store.stride ≤ store.count * store.stride :=
    Nat.mul_le_mul_right _ present
  rw [Nat.succ_mul] at whole
  rw [sound.size_eq]
  omega

/-- A run that passes the check of pointers lies inside one record. -/
theorem Sound.record_of_run (sound : store.Sound) {start width : Nat} (positive : 0 < width)
    (bound : start + width ≤ store.slots.size)
    (together : 0 < store.stride → start % store.stride + width ≤ store.stride) :
    ∃ number < store.count, number * store.stride ≤ start ∧
      start + width ≤ (number + 1) * store.stride := by
  have size := sound.size_eq
  have stride : 0 < store.stride := by
    rcases Nat.eq_zero_or_pos store.stride with none | some
    · rw [none, Nat.mul_zero] at size
      omega
    · exact some
  have parts := Nat.div_add_mod' start store.stride
  refine ⟨start / store.stride, ?_, by omega, ?_⟩
  · rw [Nat.div_lt_iff_lt_mul stride]
    omega
  · rw [Nat.succ_mul]
    have := together stride
    omega

/-- While all slots have addresses that a slot can hold, the address of a field is its place. -/
theorem Sound.address_eq_ok (sound : store.Sound) (addressable : store.slots.size ≤ 0x80000000)
    {entity field pointer : Int} {width : Nat} (small : field < 0x80000000) (positive : 0 < width)
    (narrow : width ≤ 0x80000000) (found : store.address entity field width = .ok pointer) :
    entity.toNat < store.count ∧ field.toNat + width ≤ store.stride ∧
      pointer = (entity.toNat * store.stride + field.toNat : Nat) := by
  unfold address at found
  obtain ⟨number, entityFound, found⟩ := Except.bind_eq_ok_iff.mp found
  obtain ⟨offset, fieldFound, found⟩ := Except.bind_eq_ok_iff.mp found
  cases found
  unfold checkEntity at entityFound
  split at entityFound
  · next present =>
    cases entityFound
    unfold checkField at fieldFound
    split at fieldFound
    · next room =>
      cases fieldFound
      rw [wordSum, Nat.mod_eq_of_lt (by omega)] at room
      have inside := sound.field_le present.2 room.2
      refine ⟨present.2, room.2, Slot.signed_ofSigned (by omega) (by omega)⟩
    · cases fieldFound
  · cases entityFound

/-- While all slots have addresses that a slot can hold, every run of a record has an address. -/
theorem Sound.address_run (sound : store.Sound) (addressable : store.slots.size ≤ 0x80000000)
    {number offset width : Nat} (present : number < store.count) (positive : 0 < width)
    (room : offset + width ≤ store.stride) :
    store.address number offset width = .ok (number * store.stride + offset : Nat) := by
  have inside := sound.field_le present room
  have entity : store.checkEntity number = .ok number := if_pos ⟨Int.natCast_nonneg _, present⟩
  have field : store.checkField offset width = .ok offset := by
    refine if_pos ⟨Int.natCast_nonneg _, ?_⟩
    rw [Int.toNat_natCast, wordSum, Nat.mod_eq_of_lt (by omega)]
    exact room
  rw [address, entity]
  show (do let offset ← store.checkField offset width; pure _) = _
  rw [field]
  exact congrArg Except.ok (Slot.signed_ofSigned (by omega) (by omega))

/-- The address of a run of a record passes the check of pointers. -/
theorem Sound.checkPointer_run (sound : store.Sound) (addressable : store.slots.size ≤ 0x80000000)
    {number offset width : Nat} (present : number < store.count) (positive : 0 < width)
    (room : offset + width ≤ store.stride) :
    store.checkPointer (number * store.stride + offset : Nat) width =
      .ok (number * store.stride + offset) := by
  have inside := sound.field_le present room
  have within : (number * store.stride + offset) % store.stride = offset :=
    Nat.mul_add_mod_of_lt (by omega)
  simp only [checkPointer, Int.toNat_natCast, within, wordSum]
  rw [if_neg (by omega), if_neg (by omega)]

/-- The address of a field passes the check of pointers. -/
theorem Sound.checkPointer_field (sound : store.Sound)
    (addressable : store.slots.size ≤ 0x80000000) {number offset : Nat}
    (present : number < store.count) (room : offset + 1 ≤ store.stride) :
    store.checkPointer (number * store.stride + offset : Nat) 1 =
      .ok (number * store.stride + offset) :=
  sound.checkPointer_run addressable present Nat.one_pos room

/-! ### Everything that is built is sound -/

theorem Built.sound {stride limit reserved : Nat} (built : Built stride limit reserved store) :
    store.Sound := by
  induction built with
  | created => exact sound_create _ _ _
  | spawned _ done sound => exact sound.spawn done
  | removed _ done sound => exact sound.remove done
  | cleared _ sound => exact sound.clear
  | written _ done sound =>
    obtain ⟨-, rfl⟩ := write_eq_ok done
    exact sound.of_size (Cells.size_put _ _ _)
  | assigned _ done sound =>
    obtain ⟨pointer, place, -, -, rfl⟩ := set_eq_ok done
    exact sound.of_size Array.size_setIfInBounds

end Gamecode.EntityStore
