/-
This file is about pointers, whoever made them. While every slot has an address that a slot can
hold, a pointer and a width single out at most one run of slots in one record. An access through a
pointer that was made from an entity and a field reaches this field of this entity. An access
through any other number either reaches a run of one record or is refused, and what is refused
changes nothing.
-/

import Gamecode.Proofs.Storage.Lifecycle

namespace Gamecode

/-! ### Runs of a record -/

namespace Cells

variable {cells : Cells} {start stride offset : Nat}

/-- A window inside a window is what is left of it after dropping what lies before and behind. -/
theorem window_window {width : Nat} (room : offset + width ≤ stride) :
    ((cells.window start stride).drop offset).take width = cells.window (start + offset) width := by
  refine List.ext_getElem? fun index => ?_
  by_cases inside : index < width
  · rw [List.getElem?_take_of_lt inside, List.getElem?_drop,
      getElem?_window _ _ _ _ (by omega), getElem?_window _ _ _ _ inside, Nat.add_assoc]
  · rw [List.getElem?_eq_none (by rw [List.length_take]; omega),
      List.getElem?_eq_none (by rw [length_window]; omega)]

/-- A window around a written run holds what was written between what it held before. -/
theorem window_put_inside {values : List Slot} (room : offset + values.length ≤ stride)
    (bound : start + stride ≤ cells.size) :
    (cells.put (start + offset) values).window start stride =
      (cells.window start stride).take offset ++ values ++
        (cells.window start stride).drop (offset + values.length) := by
  have length : (cells.window start stride).length = stride := by
    rw [length_window, Nat.min_eq_left bound, Nat.add_sub_cancel_left]
  have front : ((cells.window start stride).take offset).length = offset := by
    rw [List.length_take, length]
    omega
  refine List.ext_getElem? fun index => ?_
  by_cases inside : index < stride
  · rw [getElem?_window _ _ _ _ inside, List.append_assoc]
    by_cases before : index < offset
    · rw [getElem?_put_other _ _ _ _ (by omega), List.getElem?_append_left (by omega),
        List.getElem?_take_of_lt before, getElem?_window _ _ _ _ inside]
    rw [List.getElem?_append_right (by omega), front]
    by_cases within : index < offset + values.length
    · have place : start + index = start + offset + (index - offset) := by omega
      rw [place, getElem?_put_self _ _ _ _ (by omega) (by omega),
        List.getElem?_append_left (by omega)]
    · rw [getElem?_put_other _ _ _ _ (by omega), List.getElem?_append_right (by omega),
        List.getElem?_drop, getElem?_window _ _ _ _ (by omega)]
      congr 1
      omega
  · rw [List.getElem?_eq_none (by rw [length_window]; omega), List.getElem?_eq_none]
    rw [List.length_append, List.length_append, front, List.length_drop, length]
    omega

end Cells

namespace EntityStore

/-! ### Where a pointer leads -/

/-- A pointer leads to a run of slots in the record of an entity. -/
structure PointsInto (store : EntityStore) (pointer : Int) (width number offset : Nat) : Prop where
  present : number < store.count
  room : offset + width ≤ store.stride
  pointer_eq : pointer = (number * store.stride + offset : Nat)

/-- One run of one record has new values, and everything else is as it was. -/
structure Overwrites (number offset : Nat) (values : List Slot) (before after : EntityStore) :
    Prop where
  eq_except_slots : after = { before with slots := after.slots }
  record : ∃ old, before.record number = .ok old ∧
    after.record number = .ok (old.take offset ++ values ++ old.drop (offset + values.length))
  others : AgreesExcept number before after

variable {store : EntityStore} {pointer entity field : Int} {width number offset : Nat}
  {values : List Slot}

/-- A pointer leads to no more than one run: the record comes out by division, and the place in it
is the remainder. -/
theorem PointsInto.unique {otherWidth otherNumber otherOffset : Nat} (positive : 0 < width)
    (otherPositive : 0 < otherWidth) (leads : store.PointsInto pointer width number offset)
    (otherLeads : store.PointsInto pointer otherWidth otherNumber otherOffset) :
    number = otherNumber ∧ offset = otherOffset := by
  have room := leads.room
  have otherRoom := otherLeads.room
  have same : store.stride * number + offset = store.stride * otherNumber + otherOffset := by
    have equal := leads.pointer_eq.symm.trans otherLeads.pointer_eq
    rw [Nat.mul_comm store.stride, Nat.mul_comm store.stride]
    exact Int.ofNat_inj.mp equal
  constructor
  · have quotients := congrArg (· / store.stride) same
    simpa only [Nat.mul_add_div (by omega : 0 < store.stride),
      Nat.div_eq_of_lt (by omega : offset < store.stride),
      Nat.div_eq_of_lt (by omega : otherOffset < store.stride), Nat.add_zero] using quotients
  · have remainders := congrArg (· % store.stride) same
    simpa only [Nat.mul_add_mod, Nat.mod_eq_of_lt (by omega : offset < store.stride),
      Nat.mod_eq_of_lt (by omega : otherOffset < store.stride)] using remainders

/-- Only an entity and a field that are no negative numbers have an address. -/
theorem nonneg_of_address (found : store.address entity field width = .ok pointer) :
    0 ≤ entity ∧ 0 ≤ field := by
  obtain ⟨number, entityFound, found⟩ := Except.bind_eq_ok_iff.mp found
  obtain ⟨offset, fieldFound, -⟩ := Except.bind_eq_ok_iff.mp found
  have present := (checkEntity_eq_ok_iff.mp entityFound).1
  unfold checkField at fieldFound
  split at fieldFound
  · next room => exact ⟨present ▸ Int.natCast_nonneg number, room.1⟩
  · cases fieldFound

/-- The address of a field leads to the field, and every field has one. -/
theorem Sound.address_eq_ok_iff (sound : store.Sound) (addressable : store.slots.size ≤ 0x80000000)
    (small : field < 0x80000000) (positive : 0 < width) (narrow : width ≤ 0x80000000) :
    store.address entity field width = .ok pointer ↔
      ∃ number offset : Nat, entity = number ∧ field = offset ∧
        store.PointsInto pointer width number offset := by
  constructor
  · intro found
    obtain ⟨present, room, place⟩ := sound.address_eq_ok addressable small positive narrow found
    obtain ⟨natural, inner⟩ := nonneg_of_address found
    exact ⟨entity.toNat, field.toNat, (Int.toNat_of_nonneg natural).symm,
      (Int.toNat_of_nonneg inner).symm, present, room, place⟩
  · rintro ⟨number, offset, rfl, rfl, leads⟩
    rw [leads.pointer_eq]
    exact sound.address_run addressable leads.present positive leads.room

/-- A pointer that leads to a run passes the check of pointers. -/
theorem PointsInto.checkPointer (leads : store.PointsInto pointer width number offset)
    (sound : store.Sound) (addressable : store.slots.size ≤ 0x80000000) (positive : 0 < width) :
    store.checkPointer pointer width = .ok pointer.toNat := by
  rw [leads.pointer_eq, Int.toNat_natCast]
  exact sound.checkPointer_run addressable leads.present positive leads.room

/-- No other pointer passes. -/
theorem Sound.exists_pointsInto (sound : store.Sound) (small : pointer < 0x80000000)
    (positive : 0 < width) (narrow : width ≤ 0x80000000) {start : Nat}
    (checked : store.checkPointer pointer width = .ok start) :
    ∃ number offset, store.PointsInto pointer width number offset := by
  have natural := (eq_toNat_of_checkPointer checked).2
  obtain ⟨rfl, bound, together⟩ := checkPointer_eq_ok small narrow checked
  obtain ⟨number, present, lower, upper⟩ := sound.record_of_run positive bound together
  rw [Nat.succ_mul] at upper
  exact ⟨number, pointer.toNat - number * store.stride, present, by omega, by omega⟩

/-! ### Accesses -/

/-- The record of an entity in a store whose slots were exchanged. -/
theorem record_of_slots (present : number < store.count) (slots : Cells) :
    record { store with slots } number =
      .ok (slots.window (number * store.stride) store.stride) :=
  record_natCast present

/-- Reading through a pointer gives the run that the pointer leads to. -/
theorem PointsInto.read (leads : store.PointsInto pointer width number offset)
    (checked : store.checkPointer pointer width = .ok pointer.toNat) :
    ∃ record, store.record number = .ok record ∧
      store.read pointer width = .ok ((record.drop offset).take width) := by
  refine ⟨_, record_natCast leads.present, ?_⟩
  rw [EntityStore.read, checked, Cells.window_window leads.room, leads.pointer_eq,
    Int.toNat_natCast]
  rfl

/-- New values at the place of a pointer change the run that the pointer leads to, and nothing else.
-/
theorem PointsInto.overwrites (leads : store.PointsInto pointer values.length number offset)
    (sound : store.Sound) :
    Overwrites number offset values store
      { store with slots := store.slots.put pointer.toNat values } := by
  have whole := sound.field_le leads.present (Nat.le_of_eq (Nat.zero_add store.stride))
  rw [leads.pointer_eq, Int.toNat_natCast]
  refine ⟨rfl, ⟨_, record_natCast leads.present, ?_⟩, fun other different present => ⟨?_, rfl⟩⟩
  · rw [record_of_slots leads.present, Cells.window_put_inside leads.room (by omega)]
  · have apart := records_apart different store.stride
    have room := leads.room
    rw [record_natCast present, record_of_slots present, Cells.window_put_other (by omega)]

/-- Writing through a pointer does so. -/
theorem PointsInto.write (leads : store.PointsInto pointer values.length number offset)
    (sound : store.Sound)
    (checked : store.checkPointer pointer values.length = .ok pointer.toNat) :
    ∃ after, store.write pointer values = .ok after ∧
      Overwrites number offset values store after := by
  refine ⟨_, ?_, leads.overwrites sound⟩
  rw [EntityStore.write, checked]
  rfl

/-- Reading through any number gives a run of one record, or fails. -/
theorem Sound.read_cases (sound : store.Sound) (small : pointer < 0x80000000)
    (positive : 0 < width) (narrow : width ≤ 0x80000000) :
    (∃ number offset record, store.PointsInto pointer width number offset ∧
      store.record number = .ok record ∧
      store.read pointer width = .ok ((record.drop offset).take width)) ∨
    ∃ fault, store.read pointer width = .error fault := by
  cases done : store.read pointer width with
  | error fault => exact .inr ⟨fault, rfl⟩
  | ok values =>
    obtain ⟨start, checked, -⟩ := Except.bind_eq_ok_iff.mp done
    obtain ⟨rfl, -⟩ := eq_toNat_of_checkPointer checked
    obtain ⟨number, offset, leads⟩ := sound.exists_pointsInto small positive narrow checked
    obtain ⟨record, recorded, read⟩ := leads.read checked
    exact .inl ⟨number, offset, record, leads, recorded, done ▸ read⟩

/-- Writing through any number changes a run of one record, or fails and changes nothing. -/
theorem Sound.write_cases (sound : store.Sound) (small : pointer < 0x80000000)
    (positive : 0 < values.length) (narrow : values.length ≤ 0x80000000) :
    (∃ number offset after, store.PointsInto pointer values.length number offset ∧
      store.write pointer values = .ok after ∧ Overwrites number offset values store after) ∨
    ((∃ fault, store.write pointer values = .error fault) ∧
      store.perform (.write pointer values) = store) := by
  cases done : store.write pointer values with
  | error fault =>
    refine .inr ⟨⟨fault, rfl⟩, ?_⟩
    rw [perform, attempt, done]
  | ok written =>
    obtain ⟨checked, -⟩ := write_eq_ok done
    obtain ⟨number, offset, leads⟩ := sound.exists_pointsInto small positive narrow checked
    obtain ⟨after, same, overwrites⟩ := leads.write sound checked
    exact .inl ⟨number, offset, after, leads, done ▸ same, overwrites⟩

/-! ### Pointers keep to records -/

/-- How a store treats pointers. The fields of its entities have an address each, no two the same,
and an access through the address of a field reaches the field. Whatever number is taken for a
pointer, an access through it reaches a run of one record or is refused. -/
structure KeepsToRecords (store : EntityStore) : Prop where
  address : ∀ entity field pointer width, field < 0x80000000 → 0 < width → width ≤ store.stride →
    (store.address entity field width = .ok pointer ↔
      ∃ number offset : Nat, entity = number ∧ field = offset ∧
        store.PointsInto pointer width number offset)
  read_address : ∀ entity field pointer width, field < 0x80000000 → 0 < width →
    width ≤ store.stride → store.address entity field width = .ok pointer →
      ∃ record, store.record entity = .ok record ∧
        store.read pointer width = .ok ((record.drop field.toNat).take width)
  write_address : ∀ entity field pointer values, field < 0x80000000 → values ≠ [] →
    values.length ≤ store.stride → store.address entity field values.length = .ok pointer →
      ∃ after, store.write pointer values = .ok after ∧
        Overwrites entity.toNat field.toNat values store after
  distinct : ∀ entity field width otherEntity otherField otherWidth pointer,
    field < 0x80000000 → 0 < width → width ≤ store.stride →
    otherField < 0x80000000 → 0 < otherWidth → otherWidth ≤ store.stride →
    store.address entity field width = .ok pointer →
    store.address otherEntity otherField otherWidth = .ok pointer →
      entity = otherEntity ∧ field = otherField
  read : ∀ pointer width, pointer < 0x80000000 → 0 < width → width ≤ store.stride →
    (∃ number offset record, store.PointsInto pointer width number offset ∧
      store.record number = .ok record ∧
      store.read pointer width = .ok ((record.drop offset).take width)) ∨
    ∃ fault, store.read pointer width = .error fault
  write : ∀ pointer values, pointer < 0x80000000 → values ≠ [] → values.length ≤ store.stride →
    (∃ number offset after, store.PointsInto pointer values.length number offset ∧
      store.write pointer values = .ok after ∧ Overwrites number offset values store after) ∨
    ((∃ fault, store.write pointer values = .error fault) ∧
      store.perform (.write pointer values) = store)

theorem Sound.keepsToRecords (sound : store.Sound) (addressable : store.slots.size ≤ 0x80000000) :
    KeepsToRecords store := by
  -- A record is no longer than all slots together, as there is at least the world.
  have short : store.stride ≤ 0x80000000 := by
    have world := sound.field_le sound.count_pos (Nat.le_of_eq (Nat.zero_add store.stride))
    omega
  have address : ∀ entity field pointer width, field < 0x80000000 → 0 < width →
      width ≤ store.stride → (store.address entity field width = .ok pointer ↔
        ∃ number offset : Nat, entity = number ∧ field = offset ∧
          store.PointsInto pointer width number offset) :=
    fun entity field pointer width small positive narrow =>
      sound.address_eq_ok_iff addressable small positive (by omega)
  refine
    { address
      read_address := fun entity field pointer width small positive narrow found => ?_
      write_address := fun entity field pointer values small some narrow found => ?_
      distinct := ?_
      read := fun pointer width small positive narrow =>
        sound.read_cases small positive (by omega)
      write := fun pointer values small some narrow =>
        sound.write_cases small (List.length_pos_iff.mpr some) (by omega) }
  · obtain ⟨number, offset, rfl, rfl, leads⟩ :=
      (address entity field pointer width small positive narrow).mp found
    exact leads.read (leads.checkPointer sound addressable positive)
  · have positive := List.length_pos_iff.mpr some
    obtain ⟨number, offset, rfl, rfl, leads⟩ :=
      (address entity field pointer values.length small positive narrow).mp found
    exact leads.write sound (leads.checkPointer sound addressable positive)
  · intro entity field width otherEntity otherField otherWidth pointer small positive narrow
      otherSmall otherPositive otherNarrow found otherFound
    obtain ⟨number, offset, rfl, rfl, leads⟩ :=
      (address entity field pointer width small positive narrow).mp found
    obtain ⟨otherNumber, otherOffset, rfl, rfl, otherLeads⟩ :=
      (address otherEntity otherField pointer otherWidth otherSmall otherPositive otherNarrow).mp
        otherFound
    obtain ⟨rfl, rfl⟩ := leads.unique positive otherPositive otherLeads
    exact ⟨rfl, rfl⟩

/-- Whatever was done to a store, pointers keep to records while every slot has an address. -/
theorem pointers_keep_to_records {stride limit reserved : Nat}
    (built : Built stride limit reserved store)
    (addressable : store.count * store.stride ≤ 0x80000000) : KeepsToRecords store :=
  built.sound.keepsToRecords (built.sound.size_eq ▸ addressable)

/-- Three entities of four slots each, of which the second was removed. -/
theorem pointers_keep_to_records_of_four :
    KeepsToRecords ((create 4 8 1).run [.spawn, .spawn, .remove 1]) :=
  pointers_keep_to_records (Built.created.run _) (by decide)

end EntityStore

end Gamecode
