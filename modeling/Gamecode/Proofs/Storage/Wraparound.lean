/-
This file says how far the arithmetic of addresses can be trusted. The checks of fields and pointers
add an offset and a width as 64-bit words, so they also accept a run that is too long by about `2 ^
64` slots. An address is cut down to what a slot holds, so it names its place only below `2 ^ 31`.
Up to there, every access by entity and field reaches the record that it names.
-/

import Gamecode.Proofs.Storage.Footprint
import Gamecode.Proofs.Storage.Pointers

namespace Gamecode.EntityStore

/-! ### Sums of words -/

/-- What a bounds test lets through that adds words: the runs that keep to the limit, and those that
are too long by so much that their sum starts again at zero. -/
def Passes (offset width limit : Nat) : Prop :=
  offset + width ≤ limit ∨
    0x10000000000000000 ≤ offset + width ∧ offset + width ≤ 0x10000000000000000 + limit

theorem wordSum_le_iff {offset width limit : Nat} (offsetWord : offset < 0x10000000000000000)
    (widthWord : width < 0x10000000000000000) :
    wordSum offset width ≤ limit ↔ Passes offset width limit := by
  unfold wordSum Passes
  rcases Nat.lt_or_ge (offset + width) 0x10000000000000000 with fits | wraps
  · rw [Nat.mod_eq_of_lt fits]
    omega
  · rw [Nat.mod_eq_sub_mod wraps, Nat.mod_eq_of_lt (by omega)]
    omega

/-! ### Checks -/

variable {store : EntityStore} {pointer entity field : Int} {width number offset : Nat}
  {slot : Slot} {after : EntityStore}

theorem checkField_eq_ok_iff_passes (small : field < 0x80000000)
    (word : width < 0x10000000000000000) :
    store.checkField field width = .ok field.toNat ↔
      0 ≤ field ∧ Passes field.toNat width store.stride := by
  rw [← wordSum_le_iff (by omega) word, checkField]
  split
  · next inside => exact iff_of_true rfl inside
  · next outside => exact iff_of_false nofun outside

theorem checkPointer_eq_ok_iff_passes (small : pointer < 0x80000000)
    (word : width < 0x10000000000000000) :
    store.checkPointer pointer width = .ok pointer.toNat ↔
      0 ≤ pointer ∧ Passes pointer.toNat width store.slots.size ∧
        (0 < store.stride → Passes (pointer.toNat % store.stride) width store.stride) := by
  have remainder : pointer.toNat % store.stride ≤ pointer.toNat := Nat.mod_le _ _
  rw [← wordSum_le_iff (by omega) word, ← wordSum_le_iff (by omega) word, checkPointer]
  dsimp only
  split
  · next outside => exact iff_of_false (fun accepted => by cases accepted) (by omega)
  · next inside =>
    split
    · next apart => exact iff_of_false (fun accepted => by cases accepted) (by omega)
    · next together => exact iff_of_true rfl (by omega)

/-! ### Addresses -/

/-- An address is the place of its field, cut down to what a slot holds. -/
theorem address_eq_ok_iff :
    store.address entity field width = .ok pointer ↔
      ∃ number offset : Nat, entity = number ∧ field = offset ∧ number < store.count ∧
        wordSum offset width ≤ store.stride ∧
        pointer = Slot.signed (Slot.ofSigned (number * store.stride + offset : Nat)) := by
  constructor
  · intro found
    obtain ⟨number, entityFound, found⟩ := Except.bind_eq_ok_iff.mp found
    obtain ⟨offset, fieldFound, found⟩ := Except.bind_eq_ok_iff.mp found
    cases found
    obtain ⟨same, present⟩ := checkEntity_eq_ok_iff.mp entityFound
    unfold checkField at fieldFound
    split at fieldFound
    · next room =>
      cases fieldFound
      exact ⟨number, field.toNat, same, (Int.toNat_of_nonneg room.1).symm, present, room.2, rfl⟩
    · cases fieldFound
  · rintro ⟨number, offset, rfl, rfl, present, room, rfl⟩
    have field : store.checkField offset width = .ok offset :=
      if_pos ⟨Int.natCast_nonneg _, room⟩
    rw [address, checkEntity_eq_ok_iff.mpr ⟨rfl, present⟩]
    show (do let offset ← store.checkField offset width; pure _) = _
    rw [field]
    rfl

/-- A place is stored exactly if it is below the greatest number of a slot. -/
theorem signed_ofSigned_natCast_iff {place : Nat} :
    Slot.signed (Slot.ofSigned (place : Int)) = place ↔ place < 0x80000000 := by
  constructor
  · intro same
    have bound := Slot.signed_lt (Slot.ofSigned (place : Int))
    omega
  · intro small
    exact Slot.signed_ofSigned (by omega) (by omega)

/-- An address that was not cut down leads to its field. -/
theorem exists_pointsInto_of_address (fits : field.toNat + width < 0x10000000000000000)
    (exact : entity.toNat * store.stride + field.toNat < 0x80000000)
    (found : store.address entity field width = .ok pointer) :
    ∃ number offset : Nat, entity = number ∧ field = offset ∧
      store.PointsInto pointer width number offset := by
  obtain ⟨number, offset, rfl, rfl, present, room, rfl⟩ := address_eq_ok_iff.mp found
  rw [Int.toNat_natCast] at fits
  rw [wordSum, Nat.mod_eq_of_lt fits] at room
  exact ⟨number, offset, rfl, rfl, present, room, signed_ofSigned_natCast_iff.mpr exact⟩

/-! ### Accesses by entity and field -/

/-- A pointer that a slot holds and that is not negative leads to the slot that it numbers. -/
theorem eq_of_place {start place : Nat} (small : start < 0x80000000)
    (led : store.place start = .ok place) : place = start := by
  unfold EntityStore.place at led
  dsimp only at led
  split at led
  · cases led
    omega
  · cases led

theorem Sound.record_of_get (sound : store.Sound) (small : field < 0x80000000)
    (exact : entity.toNat * store.stride + field.toNat < 0x80000000)
    (done : store.get entity field = .ok slot) :
    ∃ record, store.record entity = .ok record ∧ record[field.toNat]? = some slot := by
  obtain ⟨pointer, found, done⟩ := Except.bind_eq_ok_iff.mp done
  obtain ⟨place, led, done⟩ := Except.bind_eq_ok_iff.mp done
  cases done
  obtain ⟨number, offset, rfl, rfl, leads⟩ :=
    exists_pointsInto_of_address (by omega) exact found
  refine ⟨_, record_natCast leads.present, ?_⟩
  have bound := sound.field_le leads.present leads.room
  have room := leads.room
  rw [leads.pointer_eq] at led
  rw [Int.toNat_natCast] at exact
  rw [eq_of_place exact led, Int.toNat_natCast, Cells.getElem?_window _ _ _ _ (by omega),
    Array.getD_eq_getD_getElem?, Array.getElem?_eq_getElem (by omega), Option.getD_some]

theorem Sound.overwrites_of_set (sound : store.Sound) (small : field < 0x80000000)
    (exact : entity.toNat * store.stride + field.toNat < 0x80000000)
    (done : store.set entity field slot = .ok after) :
    Overwrites entity.toNat field.toNat [slot] store after := by
  obtain ⟨pointer, place, found, led, rfl⟩ := set_eq_ok done
  obtain ⟨number, offset, rfl, rfl, leads⟩ :=
    exists_pointsInto_of_address (by omega) exact found
  have single : store.PointsInto pointer [slot].length number offset := leads
  have place_eq : place = pointer.toNat := by
    rw [leads.pointer_eq] at led ⊢
    exact eq_of_place exact led
  rw [place_eq]
  exact single.overwrites sound

/-- What a program loads from a field whose address was not cut down is the field. -/
theorem record_of_loaded {machine : Machine} {a b width : Nat} {values : List Slot}
    (narrow : width ≤ 3) (done : machine.loaded a b width = .ok values) :
    ∃ entity field, machine.reference a = .ok entity ∧ machine.reference b = .ok field ∧
      (entity.toNat * machine.entities.stride + field.toNat < 0x80000000 →
        ∃ record, machine.entities.record entity = .ok record ∧
          values = (record.drop field.toNat).take width) := by
  obtain ⟨entity, entityRead, done⟩ := Except.bind_eq_ok_iff.mp done
  obtain ⟨field, fieldRead, done⟩ := Except.bind_eq_ok_iff.mp done
  obtain ⟨pointer, found, fetched⟩ := Except.bind_eq_ok_iff.mp done
  refine ⟨entity, field, entityRead, fieldRead, fun exact => ?_⟩
  have small := Machine.lt_of_reference fieldRead
  obtain ⟨number, offset, rfl, rfl, leads⟩ :=
    exists_pointsInto_of_address (by omega) exact found
  obtain ⟨start, checked, -⟩ := Except.bind_eq_ok_iff.mp fetched
  obtain ⟨rfl, -⟩ := eq_toNat_of_checkPointer checked
  obtain ⟨record, recorded, read⟩ := leads.read checked
  exact ⟨record, recorded, Except.ok.inj (fetched.symm.trans read)⟩

/-- The pointer that a program takes to a field is the place of the field exactly if it was not cut
down. -/
theorem place_of_fieldAddress {protectWorld : Bool} {machine : Machine} {a b : Nat}
    {values : List Slot} (done : machine.fieldAddress protectWorld a b = .ok values) :
    ∃ entity field value, machine.reference a = .ok entity ∧ machine.reference b = .ok field ∧
      values = [value] ∧ (Slot.signed value =
          (entity.toNat * machine.entities.stride + field.toNat : Nat) ↔
        entity.toNat * machine.entities.stride + field.toNat < 0x80000000) := by
  obtain ⟨entity, entityRead, done⟩ := Except.bind_eq_ok_iff.mp done
  split at done
  · cases done
  · obtain ⟨field, fieldRead, done⟩ := Except.bind_eq_ok_iff.mp done
    obtain ⟨pointer, found, done⟩ := Except.bind_eq_ok_iff.mp done
    cases done
    refine ⟨entity, field, _, entityRead, fieldRead, rfl, ?_⟩
    obtain ⟨number, offset, rfl, rfl, -, -, rfl⟩ := address_eq_ok_iff.mp found
    rw [Slot.ofSigned_signed]
    exact signed_ofSigned_natCast_iff

/-! ### How far addresses are exact -/

/-- What the checks and addresses of a store come to. A check is exact unless its sum is too large
for a word, an address is exact unless it is too large for a slot, and what goes by an exact address
reaches the record that it names. -/
structure ExactUntilWrapped (store : EntityStore) : Prop where
  field : ∀ field width, field < 0x80000000 → width < 0x10000000000000000 →
    (store.checkField field width = .ok field.toNat ↔
      0 ≤ field ∧ Passes field.toNat width store.stride)
  pointer : ∀ pointer width, pointer < 0x80000000 → width < 0x10000000000000000 →
    (store.checkPointer pointer width = .ok pointer.toNat ↔
      0 ≤ pointer ∧ Passes pointer.toNat width store.slots.size ∧
        (0 < store.stride → Passes (pointer.toNat % store.stride) width store.stride))
  address : ∀ entity field width pointer, store.address entity field width = .ok pointer →
    ∃ number offset : Nat, entity = number ∧ field = offset ∧ number < store.count ∧
      (pointer = (number * store.stride + offset : Nat) ↔
        number * store.stride + offset < 0x80000000)
  get : ∀ entity field slot, field < 0x80000000 →
    entity.toNat * store.stride + field.toNat < 0x80000000 →
    store.get entity field = .ok slot →
      ∃ record, store.record entity = .ok record ∧ record[field.toNat]? = some slot
  set : ∀ entity field slot after, field < 0x80000000 →
    entity.toNat * store.stride + field.toNat < 0x80000000 →
    store.set entity field slot = .ok after →
      Overwrites entity.toNat field.toNat [slot] store after
  load : ∀ (machine : Machine) (a b : Nat) (kind : Storable) (values : List Slot),
    machine.entities = store → machine.loaded a b kind.width = .ok values →
      ∃ entity field, machine.reference a = .ok entity ∧ machine.reference b = .ok field ∧
        (entity.toNat * store.stride + field.toNat < 0x80000000 →
          ∃ record, store.record entity = .ok record ∧
            values = (record.drop field.toNat).take kind.width)
  fieldAddress : ∀ (machine : Machine) (protectWorld : Bool) (a b : Nat) (values : List Slot),
    machine.entities = store → machine.fieldAddress protectWorld a b = .ok values →
      ∃ entity field value, machine.reference a = .ok entity ∧ machine.reference b = .ok field ∧
        values = [value] ∧
        (Slot.signed value = (entity.toNat * store.stride + field.toNat : Nat) ↔
          entity.toNat * store.stride + field.toNat < 0x80000000)

/-- Whatever was done to a store, its addresses are exact until they wrap. -/
theorem addresses_exact_until_wrapped {stride limit reserved : Nat}
    (built : Built stride limit reserved store) : ExactUntilWrapped store where
  field field width small word := checkField_eq_ok_iff_passes small word
  pointer pointer width small word := checkPointer_eq_ok_iff_passes small word
  address entity field width pointer found := by
    obtain ⟨number, offset, entity_eq, field_eq, present, -, rfl⟩ := address_eq_ok_iff.mp found
    exact ⟨number, offset, entity_eq, field_eq, present, signed_ofSigned_natCast_iff⟩
  get entity field slot small exact done := built.sound.record_of_get small exact done
  set entity field slot after small exact done := built.sound.overwrites_of_set small exact done
  load machine a b kind values same done := by
    subst same
    exact record_of_loaded (by cases kind <;> decide) done
  fieldAddress machine protectWorld a b values same done := by
    subst same
    exact place_of_fieldAddress done

/-- Two entities besides the world, of four slots each. -/
theorem addresses_exact_until_wrapped_of_four :
    ExactUntilWrapped ((create 4 8 1).run [.spawn, .spawn]) :=
  addresses_exact_until_wrapped (Built.created.run _)

/-- A run of almost `2 ^ 64` slots passes as part of a record of four, and the third of the records
of `2 ^ 30` slots has a negative address. -/
theorem sums_and_addresses_wrap :
    (create 4 8 1).checkField 1 0xffffffffffffffff = .ok 1 ∧
      ((create 0x40000000 8 1).run [.spawn, .spawn]).address 2 0 1 = .ok (-0x80000000) :=
  ⟨rfl, rfl⟩

end Gamecode.EntityStore
