/-
This file is about the lives of entities, whatever a host does to their store. A record that is
handed out was not in use, holds nothing, and stays in use until it is removed or the store is
cleared. No other record is disturbed by that, nor by the removal of an entity. A store refuses to
hand out a record only when all records that it may hand out are in use.
-/

import Gamecode.Proofs.Storage.Entities

namespace Gamecode.EntityStore

/-! ### Histories -/

/-- What a host does to a store. -/
inductive Operation
  | spawn
  | remove (entity : Int)
  | clear
  | write (pointer : Int) (values : List Slot)
  | set (entity field : Int) (value : Slot)
  | setVector (entity field : Int) (vector : Vector3)
deriving Repr, DecidableEq

/-- The store that an operation leads to. -/
def attempt (store : EntityStore) : Operation → Except Fault EntityStore
  | .spawn => store.spawn.map Prod.snd
  | .remove entity => store.remove entity
  | .clear => .ok store.clear
  | .write pointer values => store.write pointer values
  | .set entity field value => store.set entity field value
  | .setVector entity field vector => store.setVector entity field vector

/-- The store after an operation; one that fails leaves the store as it was. -/
def perform (store : EntityStore) (operation : Operation) : EntityStore :=
  match store.attempt operation with
  | .ok after => after
  | .error _ => store

/-- The store after operations in a row. -/
def run (store : EntityStore) (history : List Operation) : EntityStore :=
  history.foldl perform store

variable {stride limit reserved number other : Nat} {store after : EntityStore} {entity : Int}

theorem attempt_spawn_eq_ok_iff :
    store.attempt .spawn = .ok after ↔ ∃ entity, store.spawn = .ok (entity, after) := by
  unfold attempt
  cases store.spawn with
  | ok result =>
    obtain ⟨entity, spawned⟩ := result
    simp [Except.map]
  | error fault => simp [Except.map]

theorem Built.attempt (built : Built stride limit reserved store) {operation : Operation}
    (done : store.attempt operation = .ok after) : Built stride limit reserved after := by
  cases operation with
  | spawn =>
    obtain ⟨entity, spawned⟩ := attempt_spawn_eq_ok_iff.mp done
    exact built.spawned spawned
  | remove entity => exact built.removed done
  | clear =>
    cases done
    exact built.cleared
  | write pointer values => exact built.written done
  | set entity field value => exact built.assigned done
  | setVector entity field vector =>
    obtain ⟨pointer, -, written⟩ := Except.bind_eq_ok_iff.mp done
    exact built.written written

theorem Built.run (built : Built stride limit reserved store) (history : List Operation) :
    Built stride limit reserved (store.run history) := by
  induction history generalizing store with
  | nil => exact built
  | cons operation rest inductionHypothesis =>
    refine inductionHypothesis ?_
    unfold perform
    split
    · next done => exact built.attempt done
    · exact built

/-! ### Records -/

theorem isFree_natCast (store : EntityStore) (number : Nat) :
    store.isFree number = (store.count ≤ number || store.removed.contains number) := by
  rw [isFree, decide_eq_false (Int.not_lt.mpr (Int.natCast_nonneg number)), Bool.false_or,
    Int.toNat_natCast]

/-- An entity is in use exactly if it has a record that is not marked as free. -/
theorem isFree_eq_false_iff :
    store.isFree entity = false ↔
      ∃ number : Nat, entity = number ∧ number < store.count ∧ number ∉ store.removed := by
  constructor
  · intro used
    simp only [isFree, Bool.or_eq_false_iff, decide_eq_false_iff_not, List.contains_eq_mem] at used
    exact ⟨entity.toNat, by omega, by omega, used.2⟩
  · rintro ⟨number, rfl, present, unmarked⟩
    simp [isFree_natCast, Nat.not_le.mpr present, unmarked]

theorem isFree_natCast_eq_false_iff :
    store.isFree number = false ↔ number < store.count ∧ number ∉ store.removed := by
  simp [isFree_natCast]

theorem isFree_of_count_le (absent : store.count ≤ number) : store.isFree number = true := by
  rw [isFree_natCast, decide_eq_true absent, Bool.true_or]

/-- The number of records in use is the number of those that are not free. -/
theorem Sound.liveCount_eq (sound : store.Sound) :
    store.liveCount = (List.range store.count).countP fun number : Nat =>
      ! store.isFree number := by
  have marked :
      ((List.range store.count).filter (store.removed.contains ·)).Perm store.removed := by
    refine (List.perm_ext_iff_of_nodup (List.nodup_range.filter _)
      (sound.ascending.imp Nat.ne_of_lt)).mpr fun number => ?_
    have bounds := sound.removed_bounds number
    simp only [List.mem_filter, List.mem_range, List.contains_iff_mem]
    exact ⟨And.right, fun member => ⟨(bounds member).2, member⟩⟩
  have unmarked : (List.range store.count).countP (fun number : Nat => ! store.isFree number) =
      (List.range store.count).countP fun number => ¬ store.removed.contains number = true := by
    refine List.countP_congr fun number inside => ?_
    simp [isFree_natCast, Nat.not_le.mpr (List.mem_range.mp inside)]
  have total :=
    List.length_eq_countP_add_countP (store.removed.contains ·) (l := List.range store.count)
  rw [List.length_range, List.countP_eq_length_filter, marked.length_eq] at total
  rw [unmarked, liveCount]
  omega

/-- The record of an entity that exists is a window of the slots. -/
theorem record_natCast (present : number < store.count) :
    store.record number = .ok (store.slots.window (number * store.stride) store.stride) := by
  rw [record, checkEntity_eq_ok_iff.mpr ⟨rfl, present⟩]
  rfl

/-- Two records have no slot in common. -/
theorem records_apart (different : other ≠ number) (stride : Nat) :
    other * stride + stride ≤ number * stride ∨ number * stride + stride ≤ other * stride := by
  rcases Nat.lt_or_gt_of_ne different with below | above
  · left
    rw [← Nat.succ_mul]
    exact Nat.mul_le_mul_right stride below
  · right
    rw [← Nat.succ_mul]
    exact Nat.mul_le_mul_right stride above

/-- The records of a store and their marks, but for one record, are those of another store. -/
def AgreesExcept (number : Nat) (before after : EntityStore) : Prop :=
  ∀ other, other ≠ number → other < before.count →
    after.record other = before.record other ∧ after.isFree other = before.isFree other

/-- A record that is cleared and marked. -/
def recycle (store : EntityStore) (number : Nat) (free : Bool) : EntityStore :=
  (store.clearRecord number).mark number free

@[simp] theorem count_recycle (store : EntityStore) (number : Nat) (free : Bool) :
    (store.recycle number free).count = store.count := rfl

theorem Sound.record_recycle (sound : store.Sound) (present : number < store.count) (free : Bool) :
    (store.recycle number free).record number = .ok (List.replicate store.stride 0) := by
  rw [record_natCast (by rwa [count_recycle])]
  exact congrArg Except.ok (Cells.window_put_self List.length_replicate
    (sound.field_le present (Nat.le_of_eq (Nat.zero_add _))))

theorem isFree_recycle (present : number < store.count) (free : Bool) :
    (store.recycle number free).isFree number = free := by
  have marked : number ∈ (store.recycle number free).removed ↔ free = true := by
    simp [recycle, mem_removed_mark]
  cases free <;> simp_all [isFree_natCast, Nat.not_le.mpr present]

theorem agreesExcept_recycle (store : EntityStore) (number : Nat) (free : Bool) :
    AgreesExcept number store (store.recycle number free) := by
  intro other different present
  constructor
  · rw [record_natCast present, record_natCast (by rwa [count_recycle])]
    refine congrArg Except.ok (Cells.window_put_other ?_)
    rw [List.length_replicate]
    exact records_apart different store.stride
  · have marked : other ∈ (store.recycle number free).removed ↔ other ∈ store.removed := by
      simp [recycle, mem_removed_mark, different, clearRecord]
    rw [isFree_natCast, isFree_natCast, count_recycle]
    simp only [List.contains_eq_mem, decide_eq_decide.mpr marked]

/-! ### What operations do to records -/

theorem firstFree?_some (found : store.firstFree? = some number) :
    store.reserved ≤ number ∧ store.isFree number = true := by
  have lower := List.find?_some found
  have member := List.mem_of_find?_eq_some found
  exact ⟨of_decide_eq_true lower, by simp [isFree_natCast, member]⟩

theorem firstFree?_none (none : store.firstFree? = none) (lower : store.reserved ≤ number)
    (present : number < store.count) : store.isFree number = false := by
  refine isFree_natCast_eq_false_iff.mpr ⟨present, fun member => ?_⟩
  exact List.find?_eq_none.mp none number member (decide_eq_true lower)

/-- Spawning recycles the first free record, or adds records up to a new one. -/
theorem spawn_cases (done : store.spawn = .ok (entity, after)) :
    (∃ number, store.firstFree? = some number ∧ entity = Slot.wrap number ∧
      after = store.recycle number false) ∨
    (store.firstFree? = none ∧ max store.count store.reserved < store.limit ∧
      entity = Slot.wrap (max store.count store.reserved : Nat) ∧
      after = store.growTo (max store.count store.reserved)) := by
  unfold spawn at done
  split at done
  · next number found =>
    cases done
    exact .inl ⟨number, found, rfl, rfl⟩
  · next none =>
    dsimp only at done
    split at done
    · cases done
    · next room =>
      cases done
      exact .inr ⟨none, Nat.lt_of_not_le room, rfl, rfl⟩

/-- Spawning fails if there is neither a free record nor room for a new one. -/
theorem spawn_eq_error_iff {fault : Fault} :
    store.spawn = .error fault ↔ fault = .entityLimit store.limit ∧ store.firstFree? = none ∧
      store.limit ≤ max store.count store.reserved := by
  unfold spawn
  split
  · next number found => simp [found]
  · next none =>
    dsimp only
    split
    · next full => simp [none, full, eq_comm]
    · next room => simp [room]

theorem remove_eq_ok_iff :
    store.remove entity = .ok after ↔ ∃ number : Nat, entity = number ∧ 0 < number ∧
      number < store.count ∧ after = store.recycle number true := by
  unfold remove
  rw [Except.bind_eq_ok_iff]
  constructor
  · rintro ⟨number, checked, done⟩
    obtain ⟨same, present⟩ := checkEntity_eq_ok_iff.mp checked
    by_cases world : number = 0
    · rw [if_pos world] at done
      cases done
    · rw [if_neg world] at done
      cases done
      exact ⟨number, same, Nat.pos_of_ne_zero world, present, rfl⟩
  · rintro ⟨number, same, positive, present, rfl⟩
    refine ⟨number, checkEntity_eq_ok_iff.mpr ⟨same, present⟩, ?_⟩
    rw [if_neg (Nat.ne_of_gt positive)]
    rfl

/-! ### Records that are added -/

theorem count_growTo (above : store.count ≤ number) :
    (store.growTo number).count = number + 1 := by
  show store.count + (number + 1 - store.count) = number + 1
  omega

theorem Sound.isFree_growTo (sound : store.Sound) (above : store.count ≤ number) :
    (store.growTo number).isFree number = false := by
  refine isFree_natCast_eq_false_iff.mpr ⟨?_, fun member => ?_⟩
  · rw [count_growTo above]
    exact Nat.lt_succ_self number
  · exact Nat.not_lt.mpr above (sound.removed_bounds number member).2

theorem Sound.record_growTo (sound : store.Sound) (above : store.count ≤ number) :
    (store.growTo number).record number = .ok (List.replicate store.stride 0) := by
  rw [record_natCast (by rw [count_growTo above]; exact Nat.lt_succ_self number)]
  have below : store.slots.size ≤ number * store.stride := by
    rw [sound.size_eq]
    exact Nat.mul_le_mul_right _ above
  have upper : number * store.stride + store.stride ≤
      store.slots.size + (number + 1 - store.count) * store.stride := by
    rw [sound.size_eq, ← Nat.succ_mul, ← Nat.add_mul]
    exact Nat.mul_le_mul_right _ (by omega)
  exact congrArg Except.ok (Cells.window_append_replicate below upper)

theorem isFree_growTo_other (other : Nat) (present : other < store.count) (number : Nat) :
    (store.growTo number).isFree other = store.isFree other := by
  have longer : other < (store.growTo number).count := Nat.lt_add_right _ present
  rw [isFree_natCast, isFree_natCast, decide_eq_false (Nat.not_le.mpr longer),
    decide_eq_false (Nat.not_le.mpr present)]
  rfl

theorem Sound.agreesExcept_growTo (sound : store.Sound) (above : store.count ≤ number) :
    AgreesExcept number store (store.growTo number) := by
  intro other _ present
  constructor
  · rw [record_natCast present, record_natCast (by rw [count_growTo above]; omega)]
    exact congrArg Except.ok (Cells.window_append
      (sound.field_le present (Nat.le_of_eq (Nat.zero_add _))))
  · exact isFree_growTo_other other present number

/-! ### Limits -/

/-- The limits of a store are those that it was made with, and the number of records keeps to them.
-/
structure Bounded (stride limit reserved : Nat) (store : EntityStore) : Prop where
  stride_eq : store.stride = stride
  limit_eq : store.limit = max limit 1
  reserved_eq : store.reserved = max reserved 1
  count_le : store.count ≤ max limit 1

/-- A change of slots and marks that adds no record is of no account. -/
theorem Bounded.of_count (bounded : Bounded stride limit reserved store) {slots : Cells}
    {count : Nat} {removed : List Nat} (fewer : count ≤ store.count) :
    Bounded stride limit reserved { store with slots, count, removed } :=
  ⟨bounded.stride_eq, bounded.limit_eq, bounded.reserved_eq, Nat.le_trans fewer bounded.count_le⟩

theorem Built.bounded (built : Built stride limit reserved store) :
    Bounded stride limit reserved store := by
  induction built with
  | created => exact ⟨rfl, rfl, rfl, Nat.le_max_right _ _⟩
  | spawned _ done bounded =>
    rcases spawn_cases done with ⟨number, -, -, rfl⟩ | ⟨-, room, -, rfl⟩
    · exact bounded.of_count (Nat.le_refl _)
    · refine ⟨bounded.stride_eq, bounded.limit_eq, bounded.reserved_eq, ?_⟩
      rw [count_growTo (Nat.le_max_left _ _), ← bounded.limit_eq]
      exact room
  | removed _ done bounded =>
    obtain ⟨number, -, -, -, rfl⟩ := remove_eq_ok_iff.mp done
    exact bounded.of_count (Nat.le_refl _)
  | cleared _ bounded => exact bounded.of_count (Nat.min_le_left _ _)
  | written _ done bounded =>
    obtain ⟨-, rfl⟩ := write_eq_ok done
    exact bounded.of_count (Nat.le_refl _)
  | assigned _ done bounded =>
    obtain ⟨pointer, place, -, -, rfl⟩ := set_eq_ok done
    exact bounded.of_count (Nat.le_refl _)

/-! ### Entities that stay in use -/

/-- Only its removal and a cleared store end the life of an entity. -/
theorem isFree_perform (live : store.isFree entity = false) {operation : Operation}
    (kept : operation ≠ .remove entity) (uncleared : operation ≠ .clear) :
    (store.perform operation).isFree entity = false := by
  unfold perform
  split
  · next after done =>
    obtain ⟨number, rfl, present, -⟩ := isFree_eq_false_iff.mp live
    cases operation with
    | spawn =>
      obtain ⟨spawned, done⟩ := attempt_spawn_eq_ok_iff.mp done
      rcases spawn_cases done with ⟨recycled, -, -, rfl⟩ | ⟨-, -, -, rfl⟩
      · by_cases same : number = recycled
        · subst same
          exact isFree_recycle present false
        · exact ((agreesExcept_recycle store recycled false number same present).2).trans live
      · exact (isFree_growTo_other number present _).trans live
    | remove removed =>
      obtain ⟨recycled, rfl, -, -, rfl⟩ := remove_eq_ok_iff.mp done
      have different : number ≠ recycled := fun same => kept (by rw [same])
      exact ((agreesExcept_recycle store recycled true number different present).2).trans live
    | clear => exact absurd rfl uncleared
    | write pointer values =>
      obtain ⟨-, rfl⟩ := write_eq_ok done
      exact live
    | set changed field value =>
      obtain ⟨pointer, place, -, -, rfl⟩ := set_eq_ok done
      exact live
    | setVector changed field vector =>
      obtain ⟨pointer, -, done⟩ := Except.bind_eq_ok_iff.mp done
      obtain ⟨-, rfl⟩ := write_eq_ok done
      exact live
  · exact live

theorem isFree_run (live : store.isFree entity = false) {history : List Operation}
    (kept : .remove entity ∉ history) (uncleared : .clear ∉ history) :
    (store.run history).isFree entity = false := by
  induction history generalizing store with
  | nil => exact live
  | cons operation rest inductionHypothesis =>
    rw [List.mem_cons, not_or] at kept uncleared
    exact inductionHypothesis
      (isFree_perform live (Ne.symm kept.1) (Ne.symm uncleared.1)) kept.2 uncleared.2

/-! ### The life of an entity -/

/-- How a record is handed out: it was not in use and lies between the limits, it holds nothing, the
others are undisturbed, and it stays in use until it is removed or the store is cleared. -/
structure HandsOut (stride limit reserved : Nat) (before : EntityStore) (entity : Int)
    (after : EntityStore) : Prop where
  lower : max reserved 1 ≤ entity
  upper : entity < max limit 1
  unused : before.isFree entity = true
  zeroed : after.record entity = .ok (List.replicate stride 0)
  others : AgreesExcept entity.toNat before after
  stays : ∀ history, .remove entity ∉ history → .clear ∉ history →
    (after.run history).isFree entity = false

/-- How a store keeps its records. The world is always in use, and there is one record after the
other. A record is refused only while all that may be handed out are in use, and those that may be
removed are all but the world. What is refused changes nothing. That a record is handed out under
its own number asks that a slot can hold the numbers of all records that there may be. -/
structure KeepsRecords (stride limit reserved : Nat) (store : EntityStore) : Prop where
  size : store.slots.size = store.count * stride
  world : store.isFree 0 = false
  spawned : limit ≤ 0x80000000 → ∀ entity after, store.spawn = .ok (entity, after) →
    HandsOut stride limit reserved store entity after
  refused : ∀ fault, store.spawn = .error fault ↔ fault = .entityLimit (max limit 1) ∧
    ∀ number : Nat, max reserved 1 ≤ number → number < max limit 1 → store.isFree number = false
  unchanged : ∀ operation fault, store.attempt operation = .error fault →
    store.perform operation = store
  removable : ∀ entity, (∃ after, store.remove entity = .ok after) ↔
    0 < entity ∧ entity < store.count
  removed : ∀ entity after, store.remove entity = .ok after →
    after.isFree entity = true ∧ AgreesExcept entity.toNat store after

theorem Built.handsOut (built : Built stride limit reserved store) (few : limit ≤ 0x80000000)
    (done : store.spawn = .ok (entity, after)) :
    HandsOut stride limit reserved store entity after := by
  have sound := built.sound
  have bounded := built.bounded
  have reserved := bounded.reserved_eq
  rw [← bounded.stride_eq]
  rcases spawn_cases done with ⟨number, found, rfl, rfl⟩ | ⟨none, room, rfl, rfl⟩
  · obtain ⟨lower, free⟩ := firstFree?_some found
    have present := (sound.firstFree_bounds found).2
    have small := Nat.lt_of_lt_of_le present bounded.count_le
    rw [Slot.wrap_natCast (by omega)]
    refine ⟨by omega, by omega, free, sound.record_recycle present false, ?_, fun history => ?_⟩
    · exact agreesExcept_recycle store number false
    · exact isFree_run (isFree_recycle present false)
  · have above : store.count ≤ max store.count store.reserved := Nat.le_max_left _ _
    rw [bounded.limit_eq] at room
    rw [Slot.wrap_natCast (by omega)]
    exact ⟨by omega, by omega, isFree_of_count_le above, sound.record_growTo above,
      sound.agreesExcept_growTo above, fun history => isFree_run (sound.isFree_growTo above)⟩

/-- If all records that may be handed out are in use, there is none to be handed out. -/
theorem Built.full_of_used (built : Built stride limit reserved store)
    (used : ∀ number : Nat, max reserved 1 ≤ number → number < max limit 1 →
      store.isFree number = false) :
    store.firstFree? = none ∧ max limit 1 ≤ max store.count store.reserved := by
  have bounded := built.bounded
  constructor
  · cases found : store.firstFree? with
    | none => rfl
    | some number =>
      obtain ⟨lower, free⟩ := firstFree?_some found
      have present := (built.sound.firstFree_bounds found).2
      have live := used number (bounded.reserved_eq ▸ lower)
        (Nat.lt_of_lt_of_le present bounded.count_le)
      exact absurd free (Bool.eq_false_iff.mp live)
  · refine Decidable.byContradiction fun room => ?_
    have reserved := bounded.reserved_eq
    -- The record behind the last one may be handed out, but does not exist.
    have live := used (max store.count store.reserved) (by omega) (by omega)
    have present := (isFree_natCast_eq_false_iff.mp live).1
    exact Nat.not_lt.mpr (Nat.le_max_left _ _) present

theorem exists_remove_iff :
    (∃ after, store.remove entity = .ok after) ↔ 0 < entity ∧ entity < store.count := by
  constructor
  · rintro ⟨after, done⟩
    obtain ⟨number, rfl, positive, present, -⟩ := remove_eq_ok_iff.mp done
    omega
  · rintro ⟨positive, present⟩
    exact ⟨_, remove_eq_ok_iff.mpr ⟨entity.toNat, by omega, by omega, by omega, rfl⟩⟩

/-- Whatever a host has done to a store, it keeps its records as it should. -/
theorem keepsRecords_run (stride limit reserved : Nat) (history : List Operation) :
    KeepsRecords stride limit reserved ((create stride limit reserved).run history) := by
  have built : Built stride limit reserved ((create stride limit reserved).run history) :=
    Built.created.run history
  generalize (create stride limit reserved).run history = store at built
  have bounded := built.bounded
  refine
    { size := bounded.stride_eq ▸ built.sound.size_eq
      world := isFree_natCast_eq_false_iff.mpr built.sound.world_live
      spawned := fun few entity after => built.handsOut few
      refused := fun fault => ?_
      unchanged := fun operation fault failed => by rw [perform, failed]
      removable := fun entity => ?_
      removed := fun entity after done => ?_ }
  · rw [spawn_eq_error_iff, bounded.limit_eq]
    refine and_congr_right fun _ => ⟨fun ⟨empty, full⟩ number lower upper => ?_, fun used => ?_⟩
    · have reserved := bounded.reserved_eq
      exact firstFree?_none empty (by omega) (by omega)
    · exact built.full_of_used used
  · exact exists_remove_iff
  · obtain ⟨number, rfl, -, present, rfl⟩ := remove_eq_ok_iff.mp done
    exact ⟨isFree_recycle present true, agreesExcept_recycle store number true⟩

/-- What was written to a record while it was free is gone when the record is handed out again. -/
example :
    let store := (create 2 8 1).run [.spawn, .spawn, .set 1 1 5, .remove 1, .write 3 [7]]
    store.slots = #[0, 0, 0, 7, 0, 0] ∧
      (store.attempt .spawn).toOption.map slots = some #[0, 0, 0, 0, 0, 0] := by
  decide

end Gamecode.EntityStore
