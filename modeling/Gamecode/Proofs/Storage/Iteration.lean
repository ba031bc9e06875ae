/-
This file is about a walk over the entities from one that is in use to the next. Between two steps
entities may be removed, among them the one at which the walk is, and fields may be written. Such a
walk only goes upwards, so it ends after at most as many steps as there are records, and it leaves
out nothing that is in use all the while. That takes no more than `2 ^ 31` records: the number of a
later one comes out negative, and there the walk starts over.
-/

import Gamecode.Proofs.Native
import Gamecode.Proofs.Storage.Lifecycle

namespace Gamecode.EntityStore

variable {stride limit reserved : Nat} {store : EntityStore}

/-! ### The next entity -/

/-- The first record in use is in use, and no other one is before it. -/
theorem firstLive?_eq_some_iff {start next : Nat} :
    store.firstLive? start = some next ↔ start ≤ next ∧ store.isFree next = false ∧
      ∀ between : Nat, start ≤ between → between < next → store.isFree between = true := by
  rw [firstLive?, List.find?_range'_eq_some, isFree_natCast_eq_false_iff]
  simp only [List.mem_range'_1, isFree_natCast, List.contains_eq_mem, Bool.not_not, Bool.or_eq_true,
    Bool.not_eq_true', decide_eq_false_iff_not, decide_eq_true_eq]
  constructor
  · rintro ⟨live, range, free⟩
    exact ⟨range.1, ⟨by omega, live⟩, fun between lower upper => .inr (free between lower upper)⟩
  · rintro ⟨lower, ⟨present, live⟩, free⟩
    refine ⟨live, by omega, fun between above below => ?_⟩
    exact (free between above below).resolve_left (by omega)

/-- There is no first record in use if none is. -/
theorem isFree_of_firstLive?_none {start other : Nat} (none : store.firstLive? start = none)
    (above : start ≤ other) : store.isFree other = true := by
  by_cases present : other < store.count
  · have marked := List.find?_eq_none.mp none other (List.mem_range'_1.mpr (by omega))
    rw [Bool.not_eq_true', Bool.not_eq_false] at marked
    rw [isFree_natCast, marked, Bool.or_true]
  · exact isFree_of_count_le (Nat.le_of_not_lt present)

/-- A record in use is not passed by. -/
theorem exists_firstLive? {start live : Nat} (above : start ≤ live)
    (used : store.isFree live = false) : ∃ next ≤ live, store.firstLive? start = some next := by
  cases found : store.firstLive? start with
  | none =>
    have free := isFree_of_firstLive?_none found above
    rw [used] at free
    cases free
  | some next =>
    refine ⟨next, ?_, rfl⟩
    obtain ⟨-, -, free⟩ := firstLive?_eq_some_iff.mp found
    refine Nat.le_of_not_lt fun below => ?_
    have passed := free live above below
    rw [used] at passed
    cases passed

/-- Whatever is in use has a record. -/
theorem lt_count_of_firstLive? {start next : Nat} (found : store.firstLive? start = some next) :
    next < store.count :=
  (isFree_natCast_eq_false_iff.mp (firstLive?_eq_some_iff.mp found).2.1).1

theorem nextLive?_natCast (store : EntityStore) (number : Nat) :
    store.nextLive? number =
      (store.firstLive? (number + 1)).map fun next : Nat => Slot.wrap next := by
  rw [nextLive?, Int.max_eq_left (Int.natCast_nonneg number), Int.toNat_natCast]

/-- As long as a slot can hold the numbers of all records, the next entity is given out under its
own number. -/
theorem nextLive?_of_count_le (few : store.count ≤ 0x80000000) (number : Nat) :
    store.nextLive? number = (store.firstLive? (number + 1)).map Nat.cast := by
  rw [nextLive?_natCast]
  cases found : store.firstLive? (number + 1) with
  | none => rfl
  | some next =>
    have present := lt_count_of_firstLive? found
    exact congrArg some (Slot.wrap_natCast (by omega))

/-! ### Removals and writes -/

/-- In this history entities are removed and fields are written, and that is all. -/
def OnlyRemovesAndWrites (history : List Operation) : Prop :=
  .spawn ∉ history ∧ .clear ∉ history

instance (history : List Operation) : Decidable (OnlyRemovesAndWrites history) :=
  inferInstanceAs (Decidable (_ ∧ _))

theorem count_perform {operation : Operation} (unspawned : operation ≠ .spawn)
    (uncleared : operation ≠ .clear) : (store.perform operation).count = store.count := by
  unfold perform
  split
  · next after done =>
    cases operation with
    | spawn => exact absurd rfl unspawned
    | clear => exact absurd rfl uncleared
    | remove entity =>
      obtain ⟨number, -, -, -, rfl⟩ := remove_eq_ok_iff.mp done
      exact count_recycle store number true
    | write pointer values =>
      obtain ⟨-, rfl⟩ := write_eq_ok done
      rfl
    | set entity field value =>
      obtain ⟨pointer, place, -, -, rfl⟩ := set_eq_ok done
      rfl
    | setVector entity field vector =>
      obtain ⟨pointer, -, done⟩ := Except.bind_eq_ok_iff.mp done
      obtain ⟨-, rfl⟩ := write_eq_ok done
      rfl
  · rfl

/-- Neither removals nor writes change how many records there are. -/
theorem count_run {history : List Operation} (only : OnlyRemovesAndWrites history) :
    (store.run history).count = store.count := by
  induction history generalizing store with
  | nil => rfl
  | cons operation rest inductionHypothesis =>
    simp only [OnlyRemovesAndWrites, List.mem_cons, not_or] at only inductionHypothesis
    obtain ⟨⟨unspawned, restUnspawned⟩, uncleared, restUncleared⟩ := only
    exact (inductionHypothesis ⟨restUnspawned, restUncleared⟩).trans
      (count_perform (Ne.symm unspawned) (Ne.symm uncleared))

/-! ### Walks -/

section Walk

variable (store) (between : Nat → List Operation)

/-- The store at a step of a walk, if this is what happens before each of its steps. -/
def atStep : Nat → EntityStore
  | 0 => store
  | step + 1 => (atStep step).run (between step)

/-- Where a walk from the world is after some steps, unless it is over. -/
def visited : Nat → Option Int
  | 0 => some 0
  | step + 1 => (visited step).bind fun entity => (store.atStep between (step + 1)).nextLive? entity

/-- The record at which a walk is that is not held up by the numbers that a slot can hold. -/
def walked : Nat → Option Nat
  | 0 => some 0
  | step + 1 =>
    (walked step).bind fun number => (store.atStep between (step + 1)).firstLive? (number + 1)

end Walk

variable {between : Nat → List Operation} {step number : Nat}

theorem count_atStep (only : ∀ step, OnlyRemovesAndWrites (between step)) (step : Nat) :
    (store.atStep between step).count = store.count := by
  induction step with
  | zero => rfl
  | succ step inductionHypothesis => exact (count_run (only step)).trans inductionHypothesis

/-- As long as a slot can hold the numbers of all records, a walk goes from record to record. -/
theorem visited_eq_map_walked (only : ∀ step, OnlyRemovesAndWrites (between step))
    (few : store.count ≤ 0x80000000) (step : Nat) :
    store.visited between step = (store.walked between step).map Nat.cast := by
  induction step with
  | zero => rfl
  | succ step inductionHypothesis =>
    have fewLater : (store.atStep between (step + 1)).count ≤ 0x80000000 := by
      rwa [count_atStep only]
    rw [visited, walked, inductionHypothesis]
    cases store.walked between step with
    | none => rfl
    | some number => exact nextLive?_of_count_le fewLater number

/-- A walk comes to a record from the one where it was, of which it is the next. -/
theorem exists_of_walked_succ (reached : store.walked between (step + 1) = some number) :
    ∃ previous, store.walked between step = some previous ∧
      (store.atStep between (step + 1)).firstLive? (previous + 1) = some number :=
  Option.bind_eq_some_iff.mp reached

/-- What a walk comes to is not the world, and is in use at that moment. -/
theorem isFree_of_walked_succ (reached : store.walked between (step + 1) = some number) :
    0 < number ∧ (store.atStep between (step + 1)).isFree number = false := by
  obtain ⟨previous, -, next⟩ := exists_of_walked_succ reached
  obtain ⟨above, used, -⟩ := firstLive?_eq_some_iff.mp next
  exact ⟨Nat.zero_lt_of_lt above, used⟩

/-- A walk only goes upwards. -/
theorem walked_lt {earlier later : Nat} (before : earlier < later) {first second : Nat}
    (reachedFirst : store.walked between earlier = some first)
    (reachedSecond : store.walked between later = some second) : first < second := by
  induction later generalizing second with
  | zero => exact absurd before (Nat.not_lt_zero earlier)
  | succ later inductionHypothesis =>
    obtain ⟨previous, reached, next⟩ := exists_of_walked_succ reachedSecond
    have above := (firstLive?_eq_some_iff.mp next).1
    rcases Nat.lt_succ_iff_lt_or_eq.mp before with between | rfl
    · exact Nat.lt_trans (inductionHypothesis between reached) above
    · rw [reachedFirst] at reached
      cases reached
      exact above

/-- Every step goes up by one at least. -/
theorem le_of_walked (reached : store.walked between step = some number) : step ≤ number := by
  induction step generalizing number with
  | zero => exact Nat.zero_le number
  | succ step inductionHypothesis =>
    obtain ⟨previous, reachedPrevious, next⟩ := exists_of_walked_succ reached
    have above := (firstLive?_eq_some_iff.mp next).1
    exact Nat.lt_of_le_of_lt (inductionHypothesis reachedPrevious) above

/-- A walk stays below the number of records. -/
theorem Built.lt_of_walked (built : Built stride limit reserved store)
    (only : ∀ step, OnlyRemovesAndWrites (between step))
    (reached : store.walked between step = some number) : number < store.count := by
  cases step with
  | zero =>
    cases reached
    exact built.sound.count_pos
  | succ step =>
    rw [← count_atStep only (step + 1)]
    exact (isFree_natCast_eq_false_iff.mp (isFree_of_walked_succ reached).2).1

/-- A walk is over after as many steps as there are records. -/
theorem Built.walked_eq_none (built : Built stride limit reserved store)
    (only : ∀ step, OnlyRemovesAndWrites (between step)) (late : store.count ≤ step) :
    store.walked between step = none := by
  cases reached : store.walked between step with
  | none => rfl
  | some number =>
    have lower := le_of_walked reached
    exact absurd (built.lt_of_walked only reached) (Nat.not_lt.mpr (Nat.le_trans late lower))

/-- As long as an entity is in use, a walk is below it or has come to it. -/
theorem walked_or_lt {live : Nat} (positive : 0 < live)
    (used : ∀ step, (store.walked between step).isSome →
      (store.atStep between (step + 1)).isFree live = false) (step : Nat) :
    (∃ earlier ≤ step, store.walked between earlier = some live) ∨
      ∃ number < live, store.walked between step = some number := by
  induction step with
  | zero => exact .inr ⟨0, positive, rfl⟩
  | succ step inductionHypothesis =>
    rcases inductionHypothesis with ⟨earlier, before, reached⟩ | ⟨number, below, reached⟩
    · exact .inl ⟨earlier, Nat.le_succ_of_le before, reached⟩
    · have going : (store.walked between step).isSome := by rw [reached, Option.isSome_some]
      obtain ⟨next, upper, found⟩ := exists_firstLive? below (used step going)
      have reachedNext : store.walked between (step + 1) = some next := by
        rw [walked, reached, Option.bind_some, found]
      rcases Nat.eq_or_lt_of_le upper with rfl | lower
      · exact .inl ⟨step + 1, Nat.le_refl _, reachedNext⟩
      · exact .inr ⟨next, lower, reachedNext⟩

/-- A walk comes to a record once at most. -/
theorem eq_of_walked {other : Nat} (reached : store.walked between step = some number)
    (again : store.walked between other = some number) : other = step := by
  rcases Nat.lt_trichotomy other step with before | same | after
  · exact absurd (walked_lt before again reached) (Nat.lt_irrefl number)
  · exact same
  · exact absurd (walked_lt after reached again) (Nat.lt_irrefl number)

/-! ### The builtin -/

/-- The builtin answers with a number and changes the return area only. -/
def AnswersNext (machine : Machine) (answer : Int) : Prop :=
  ∀ execute program, ∃ globals,
    machine.globals.setSigned Region.returnStart answer = .ok globals ∧
    globals.getSigned Region.returnStart = .ok answer ∧
    Machine.perform execute program Builtins.nextEntity machine =
      some (.ok (), { machine with globals })

/-- The builtin answers with the next entity, and with the world if there is none. -/
theorem answersNext {machine : Machine} (sized : Region.size ≤ machine.globals.size) {entity : Int}
    (asked : machine.globals.getSigned (Region.parameterOffset 0) = .ok entity) :
    AnswersNext machine ((machine.entities.nextLive? entity).getD 0) := by
  intro execute program
  have held : ∃ slot, (machine.entities.nextLive? entity).getD 0 = Slot.signed slot := by
    rw [nextLive?]
    cases machine.entities.firstLive? ((max entity 0).toNat + 1) with
    | none => exact ⟨0, rfl⟩
    | some next => exact ⟨_, rfl⟩
  obtain ⟨slot, answer⟩ := held
  have present : Region.returnStart < machine.globals.size :=
    Nat.lt_of_lt_of_le (by decide) sized
  obtain ⟨globals, written, read⟩ :=
    Globals.getSigned_setSigned present (Slot.neg_le_signed slot) (Slot.signed_lt slot)
  rw [← answer] at written read
  refine ⟨globals, written, read, ?_⟩
  calc
    Machine.perform execute program Builtins.nextEntity machine
      = Machine.perform execute program
          (Native.returnReference ((machine.entities.nextLive? entity).getD 0)) machine :=
        Machine.perform_check_bind asked _
    _ = some (.ok (), { machine with globals }) := Machine.perform_check_bind written _

/-! ### Complete walks -/

/-- How a walk goes. It only goes upwards and comes to an end. It leaves out the world and what is
not in use at that moment, and comes exactly once to an entity that is in use all the while. The
builtin takes the same steps. -/
structure VisitsAll (store : EntityStore) (between : Nat → List Operation) : Prop where
  upwards : ∀ earlier later first second, earlier < later →
    store.visited between earlier = some first → store.visited between later = some second →
      first < second
  ends : ∀ step, store.count ≤ step → store.visited between step = none
  used : ∀ step entity, store.visited between (step + 1) = some entity →
    0 < entity ∧ (store.atStep between (step + 1)).isFree entity = false
  complete : ∀ entity, 0 < entity →
    (∀ step, (store.visited between step).isSome →
      (store.atStep between (step + 1)).isFree entity = false) →
    ∃ step, store.visited between step = some entity ∧
      ∀ other, store.visited between other = some entity → other = step
  answered : ∀ step entity machine, store.visited between step = some entity →
    machine.entities = store.atStep between (step + 1) → Region.size ≤ machine.globals.size →
    machine.globals.getSigned (Region.parameterOffset 0) = .ok entity →
    AnswersNext machine ((store.visited between (step + 1)).getD 0)

/-- Whatever has been done to a store and whatever is removed from it on the way, a walk visits all
entities that stay in use, as long as a slot can hold the numbers of all records. -/
theorem Built.visitsAll (built : Built stride limit reserved store)
    (few : store.count ≤ 0x80000000) (only : ∀ step, OnlyRemovesAndWrites (between step)) :
    VisitsAll store between where
  upwards earlier later first second before reachedFirst reachedSecond := by
    rw [visited_eq_map_walked only few] at reachedFirst reachedSecond
    obtain ⟨lower, walkedFirst, rfl⟩ := Option.map_eq_some_iff.mp reachedFirst
    obtain ⟨upper, walkedSecond, rfl⟩ := Option.map_eq_some_iff.mp reachedSecond
    exact Int.ofNat_lt.mpr (walked_lt before walkedFirst walkedSecond)
  ends step late := by
    rw [visited_eq_map_walked only few, built.walked_eq_none only late, Option.map_none]
  used step entity reached := by
    rw [visited_eq_map_walked only few] at reached
    obtain ⟨number, walked, rfl⟩ := Option.map_eq_some_iff.mp reached
    obtain ⟨positive, used⟩ := isFree_of_walked_succ walked
    exact ⟨Int.natCast_pos.mpr positive, used⟩
  complete entity positive used := by
    have going (step : Nat) :
        (store.visited between step).isSome = (store.walked between step).isSome := by
      rw [visited_eq_map_walked only few, Option.isSome_map]
    obtain ⟨number, rfl⟩ := Int.eq_ofNat_of_zero_le (Int.le_of_lt positive)
    have natural (step : Nat) : store.visited between step = some (number : Int) ↔
        store.walked between step = some number := by
      rw [visited_eq_map_walked only few]
      exact (Option.map_injective fun _ _ => Int.ofNat_inj.mp).eq_iff (b := some number)
    simp only [going] at used
    simp only [natural]
    rcases walked_or_lt (Int.natCast_pos.mp positive) used store.count with
      ⟨step, -, reached⟩ | ⟨last, -, reached⟩
    · exact ⟨step, reached, fun _ => eq_of_walked reached⟩
    · rw [built.walked_eq_none only (Nat.le_refl _)] at reached
      cases reached
  answered step entity machine reached same sized asked := by
    have next : store.visited between (step + 1) = machine.entities.nextLive? entity := by
      rw [visited, reached, Option.bind_some, same]
    rw [next]
    exact answersNext sized asked

namespace Sample

/-- Four entities were created, and the second one was removed. -/
def crowd : EntityStore :=
  (create 1 8 1).run [.spawn, .spawn, .spawn, .spawn, .remove 2]

/-- As soon as a walk has come to the first entity, that one is removed. -/
def leaving (step : Nat) : List Operation :=
  if step = 1 then [.remove 1, .set 3 0 7] else []

theorem onlyRemovesAndWrites_leaving (step : Nat) : OnlyRemovesAndWrites (leaving step) := by
  unfold leaving
  split <;> decide

end Sample

theorem visitsAll_leaving :
    Built 1 8 1 Sample.crowd ∧ Sample.crowd.count ≤ 0x80000000 ∧
      (∀ step, OnlyRemovesAndWrites (Sample.leaving step)) ∧
      VisitsAll Sample.crowd Sample.leaving ∧
      (List.range 5).map (Sample.crowd.visited Sample.leaving) =
        [some 0, some 1, some 3, some 4, none] :=
  have built : Built 1 8 1 Sample.crowd := Built.created.run _
  have few : Sample.crowd.count ≤ 0x80000000 := by decide
  ⟨built, few, Sample.onlyRemovesAndWrites_leaving,
    built.visitsAll few Sample.onlyRemovesAndWrites_leaving, by decide⟩

/-! ### More records than a slot can number -/

/-- A walk on which nothing happens. -/
def undisturbed (_ : Nat) : List Operation := []

theorem atStep_undisturbed (store : EntityStore) (step : Nat) :
    store.atStep undisturbed step = store := by
  induction step with
  | zero => rfl
  | succ step inductionHypothesis => exact inductionHypothesis

section Unmarked

variable (unmarked : store.removed = [])

include unmarked

/-- If nothing was removed, the next record in use is the next record. -/
theorem firstLive?_of_unmarked {start : Nat} (present : start < store.count) :
    store.firstLive? start = some start :=
  firstLive?_eq_some_iff.mpr ⟨Nat.le_refl _,
    isFree_natCast_eq_false_iff.mpr ⟨present, by rw [unmarked]; exact List.not_mem_nil⟩,
    fun _ lower upper => absurd upper (Nat.not_lt.mpr lower)⟩

/-- One step of a walk on which nothing happens, if nothing was removed before either. -/
theorem visited_succ_of_unmarked {step : Nat} {entity : Int}
    (reached : store.visited undisturbed step = some entity)
    (present : (max entity 0).toNat + 1 < store.count) :
    store.visited undisturbed (step + 1) =
      some (Slot.wrap ((max entity 0).toNat + 1 : Nat)) := by
  rw [visited, reached, Option.bind_some, atStep_undisturbed, nextLive?,
    firstLive?_of_unmarked unmarked present, Option.map_some]

/-- Such a walk comes to one record after the other, as long as a slot can hold their numbers. -/
theorem visited_of_unmarked {step : Nat} (present : step < store.count)
    (small : step < 0x80000000) : store.visited undisturbed step = some (step : Int) := by
  induction step with
  | zero => rfl
  | succ step inductionHypothesis =>
    have reached := inductionHypothesis (by omega) (by omega)
    have natural : (max (step : Int) 0).toNat = step := by omega
    rw [visited_succ_of_unmarked unmarked reached (by omega), natural, Slot.wrap_natCast small]

end Unmarked

/-- A store with `2 ^ 31 + 1` records that take no slots: as many are reserved as a slot can number,
and one more is in use. -/
def Sample.overfull : EntityStore :=
  (create 0 0x8000000A 0x80000000).run [.spawn]

/-- The walk comes to the last record that a slot can number. The next one is given out under a
negative number, and after it the walk starts over. -/
theorem walk_starts_over :
    Built 0 0x8000000A 0x80000000 Sample.overfull ∧ Sample.overfull.count = 0x80000001 ∧
      (∀ step, OnlyRemovesAndWrites (undisturbed step)) ∧
      Sample.overfull.visited undisturbed 0x7FFFFFFF = some 0x7FFFFFFF ∧
      Sample.overfull.visited undisturbed 0x80000000 = some (-0x80000000) ∧
      Sample.overfull.visited undisturbed 0x80000001 = some 1 ∧
      ¬ VisitsAll Sample.overfull undisturbed := by
  have count : Sample.overfull.count = 0x80000001 := by decide
  have unmarked : Sample.overfull.removed = [] := by decide
  have last : Sample.overfull.visited undisturbed 0x7FFFFFFF = some 0x7FFFFFFF :=
    visited_of_unmarked unmarked (by rw [count]; decide) (by decide)
  have negative : Sample.overfull.visited undisturbed 0x80000000 = some (-0x80000000) :=
    (visited_succ_of_unmarked unmarked last (by rw [count]; decide)).trans (by decide)
  have again : Sample.overfull.visited undisturbed 0x80000001 = some 1 :=
    (visited_succ_of_unmarked unmarked negative (by rw [count]; decide)).trans (by decide)
  refine ⟨Built.created.run _, count, fun step => ⟨List.not_mem_nil, List.not_mem_nil⟩, last,
    negative, again, fun visitsAll => ?_⟩
  have upwards := visitsAll.upwards 0x7FFFFFFF 0x80000000 _ _ (by decide) last negative
  exact absurd upwards (by decide)

end Gamecode.EntityStore
