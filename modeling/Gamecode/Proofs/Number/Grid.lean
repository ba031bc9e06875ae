/-
This file says that rounding to a binary format finds the nearest number. A quotient is cut at the
exponent that its size and the format fix, and its significand is the nearest integer there, the
even one on a tie. Numbers of a higher exponent are numbers of steps too, and those of a lower one
lie below the least significand of full length, so no other number of the format is nearer, and on a
tie the significand is even. A quotient has no nearest number from half a step above the greatest
one on.
-/

import Gamecode.Proofs.Number.Shortest
import Mathlib.Algebra.Order.Field.Power
import Mathlib.Algebra.Order.Field.Rat
import Mathlib.Data.Nat.Cast.Order.Field
import Mathlib.Tactic.FieldSimp
import Mathlib.Tactic.Linarith
import Mathlib.Tactic.NormNum
import Mathlib.Tactic.Positivity
import Mathlib.Tactic.Ring

namespace Gamecode.Number

/-! ### Exact values -/

variable {format : Format} {numerator denominator : Nat} {rounded other : Scaled}

/-- The number that a scaled number stands for. -/
def Scaled.value (number : Scaled) : ℚ :=
  number.significand * 2 ^ number.exponent

/-- The number that a decimal stands for. -/
def Decimal.value (decimal : Decimal) : ℚ :=
  decimal.digits * 10 ^ decimal.exponent

/-- Of the two powers that a scale is made of, one is one. -/
theorem pow_toNat_div_pow_toNat (base : ℚ) (exponent : ℤ) :
    base ^ exponent.toNat / base ^ (-exponent).toNat = base ^ exponent := by
  rcases Int.le_total 0 exponent with positive | negative
  · rw [show (-exponent).toNat = 0 by omega, pow_zero, div_one, ← zpow_natCast,
      Int.toNat_of_nonneg positive]
  · rw [show exponent.toNat = 0 by omega, pow_zero, one_div, ← zpow_natCast,
      Int.toNat_of_nonneg (by omega), zpow_neg, inv_inv]

theorem Scaled.numerator_div_denominator (number : Scaled) :
    (number.numerator : ℚ) / number.denominator = number.value := by
  unfold numerator denominator value
  rw [← pow_toNat_div_pow_toNat 2]
  simp only [Nat.pow_eq, Nat.cast_mul, Nat.cast_pow, Nat.cast_ofNat, mul_div_assoc]

/-- A number is a number of steps of any lower exponent. -/
theorem Scaled.value_eq_mul {exponent : ℤ} (lower : exponent ≤ other.exponent) :
    other.value =
      (other.significand * 2 ^ (other.exponent - exponent).toNat : ℕ) * 2 ^ exponent := by
  rw [value, Nat.cast_mul, Nat.cast_pow, Nat.cast_two, mul_assoc, ← zpow_natCast,
    ← zpow_add₀ two_ne_zero, Int.toNat_of_nonneg (by omega), sub_add_cancel]

theorem Decimal.numerator_div_denominator (decimal : Decimal) :
    (decimal.numerator : ℚ) / decimal.denominator = decimal.value := by
  unfold numerator denominator value
  rw [← pow_toNat_div_pow_toNat 10]
  simp only [Nat.pow_eq, Nat.cast_mul, Nat.cast_pow, Nat.cast_ofNat, mul_div_assoc]

/-! ### Nearest integers -/

/-- A quotient is a natural number and a fraction. -/
theorem cast_div_add_fraction (numerator : Nat) (positive : 0 < denominator) :
    (numerator : ℚ) / denominator =
      (numerator / denominator : ℕ) + (numerator % denominator : ℕ) / (denominator : ℚ) := by
  have parts : (denominator : ℚ) * (numerator / denominator : ℕ) + (numerator % denominator : ℕ) =
      numerator := by exact_mod_cast Nat.div_add_mod numerator denominator
  have nonzero : (denominator : ℚ) ≠ 0 := by positivity
  field_simp
  exact parts.symm

/-- The nearest integer is no more than a half away, and where it is just a half away it is even. -/
theorem divideToNearest_spec (numerator : Nat) (positive : 0 < denominator) :
    |(divideToNearest numerator denominator : ℚ) - numerator / denominator| ≤ 1 / 2 ∧
      (|(divideToNearest numerator denominator : ℚ) - numerator / denominator| = 1 / 2 →
        divideToNearest numerator denominator % 2 = 0) := by
  have above : (0 : ℚ) < denominator := by exact_mod_cast positive
  rw [cast_div_add_fraction numerator positive]
  unfold divideToNearest
  dsimp only
  have less := Nat.mod_lt numerator positive
  generalize numerator / denominator = quotient
  generalize numerator % denominator = remainder at less ⊢
  obtain ⟨fraction, same⟩ : ∃ fraction : ℚ, fraction = remainder / denominator := ⟨_, rfl⟩
  have size : fraction * denominator = remainder := by rw [same]; field_simp
  have nonneg : 0 ≤ fraction := by rw [same]; positivity
  have small : fraction < 1 := by
    rw [same, div_lt_one above]
    exact_mod_cast less
  rw [← same]
  have lower : 2 * remainder < denominator ↔ fraction < 1 / 2 := by
    rw [← @Nat.cast_lt ℚ, Nat.cast_mul, ← size]
    constructor <;> intro smaller <;> push_cast at * <;> nlinarith
  have upper : denominator < 2 * remainder ↔ 1 / 2 < fraction := by
    rw [← @Nat.cast_lt ℚ, Nat.cast_mul, ← size]
    constructor <;> intro smaller <;> push_cast at * <;> nlinarith
  simp only [lower, upper]
  have down : |(quotient : ℚ) - (quotient + fraction)| = fraction := by
    rw [sub_add_cancel_left, abs_neg, abs_of_nonneg nonneg]
  have up : |((quotient + 1 : ℕ) : ℚ) - (quotient + fraction)| = 1 - fraction := by
    rw [Nat.cast_succ, add_sub_add_left_eq_sub, abs_of_pos (sub_pos.mpr small)]
  split
  · next less =>
    rw [down]
    exact ⟨less.le, fun tie => absurd tie less.ne⟩
  · next notLess =>
    split
    · next more =>
      rw [up]
      exact ⟨by linarith, fun tie => by linarith⟩
    · next notMore =>
      have half : fraction = 1 / 2 := le_antisymm (not_lt.mp notMore) (not_lt.mp notLess)
      split
      · next even =>
        rw [down]
        exact ⟨half.le, fun _ => even⟩
      · next odd =>
        rw [up]
        exact ⟨by linarith, fun _ => by omega⟩

/-- A natural number that is no more than a half away is as near as any other, and another one that
is as near is a half away. -/
theorem nearest_of_half {point : ℚ} {nearest : ℕ} (half : |(nearest : ℚ) - point| ≤ 1 / 2)
    (number : ℕ) :
    |(nearest : ℚ) - point| ≤ |(number : ℚ) - point| ∧
      (|(nearest : ℚ) - point| = |(number : ℚ) - point| → number ≠ nearest →
        |(nearest : ℚ) - point| = 1 / 2) := by
  by_cases same : number = nearest
  · subst same
    exact ⟨le_rfl, fun _ other => absurd rfl other⟩
  have apart : (1 : ℚ) ≤ |(number : ℚ) - nearest| := by
    have step : (1 : ℤ) ≤ |(number : ℤ) - nearest| :=
      Int.one_le_abs (sub_ne_zero.mpr (by exact_mod_cast same))
    exact_mod_cast step
  have triangle : |(number : ℚ) - nearest| ≤ |(number : ℚ) - point| + |(nearest : ℚ) - point| := by
    rw [abs_sub_comm (nearest : ℚ) point]
    exact abs_sub_le _ _ _
  exact ⟨by linarith, fun tie _ => by linarith⟩

/-! ### Sizes of quotients -/

/-- A quotient lies between two powers of two in a row, and its exponent in a format goes by them.
-/
theorem exists_magnitude (format : Format) (nonzero : numerator ≠ 0) (positive : 0 < denominator) :
    ∃ magnitude : ℤ, 2 ^ magnitude ≤ (numerator / denominator : ℚ) ∧
      (numerator / denominator : ℚ) < 2 ^ (magnitude + 1) ∧
      format.exponentOf numerator denominator =
        max format.lowest (magnitude + 1 - format.precision) := by
  have lowAbove : (2 : ℚ) ^ (numerator.log2 : ℤ) ≤ numerator := by
    rw [zpow_natCast]
    exact_mod_cast Nat.log2_self_le nonzero
  have highAbove : (numerator : ℚ) < 2 ^ ((numerator.log2 : ℤ) + 1) := by
    rw [← Nat.cast_succ, zpow_natCast]
    exact_mod_cast @Nat.lt_log2_self numerator
  have lowBelow : (2 : ℚ) ^ (denominator.log2 : ℤ) ≤ denominator := by
    rw [zpow_natCast]
    exact_mod_cast Nat.log2_self_le (Nat.ne_of_gt positive)
  have highBelow : (denominator : ℚ) < 2 ^ ((denominator.log2 : ℤ) + 1) := by
    rw [← Nat.cast_succ, zpow_natCast]
    exact_mod_cast @Nat.lt_log2_self denominator
  have below : (0 : ℚ) < denominator := by exact_mod_cast positive
  have compared : denominator * Nat.pow 2 numerator.log2 ≤ numerator * Nat.pow 2 denominator.log2 ↔
      (2 : ℚ) ^ ((numerator.log2 : ℤ) - denominator.log2) ≤ numerator / denominator := by
    rw [zpow_sub₀ two_ne_zero, div_le_div_iff₀ (by positivity) below, zpow_natCast, zpow_natCast,
      mul_comm ((2 : ℚ) ^ numerator.log2)]
    exact_mod_cast Iff.rfl
  unfold Format.exponentOf
  dsimp only
  by_cases large : denominator * Nat.pow 2 numerator.log2 ≤ numerator * Nat.pow 2 denominator.log2
  · refine ⟨(numerator.log2 : ℤ) - denominator.log2, compared.mp large, ?_, ?_⟩
    · rw [sub_add_eq_add_sub, zpow_sub₀ two_ne_zero, div_lt_div_iff₀ below (by positivity)]
      exact mul_lt_mul highAbove lowBelow (by positivity) (by positivity)
    · rw [if_pos large]
      congr 1
      omega
  · refine ⟨(numerator.log2 : ℤ) - denominator.log2 - 1, ?_, ?_, ?_⟩
    · rw [sub_sub, zpow_sub₀ two_ne_zero, div_le_div_iff₀ (by positivity) below]
      exact mul_le_mul lowAbove highBelow.le below.le (by positivity)
    · rw [sub_add_cancel]
      exact not_le.mp (mt compared.mpr large)
    · rw [if_neg large]
      congr 1
      omega

/-! ### Numbers of a format -/

/-- Just above the greatest number of a format, half a step away from it, numbers begin to be too
large. -/
def Format.overflow (format : Format) : ℚ :=
  (2 ^ format.precision - 1 / 2) * 2 ^ format.highest

/-- Rounding as it stands before a significand of all bits and one more is carried: the significand
is the integer nearest to the point, in steps of the exponent, and has no more bits than the format
keeps. -/
structure Format.Approaches (format : Format) (point : ℚ) (significand : ℕ) (exponent : ℤ) :
    Prop where
  lowest : format.lowest ≤ exponent
  half : |(significand : ℚ) - point / 2 ^ exponent| ≤ 1 / 2
  even : |(significand : ℚ) - point / 2 ^ exponent| = 1 / 2 → significand % 2 = 0
  below : point / 2 ^ exponent < 2 ^ format.precision
  full : exponent = format.lowest ∨ 2 ^ (format.precision - 1) ≤ point / 2 ^ exponent

/-- The number of a significand, which may have all bits and one more, and an exponent. -/
def Format.carry (format : Format) (significand : ℕ) (exponent : ℤ) : Scaled :=
  if significand = 2 ^ format.precision then ⟨2 ^ (format.precision - 1), exponent + 1⟩
  else ⟨significand, exponent⟩

/-- What is left of a quotient at the exponent at which it is rounded. -/
theorem exponentOf_spec (wide : 2 ≤ format.precision) (nonzero : numerator ≠ 0)
    (positive : 0 < denominator) :
    (numerator / denominator : ℚ) / 2 ^ format.exponentOf numerator denominator <
        2 ^ format.precision ∧
      (format.exponentOf numerator denominator = format.lowest ∨
        2 ^ (format.precision - 1) ≤
          (numerator / denominator : ℚ) / 2 ^ format.exponentOf numerator denominator) := by
  obtain ⟨magnitude, lower, upper, same⟩ := exists_magnitude format nonzero positive
  rw [div_lt_iff₀ (by positivity), le_div_iff₀ (by positivity), ← zpow_natCast, ← zpow_natCast,
    ← zpow_add₀ two_ne_zero, ← zpow_add₀ two_ne_zero]
  refine ⟨upper.trans_le (zpow_le_zpow_right₀ one_le_two ?_), ?_⟩
  · omega
  · rcases max_choice format.lowest (magnitude + 1 - format.precision) with low | high
    · exact .inl (same.trans low)
    · refine .inr (le_trans (zpow_le_zpow_right₀ one_le_two ?_) lower)
      omega

theorem scaled_quotient (numerator denominator : ℕ) (exponent : ℤ) :
    ((numerator * Nat.pow 2 (-exponent).toNat : ℕ) : ℚ) /
        (denominator * Nat.pow 2 exponent.toNat : ℕ) =
      numerator / denominator / 2 ^ exponent := by
  rw [← pow_toNat_div_pow_toNat 2 exponent, div_div_eq_mul_div, div_mul_eq_mul_div, div_div]
  simp only [Nat.pow_eq, Nat.cast_mul, Nat.cast_pow, Nat.cast_ofNat]

/-- Every quotient is approached, and rounded to what is carried unless that is too large. -/
theorem exists_approaches (wide : 2 ≤ format.precision) (numerator : ℕ)
    (positive : 0 < denominator) (ordered : format.lowest ≤ format.highest) :
    ∃ significand exponent, format.Approaches (numerator / denominator) significand exponent ∧
      format.round numerator denominator =
        if format.highest < (format.carry significand exponent).exponent then none
        else some (format.carry significand exponent) := by
  by_cases zero : numerator = 0
  · refine ⟨0, format.lowest, ⟨le_rfl, ?_, fun _ => rfl, ?_, .inl rfl⟩, ?_⟩
    · simp [zero]
    · simp [zero]
    · have other : (0 : ℕ) ≠ 2 ^ format.precision := (Nat.two_pow_pos _).ne
      rw [Format.round, if_pos zero, Format.carry, if_neg other, if_neg ordered.not_gt]
  obtain ⟨below, full⟩ := exponentOf_spec wide zero positive
  have nearest := divideToNearest_spec
    (numerator * Nat.pow 2 (-format.exponentOf numerator denominator).toNat)
    (Nat.mul_pos positive (Nat.two_pow_pos (format.exponentOf numerator denominator).toNat))
  rw [← Nat.pow_eq, scaled_quotient] at nearest
  refine ⟨_, _, ⟨le_max_left _ _, nearest.1, nearest.2, below, full⟩, ?_⟩
  rw [Format.round, if_neg zero]
  rfl

namespace Format.Approaches

variable {point : ℚ} {significand : ℕ} {exponent : ℤ}

/-- The significand has no more than one bit too many, and then no other one. -/
theorem significand_le (approaches : format.Approaches point significand exponent) :
    significand ≤ 2 ^ format.precision := by
  have half := (abs_le.mp approaches.half).2
  have below := approaches.below
  have less : (significand : ℚ) < (2 ^ format.precision + 1 : ℕ) := by
    push_cast
    linarith
  exact Nat.le_of_lt_succ (by exact_mod_cast less)

/-- The leading bit is set unless the exponent is the lowest. -/
theorem le_significand (approaches : format.Approaches point significand exponent) :
    exponent = format.lowest ∨ 2 ^ (format.precision - 1) ≤ significand := by
  refine approaches.full.imp_right fun full => ?_
  have half := (abs_le.mp approaches.half).1
  have less : ((2 ^ (format.precision - 1) : ℕ) : ℚ) < (significand + 1 : ℕ) := by
    push_cast
    linarith
  exact Nat.le_of_lt_succ (by exact_mod_cast less)

end Format.Approaches

namespace Format

variable {point : ℚ} {significand : ℕ} {exponent : ℤ}

theorem two_mul_two_pow_pred (wide : 2 ≤ format.precision) :
    2 * 2 ^ (format.precision - 1) = 2 ^ format.precision := by
  rw [← Nat.pow_succ', Nat.succ_eq_add_one, Nat.sub_add_cancel (by omega)]

/-- Carrying moves a factor of two from the significand to the exponent. -/
theorem value_carry (wide : 2 ≤ format.precision) (significand : ℕ) (exponent : ℤ) :
    (format.carry significand exponent).value = significand * 2 ^ exponent := by
  unfold carry
  split
  · next all =>
    rw [all, ← two_mul_two_pow_pred wide, Scaled.value, zpow_add_one₀ two_ne_zero]
    push_cast
    ring
  · rfl

theorem carry_mod_two (wide : 2 ≤ format.precision) (even : significand % 2 = 0) :
    (format.carry significand exponent).significand % 2 = 0 := by
  unfold carry
  split
  · show 2 ^ (format.precision - 1) % 2 = 0
    rw [show format.precision - 1 = format.precision - 2 + 1 by omega, Nat.pow_succ]
    exact Nat.mul_mod_left _ _
  · exact even

theorem Approaches.holds_carry (approaches : format.Approaches point significand exponent)
    (wide : 2 ≤ format.precision)
    (fits : (format.carry significand exponent).exponent ≤ format.highest) :
    format.Holds (format.carry significand exponent) := by
  have low := approaches.lowest
  have full := approaches.le_significand
  have bound := approaches.significand_le
  unfold carry at fits ⊢
  split
  · next all =>
    rw [if_pos all] at fits
    refine ⟨?_, ?_, fits, .inr le_rfl⟩
    · exact Nat.pow_lt_pow_right (by omega) (by omega)
    · show format.lowest ≤ exponent + 1
      omega
  · next some =>
    rw [if_neg some] at fits
    exact ⟨lt_of_le_of_ne bound some, low, fits, full⟩

theorem two_pow_precision (wide : 2 ≤ format.precision) :
    (2 : ℚ) ^ format.precision = 2 * 2 ^ (format.precision - 1) := by
  exact_mod_cast (two_mul_two_pow_pred wide).symm

/-- A number with a lower exponent is less than any number of full length. -/
theorem value_lt_of_exponent_lt (wide : 2 ≤ format.precision)
    (narrow : other.significand < 2 ^ format.precision) (lower : other.exponent < exponent) :
    other.value < 2 ^ (format.precision - 1) * 2 ^ exponent :=
  calc other.value
    _ < 2 ^ format.precision * 2 ^ other.exponent :=
      mul_lt_mul_of_pos_right (by exact_mod_cast narrow) (by positivity)
    _ ≤ 2 ^ format.precision * 2 ^ (exponent - 1) :=
      mul_le_mul_of_nonneg_left (zpow_le_zpow_right₀ one_le_two (by omega)) (by positivity)
    _ = 2 ^ (format.precision - 1) * 2 ^ exponent := by
      rw [two_pow_precision wide, zpow_sub_one₀ two_ne_zero]
      ring

/-- What is approached is as near as any number with as few bits, and if another number is as near,
then the significand is even. -/
theorem Approaches.nearest (approaches : format.Approaches point significand exponent)
    (wide : 2 ≤ format.precision) (narrow : other.significand < 2 ^ format.precision)
    (lowest : format.lowest ≤ other.exponent) :
    |significand * 2 ^ exponent - point| ≤ |other.value - point| ∧
      (|significand * 2 ^ exponent - point| = |other.value - point| →
        other.value ≠ significand * 2 ^ exponent → significand % 2 = 0) := by
  have step : (0 : ℚ) < 2 ^ exponent := by positivity
  have scaled (number : ℚ) :
      |number * 2 ^ exponent - point| = |number - point / 2 ^ exponent| * 2 ^ exponent := by
    rw [← abs_of_pos step, ← abs_mul, abs_of_pos step, sub_mul, div_mul_cancel₀ _ step.ne']
  rcases le_or_gt exponent other.exponent with coarse | fine
  · -- The other number is a number of steps too.
    obtain ⟨near, tie⟩ := nearest_of_half approaches.half
      (other.significand * 2 ^ (other.exponent - exponent).toNat)
    rw [Scaled.value_eq_mul coarse, scaled, scaled]
    refine ⟨mul_le_mul_of_nonneg_right near step.le, fun equal different => ?_⟩
    refine approaches.even (tie (mul_right_cancel₀ step.ne' equal) fun equals => different ?_)
    rw [equals]
  · -- The other number lies below the least significand of full length, which is a number of steps.
    have full := (le_div_iff₀ step).mp (approaches.full.resolve_left (by omega))
    have less := value_lt_of_exponent_lt wide narrow fine
    have near := (nearest_of_half approaches.half (2 ^ (format.precision - 1))).1
    have strict : |significand * 2 ^ exponent - point| < |other.value - point| :=
      calc |significand * 2 ^ exponent - point|
        _ = |significand - point / 2 ^ exponent| * 2 ^ exponent := scaled _
        _ ≤ |(2 ^ (format.precision - 1) : ℕ) - point / 2 ^ exponent| * 2 ^ exponent :=
          mul_le_mul_of_nonneg_right near step.le
        _ = |2 ^ (format.precision - 1) * 2 ^ exponent - point| := by
          rw [← scaled, Nat.cast_pow, Nat.cast_two]
        _ = point - 2 ^ (format.precision - 1) * 2 ^ exponent := by
          rw [abs_sub_comm, abs_of_nonneg (sub_nonneg.mpr full)]
        _ < point - other.value := sub_lt_sub_left less point
        _ = |other.value - point| := by
          rw [abs_sub_comm, abs_of_nonneg (sub_nonneg.mpr (less.le.trans full))]
    exact ⟨strict.le, fun equal => absurd equal strict.ne⟩

theorem le_exponent_carry (format : Format) (significand : ℕ) (exponent : ℤ) :
    exponent ≤ (format.carry significand exponent).exponent ∧
      (format.carry significand exponent).exponent ≤ exponent + 1 := by
  unfold carry
  split <;> dsimp only <;> omega

/-- Below the highest exponent no number is too large. -/
theorem Approaches.lt_overflow (approaches : format.Approaches point significand exponent)
    (wide : 2 ≤ format.precision) (lower : exponent < format.highest) : point < format.overflow :=
  calc point
    _ < 2 ^ format.precision * 2 ^ exponent :=
      (div_lt_iff₀ (by positivity)).mp approaches.below
    _ ≤ 2 ^ format.precision * 2 ^ (format.highest - 1) :=
      mul_le_mul_of_nonneg_left (zpow_le_zpow_right₀ one_le_two (by omega)) (by positivity)
    _ = 2 ^ (format.precision - 1) * 2 ^ format.highest := by
      rw [two_pow_precision wide, zpow_sub_one₀ two_ne_zero]
      ring
    _ ≤ (2 ^ format.precision - 1 / 2) * 2 ^ format.highest := by
      refine mul_le_mul_of_nonneg_right ?_ (by positivity)
      have one : (1 : ℚ) ≤ 2 ^ (format.precision - 1) := one_le_pow₀ one_le_two
      linarith [two_pow_precision wide]

/-- Beyond the highest exponent every number is too large. -/
theorem Approaches.overflow_le (approaches : format.Approaches point significand exponent)
    (wide : 2 ≤ format.precision) (ordered : format.lowest ≤ format.highest)
    (higher : format.highest < exponent) : format.overflow ≤ point :=
  calc ((2 : ℚ) ^ format.precision - 1 / 2) * 2 ^ format.highest
    _ ≤ 2 ^ format.precision * 2 ^ format.highest :=
      mul_le_mul_of_nonneg_right (by linarith) (by positivity)
    _ = 2 ^ (format.precision - 1) * 2 ^ (format.highest + 1) := by
      rw [two_pow_precision wide, zpow_add_one₀ two_ne_zero]
      ring
    _ ≤ 2 ^ (format.precision - 1) * 2 ^ exponent :=
      mul_le_mul_of_nonneg_left (zpow_le_zpow_right₀ one_le_two (by omega)) (by positivity)
    _ ≤ point := (le_div_iff₀ (by positivity)).mp (approaches.full.resolve_left (by omega))

/-- At the highest exponent the numbers that are too large are those that have to be carried. -/
theorem Approaches.overflow_le_iff (approaches : format.Approaches point significand format.highest)
    (wide : 2 ≤ format.precision) :
    format.overflow ≤ point ↔ significand = 2 ^ format.precision := by
  have half := abs_le.mp approaches.half
  rw [overflow, ← le_div_iff₀ (by positivity)]
  constructor
  · intro large
    by_contra some
    have bound : significand + 1 ≤ 2 ^ format.precision :=
      lt_of_le_of_ne approaches.significand_le some
    have bounded : (significand + 1 : ℚ) ≤ 2 ^ format.precision := by exact_mod_cast bound
    -- Only a tie with the significand of all bits is left, and that one is odd.
    have even := approaches.even (by rw [abs_of_nonpos] <;> linarith)
    have last : (significand : ℚ) + 1 = 2 ^ format.precision := by linarith
    have odd : significand + 1 = 2 * 2 ^ (format.precision - 1) := by
      rw [two_mul_two_pow_pred wide]
      exact_mod_cast last
    omega
  · intro all
    rw [all, Nat.cast_pow, Nat.cast_two] at half
    linarith

/-- A number that is too large gets too large an exponent, and no other number does. -/
theorem Approaches.overflow_iff (approaches : format.Approaches point significand exponent)
    (wide : 2 ≤ format.precision) (ordered : format.lowest ≤ format.highest) :
    format.highest < (format.carry significand exponent).exponent ↔ format.overflow ≤ point := by
  obtain ⟨least, most⟩ := le_exponent_carry format significand exponent
  rcases lt_trichotomy exponent format.highest with lower | rfl | higher
  · exact iff_of_false (by omega) (not_le.mpr (approaches.lt_overflow wide lower))
  · rw [approaches.overflow_le_iff wide, carry]
    split
    · next all => exact iff_of_true (Int.lt_succ _) all
    · next some => exact iff_of_false (lt_irrefl _) some
  · exact iff_of_true (by omega) (approaches.overflow_le wide ordered higher)

/-! ### Numbers in order -/

namespace Holds

variable {number : Scaled}

/-- A number of a higher exponent is the greater one. -/
theorem value_lt (holds : format.Holds number) (wide : 2 ≤ format.precision)
    (otherHolds : format.Holds other) (lower : number.exponent < other.exponent) :
    number.value < other.value := by
  have low := holds.lowest
  have full := otherHolds.full.resolve_left (by omega)
  refine (value_lt_of_exponent_lt wide holds.narrow lower).trans_le ?_
  exact mul_le_mul_of_nonneg_right (by exact_mod_cast full) (by positivity)

/-- A number is held in one way only. -/
theorem eq_of_value (holds : format.Holds number) (wide : 2 ≤ format.precision)
    (otherHolds : format.Holds other) (same : number.value = other.value) : number = other := by
  have exponent : number.exponent = other.exponent := by
    rcases lt_trichotomy number.exponent other.exponent with lower | equal | higher
    · exact absurd same (holds.value_lt wide otherHolds lower).ne
    · exact equal
    · exact absurd same (otherHolds.value_lt wide holds higher).ne'
  have significand : (number.significand : ℚ) = other.significand := by
    rw [Scaled.value, Scaled.value, exponent] at same
    exact mul_right_cancel₀ (by positivity) same
  obtain ⟨left, power⟩ := number
  obtain ⟨right, otherPower⟩ := other
  cases exponent
  cases Nat.cast_injective significand
  rfl

/-- Between two numbers with even significands there is another one. -/
theorem exists_between (holds : format.Holds number) (wide : 2 ≤ format.precision)
    (otherHolds : format.Holds other) (even : number.significand % 2 = 0)
    (otherEven : other.significand % 2 = 0) (less : number.value < other.value) :
    ∃ middle, format.Holds middle ∧ number.value < middle.value ∧ middle.value < other.value := by
  have order : number.exponent ≤ other.exponent := by
    by_contra higher
    exact absurd less (not_lt.mpr (otherHolds.value_lt wide holds (not_le.mp higher)).le)
  have step : (0 : ℚ) < 2 ^ number.exponent := by positivity
  refine ⟨⟨number.significand + 1, number.exponent⟩, ⟨?_, holds.lowest, holds.highest, ?_⟩, ?_, ?_⟩
  · have narrow := holds.narrow
    have all := two_mul_two_pow_pred wide
    show number.significand + 1 < 2 ^ format.precision
    omega
  · exact holds.full.imp_right Nat.le_succ_of_le
  · exact mul_lt_mul_of_pos_right (by exact_mod_cast Nat.lt_succ_self _) step
  · rw [Scaled.value_eq_mul order] at less ⊢
    have above : number.significand <
        other.significand * 2 ^ (other.exponent - number.exponent).toNat := by
      exact_mod_cast lt_of_mul_lt_mul_right less step.le
    have steps : other.significand * 2 ^ (other.exponent - number.exponent).toNat % 2 = 0 := by
      rw [Nat.mul_mod, otherEven, Nat.zero_mul]
    have next : number.significand + 1 <
        other.significand * 2 ^ (other.exponent - number.exponent).toNat := by omega
    exact mul_lt_mul_of_pos_right (by exact_mod_cast next) step

end Holds

/-! ### Rounding -/

/-- A quotient is too large for a format from half a step above its greatest number on. -/
theorem round_eq_none_iff (wide : 2 ≤ format.precision) (ordered : format.lowest ≤ format.highest)
    (positive : 0 < denominator) :
    format.round numerator denominator = none ↔
      format.overflow ≤ (numerator / denominator : ℚ) := by
  obtain ⟨significand, exponent, approaches, same⟩ :=
    exists_approaches wide numerator positive ordered
  rw [same, ← approaches.overflow_iff wide ordered]
  simp only [ite_eq_left_iff, reduceCtorEq, imp_false, not_not]

/-- A quotient is rounded to a number of the format, no other number of the format is nearer, and if
another one is as near, then the significand is even. -/
theorem round_nearest (wide : 2 ≤ format.precision) (ordered : format.lowest ≤ format.highest)
    (positive : 0 < denominator) (done : format.round numerator denominator = some rounded) :
    format.Holds rounded ∧ ∀ other, format.Holds other →
      |rounded.value - numerator / denominator| ≤ |other.value - numerator / denominator| ∧
        (|rounded.value - numerator / denominator| = |other.value - numerator / denominator| →
          other.value ≠ rounded.value → rounded.significand % 2 = 0) := by
  obtain ⟨significand, exponent, approaches, same⟩ :=
    exists_approaches wide numerator positive ordered
  obtain ⟨fits, carried⟩ := Option.ite_none_left_eq_some.mp (same.symm.trans done)
  cases carried
  refine ⟨approaches.holds_carry wide (Int.not_lt.mp fits), fun other holds => ?_⟩
  rw [value_carry wide]
  obtain ⟨near, tie⟩ := approaches.nearest wide holds.narrow holds.lowest
  exact ⟨near, fun equal different => carry_mod_two wide (tie equal different)⟩

end Format

end Gamecode.Number
