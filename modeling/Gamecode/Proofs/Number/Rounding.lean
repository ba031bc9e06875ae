/-
This file says when rounding has a result. A quotient that is small against the greatest number of a
format is rounded to a number of the format, and the result is not much greater than the quotient.
So a significand of 64 bits times a power of ten can be had as a float of double width as long as
the power is not far from the middle of the range.
-/

import Gamecode.Json.Node
import Mathlib.Algebra.Group.Nat.Defs

namespace Gamecode.Number

variable {format : Format} {numerator denominator : Nat} {rounded : Scaled}

/-! ### Exponents -/

theorem log2_le_of_lt {bound : Nat} (nonzero : numerator ≠ 0)
    (less : numerator < denominator * 2 ^ bound) :
    numerator.log2 ≤ denominator.log2 + bound := by
  refine Nat.le_of_lt_succ ((Nat.log2_lt nonzero).mpr ?_)
  have above : denominator < 2 ^ (denominator.log2 + 1) := Nat.lt_log2_self
  calc numerator
    _ < denominator * 2 ^ bound := less
    _ ≤ 2 ^ (denominator.log2 + 1) * 2 ^ bound := Nat.mul_le_mul_right _ (Nat.le_of_lt above)
    _ = 2 ^ (denominator.log2 + bound + 1) := by rw [← Nat.pow_add]; congr 1; omega

/-- The exponent at which a quotient is rounded does not go far beyond its size. -/
theorem exponentOf_le {bound : Nat} (nonzero : numerator ≠ 0)
    (less : numerator < denominator * 2 ^ bound) :
    format.exponentOf numerator denominator ≤
      max format.lowest ((bound : Int) - format.precision + 1) := by
  have logs := log2_le_of_lt nonzero less
  unfold Format.exponentOf
  dsimp only
  split <;> omega

theorem exists_round {bound : Nat} (less : numerator < denominator * 2 ^ bound)
    (low : format.lowest < format.highest)
    (high : (bound : Int) - format.precision + 1 < format.highest) :
    ∃ rounded, format.round numerator denominator = some rounded := by
  unfold Format.round
  by_cases zero : numerator = 0
  · rw [if_pos zero]
    exact ⟨_, rfl⟩
  · rw [if_neg zero]
    have exponent := @exponentOf_le format numerator denominator bound zero less
    dsimp only
    rw [if_neg]
    · exact ⟨_, rfl⟩
    · split <;> dsimp only <;> omega

/-! ### Sizes -/

/-- Rounding to an integer adds one at most. -/
theorem divideToNearest_mul_le (numerator denominator : Nat) :
    divideToNearest numerator denominator * denominator ≤ numerator + denominator := by
  have quotient : numerator / denominator * denominator ≤ numerator := Nat.div_mul_le_self _ _
  have upper : divideToNearest numerator denominator ≤ numerator / denominator + 1 := by
    unfold divideToNearest
    dsimp only
    split
    · omega
    · split
      · omega
      · split <;> omega
  calc divideToNearest numerator denominator * denominator
    _ ≤ (numerator / denominator + 1) * denominator := Nat.mul_le_mul_right _ upper
    _ = numerator / denominator * denominator + denominator := Nat.succ_mul _ _
    _ ≤ numerator + denominator := Nat.add_le_add_right quotient _

/-- One unit of the last place is at most the quotient, or at most one. -/
theorem unit_le (nonzero : numerator ≠ 0) (low : format.lowest ≤ 0) (wide : 2 ≤ format.precision) :
    denominator * 2 ^ (format.exponentOf numerator denominator).toNat ≤
      numerator + denominator := by
  by_cases small : format.exponentOf numerator denominator ≤ 0
  · rw [Int.toNat_of_nonpos small, Nat.pow_zero, Nat.mul_one]
    exact Nat.le_add_left _ _
  · have below : denominator < 2 ^ (denominator.log2 + 1) := Nat.lt_log2_self
    have exponent : denominator.log2 + 1 + (format.exponentOf numerator denominator).toNat ≤
        numerator.log2 := by
      unfold Format.exponentOf at small ⊢
      dsimp only at small ⊢
      split at small <;> split <;> omega
    calc denominator * 2 ^ (format.exponentOf numerator denominator).toNat
      _ ≤ 2 ^ (denominator.log2 + 1) * 2 ^ (format.exponentOf numerator denominator).toNat :=
        Nat.mul_le_mul_right _ (Nat.le_of_lt below)
      _ ≤ 2 ^ numerator.log2 := by
        rw [← Nat.pow_add]
        exact Nat.pow_le_pow_right Nat.two_pos exponent
      _ ≤ numerator := Nat.log2_self_le nonzero
      _ ≤ numerator + denominator := Nat.le_add_right _ _

/-- A significand of all bits and one more is the next power of two at the next exponent. -/
theorem carry_le {precision size bound : Nat} {exponent : Int} (wide : 1 ≤ precision)
    (whole : 2 ^ precision * 2 ^ exponent.toNat * size ≤ bound * 2 ^ (-exponent).toNat) :
    2 ^ (precision - 1) * 2 ^ (exponent + 1).toNat * size ≤
      bound * 2 ^ (-(exponent + 1)).toNat := by
  have double : 2 ^ precision = 2 ^ (precision - 1) * 2 := by
    rw [← Nat.pow_succ, Nat.succ_eq_add_one, Nat.sub_add_cancel wide]
  rw [double] at whole
  rcases Int.lt_or_le exponent 0 with negative | natural
  · rw [show exponent.toNat = 0 by omega,
      show (-exponent).toNat = (-(exponent + 1)).toNat + 1 by omega, Nat.pow_succ, Nat.pow_zero,
      Nat.mul_one, Nat.mul_right_comm, ← Nat.mul_assoc] at whole
    rw [show (exponent + 1).toNat = 0 by omega, Nat.pow_zero, Nat.mul_one]
    exact Nat.le_of_mul_le_mul_right whole Nat.two_pos
  · rw [show (-exponent).toNat = 0 by omega, Nat.mul_assoc _ 2, ← Nat.pow_succ'] at whole
    rw [show (exponent + 1).toNat = exponent.toNat.succ by omega,
      show (-(exponent + 1)).toNat = 0 by omega]
    exact whole

/-- A rounded number is at most twice the quotient and one. -/
theorem round_le (low : format.lowest ≤ 0) (wide : 2 ≤ format.precision)
    (done : format.round numerator denominator = some rounded) :
    rounded.numerator * denominator ≤ (2 * numerator + denominator) * rounded.denominator := by
  unfold Format.round at done
  by_cases zero : numerator = 0
  · rw [if_pos zero] at done
    cases done
    rw [Scaled.numerator, Nat.zero_mul, Nat.zero_mul]
    exact Nat.zero_le _
  rw [if_neg zero] at done
  have unit := @unit_le format numerator denominator zero low wide
  generalize format.exponentOf numerator denominator = exponent at done unit
  have nearest := divideToNearest_mul_le (numerator * Nat.pow 2 (-exponent).toNat)
    (denominator * Nat.pow 2 exponent.toNat)
  dsimp only at done
  generalize divideToNearest (numerator * Nat.pow 2 (-exponent).toNat)
    (denominator * Nat.pow 2 exponent.toNat) = significand at done nearest
  have whole : significand * 2 ^ exponent.toNat * denominator ≤
      (2 * numerator + denominator) * 2 ^ (-exponent).toNat :=
    calc significand * 2 ^ exponent.toNat * denominator
      _ = significand * (denominator * 2 ^ exponent.toNat) := by
        rw [Nat.mul_assoc, Nat.mul_comm denominator]
      _ ≤ numerator * 2 ^ (-exponent).toNat + denominator * 2 ^ exponent.toNat := nearest
      _ ≤ numerator * 2 ^ (-exponent).toNat + (numerator + denominator) * 2 ^ (-exponent).toNat :=
        Nat.add_le_add_left (Nat.le_trans unit (Nat.le_mul_of_pos_right _ (Nat.two_pow_pos _))) _
      _ = (2 * numerator + denominator) * 2 ^ (-exponent).toNat := by
        rw [← Nat.add_mul, Nat.two_mul, Nat.add_assoc]
  obtain ⟨-, same⟩ := Option.ite_none_left_eq_some.mp done
  rw [← Option.some.inj same]
  split
  · next full =>
    rw [full] at whole
    exact carry_le (Nat.le_of_succ_le wide) whole
  · exact whole

/-! ### Powers of ten -/

/-- A power of ten as a float of double width is at least one, and up to the 250th one it leaves
room for a factor of 64 bits. -/
theorem powerOfTen_bounds : ∀ exponent < 309,
    (Json.powerOfTen exponent).denominator ≤ (Json.powerOfTen exponent).numerator ∧
      (exponent ≤ 250 → (Json.powerOfTen exponent).numerator ≤
        2 ^ 900 * (Json.powerOfTen exponent).denominator) := by
  decide +kernel

theorem Scaled.denominator_pos (number : Scaled) : 0 < number.denominator :=
  Nat.two_pow_pos _

/-- A quotient that is not too large can be rounded to double width. -/
theorem exists_round_double {bound : Nat} (positive : 0 < denominator)
    (small : numerator ≤ 2 ^ bound * denominator) (inside : bound ≤ 1000) :
    ∃ number, double.round numerator denominator = some number := by
  have low : double.lowest < double.highest := by decide
  have high : ((bound + 1 : Nat) : Int) - double.precision + 1 < double.highest := by
    show ((bound + 1 : Nat) : Int) - 53 + 1 < 971
    omega
  refine exists_round (Nat.lt_of_le_of_lt small ?_) low high
  rw [Nat.mul_comm]
  exact Nat.mul_lt_mul_of_pos_left
    (Nat.pow_lt_pow_right (by decide) (Nat.lt_succ_self bound)) positive

/-- Multiplying and dividing by powers of ten that are not too far from one keeps a number of double
width. -/
theorem exists_product {left right : Scaled} {leftBound rightBound : Nat}
    (first : left.numerator ≤ 2 ^ leftBound * left.denominator)
    (second : right.numerator ≤ 2 ^ rightBound * right.denominator)
    (together : leftBound + rightBound ≤ 1000) :
    ∃ number, Json.product left right = some number := by
  refine exists_round_double (Nat.mul_pos left.denominator_pos right.denominator_pos) ?_ together
  calc left.numerator * right.numerator
    _ ≤ 2 ^ leftBound * left.denominator * (2 ^ rightBound * right.denominator) :=
      Nat.mul_le_mul first second
    _ = 2 ^ (leftBound + rightBound) * (left.denominator * right.denominator) := by
      rw [Nat.mul_mul_mul_comm, ← Nat.pow_add]

theorem exists_quotient {left right : Scaled} {leftBound : Nat}
    (first : left.numerator ≤ 2 ^ leftBound * left.denominator)
    (second : right.denominator ≤ right.numerator) (inside : leftBound ≤ 1000) :
    ∃ number, Json.quotient left right = some number := by
  have positive := Nat.lt_of_lt_of_le right.denominator_pos second
  refine exists_round_double (Nat.mul_pos left.denominator_pos positive) ?_ inside
  calc left.numerator * right.denominator
    _ ≤ 2 ^ leftBound * left.denominator * right.numerator := Nat.mul_le_mul first second
    _ = 2 ^ leftBound * (left.denominator * right.numerator) := Nat.mul_assoc _ _ _

/-- Up to the greatest power of ten of double width, one division is enough. -/
theorem shrink_eq_quotient {rounds exponent : Nat} {size : Scaled}
    (inside : exponent ≤ Json.maxPower) :
    Json.shrink (rounds + 1) size exponent = Json.quotient size (Json.powerOfTen exponent) :=
  -- The equation of `shrink` is out of reach: to state it, Lean would compute the greatest power.
  if_pos inside

/-- A significand of 64 bits times a power of ten is a float of double width, unless the power is
too far from one. -/
theorem exists_scaledBy {significand : Nat} {exponent : Int} (narrow : significand < 2 ^ 64)
    (lower : -308 ≤ exponent) (upper : exponent ≤ 250) :
    ∃ number, Json.scaledBy significand exponent = some number := by
  obtain ⟨size, rounded⟩ : ∃ size, double.round significand 1 = some size :=
    exists_round_double Nat.one_pos (by rw [Nat.mul_one]; exact Nat.le_of_lt narrow) (by decide)
  have bound : size.numerator ≤ 2 ^ 66 * size.denominator := by
    have twice := round_le (by decide) (by decide) rounded
    rw [Nat.mul_one] at twice
    exact Nat.le_trans twice (Nat.mul_le_mul_right _ (by omega))
  have greatest : Json.maxPower = 308 := rfl
  unfold Json.scaledBy
  rw [rounded]
  dsimp only
  by_cases negative : exponent < 0
  · rw [if_pos negative]
    obtain ⟨power, same⟩ : ∃ power : Nat, power = (-exponent).toNat := ⟨_, rfl⟩
    have inside : power ≤ Json.maxPower := by omega
    rw [← same, shrink_eq_quotient inside]
    exact exists_quotient bound (powerOfTen_bounds power (by omega)).1 (by decide)
  · rw [if_neg negative]
    obtain ⟨power, same⟩ : ∃ power : Nat, power = exponent.toNat := ⟨_, rfl⟩
    have inside : exponent ≤ (Json.maxPower : Int) := by omega
    rw [if_pos inside, ← same]
    exact exists_product bound ((powerOfTen_bounds power (by omega)).2 (by omega)) (by decide)

end Gamecode.Number
