/-
This file says how long and how large the shortest decimal of a float can be. Zeros at the end of a
decimal can be taken away without moving its first digit, the points of a grid that are tried lie
next to the float, and the grid is fixed by the size of the float. So the decimal of a float of
single width has few places and a small exponent.
-/

import Gamecode.Number.Decimal
import Mathlib.Algebra.Group.Nat.Defs

namespace Gamecode.Number

variable {digits number : Nat} {exponent : Int} {size : Scaled}

/-! ### Numbers of digits -/

theorem digitCount_pos (number : Nat) : 0 < digitCount number :=
  List.length_pos_iff.mpr Nat.toDigits_ne_nil

theorem digitCount_le {count : Nat} (positive : 0 < count) (small : number < 10 ^ count) :
    digitCount number ≤ count :=
  (Nat.length_toDigits_le_iff (by decide) positive).mpr small

/-- The last digit of a number with more than one is one of them. -/
theorem digitCount_of_le (large : 10 ≤ number) :
    digitCount number = digitCount (number / 10) + 1 := by
  unfold digitCount
  rw [Nat.toDigits_of_base_le (by decide) large, List.length_append]
  rfl

/-! ### Zeros at the end -/

/-- Taking zeros away raises the exponent and keeps the place of the first digit. -/
theorem Decimal.go_spec (rounds : Nat) (nonzero : digits ≠ 0) :
    (trimmed.go digits exponent rounds).digits ≠ 0 ∧
      exponent ≤ (trimmed.go digits exponent rounds).exponent ∧
      (trimmed.go digits exponent rounds).exponent +
          digitCount (trimmed.go digits exponent rounds).digits =
        exponent + digitCount digits := by
  induction rounds generalizing digits exponent with
  | zero => exact ⟨nonzero, Int.le_refl exponent, rfl⟩
  | succ rounds inductionHypothesis =>
    unfold trimmed.go
    by_cases divides : digits % 10 = 0 ∧ digits ≠ 0
    · rw [if_pos divides]
      have large : 10 ≤ digits := by omega
      obtain ⟨positive, raised, same⟩ :=
        @inductionHypothesis (digits / 10) (exponent + 1) (by omega)
      refine ⟨positive, by omega, ?_⟩
      rw [same, digitCount_of_le large]
      omega
    · rw [if_neg divides]
      exact ⟨nonzero, Int.le_refl exponent, rfl⟩

/-! ### Points of a grid -/

/-- Only numbers above zero lie in the basin of a number above zero. -/
theorem Basin.ne_zero_of_contains {region : Basin} {step parts point : Nat}
    (above : 0 < region.lower) (positive : 0 < parts)
    (inside : region.contains (point * step) parts = true) : point ≠ 0 := by
  rintro rfl
  have lower : 0 < region.lower * parts := Nat.mul_pos above positive
  unfold contains at inside
  dsimp only at inside
  rw [Nat.zero_mul, Nat.zero_mul] at inside
  split at inside
  · exact absurd (of_decide_eq_true inside).1 (Nat.not_le.mpr lower)
  · exact absurd (of_decide_eq_true inside).1 (Nat.not_lt_zero _)

/-- The best point of a grid is one of the two neighbours of the value, and lies in the basin. -/
theorem Basin.nearestOnGrid?_some {region : Basin} {tie : TieRule} {point : Nat}
    (found : region.nearestOnGrid? tie exponent = some point) :
    region.contains (point * Nat.pow 10 exponent.toNat) (Nat.pow 10 (-exponent).toNat) = true ∧
      point ≤ region.value * Nat.pow 10 (-exponent).toNat + 1 := by
  unfold nearestOnGrid? at found
  dsimp only at found
  have small := Nat.div_le_self (region.value * Nat.pow 10 (-exponent).toNat)
    (region.denominator * Nat.pow 10 exponent.toNat)
  generalize region.value * Nat.pow 10 (-exponent).toNat /
    (region.denominator * Nat.pow 10 exponent.toNat) = below at found small
  split at found
  · cases found
  · next inside _ =>
    cases found
    exact ⟨inside, Nat.le_succ_of_le small⟩
  · next _ inside =>
    cases found
    exact ⟨inside, Nat.succ_le_succ small⟩
  · next first second =>
    have either : point = below ∨ point = below + 1 := by
      split at found
      · exact .inl (Option.some.inj found).symm
      split at found
      · exact .inr (Option.some.inj found).symm
      split at found
      · exact .inr (Option.some.inj found).symm
      split at found
      · exact .inl (Option.some.inj found).symm
      · exact .inr (Option.some.inj found).symm
    rcases either with rfl | rfl
    · exact ⟨first, Nat.le_succ_of_le small⟩
    · exact ⟨second, Nat.succ_le_succ small⟩

/-! ### Floats of single width -/

/-- The magnitude of a quotient differs from that of its digits by one at most. -/
theorem decimalMagnitude_bounds (numerator denominator : Nat) :
    (digitCount numerator : Int) - digitCount denominator ≤ decimalMagnitude numerator denominator ∧
      decimalMagnitude numerator denominator ≤
        (digitCount numerator : Int) - digitCount denominator + 1 := by
  unfold decimalMagnitude
  dsimp only
  split <;> omega

/-- A decimal with few digits, none of them far from the point. -/
structure Decimal.Moderate (decimal : Decimal) : Prop where
  zero : decimal.digits = 0 → decimal.exponent = 0
  lowest : -62 ≤ decimal.exponent
  highest : decimal.exponent + digitCount decimal.digits ≤ 142
  count : digitCount decimal.digits ≤ 103

/-- The sizes of the floats of single width that are not zero. -/
structure Scaled.Single (size : Scaled) : Prop where
  positive : size.significand ≠ 0
  narrow : size.significand < 2 ^ 24
  lowest : -149 ≤ size.exponent
  highest : size.exponent ≤ 104

/-- The numbers that a format holds, each in the one way in which it is written: the leading bit of
the significand is set unless the exponent is the lowest. -/
structure Format.Holds (format : Format) (number : Scaled) : Prop where
  narrow : number.significand < 2 ^ format.precision
  lowest : format.lowest ≤ number.exponent
  highest : number.exponent ≤ format.highest
  full : number.exponent = format.lowest ∨ 2 ^ (format.precision - 1) ≤ number.significand

theorem holds_of_denote {slot : Slot} {negative : Bool}
    (known : denote slot = .finite negative size) : single.Holds size := by
  unfold denote at known
  dsimp only at known
  split at known
  · split at known <;> cases known
  split at known <;> cases known <;> constructor <;> dsimp only [single] <;> omega

theorem Scaled.single_of_denote {slot : Slot} {negative : Bool}
    (known : denote slot = .finite negative size) (positive : size.significand ≠ 0) :
    size.Single := by
  obtain ⟨narrow, lowest, highest, -⟩ := holds_of_denote known
  exact ⟨positive, narrow, lowest, highest⟩

/-- The value of a basin lies below `2 ^ 130`, and its denominator is at most `2 ^ 151`. -/
theorem Scaled.Single.basin_bounds (single : size.Single) (format : Format) :
    0 < (basin format size).lower ∧ (basin format size).value < 10 ^ 40 ∧
      (basin format size).denominator < 10 ^ 46 := by
  obtain ⟨positive, narrow, lowest, highest⟩ := single
  have scale : 2 ^ size.exponent.toNat ≤ 2 ^ 104 :=
    Nat.pow_le_pow_right Nat.two_pos (by omega)
  have unit : 2 ^ (-size.exponent).toNat ≤ 2 ^ 149 :=
    Nat.pow_le_pow_right Nat.two_pos (by omega)
  refine ⟨?_, ?_, ?_⟩
  · show 0 < (4 * size.significand - _) * 2 ^ size.exponent.toNat
    refine Nat.mul_pos ?_ (Nat.two_pow_pos _)
    split <;> omega
  · show 4 * size.significand * 2 ^ size.exponent.toNat < 10 ^ 40
    calc 4 * size.significand * 2 ^ size.exponent.toNat
      _ ≤ 4 * 2 ^ 24 * 2 ^ 104 :=
        Nat.mul_le_mul (Nat.mul_le_mul_left 4 (Nat.le_of_lt narrow)) scale
      _ < 10 ^ 40 := by decide
  · show 4 * 2 ^ (-size.exponent).toNat < 10 ^ 46
    exact Nat.lt_of_le_of_lt (Nat.mul_le_mul_left 4 unit) (by decide)

/-- The shortest decimal of a float of single width is moderate. -/
theorem Scaled.Single.moderate_shortest (small : size.Single) (tie : TieRule) :
    (shortest single tie size).Moderate := by
  obtain ⟨above, valueBound, denominatorBound⟩ := small.basin_bounds Number.single
  unfold shortest
  dsimp only
  generalize basin Number.single size = region at above valueBound denominatorBound
  have valueCount := digitCount_le (by decide) valueBound
  have denominatorCount := digitCount_le (by decide) denominatorBound
  have valuePositive := digitCount_pos region.value
  have denominatorPositive := digitCount_pos region.denominator
  obtain ⟨lower, upper⟩ := decimalMagnitude_bounds region.value region.denominator
  generalize decimalMagnitude region.value region.denominator = magnitude at lower upper
  cases attempted : (List.range' 1 17).findSome? fun length : Nat =>
      (region.nearestOnGrid? tie (magnitude - length)).map fun digits =>
        Decimal.trimmed ⟨digits, magnitude - length⟩ with
  | none => exact ⟨fun _ => rfl, by decide, by decide, by decide⟩
  | some decimal =>
    obtain ⟨length, member, found⟩ := List.exists_of_findSome?_eq_some attempted
    obtain ⟨point, nearest, rfl⟩ := Option.map_eq_some_iff.mp found
    obtain ⟨first, last⟩ : 1 ≤ length ∧ length ≤ 17 := by
      have range := List.mem_range'_1.mp member
      omega
    obtain ⟨inside, bound⟩ := Basin.nearestOnGrid?_some nearest
    have nonzero := Basin.ne_zero_of_contains above (Nat.pow_pos (by decide)) inside
    have count : digitCount point ≤ 103 := by
      refine digitCount_le (by decide) (Nat.lt_of_le_of_lt bound ?_)
      have parts : 10 ^ (-(magnitude - length)).toNat ≤ 10 ^ 62 :=
        Nat.pow_le_pow_right (by decide) (by omega)
      calc region.value * 10 ^ (-(magnitude - length)).toNat + 1
        _ ≤ 10 ^ 40 * 10 ^ 62 + 1 :=
          Nat.add_le_add_right (Nat.mul_le_mul (Nat.le_of_lt valueBound) parts) 1
        _ < 10 ^ 103 := by decide
    obtain ⟨kept, raised, same⟩ :=
      @Decimal.go_spec point (magnitude - length) (digitCount point) nonzero
    have trimmed : Decimal.trimmed ⟨point, magnitude - length⟩ =
      Decimal.trimmed.go point (magnitude - length) (digitCount point) := rfl
    rw [Option.getD_some, trimmed]
    exact ⟨fun zero => absurd zero kept, by omega, by omega, by omega⟩

end Gamecode.Number
