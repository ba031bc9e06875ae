/-
This file says what correct rounding to a float is, and that it is done. A finite float stands for
an exact number, and its pattern is made of the parts of that number. The nearest float to a number
is one that no other float is nearer to, of two the one with an even last bit; beyond half a step
above the greatest float it is infinity. There is just one such float for every number with a sign,
and quotients and decimals are rounded to it, however many digits they have.
-/

import Gamecode.Proofs.Number.Grid
import Gamecode.Number.Numeral
import Mathlib.Data.Nat.Bitwise

namespace Gamecode.Number

variable {negative : Bool} {slot : Slot} {size number other : Scaled}

/-! ### Patterns of finite floats -/

theorem isNegative_eq (slot : Slot) : slot.isNegative = decide (2 ^ 31 ≤ slot.toNat) := by
  have bit : (slot &&& 0x80000000).toNat = (slot.toNat.testBit 31).toNat * 2 ^ 31 := by
    rw [UInt32.toNat_and]
    exact Nat.and_two_pow slot.toNat 31
  have bound := slot.toNat_lt
  rw [Slot.isNegative, Bool.eq_iff_iff, bne_iff_ne, ne_eq, ← UInt32.toNat_inj, bit,
    Nat.testBit_eq_decide_div_mod_eq, decide_eq_true_iff]
  by_cases set : slot.toNat / 2 ^ 31 % 2 = 1
  · rw [decide_eq_true set]
    exact iff_of_true (by decide) (by omega)
  · rw [decide_eq_false set]
    exact iff_of_false (not_not.mpr rfl) (by omega)

theorem isNegative_of_denote (known : denote slot = .finite negative size) :
    slot.isNegative = negative := by
  unfold denote at known
  dsimp only at known
  split at known
  · split at known <;> cases known
  split at known <;> cases known <;> rfl

theorem toNat_of_denote (known : denote slot = .finite negative size) :
    slot.toNat = (if negative then 2 ^ 31 else 0) +
      ((size.exponent + 149).toNat * 0x800000 + size.significand) := by
  have bound := slot.toNat_lt
  have sign := isNegative_eq slot
  rw [isNegative_of_denote known] at sign
  rw [sign]
  unfold denote at known
  dsimp only at known
  split at known
  · split at known <;> cases known
  split at known <;> cases known <;> dsimp only
  all_goals
    by_cases high : 2 ^ 31 ≤ slot.toNat
    · rw [decide_eq_true high, if_pos rfl]
      omega
    · rw [decide_eq_false high, if_neg Bool.false_ne_true]
      omega

/-- The last bit of a pattern is that of the significand. -/
theorem significand_mod_two (known : denote slot = .finite negative size) :
    size.significand % 2 = slot.toNat % 2 := by
  rw [toNat_of_denote known]
  split <;> omega

theorem toNat_signBit_or {bits : ℕ} (small : bits < 2 ^ 31) :
    (signBit negative ||| UInt32.ofNat bits).toNat = (if negative then 2 ^ 31 else 0) + bits := by
  have stored : (UInt32.ofNat bits).toNat = bits :=
    UInt32.toNat_ofNat_of_lt' (small.trans (by decide))
  rw [UInt32.toNat_or, stored]
  cases negative with
  | false => exact (Nat.zero_or bits).trans (Nat.zero_add bits).symm
  | true => exact (Nat.two_pow_add_eq_or_of_lt small 1).symm

/-- A number of the format of slots is what its slot stands for. -/
theorem denote_pack (negative : Bool) (holds : single.Holds number) :
    denote (pack negative number) = .finite negative number := by
  obtain ⟨narrow, lowest, highest, full⟩ := holds
  obtain ⟨significand, exponent⟩ := number
  dsimp only [single] at narrow lowest highest full
  have small : (exponent + 149).toNat * 0x800000 + significand < 2 ^ 31 := by omega
  have stored : (pack negative ⟨significand, exponent⟩).toNat =
      (if negative then 2 ^ 31 else 0) + ((exponent + 149).toNat * 0x800000 + significand) :=
    toNat_signBit_or small
  have sign : (pack negative ⟨significand, exponent⟩).isNegative = negative := by
    rw [isNegative_eq, stored]
    cases negative
    · exact decide_eq_false (by simpa using small)
    · exact decide_eq_true (Nat.le_add_right _ _)
  generalize pack negative ⟨significand, exponent⟩ = slot at stored sign
  have offset : slot.toNat % 2 ^ 31 = (exponent + 149).toNat * 0x800000 + significand := by
    rw [stored]
    split <;> omega
  unfold denote
  dsimp only
  rw [sign]
  by_cases leading : 2 ^ 23 ≤ significand
  · have field : slot.toNat / 0x800000 % 0x100 = (exponent + 150).toNat := by omega
    have fraction : slot.toNat % 0x800000 = significand - 2 ^ 23 := by omega
    have whole : 0x800000 + (significand - 2 ^ 23) = significand := by omega
    have place : ((exponent + 150).toNat : ℤ) - 150 = exponent := by omega
    rw [field, fraction, if_neg (by omega), if_neg (by omega), whole, place]
  · have field : slot.toNat / 0x800000 % 0x100 = 0 := by omega
    have fraction : slot.toNat % 0x800000 = significand := by omega
    rw [field, fraction, if_neg (by decide), if_pos rfl, full.resolve_right leading]

theorem pack_of_denote (known : denote slot = .finite negative size) :
    pack negative size = slot := by
  obtain ⟨narrow, lowest, highest, full⟩ := holds_of_denote known
  dsimp only [single] at narrow lowest highest full
  have small : (size.exponent + 149).toNat * 0x800000 + size.significand < 2 ^ 31 := by omega
  exact UInt32.toNat_inj.mp ((toNat_signBit_or small).trans (toNat_of_denote known).symm)

/-! ### Values of floats -/

/-- A size with a sign. -/
def signed (negative : Bool) (size : ℚ) : ℚ :=
  if negative then -size else size

/-- The number that a float stands for, if it is finite. -/
def value? (slot : Slot) : Option ℚ :=
  match denote slot with
  | .finite negative size => some (signed negative size.value)
  | _ => none

/-- A float is what a number is rounded to: no other float is nearer, and of two that are equally
near it is the one with an even last bit. -/
structure IsNearest (target : ℚ) (slot : Slot) (value : ℚ) : Prop where
  known : value? slot = some value
  near : ∀ {other : Slot} {number : ℚ}, value? other = some number →
    |value - target| ≤ |number - target|
  even : ∀ {other : Slot} {number : ℚ}, value? other = some number → number ≠ value →
    |value - target| = |number - target| → slot.toNat % 2 = 0

/-- A float is what a size with a sign is rounded to: the nearest float, or infinity from half a
step above the greatest float on. The sign is kept in either case, and by a zero too. -/
structure RoundsTo (negative : Bool) (size : ℚ) (slot : Slot) : Prop where
  sign : slot.isNegative = negative
  nearest : size < single.overflow → ∃ value, IsNearest (signed negative size) slot value
  infinite : single.overflow ≤ size → slot = infinity negative

theorem value?_of_denote (known : denote slot = .finite negative size) :
    value? slot = some (signed negative size.value) := by
  unfold value?
  rw [known]

theorem exists_denote {value : ℚ} (known : value? slot = some value) :
    ∃ negative size, denote slot = .finite negative size ∧ value = signed negative size.value := by
  unfold value? at known
  split at known
  · next negative size denoted => exact ⟨negative, size, denoted, (Option.some.inj known).symm⟩
  · cases known

theorem abs_signed (negative : Bool) (size : ℚ) : |signed negative size| = |size| := by
  unfold signed
  split
  · exact abs_neg size
  · rfl

theorem abs_signed_sub_signed (negative : Bool) (left right : ℚ) :
    |signed negative left - signed negative right| = |left - right| := by
  unfold signed
  split
  · rw [neg_sub_neg, abs_sub_comm]
  · rfl

theorem signed_injective {left right : ℚ} (same : signed negative left = signed negative right) :
    left = right := by
  have apart := abs_signed_sub_signed negative left right
  rw [same, sub_self, abs_zero] at apart
  exact sub_eq_zero.mp (abs_eq_zero.mp apart.symm)

theorem Scaled.value_nonneg (number : Scaled) : 0 ≤ number.value := by
  unfold value
  positivity

/-- Sizes of different signs are as far apart as both together. -/
theorem abs_signed_sub_of_ne {first second : Bool} {left right : ℚ} (different : first ≠ second)
    (leftNonneg : 0 ≤ left) (rightNonneg : 0 ≤ right) :
    |signed first left - signed second right| = left + right := by
  unfold signed
  cases first <;> cases second
  · exact absurd rfl different
  · rw [if_neg Bool.false_ne_true, if_pos rfl, sub_neg_eq_add, abs_of_nonneg (by positivity)]
  · rw [if_pos rfl, if_neg Bool.false_ne_true, abs_of_nonpos (by linarith), neg_sub, sub_neg_eq_add,
      add_comm]
  · exact absurd rfl different

/-! ### Rounding to floats -/

/-- A number of the format of slots is as near to a size as all others, and even on a tie. -/
def Scaled.IsNearestTo (number : Scaled) (size : ℚ) : Prop :=
  ∀ other, single.Holds other → |number.value - size| ≤ |other.value - size| ∧
    (|number.value - size| = |other.value - size| → other.value ≠ number.value →
      number.significand % 2 = 0)

variable {target : ℚ}

theorem holds_zero : single.Holds ⟨0, -149⟩ :=
  ⟨by decide, by decide, by decide, .inl rfl⟩

theorem Scaled.value_eq_zero (none : number.significand = 0) : number.value = 0 := by
  rw [value, none, Nat.cast_zero, zero_mul]

/-- A zero is as far from a size as the size is large. -/
theorem Scaled.abs_value_sub (zero : number.value = 0) (nonneg : 0 ≤ target) :
    |number.value - target| = target := by
  rw [zero, zero_sub, abs_neg, abs_of_nonneg nonneg]

/-- Floats of the other sign are no nearer, and as near only if they are as near with their own sign
changed. -/
theorem Scaled.IsNearestTo.isNearest (nearest : number.IsNearestTo target) (nonneg : 0 ≤ target)
    (holds : single.Holds number) (negative : Bool) :
    IsNearest (signed negative target) (pack negative number) (signed negative number.value) where
  known := value?_of_denote (denote_pack negative holds)
  near found := by
    obtain ⟨sign, other, denoted, rfl⟩ := exists_denote found
    have near := (nearest other (holds_of_denote denoted)).1
    rw [abs_signed_sub_signed]
    by_cases same : sign = negative
    · rwa [same, abs_signed_sub_signed]
    · rw [abs_signed_sub_of_ne same other.value_nonneg nonneg]
      have above := other.value_nonneg
      exact near.trans (abs_le.mpr ⟨by linarith, by linarith⟩)
  even found different tie := by
    obtain ⟨sign, other, denoted, rfl⟩ := exists_denote found
    obtain ⟨near, even⟩ := nearest other (holds_of_denote denoted)
    rw [← significand_mod_two (denote_pack negative holds)]
    rw [abs_signed_sub_signed] at tie
    by_cases same : sign = negative
    · rw [same, abs_signed_sub_signed] at tie
      exact even tie fun equal => different (by rw [same, equal])
    · -- As zero is no nearer, the other float is a zero, and a zero has its own sign changed.
      rw [abs_signed_sub_of_ne same other.value_nonneg nonneg] at tie
      have zeroNear := (nearest _ holds_zero).1
      rw [abs_value_sub (@value_eq_zero ⟨0, -149⟩ rfl) nonneg, tie] at zeroNear
      have zero : other.value = 0 := le_antisymm (by linarith) other.value_nonneg
      have unsigned (sign : Bool) : signed sign 0 = 0 := by cases sign <;> simp [signed]
      rw [zero, zero_add] at tie
      rw [zero, unsigned] at different
      refine even (tie.trans (abs_value_sub zero nonneg).symm) fun equal => different ?_
      rw [← equal, zero, unsigned]

/-- The slot of a nearest number is what the size is rounded to. -/
theorem Scaled.IsNearestTo.roundsTo (nearest : number.IsNearestTo target) (nonneg : 0 ≤ target)
    (holds : single.Holds number) (inside : target < single.overflow) (negative : Bool) :
    RoundsTo negative target (pack negative number) where
  sign := isNegative_of_denote (denote_pack negative holds)
  nearest _ := ⟨_, nearest.isNearest nonneg holds negative⟩
  infinite large := absurd large (not_le.mpr inside)

theorem isNegative_infinity (negative : Bool) : (infinity negative).isNegative = negative := by
  cases negative <;> decide

/-- A quotient is rounded correctly. -/
theorem roundsTo_ofQuotient (negative : Bool) (numerator : ℕ) {denominator : ℕ}
    (positive : 0 < denominator) :
    RoundsTo negative (numerator / denominator) (ofQuotient negative numerator denominator) := by
  have wide : 2 ≤ single.precision := by decide
  have ordered : single.lowest ≤ single.highest := by decide
  have tooLarge := @Format.round_eq_none_iff single numerator denominator wide ordered positive
  unfold ofQuotient
  cases done : single.round numerator denominator with
  | none =>
    refine ⟨isNegative_infinity negative, fun small => ?_, fun _ => rfl⟩
    exact absurd (tooLarge.mp done) (not_le.mpr small)
  | some number =>
    obtain ⟨holds, nearest⟩ := Format.round_nearest wide ordered positive done
    have inside : (numerator / denominator : ℚ) < single.overflow :=
      not_le.mp fun large => Option.some_ne_none _ (done.symm.trans (tooLarge.mpr large))
    exact Scaled.IsNearestTo.roundsTo nearest (by positivity) holds inside negative

theorem signBit_eq_pack (negative : Bool) : signBit negative = pack negative ⟨0, -149⟩ := by
  cases negative <;> rfl

/-- Half of the least float that is not zero, and anything less, is rounded to zero. -/
theorem roundsTo_signBit (negative : Bool) (nonneg : 0 ≤ target) (small : target ≤ 2 ^ (-150 : ℤ)) :
    RoundsTo negative target (signBit negative) := by
  have nearest : Scaled.IsNearestTo ⟨0, -149⟩ target := by
    refine fun other holds => ⟨?_, fun _ _ => rfl⟩
    rw [Scaled.abs_value_sub (Scaled.value_eq_zero rfl) nonneg]
    by_cases zero : other.significand = 0
    · rw [Scaled.abs_value_sub (Scaled.value_eq_zero zero) nonneg]
    · have least : (2 : ℚ) ^ (-149 : ℤ) ≤ other.value :=
        calc (2 : ℚ) ^ (-149 : ℤ)
          _ ≤ 2 ^ other.exponent := zpow_le_zpow_right₀ one_le_two holds.lowest
          _ ≤ other.value :=
            le_mul_of_one_le_left (by positivity)
              (by exact_mod_cast Nat.one_le_iff_ne_zero.mpr zero)
      have double : (2 : ℚ) ^ (-149 : ℤ) = 2 * 2 ^ (-150 : ℤ) := by norm_num
      rw [abs_of_nonneg] <;> linarith
  have inside : (2 : ℚ) ^ (-150 : ℤ) < single.overflow := by norm_num [Format.overflow, single]
  rw [signBit_eq_pack]
  exact nearest.roundsTo nonneg holds_zero (small.trans_lt inside) negative

/-! ### Decimals -/

theorem Decimal.value_nonneg (decimal : Decimal) : 0 ≤ decimal.value := by
  unfold value
  positivity

/-- The number of digits and the exponent say how large a decimal is. -/
theorem Decimal.value_lt (decimal : Decimal) :
    decimal.value < 10 ^ ((digitCount decimal.digits : ℤ) + decimal.exponent) := by
  have bound : decimal.digits < 10 ^ digitCount decimal.digits :=
    (Nat.length_toDigits_le_iff (by decide) (digitCount_pos _)).mp le_rfl
  rw [value, zpow_add₀ (by norm_num), zpow_natCast]
  exact mul_lt_mul_of_pos_right (by exact_mod_cast bound) (by positivity)

theorem Decimal.le_value (decimal : Decimal) (nonzero : decimal.digits ≠ 0) :
    10 ^ ((digitCount decimal.digits : ℤ) + decimal.exponent - 1) ≤ decimal.value := by
  obtain ⟨count, same⟩ : ∃ count, digitCount decimal.digits = count + 1 :=
    ⟨_, (Nat.sub_add_cancel (digitCount_pos _)).symm⟩
  have bound : 10 ^ count ≤ decimal.digits := by
    rcases Nat.eq_zero_or_pos count with rfl | positive
    · exact Nat.one_le_iff_ne_zero.mpr nonzero
    · by_contra less
      have fewer := digitCount_le positive (Nat.lt_of_not_le less)
      omega
  rw [same, value, Nat.cast_succ, add_right_comm, add_sub_cancel_right, zpow_add₀ (by norm_num),
    zpow_natCast]
  exact mul_le_mul_of_nonneg_right (by exact_mod_cast bound) (by positivity)

/-- A decimal is rounded correctly, however many digits it has. -/
theorem roundsTo_ofDecimal (negative : Bool) (decimal : Decimal) :
    RoundsTo negative decimal.value (ofDecimal negative decimal) := by
  unfold ofDecimal
  dsimp only
  split
  · next zero =>
    refine roundsTo_signBit negative decimal.value_nonneg ?_
    rw [Decimal.value, zero, Nat.cast_zero, zero_mul]
    positivity
  next nonzero =>
  split
  · next large =>
    have beyond : single.overflow ≤ decimal.value :=
      calc single.overflow
        _ ≤ 10 ^ (40 : ℤ) := by norm_num [Format.overflow, single]
        _ ≤ 10 ^ ((digitCount decimal.digits : ℤ) + decimal.exponent - 1) :=
          zpow_le_zpow_right₀ (by norm_num) (by omega)
        _ ≤ decimal.value := decimal.le_value nonzero
    exact ⟨isNegative_infinity negative, fun small => absurd beyond (not_le.mpr small),
      fun _ => rfl⟩
  split
  · next tiny =>
    refine roundsTo_signBit negative decimal.value_nonneg (decimal.value_lt.le.trans ?_)
    calc (10 : ℚ) ^ ((digitCount decimal.digits : ℤ) + decimal.exponent)
      _ ≤ 10 ^ (-47 : ℤ) := zpow_le_zpow_right₀ (by norm_num) (by omega)
      _ ≤ 2 ^ (-150 : ℤ) := by norm_num
  · rw [← decimal.numerator_div_denominator]
    exact roundsTo_ofQuotient negative decimal.numerator (Nat.pow_pos (by decide))

/-! ### No choice -/

/-- Of two even numbers that are equally near the first is not the smaller one, as a number between
them would be nearer. -/
theorem IsNearest.not_lt_of_tie {target : ℚ}
    (nearest : IsNearest (signed negative target) slot (signed negative size.value))
    (holds : single.Holds size) (otherHolds : single.Holds other) (even : size.significand % 2 = 0)
    (otherEven : other.significand % 2 = 0) (tie : |size.value - target| = |other.value - target|) :
    ¬ size.value < other.value := by
  intro less
  obtain ⟨middle, middleHolds, above, below⟩ :=
    holds.exists_between (by decide) otherHolds even otherEven less
  have near := nearest.near (value?_of_denote (denote_pack negative middleHolds))
  rw [abs_signed_sub_signed, abs_signed_sub_signed] at near
  have opposite : size.value - target = -(other.value - target) :=
    (abs_eq_abs.mp tie).resolve_left fun same => less.ne (sub_left_inj.mp same)
  rw [abs_of_nonpos (by linarith)] at near
  exact absurd near (not_le.mpr (abs_lt.mpr ⟨by linarith, by linarith⟩))

/-- Correct rounding leaves no choice. -/
theorem RoundsTo.unique {target : ℚ} {first second : Slot} (rounds : RoundsTo negative target first)
    (again : RoundsTo negative target second) : first = second := by
  rcases lt_or_ge target single.overflow with inside | large
  · obtain ⟨value, nearest⟩ := rounds.nearest inside
    obtain ⟨otherValue, otherNearest⟩ := again.nearest inside
    obtain ⟨sign, size, denoted, rfl⟩ := exists_denote nearest.known
    obtain ⟨otherSign, other, otherDenoted, rfl⟩ := exists_denote otherNearest.known
    obtain rfl : sign = negative := (isNegative_of_denote denoted).symm.trans rounds.sign
    obtain rfl : otherSign = sign := (isNegative_of_denote otherDenoted).symm.trans again.sign
    have holds := holds_of_denote denoted
    have otherHolds := holds_of_denote otherDenoted
    by_cases same : size.value = other.value
    · rw [← pack_of_denote denoted, ← pack_of_denote otherDenoted,
        holds.eq_of_value (by decide) otherHolds same]
    · have tie := le_antisymm (nearest.near otherNearest.known) (otherNearest.near nearest.known)
      have different : signed otherSign other.value ≠ signed otherSign size.value := fun equal =>
        same (signed_injective equal.symm)
      have even := nearest.even otherNearest.known different tie
      have otherEven := otherNearest.even nearest.known different.symm tie.symm
      rw [← significand_mod_two denoted] at even
      rw [← significand_mod_two otherDenoted] at otherEven
      rw [abs_signed_sub_signed, abs_signed_sub_signed] at tie
      rcases lt_or_gt_of_ne same with less | greater
      · exact absurd less (nearest.not_lt_of_tie holds otherHolds even otherEven tie)
      · exact absurd greater (otherNearest.not_lt_of_tie otherHolds holds otherEven even tie.symm)
  · rw [rounds.infinite large, again.infinite large]

end Gamecode.Number
