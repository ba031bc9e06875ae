/-
This file says that a float is found again in its text. The text is a numeral, perhaps behind
blanks: a whole number below two to the thirty-first without a point, and any other float with one
place, which is the nearest number of tenths. So the text shows no more than half a tenth too much
or too little, and no float is nearer to it than the one that it is read as.
-/

import Gamecode.Number.Plain
import Gamecode.Proofs.Number.Leading
import Gamecode.Proofs.Json.Floats

namespace Gamecode.Number

variable {slot : Slot} {negative sign : Bool} {size : Scaled} {numeral : List Char}
  {value target : ℚ}

/-! ### Texts of numbers -/

/-- A numeral is the longest one with which it begins. -/
theorem Writes.isLongest (writes : Writes numeral negative value) : IsLongest numeral numeral :=
  ⟨List.prefix_rfl, ⟨_, _, writes⟩, fun _ begins _ => begins.length_le⟩

theorem not_isBlank {first : Char} (begins : first.isDigit = true ∨ first = '.') :
    Text.isBlank first = false := by
  rcases begins with isDigit | rfl
  · have range : 48 ≤ first.toNat ∧ first.toNat ≤ 57 := Char.isDigit_iff_toNat.mp isDigit
    exact decide_eq_false (by omega)
  · decide

/-- A numeral begins with no blank, so blanks in front of it are all that is cut off. -/
theorem Writes.trimStart_append (writes : Writes numeral negative value) (count : ℕ) :
    Text.trimStart (List.replicate count ' ' ++ numeral) = numeral := by
  have blank : ∀ character ∈ List.replicate count ' ', Text.isBlank character = true := by
    intro character member
    rw [List.eq_of_mem_replicate member]
    decide
  obtain ⟨first, others, rfl, begins⟩ : ∃ first others, numeral = first :: others ∧
      Text.isBlank first = false := by
    cases writes with
    | plain unsigned =>
      obtain ⟨first, others, rfl, begins⟩ := unsigned.exists_cons
      exact ⟨first, others, rfl, not_isBlank begins⟩
    | plus | minus => exact ⟨_, _, rfl, by decide⟩
  rw [Text.trimStart, List.dropWhile_append_of_pos blank,
    List.dropWhile_cons_of_neg (Bool.eq_false_iff.mp begins)]

theorem writes_toString (number : ℤ) :
    Writes (toString number).toList (decide (number < 0)) number.natAbs := by
  have digits : WritesUnsigned (Nat.toDigits 10 number.natAbs) number.natAbs := by
    have writes := WritesUnsigned.whole (Json.isDigits_toDigits number.natAbs)
    rwa [Json.digitsValue_toDigits] at writes
  rw [← Json.text_integerNumeral, Json.Numeral.text, Json.integerNumeral]
  simp only [Json.Numeral.fractionText, Json.Numeral.exponentText, List.append_nil]
  by_cases negative : number < 0
  · rw [decide_eq_true negative, if_pos rfl]
    exact .minus digits
  · rw [decide_eq_false negative, if_neg Bool.false_ne_true]
    exact .plain digits

/-- A number of tenths is written with one place. -/
theorem writesUnsigned_tenths (tenths : ℕ) :
    WritesUnsigned (Nat.toDigits 10 (tenths / 10) ++ '.' :: Nat.toDigits 10 (tenths % 10))
      (tenths / 10) := by
  have writes := WritesUnsigned.pointed (Json.isDigits_toDigits (tenths / 10))
    (Json.isDigits_toDigits (tenths % 10)).all
  have one : (Nat.toDigits 10 (tenths % 10)).length = 1 := by
    rw [Nat.toDigits_of_lt_base (Nat.mod_lt _ (by decide))]
    rfl
  have parts : (tenths : ℚ) = 10 * (tenths / 10 : ℕ) + (tenths % 10 : ℕ) := by
    exact_mod_cast (Nat.div_add_mod tenths 10).symm
  have same : (tenths / 10 : ℚ) = (tenths / 10 : ℕ) + (tenths % 10 : ℕ) / 10 ^ 1 := by
    rw [parts]
    ring
  rwa [Json.digitsValue_toDigits, Json.digitsValue_toDigits, one, ← same] at writes

theorem writes_oneDecimal (denoted : denote slot = .finite negative size) :
    Writes (oneDecimal slot).toList negative (roundedToPlaces size 1 / 10) := by
  have digits := writesUnsigned_tenths (roundedToPlaces size 1)
  unfold oneDecimal
  rw [denoted]
  dsimp only
  simp only [String.toList_append, Json.toList_signText, Nat.toString_eq_ofList_toDigits,
    String.toList_ofList, List.append_assoc]
  cases negative with
  | true => exact .minus digits
  | false => exact .plain digits

/-! ### Sizes -/

/-- No float is greater than the significand of all bits at the highest exponent. -/
theorem Format.Holds.value_le (holds : single.Holds size) :
    size.value ≤ (2 ^ 24 - 1) * 2 ^ (104 : ℤ) := by
  have narrow : size.significand + 1 ≤ 2 ^ 24 := holds.narrow
  have bound : (size.significand + 1 : ℚ) ≤ 2 ^ 24 := by exact_mod_cast narrow
  refine mul_le_mul (le_sub_iff_add_le.mpr bound) ?_ (by positivity) (by norm_num)
  exact zpow_le_zpow_right₀ one_le_two holds.highest

theorem abs_roundedToPlaces_sub_le (size : Scaled) :
    |(roundedToPlaces size 1 : ℚ) - 10 * size.value| ≤ 1 / 2 := by
  have nearest := (divideToNearest_spec (size.numerator * Nat.pow 10 1)
    size.denominator_pos).1
  have scaled : ((size.numerator * Nat.pow 10 1 : ℕ) : ℚ) / size.denominator = 10 * size.value := by
    rw [← size.numerator_div_denominator]
    push_cast [Nat.pow_eq]
    ring
  rwa [scaled] at nearest

/-- What is written for a float: a sign and a size, no more than half a tenth away, and none at all
if the float is whole. -/
structure Shows (value : ℚ) (negative : Bool) (target : ℚ) : Prop where
  near : |signed negative target - value| ≤ 1 / 20
  exact : ∀ whole : ℤ, value = whole → signed negative target = value

theorem Shows.of_eq (same : signed negative target = value) : Shows value negative target where
  near := by
    rw [same, sub_self, abs_zero]
    positivity
  exact _ _ := same

/-- The nearest number of tenths is no more than half a tenth away, and a whole number is a number
of tenths. -/
theorem shows_tenths (negative : Bool) (size : Scaled) :
    Shows (signed negative size.value) negative (roundedToPlaces size 1 / 10) where
  near := by
    have near := abs_roundedToPlaces_sub_le size
    rw [abs_signed_sub_signed]
    rw [abs_le] at near ⊢
    constructor <;> linarith
  exact whole same := by
    have natural : size.value = whole.natAbs := by
      rw [Nat.cast_natAbs, Int.cast_abs, ← same, abs_signed, abs_of_nonneg size.value_nonneg]
    have near := (nearest_of_half (abs_roundedToPlaces_sub_le size) (10 * whole.natAbs)).1
    rw [natural, Nat.cast_mul, Nat.cast_ofNat, sub_self, abs_zero, abs_nonpos_iff,
      sub_eq_zero] at near
    rw [near, natural, mul_div_cancel_left₀ _ (by norm_num)]

theorem signed_natAbs (number : ℤ) : signed (decide (number < 0)) number.natAbs = number := by
  rw [Nat.cast_natAbs, Int.cast_abs]
  by_cases negative : number < 0
  · have below : (number : ℚ) ≤ 0 := by exact_mod_cast negative.le
    rw [decide_eq_true negative, signed, if_pos rfl, abs_of_nonpos below, neg_neg]
  · have above : (0 : ℚ) ≤ number := by exact_mod_cast Int.not_lt.mp negative
    rw [decide_eq_false negative, signed, if_neg Bool.false_ne_true, abs_of_nonneg above]

theorem value_of_isWhole (whole : size.isWhole = true) : size.value = size.wholePart := by
  have none : size.numerator % size.denominator = 0 := of_decide_eq_true whole
  rw [← size.numerator_div_denominator, cast_div_add_fraction _ size.denominator_pos, none,
    Nat.cast_zero, zero_div, add_zero]
  rfl

/-- What is written for a float is not too large to be read. -/
theorem Shows.lt_overflow (shows : Shows (signed negative size.value) sign target)
    (holds : single.Holds size) : target < single.overflow := by
  have near := (abs_sub_abs_le_abs_sub _ _).trans shows.near
  rw [abs_signed, abs_signed, abs_of_nonneg size.value_nonneg] at near
  have room : ((2 : ℚ) ^ 24 - 1) * 2 ^ (104 : ℤ) + 1 / 20 < single.overflow := by
    norm_num [Format.overflow, single]
  linarith [le_abs_self target, holds.value_le]

/-- The text of a float is a numeral behind blanks, which shows the float. -/
theorem shows_display (denoted : denote slot = .finite negative size) :
    ∃ sign target, Writes (Text.trimStart (display slot).toList) sign target ∧
      Shows (signed negative size.value) sign target := by
  unfold display
  rw [denoted]
  dsimp only
  split
  · next small =>
    -- The text of an integer has nothing in front of the numeral.
    have writes := writes_toString (if negative then -(size.wholePart : ℤ) else size.wholePart)
    have trimmed := writes.trimStart_append 0
    rw [List.replicate_zero, List.nil_append] at trimmed
    rw [trimmed]
    refine ⟨_, _, writes, .of_eq ?_⟩
    rw [signed_natAbs, value_of_isWhole small.1, signed]
    split <;> push_cast <;> rfl
  · have writes := writes_oneDecimal denoted
    rw [tabular, Text.padLeft, String.toList_append, String.toList_ofList, writes.trimStart_append]
    exact ⟨_, _, writes, shows_tenths negative size⟩

end Gamecode.Number

namespace Gamecode.Builtins

open Number

/-! ### Texts of floats, read -/

/-- The text of a finite float is read as a float that is no more than a tenth away, and a whole
number is read as itself. -/
theorem floatOfText_display {slot : Slot} {value : ℚ} (finite : value? slot = some value) :
    ∃ read, value? (floatOfText (display slot)) = some read ∧
      ((∃ whole : ℤ, value = whole) → read = value) ∧ |read - value| ≤ 1 / 10 := by
  obtain ⟨negative, size, denoted, rfl⟩ := exists_denote finite
  obtain ⟨sign, target, writes, shows⟩ := shows_display denoted
  have inside := shows.lt_overflow (holds_of_denote denoted)
  obtain ⟨read, nearest⟩ := (roundsTo_floatOfText writes.isLongest writes).nearest inside
  have near := nearest.near finite
  refine ⟨read, nearest.known, ?_, ?_⟩
  · rintro ⟨whole, same⟩
    rw [shows.exact whole same, sub_self, abs_zero, abs_nonpos_iff, sub_eq_zero] at near
    exact near
  · have triangle := abs_sub_le read (signed sign target) (signed negative size.value)
    have half := shows.near
    rw [abs_sub_comm (signed negative size.value)] at near
    linarith

/-- The float nearest to three tenths, which is shown as three tenths. -/
theorem floatOfText_display_threeTenths :
    value? 0x3e99999a = some (signed false (Scaled.value ⟨10066330, -25⟩)) ∧
      ∃ read, value? (floatOfText (display 0x3e99999a)) = some read ∧
        ((∃ whole : ℤ, signed false (Scaled.value ⟨10066330, -25⟩) = whole) →
          read = signed false (Scaled.value ⟨10066330, -25⟩)) ∧
        |read - signed false (Scaled.value ⟨10066330, -25⟩)| ≤ 1 / 10 := by
  have denoted : denote 0x3e99999a = .finite false ⟨10066330, -25⟩ := by decide
  exact ⟨value?_of_denote denoted, floatOfText_display (value?_of_denote denoted)⟩

end Gamecode.Builtins
