/-
This file says that the texts of floats read back. The text of a finite float is that of a numeral
with a fraction or an exponent, which has a value because the shortest decimal of a float is
moderate. A float that is not finite is written as null, which is no number.
-/

import Gamecode.Proofs.Json.Numerals
import Gamecode.Proofs.Number.Shortest

namespace Gamecode.Json

open Number

variable {negative : Bool} {decimal : Decimal} {size : Scaled}

/-! ### Numerals of decimals -/

/-- The digits of a number, with as many zeros before them as it takes to have one more than the
places behind the point. -/
def paddedDigits (places number : Nat) : List Char :=
  List.replicate (places + 1 - digitCount number) '0' ++ Nat.toDigits 10 number

/-- A decimal with its point in place. -/
def positionalNumeral (negative : Bool) (decimal : Decimal) : Numeral :=
  if 0 ≤ decimal.exponent then
    ⟨negative, Nat.toDigits 10 decimal.digits ++ List.replicate decimal.exponent.toNat '0',
      some ['0'], none⟩
  else
    let places := (-decimal.exponent).toNat
    let padded := paddedDigits places decimal.digits
    ⟨negative, padded.take (padded.length - places),
      some (padded.drop (padded.length - places)), none⟩

/-- The digits behind the first one, if there are any. -/
def laterDigits? : List Char → Option (List Char)
  | [] | [_] => none
  | _ :: rest => some rest

/-- A decimal with one digit before its point, and an exponent. -/
def scientificNumeral (negative : Bool) (digits : List Char) (leading : Int) : Numeral :=
  ⟨negative, digits.take 1, laterDigits? digits,
    some (decide (leading < 0), Nat.toDigits 10 leading.natAbs)⟩

/-- The numeral that a decimal is written as. -/
def decimalNumeral (negative : Bool) (decimal : Decimal) : Numeral :=
  let digits := Nat.toDigits 10 decimal.digits
  let leading := decimal.exponent + digits.length - 1
  if isPositional leading then positionalNumeral negative decimal
  else scientificNumeral negative digits leading

/-! ### Decimals with the point in place -/

theorem length_paddedDigits (places number : Nat) :
    (paddedDigits places number).length = max (places + 1) (digitCount number) := by
  unfold paddedDigits digitCount
  rw [List.length_append, List.length_replicate]
  omega

theorem isDigit_of_mem_replicate {digit : Char} {count : Nat}
    (member : digit ∈ List.replicate count '0') : digit.isDigit = true := by
  rw [List.eq_of_mem_replicate member]
  rfl

theorem isDigit_of_mem_paddedDigits {digit : Char} {places number : Nat}
    (member : digit ∈ paddedDigits places number) : digit.isDigit = true :=
  (List.mem_append.mp member).elim isDigit_of_mem_replicate
    ((isDigits_toDigits number).all digit)

/-- The digits before the point start with a zero only if there is nothing else before the point. -/
theorem take_paddedDigits {places number : Nat} (positive : 0 < number)
    (zero : ((paddedDigits places number).take
      ((paddedDigits places number).length - places)).head? = some '0') :
    (paddedDigits places number).take ((paddedDigits places number).length - places) = ['0'] := by
  rw [length_paddedDigits] at zero ⊢
  unfold paddedDigits at zero ⊢
  rcases Nat.lt_or_ge places (digitCount number) with long | short
  · rw [Nat.sub_eq_zero_of_le long, List.replicate_zero, List.nil_append, List.head?_take,
      if_neg (by omega)] at zero
    exact absurd zero (head?_toDigits_ne_zero positive)
  · rw [Nat.max_eq_left (Nat.le_succ_of_le short), Nat.succ_eq_add_one, Nat.add_sub_cancel_left,
      Nat.succ_sub short, List.replicate_succ]
    rfl

theorem wellFormed_positionalNumeral (moderate : decimal.Moderate) :
    (positionalNumeral negative decimal).WellFormed := by
  unfold positionalNumeral
  split
  · next natural =>
    refine ⟨⟨?_, ?_⟩, ?_, ?_, nofun⟩
    · exact List.append_ne_nil_of_left_ne_nil Nat.toDigits_ne_nil _
    · intro digit member
      exact (List.mem_append.mp member).elim ((isDigits_toDigits _).all digit)
        isDigit_of_mem_replicate
    · intro zero
      dsimp only at zero ⊢
      by_cases none : decimal.digits = 0
      · rw [none, moderate.zero none]
        rfl
      · obtain ⟨first, others, shape⟩ := List.exists_cons_of_ne_nil
          (Nat.toDigits_ne_nil : Nat.toDigits 10 decimal.digits ≠ [])
        have nonzero := head?_toDigits_ne_zero (Nat.pos_of_ne_zero none)
        rw [shape] at zero nonzero
        exact absurd zero nonzero
    · rintro _ ⟨⟩
      exact ⟨List.cons_ne_nil _ _, fun digit member => @isDigit_of_mem_replicate digit 1 member⟩
  · next fractional =>
    have positive : 0 < decimal.digits :=
      Nat.pos_of_ne_zero fun zero => fractional (Int.le_of_eq (moderate.zero zero).symm)
    have length := length_paddedDigits (-decimal.exponent).toNat decimal.digits
    refine ⟨⟨?_, ?_⟩, take_paddedDigits positive, ?_, nofun⟩
    · refine List.ne_nil_of_length_pos ?_
      rw [List.length_take]
      omega
    · exact fun digit member => isDigit_of_mem_paddedDigits (List.mem_of_mem_take member)
    · rintro _ ⟨⟩
      refine ⟨List.ne_nil_of_length_pos ?_, fun digit member =>
        isDigit_of_mem_paddedDigits (List.mem_of_mem_drop member)⟩
      rw [List.length_drop]
      omega

theorem toList_signText (negative : Bool) :
    (signText negative).toList = if negative then ['-'] else [] := by
  cases negative <;> rfl

theorem toList_padLeft (places number : Nat) :
    (Text.padLeft (places + 1) '0' (toString number)).toList = paddedDigits places number := by
  unfold Text.padLeft paddedDigits digitCount
  rw [Nat.toString_eq_ofList_toDigits, String.toList_append, String.toList_ofList,
    String.toList_ofList, String.length_ofList]

theorem text_positionalNumeral (negative : Bool) (decimal : Decimal) :
    (positionalNumeral negative decimal).text =
      (signText negative ++ positionalText decimal).toList := by
  unfold Numeral.text positionalNumeral positionalText Decimal.plainText
  rw [String.toList_append, toList_signText]
  split
  · dsimp only
    rw [String.toList_append, String.toList_append, Nat.toString_eq_ofList_toDigits,
      String.toList_ofList, String.toList_ofList]
    rfl
  · dsimp only
    rw [toList_padLeft, String.toList_append, String.toList_append, List.append_assoc]
    simp only [String.toList_ofList, Numeral.fractionText, Numeral.exponentText, List.append_nil]
    rfl

/-- A decimal with its point in place has a value. -/
theorem exists_value_positionalNumeral (moderate : decimal.Moderate)
    (positional : isPositional (decimal.exponent + digitCount decimal.digits - 1) = true) :
    ∃ size, (positionalNumeral negative decimal).value? = some (.approximate negative size) := by
  obtain ⟨-, lowest, -, -⟩ := moderate
  have small : decimal.exponent + digitCount decimal.digits - 1 ≤ 12 :=
    of_decide_eq_true (Bool.and_eq_true_iff.mp positional).2
  unfold positionalNumeral
  split
  · have place : ['0'].length ≤ 150 := by decide
    refine Numeral.exists_value rfl ?_ place nofun
    dsimp only
    rw [List.length_append, List.length_replicate, ← digitCount]
    omega
  · dsimp only
    have length := length_paddedDigits (-decimal.exponent).toNat decimal.digits
    refine Numeral.exists_value rfl ?_ ?_ nofun
    · rw [List.length_take]
      omega
    · rw [Option.getD_some, List.length_drop]
      omega

/-! ### Decimals with an exponent -/

variable {digits : List Char} {leading : Int}

theorem wellFormed_scientificNumeral (isDigits : IsDigits digits) :
    (scientificNumeral negative digits leading).WellFormed := by
  obtain ⟨nonempty, all⟩ := isDigits
  obtain ⟨first, rest, rfl⟩ := List.exists_cons_of_ne_nil nonempty
  refine ⟨⟨List.cons_ne_nil _ _, ?_⟩, ?_, ?_, ?_⟩
  · exact fun digit member => all digit (List.mem_of_mem_take member)
  · intro zero
    cases zero
    rfl
  · intro later found
    cases rest with
    | nil => cases found
    | cons second others =>
      cases found
      exact ⟨List.cons_ne_nil _ _, fun digit member => all digit (List.mem_cons_of_mem _ member)⟩
  · rintro _ ⟨⟩
    exact isDigits_toDigits leading.natAbs

theorem text_scientificNumeral (negative : Bool) (digits : List Char) (leading : Int) :
    (scientificNumeral negative digits leading).text =
      (signText negative ++ scientificText digits leading).toList := by
  have fraction : Numeral.fractionText (laterDigits? digits) =
      (match digits with | [] | [_] => "" | _ :: rest => "." ++ String.ofList rest).toList := by
    match digits with
    | [] | [_] => rfl
    | _ :: second :: rest =>
      dsimp only
      rw [String.toList_append, @String.toList_ofList (second :: rest)]
      rfl
  unfold Numeral.text scientificNumeral scientificText
  dsimp only
  rw [fraction]
  simp only [String.toList_append, toList_signText, String.toList_ofList,
    Nat.toString_eq_ofList_toDigits, List.append_assoc, Numeral.exponentText]
  by_cases small : leading < 0
  · rw [decide_eq_true small, if_pos small]
    rfl
  · rw [decide_eq_false small, if_neg small]
    rfl

/-- A decimal with an exponent has a value. -/
theorem exists_value_scientificNumeral (count : digits.length ≤ 103) (lowest : -62 ≤ leading)
    (highest : leading ≤ 141) :
    ∃ size, (scientificNumeral negative digits leading).value? =
      some (.approximate negative size) := by
  refine Numeral.exists_value ?_ ?_ ?_ ?_
  · exact Bool.and_false _
  · exact Nat.le_trans (List.length_take_le 1 digits) (by decide)
  · show ((laterDigits? digits).getD []).length ≤ 150
    match digits with
    | [] | [_] => exact Nat.zero_le _
    | _ :: second :: rest =>
      rw [List.length_cons] at count
      exact Nat.le_trans (Nat.le_of_succ_le count) (by decide)
  · rintro _ ⟨⟩
    show digitsValue (Nat.toDigits 10 leading.natAbs) ≤ 150
    rw [digitsValue_toDigits]
    omega

/-! ### Decimals -/

theorem wellFormed_decimalNumeral (moderate : decimal.Moderate) :
    (decimalNumeral negative decimal).WellFormed := by
  unfold decimalNumeral
  dsimp only
  split
  · exact wellFormed_positionalNumeral moderate
  · exact wellFormed_scientificNumeral (isDigits_toDigits decimal.digits)

theorem text_decimalNumeral (negative : Bool) (decimal : Decimal) :
    (decimalNumeral negative decimal).text = (signText negative ++ decimalText decimal).toList := by
  unfold decimalNumeral decimalText
  dsimp only
  split
  · exact text_positionalNumeral negative decimal
  · exact text_scientificNumeral negative _ _

theorem exists_value_decimalNumeral (moderate : decimal.Moderate) :
    ∃ size, (decimalNumeral negative decimal).value? = some (.approximate negative size) := by
  unfold decimalNumeral
  dsimp only
  split
  · next positional => exact exists_value_positionalNumeral moderate positional
  · obtain ⟨-, lowest, highest, count⟩ := moderate
    have positive := digitCount_pos decimal.digits
    unfold digitCount at positive highest count
    exact exists_value_scientificNumeral count (by omega) (by omega)

/-! ### Floats -/

/-- The numeral of a finite float. -/
def floatNumeral (negative : Bool) (size : Scaled) : Numeral :=
  if size.significand = 0 then ⟨negative, ['0'], some ['0'], none⟩
  else decimalNumeral negative (shortest single .toEven size)

/-- What a float is read as. -/
def floatNode (bits : Slot) : Node :=
  match denote bits with
  | .finite negative size => .number (floatNumeral negative size)
  | _ => .null

variable {bits : Slot}

theorem wellFormed_floatNumeral (known : denote bits = .finite negative size) :
    (floatNumeral negative size).WellFormed := by
  unfold floatNumeral
  split
  · exact ⟨isDigits_toDigits 0, fun _ => rfl, fun _ found =>
      Option.some.inj found ▸ isDigits_toDigits 0, nofun⟩
  · next positive =>
    exact wellFormed_decimalNumeral ((Scaled.single_of_denote known positive).moderate_shortest _)

theorem text_floatNumeral (known : denote bits = .finite negative size) :
    (floatNumeral negative size).text = (floatText bits).toList := by
  unfold floatNumeral floatText
  rw [known]
  dsimp only
  split
  · rw [String.toList_append, toList_signText]
    rfl
  · exact text_decimalNumeral negative _

theorem exists_value_floatNumeral (known : denote bits = .finite negative size) :
    ∃ quantity, (floatNumeral negative size).value? = some quantity := by
  unfold floatNumeral
  split
  · have whole : ['0'].length ≤ 100 := by decide
    have place : ['0'].length ≤ 150 := by decide
    obtain ⟨_, value⟩ :=
      @Numeral.exists_value ⟨negative, ['0'], some ['0'], none⟩ rfl whole place nofun
    exact ⟨_, value⟩
  · next positive =>
    obtain ⟨_, value⟩ := exists_value_decimalNumeral
      ((Scaled.single_of_denote known positive).moderate_shortest .toEven)
    exact ⟨_, value⟩

theorem floatNode_of_finite (known : denote bits = .finite negative size) :
    floatNode bits = .number (floatNumeral negative size) := by
  unfold floatNode
  rw [known]

/-- Other floats are written as null, and read as that. -/
theorem floatText_of_not_finite (other : ¬ IsFinite bits) :
    floatText bits = "null" ∧ floatNode bits = .null := by
  unfold floatText floatNode
  cases known : denote bits with
  | undefined | infinite => exact ⟨rfl, rfl⟩
  | finite negative size => exact absurd ⟨negative, size, known⟩ other

/-- What a float is read as is a number exactly if the float is finite. -/
theorem isFinite_iff_slot? : IsFinite bits ↔ ∃ slot, (floatNode bits).slot? = some slot := by
  by_cases finite : IsFinite bits
  · obtain ⟨negative, size, known⟩ := finite
    obtain ⟨quantity, value⟩ := exists_value_floatNumeral known
    refine iff_of_true ⟨negative, size, known⟩ ⟨quantity.toSlot, ?_⟩
    rw [floatNode_of_finite known]
    show (floatNumeral negative size).value?.map Quantity.toSlot = some quantity.toSlot
    rw [value]
    rfl
  · rw [(floatText_of_not_finite finite).2]
    exact iff_of_false finite nofun

end Gamecode.Json
