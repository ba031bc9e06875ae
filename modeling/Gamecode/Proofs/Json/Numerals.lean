/-
This file says that numerals read back. A numeral has one text in which the sign of its exponent is
written out, and the text is read as that numeral, whatever comes behind it, as long as it cannot be
taken for a part of the numeral. A numeral has a value if its places and its exponent do not go too
far from the point, and the digits of an integer have that integer as their value.
-/

import Gamecode.Json.Document
import Gamecode.Json.Reader
import Gamecode.Proofs.Number.Rounding

namespace Gamecode.Json

variable {digits rest : List Char} {numeral : Numeral} {number : Nat}

/-! ### Digits -/

/-- At least one digit and nothing else. -/
structure IsDigits (digits : List Char) : Prop where
  ne_nil : digits ≠ []
  all : ∀ digit ∈ digits, digit.isDigit = true

/-- A text that does not go on with a digit. -/
def EndsDigits (rest : List Char) : Prop :=
  ∀ character ∈ rest.head?, character.isDigit = false

theorem splitDigits_append (all : ∀ digit ∈ digits, digit.isDigit = true) (ends : EndsDigits rest) :
    Number.splitDigits (digits ++ rest) = (digits, rest) := by
  unfold Number.splitDigits
  rw [List.takeWhile_append_of_pos all, List.dropWhile_append_of_pos all]
  cases rest with
  | nil => rw [List.takeWhile_nil, List.dropWhile_nil, List.append_nil]
  | cons character rest =>
    have other : character.isDigit = false := ends character rfl
    rw [List.takeWhile_cons_of_neg (Bool.eq_false_iff.mp other),
      List.dropWhile_cons_of_neg (Bool.eq_false_iff.mp other), List.append_nil]

theorem isDigits_toDigits (number : Nat) : IsDigits (Nat.toDigits 10 number) :=
  ⟨Nat.toDigits_ne_nil, fun _ member =>
    Nat.isDigit_of_mem_toDigits (by decide) (Nat.le_refl 10) member⟩

/-- The first digit of a number is zero only if the number is zero. -/
theorem head?_toDigits_ne_zero (positive : 0 < number) :
    (Nat.toDigits 10 number).head? ≠ some '0' := by
  induction number using Nat.strongRecOn with
  | ind number inductionHypothesis =>
    rcases Nat.lt_or_ge number 10 with small | large
    · rw [Nat.toDigits_of_lt_base small, List.head?_cons]
      have nonzero : ∀ digit < 10, 0 < digit → some digit.digitChar ≠ some '0' := by decide
      exact nonzero number small positive
    · have shorter := inductionHypothesis (number / 10) (Nat.div_lt_self positive (by decide))
        (Nat.div_pos large (by decide))
      obtain ⟨first, others, shape⟩ := List.exists_cons_of_ne_nil
        (Nat.toDigits_ne_nil : Nat.toDigits 10 (number / 10) ≠ [])
      rw [shape] at shorter
      rw [Nat.toDigits_of_base_le (by decide) large, shape]
      exact shorter

/-! ### Texts of numerals -/

namespace Numeral

/-- Digits before the point with no zero in front, and at least one digit wherever there have to be
digits. -/
structure WellFormed (numeral : Numeral) : Prop where
  whole : IsDigits numeral.whole
  leading : numeral.whole.head? = some '0' → numeral.whole = ['0']
  fraction : ∀ digits ∈ numeral.fraction, IsDigits digits
  exponent : ∀ mark ∈ numeral.exponent, IsDigits mark.2

/-- The point and the digits behind it. -/
def fractionText : Option (List Char) → List Char
  | none => []
  | some digits => '.' :: digits

/-- The exponent with its sign. -/
def exponentText : Option (Bool × List Char) → List Char
  | none => []
  | some (downward, digits) => 'e' :: (if downward then '-' else '+') :: digits

/-- A numeral as it is written. -/
def text (numeral : Numeral) : List Char :=
  (if numeral.negative then ['-'] else []) ++
    (numeral.whole ++ (fractionText numeral.fraction ++ exponentText numeral.exponent))

end Numeral

/-- A text that does not go on with a character of a numeral. -/
def EndsNumeral (rest : List Char) : Prop :=
  ∀ character ∈ rest.head?, character.isDigit = false ∧ character ≠ '.' ∧
    character ≠ 'e' ∧ character ≠ 'E'

theorem EndsNumeral.endsDigits (ends : EndsNumeral rest) : EndsDigits rest :=
  fun character first => (ends character first).1

theorem endsDigits_cons {character : Char} (other : character.isDigit = false) :
    EndsDigits (character :: rest) := by
  rintro _ ⟨⟩
  exact other

/-- What follows the digits before the point does not start with a digit. -/
theorem endsDigits_exponentText (exponent : Option (Bool × List Char)) (ends : EndsNumeral rest) :
    EndsDigits (Numeral.exponentText exponent ++ rest) := by
  cases exponent with
  | none => exact ends.endsDigits
  | some mark => exact endsDigits_cons rfl

theorem endsDigits_fractionText (fraction : Option (List Char)) (ends : EndsDigits rest) :
    EndsDigits (Numeral.fractionText fraction ++ rest) := by
  cases fraction with
  | none => exact ends
  | some digits => exact endsDigits_cons rfl

namespace Reader

theorem whole?_append (isDigits : IsDigits digits)
    (leading : digits.head? = some '0' → digits = ['0'])
    (ends : EndsDigits rest) : whole? (digits ++ rest) = some (digits, rest) := by
  unfold whole?
  rw [splitDigits_append isDigits.all ends]
  split
  · next known =>
    cases known
    exact absurd rfl isDigits.ne_nil
  · next known =>
    cases known
    cases leading rfl
  · next known =>
    cases known
    rfl

theorem fraction?_append {fraction : Option (List Char)}
    (isDigits : ∀ digits ∈ fraction, IsDigits digits) (ends : EndsDigits rest)
    (pointless : rest.head? ≠ some '.') :
    fraction? (Numeral.fractionText fraction ++ rest) = some (fraction, rest) := by
  cases fraction with
  | none =>
    unfold fraction? Numeral.fractionText
    rw [List.nil_append]
    split
    · exact absurd rfl pointless
    · rfl
  | some digits =>
    obtain ⟨nonempty, all⟩ := isDigits digits rfl
    rw [Numeral.fractionText, List.cons_append, fraction?]
    rw [splitDigits_append all ends]
    exact if_neg (mt List.isEmpty_iff.mp nonempty)

theorem exponent?_append {exponent : Option (Bool × List Char)}
    (isDigits : ∀ mark ∈ exponent, IsDigits mark.2) (ends : EndsNumeral rest) :
    exponent? (Numeral.exponentText exponent ++ rest) = some (exponent, rest) := by
  cases exponent with
  | none =>
    rw [Numeral.exponentText, List.nil_append]
    cases rest with
    | nil => rfl
    | cons character rest =>
      obtain ⟨-, -, small, capital⟩ := ends character rfl
      unfold exponent?
      exact if_neg (not_or.mpr ⟨small, capital⟩)
  | some mark =>
    obtain ⟨downward, digits⟩ := mark
    obtain ⟨nonempty, all⟩ := isDigits _ rfl
    have sign : Number.splitSign ((if downward then '-' else '+') :: (digits ++ rest)) =
        (downward, digits ++ rest) := by
      cases downward <;> rfl
    unfold exponent? Numeral.exponentText
    rw [List.cons_append, List.cons_append]
    dsimp only
    rw [if_pos (.inl rfl), sign]
    dsimp only
    rw [splitDigits_append all ends.endsDigits]
    exact if_neg (mt List.isEmpty_iff.mp nonempty)

/-- What follows the sign of a numeral. -/
def unsigned? (negative : Bool) (text : List Char) : Option (Numeral × List Char) := do
  let (whole, text) ← whole? text
  let (fraction, text) ← fraction? text
  let (exponent, text) ← exponent? text
  return (⟨negative, whole, fraction, exponent⟩, text)

theorem number?_minus (text : List Char) : number? ('-' :: text) = unsigned? true text :=
  rfl

theorem number?_plain {text : List Char} (plain : text.head? ≠ some '-') :
    number? text = unsigned? false text := by
  unfold number?
  dsimp only
  split
  · exact absurd rfl plain
  · rfl

/-- A numeral is read from its text. -/
theorem number?_text (wellFormed : numeral.WellFormed) (ends : EndsNumeral rest) :
    number? (numeral.text ++ rest) = some (numeral, rest) := by
  obtain ⟨negative, whole, fraction, exponent⟩ := numeral
  obtain ⟨isWhole, leading, isFraction, isExponent⟩ := wellFormed
  have afterExponent := endsDigits_exponentText exponent ends
  have pointless : (Numeral.exponentText exponent ++ rest).head? ≠ some '.' := by
    cases exponent with
    | none => exact fun point => (ends '.' point).2.1 rfl
    | some mark => exact fun point => absurd (Option.some.inj point) (by decide)
  have unsigned : unsigned? negative (whole ++ (Numeral.fractionText fraction ++
      (Numeral.exponentText exponent ++ rest))) =
        some (⟨negative, whole, fraction, exponent⟩, rest) := by
    unfold unsigned?
    rw [whole?_append isWhole leading (endsDigits_fractionText fraction afterExponent)]
    rw [Option.bind_eq_bind, Option.bind_some]
    dsimp only
    rw [fraction?_append isFraction afterExponent pointless]
    rw [Option.bind_eq_bind, Option.bind_some]
    dsimp only
    rw [exponent?_append isExponent ends]
    rfl
  unfold Numeral.text
  rw [List.append_assoc, List.append_assoc, List.append_assoc]
  cases negative with
  | true => exact (number?_minus _).trans unsigned
  | false =>
    rw [if_neg Bool.false_ne_true, List.nil_append]
    refine (number?_plain ?_).trans unsigned
    obtain ⟨digit, digits, shape⟩ := List.exists_cons_of_ne_nil isWhole.ne_nil
    dsimp only at shape isWhole ⊢
    rw [shape, List.cons_append, List.head?_cons]
    rintro ⟨⟩
    exact absurd (isWhole.all '-' (shape ▸ List.mem_cons_self)) (by decide)

end Reader

/-! ### Values of numerals -/

theorem takeDigits_le {significand : Nat} (fits : significand ≤ maxNatural) :
    (takeDigits significand digits).1 ≤ maxNatural ∧
      (takeDigits significand digits).2 ≤ digits.length := by
  induction digits generalizing significand with
  | nil => exact ⟨fits, Nat.le_refl 0⟩
  | cons digit rest inductionHypothesis =>
    unfold takeDigits
    dsimp only
    split
    · exact ⟨fits, Nat.le_refl _⟩
    · next next =>
      obtain ⟨upper, left⟩ := inductionHypothesis (Nat.le_of_not_lt next)
      exact ⟨upper, Nat.le_succ_of_le left⟩

namespace Numeral

/-- A numeral with a fraction or an exponent has a value, unless it has very many places or a very
large exponent. -/
theorem exists_value (fractional : numeral.isWhole = false) (whole : numeral.whole.length ≤ 100)
    (places : (numeral.fraction.getD []).length ≤ 150)
    (exponent : ∀ mark ∈ numeral.exponent, Number.digitsValue mark.2 ≤ 150) :
    ∃ size, numeral.value? = some (.approximate numeral.negative size) := by
  obtain ⟨fits, dropped⟩ := @takeDigits_le numeral.whole 0 (Nat.zero_le _)
  obtain ⟨narrow, ignored⟩ := @takeDigits_le (numeral.fraction.getD []) _ fits
  unfold value?
  dsimp only
  rw [fractional, if_neg fun both => Bool.false_ne_true both.1]
  generalize (takeDigits (takeDigits 0 numeral.whole).1 (numeral.fraction.getD [])).1 = significand
    at narrow ⊢
  have scaled : ∀ power : Int, -308 ≤ power → power ≤ 250 →
      ∃ size, (scaledBy significand power).map (.approximate numeral.negative) =
        some (Quantity.approximate numeral.negative size) := by
    intro power lower upper
    obtain ⟨size, same⟩ :=
      Number.exists_scaledBy (Nat.lt_of_le_of_lt narrow (by decide)) lower upper
    rw [same]
    exact ⟨size, rfl⟩
  cases written : numeral.exponent with
  | none => exact scaled _ (by omega) (by omega)
  | some mark =>
    obtain ⟨downward, digits⟩ := mark
    have small : Number.digitsValue digits ≤ 150 := exponent _ written
    have fitting : writtenExponent? digits = some (Number.digitsValue digits) :=
      if_pos (Nat.lt_of_le_of_lt small (by decide))
    dsimp only
    rw [fitting]
    dsimp only
    apply scaled
    · split <;> omega
    · split <;> omega

end Numeral

/-! ### Integers -/

/-- The digits of a number have the number as their value. -/
theorem digitsValue_toDigits (number : Nat) :
    Number.digitsValue (Nat.toDigits 10 number) = number :=
  Nat.ofDigitChars_ten_toDigits

/-- More digits make no smaller number. -/
theorem le_foldl_digits (significand : Nat) (digits : List Char) :
    significand ≤
      digits.foldl (fun number digit => 10 * number + (digit.toNat - '0'.toNat)) significand := by
  induction digits generalizing significand with
  | nil => exact Nat.le_refl significand
  | cons digit rest inductionHypothesis =>
    have scaled : significand ≤ 10 * significand + (digit.toNat - '0'.toNat) := by omega
    exact Nat.le_trans scaled (inductionHypothesis _)

/-- Digits of a number that fits are all taken. -/
theorem takeDigits_of_le {significand : Nat}
    (fits : digits.foldl (fun number digit => 10 * number + (digit.toNat - '0'.toNat)) significand ≤
      maxNatural) :
    takeDigits significand digits =
      (digits.foldl (fun number digit => 10 * number + (digit.toNat - '0'.toNat))
        significand, 0) := by
  induction digits generalizing significand with
  | nil => rfl
  | cons digit rest inductionHypothesis =>
    have next := Nat.le_trans (le_foldl_digits _ rest) fits
    rw [takeDigits, if_neg (Nat.not_lt.mpr next)]
    exact inductionHypothesis fits

/-- The numeral of an integer. -/
def integerNumeral (value : Int) : Numeral :=
  ⟨decide (value < 0), Nat.toDigits 10 value.natAbs, none, none⟩

theorem wellFormed_integerNumeral (value : Int) : (integerNumeral value).WellFormed where
  whole := isDigits_toDigits value.natAbs
  leading zero := by
    have none : value.natAbs = 0 :=
      Nat.eq_zero_of_not_pos fun positive => head?_toDigits_ne_zero positive zero
    show Nat.toDigits 10 value.natAbs = ['0']
    rw [none]
    rfl
  fraction := nofun
  exponent := nofun

theorem text_integerNumeral (value : Int) :
    (integerNumeral value).text = (toString value).toList := by
  rw [Int.toString_eq_repr, Int.repr_eq_if]
  unfold Numeral.text integerNumeral Numeral.fractionText Numeral.exponentText
  rw [List.append_nil, List.append_nil]
  dsimp only
  by_cases negative : value < 0
  · rw [if_pos (decide_eq_true negative), if_neg (Int.not_le.mpr negative), String.toList_append,
      show (-value).toNat = value.natAbs by omega, Nat.toList_repr]
    rfl
  · rw [if_neg (mt of_decide_eq_true negative), if_pos (Int.not_lt.mp negative),
      show value.toNat = value.natAbs by omega, Nat.toList_repr]
    rfl

/-- An integer in the range of slots is read as itself. -/
theorem signed?_integerNumeral {value : Int} (lower : -0x80000000 ≤ value)
    (upper : value < 0x80000000) : (Node.number (integerNumeral value)).signed? = some value := by
  have taken : takeDigits 0 (Nat.toDigits 10 value.natAbs) = (value.natAbs, 0) := by
    have same := digitsValue_toDigits value.natAbs
    unfold Number.digitsValue at same
    rw [takeDigits_of_le, same]
    rw [same, maxNatural]
    omega
  have quantity : (Node.number (integerNumeral value)).quantity? =
      Numeral.wholeValue (decide (value < 0)) value.natAbs := by
    unfold Node.quantity? Numeral.value? integerNumeral
    dsimp only
    rw [taken]
    exact if_pos ⟨rfl, rfl⟩
  unfold Node.signed?
  rw [quantity, Numeral.wholeValue]
  by_cases negative : value < 0
  · have same : -(value.natAbs : Int) = value := by omega
    rw [decide_eq_true negative, Bool.not_true, if_neg Bool.false_ne_true, if_pos (by omega), same]
    exact if_pos lower
  · have same : (value.natAbs : Int) = value := by omega
    rw [decide_eq_false negative, Bool.not_false, if_pos rfl]
    dsimp only
    rw [if_pos (by omega), same]

end Gamecode.Json
