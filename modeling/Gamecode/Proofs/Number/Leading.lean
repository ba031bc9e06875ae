/-
This file is about the number with which a text begins. A numeral is digits with at most one point
among them, perhaps behind a sign, and the scanner cuts out the longest numeral with which a text
begins, or nothing but a sign and a point if there is none. A numeral is never refused by the reader
of floats, which finds the one float to which the number that is written is rounded correctly. So
the longest numeral decides what a text is read as, and the rest of the text has no part in it.
-/

import Gamecode.Builtin.Texts
import Gamecode.Proofs.Json.Numerals
import Gamecode.Proofs.Number.Nearest

namespace Gamecode.Number

open Json (IsDigits)

/-! ### The grammar -/

/-- Digits with a point behind, among or before them, if there is one, and the number that is
written. -/
inductive WritesUnsigned : List Char → ℚ → Prop
  | whole {digits : List Char} (some : IsDigits digits) : WritesUnsigned digits (digitsValue digits)
  | pointed {digits places : List Char} (some : IsDigits digits)
      (all : ∀ place ∈ places, place.isDigit = true) :
      WritesUnsigned (digits ++ '.' :: places)
        (digitsValue digits + digitsValue places / 10 ^ places.length)
  | leading {places : List Char} (some : IsDigits places) :
      WritesUnsigned ('.' :: places) (digitsValue places / 10 ^ places.length)

/-- The same after a sign, if there is one: the sign and the size of the number that is written. -/
inductive Writes : List Char → Bool → ℚ → Prop
  | plain {text : List Char} {size : ℚ} (unsigned : WritesUnsigned text size) :
      Writes text false size
  | plus {text : List Char} {size : ℚ} (unsigned : WritesUnsigned text size) :
      Writes ('+' :: text) false size
  | minus {text : List Char} {size : ℚ} (unsigned : WritesUnsigned text size) :
      Writes ('-' :: text) true size

/-- A text that writes a number from end to end. -/
def IsNumeral (text : List Char) : Prop :=
  ∃ negative size, Writes text negative size

/-- The longest numeral with which a text begins. -/
structure IsLongest (numeral text : List Char) : Prop where
  begins : numeral <+: text
  isNumeral : IsNumeral numeral
  longest : ∀ other, other <+: text → IsNumeral other → other.length ≤ numeral.length

variable {text numeral rest digits places : List Char} {negative : Bool} {size : ℚ}

/-! ### Signs -/

/-- A text that does not begin with a sign. -/
def Signless (text : List Char) : Prop :=
  ∀ character ∈ text.head?, character ≠ '-' ∧ character ≠ '+'

/-- A sign in front of a text, if only an empty one. -/
inductive Signed : List Char → List Char → Bool → Prop
  | plain {text : List Char} (signless : Signless text) : Signed [] text false
  | plus {text : List Char} : Signed ['+'] text false
  | minus {text : List Char} : Signed ['-'] text true

variable {sign body : List Char}

theorem exists_signed (text : List Char) :
    ∃ sign body negative, text = sign ++ body ∧ Signed sign body negative := by
  by_cases minus : text.head? = some '-'
  · obtain ⟨body, rfl⟩ := List.head?_eq_some_iff.mp minus
    exact ⟨['-'], body, true, rfl, .minus⟩
  by_cases plus : text.head? = some '+'
  · obtain ⟨body, rfl⟩ := List.head?_eq_some_iff.mp plus
    exact ⟨['+'], body, false, rfl, .plus⟩
  · refine ⟨[], text, false, rfl, .plain fun character first => ⟨?_, ?_⟩⟩
    · rintro rfl
      exact minus first
    · rintro rfl
      exact plus first

namespace Signed

theorem splitSign (signed : Signed sign body negative) :
    splitSign (sign ++ body) = (negative, body) := by
  cases signed with
  | plain signless =>
    rw [List.nil_append]
    unfold Number.splitSign
    split
    · exact absurd rfl (signless '-' rfl).1
    · exact absurd rfl (signless '+' rfl).2
    · rfl
  | plus | minus => rfl

theorem of_begins (signed : Signed sign body negative) (begins : text <+: body) :
    Signed sign text negative := by
  cases signed with
  | plain signless =>
    obtain ⟨rest, rfl⟩ := begins
    refine .plain fun character first => signless character ?_
    rw [List.head?_append, first]
    rfl
  | plus => exact .plus
  | minus => exact .minus

theorem writes (signed : Signed sign body negative) (unsigned : WritesUnsigned body size) :
    Writes (sign ++ body) negative size := by
  cases signed with
  | plain => exact .plain unsigned
  | plus => exact .plus unsigned
  | minus => exact .minus unsigned

theorem isBare_iff (signed : Signed sign body negative) :
    isBare (sign ++ body) = true ↔ body = [] ∨ body = ['.'] := by
  rw [isBare, signed.splitSign, decide_eq_true_iff]

end Signed

/-- A numeral without a sign begins with a digit or a point. -/
theorem WritesUnsigned.exists_cons (writes : WritesUnsigned text size) :
    ∃ first others, text = first :: others ∧ (first.isDigit = true ∨ first = '.') := by
  cases writes with
  | whole some | pointed some _ =>
    obtain ⟨first, others, rfl⟩ := List.exists_cons_of_ne_nil some.ne_nil
    exact ⟨first, _, rfl, .inl (some.all first List.mem_cons_self)⟩
  | leading some => exact ⟨'.', _, rfl, .inr rfl⟩

theorem signless_cons {first : Char} (begins : first.isDigit = true ∨ first = '.') :
    Signless (first :: rest) := by
  rintro _ ⟨⟩
  constructor <;> rintro rfl <;> revert begins <;> decide

theorem WritesUnsigned.signless_append (writes : WritesUnsigned text size) (rest : List Char) :
    Signless (text ++ rest) := by
  obtain ⟨first, others, rfl, begins⟩ := writes.exists_cons
  exact signless_cons begins

theorem Writes.exists_signed (writes : Writes numeral negative size) :
    ∃ sign body, numeral = sign ++ body ∧ WritesUnsigned body size ∧
      ∀ rest, Signed sign (body ++ rest) negative := by
  cases writes with
  | plain unsigned =>
    exact ⟨[], _, rfl, unsigned, fun rest => .plain (unsigned.signless_append rest)⟩
  | plus unsigned => exact ⟨['+'], _, rfl, unsigned, fun _ => .plus⟩
  | minus unsigned => exact ⟨['-'], _, rfl, unsigned, fun _ => .minus⟩

/-- A numeral has a digit. -/
theorem WritesUnsigned.exists_digit (writes : WritesUnsigned text size) :
    ∃ digit ∈ text, digit.isDigit = true := by
  have first {digits : List Char} (some : IsDigits digits) :
      ∃ digit ∈ digits, digit.isDigit = true := by
    obtain ⟨digit, member⟩ := List.exists_mem_of_ne_nil digits some.ne_nil
    exact ⟨digit, member, some.all digit member⟩
  cases writes with
  | whole some => exact first some
  | pointed some _ =>
    obtain ⟨digit, member, isDigit⟩ := first some
    exact ⟨digit, List.mem_append_left _ member, isDigit⟩
  | leading some =>
    obtain ⟨digit, member, isDigit⟩ := first some
    exact ⟨digit, List.mem_cons_of_mem _ member, isDigit⟩

/-! ### The part that is covered -/

/-- What is covered of a text that begins behind the digits before a point. -/
def leadingFraction : List Char → List Char
  | '.' :: rest => '.' :: rest.takeWhile Char.isDigit
  | _ => []

/-- The part that a leading number covers of a text without a sign. -/
def leadingUnsigned (text : List Char) : List Char :=
  text.takeWhile Char.isDigit ++ leadingFraction (text.dropWhile Char.isDigit)

theorem leadingFraction_of_ne (pointless : ∀ tail, rest ≠ '.' :: tail) :
    leadingFraction rest = [] := by
  unfold leadingFraction
  split
  · exact absurd rfl (pointless _)
  · rfl

/-- A leading number is the sign and what is covered behind it. -/
theorem leadingNumeral_append
    (split : splitSign (sign ++ body) = (negative, body)) :
    leadingNumeral (sign ++ body) = sign ++ leadingUnsigned body := by
  have taken : (sign ++ body).take ((sign ++ body).length - body.length) = sign := by
    rw [List.length_append, Nat.add_sub_cancel, List.take_left]
  unfold leadingNumeral leadingUnsigned splitDigits
  rw [split]
  dsimp only
  rw [taken]
  generalize body.dropWhile Char.isDigit = rest
  split
  · exact List.append_assoc _ _ _
  · next pointless => rw [leadingFraction_of_ne pointless, List.append_nil]

theorem leadingFraction_begins (text : List Char) : leadingFraction text <+: text := by
  unfold leadingFraction
  split
  · exact List.cons_prefix_cons.mpr ⟨rfl, List.takeWhile_prefix _⟩
  · exact List.nil_prefix

theorem leadingUnsigned_begins (text : List Char) : leadingUnsigned text <+: text := by
  have covered := (List.prefix_append_right_inj (text.takeWhile Char.isDigit)).mpr
    (leadingFraction_begins (text.dropWhile Char.isDigit))
  rwa [List.takeWhile_append_dropWhile] at covered

theorem leadingUnsigned_pointed (all : ∀ digit ∈ digits, digit.isDigit = true)
    (allPlaces : ∀ place ∈ places, place.isDigit = true) (rest : List Char) :
    leadingUnsigned (digits ++ '.' :: (places ++ rest)) =
      digits ++ '.' :: (places ++ rest.takeWhile Char.isDigit) := by
  have point : Char.isDigit '.' = false := by decide
  unfold leadingUnsigned
  rw [List.takeWhile_append_of_pos all, List.dropWhile_append_of_pos all,
    List.takeWhile_cons_of_neg (by simp [point]), List.dropWhile_cons_of_neg (by simp [point]),
    List.append_nil]
  exact congrArg (digits ++ '.' :: ·) (List.takeWhile_append_of_pos allPlaces)

/-- Nothing of a numeral with which a text begins is left uncovered. -/
theorem WritesUnsigned.begins_leadingUnsigned (writes : WritesUnsigned text size)
    (rest : List Char) :
    text <+: leadingUnsigned (text ++ rest) := by
  cases writes with
  | whole some =>
    rw [leadingUnsigned, List.takeWhile_append_of_pos some.all, List.append_assoc]
    exact List.prefix_append _ _
  | @pointed digits places some all =>
    rw [List.append_assoc, List.cons_append, leadingUnsigned_pointed some.all all]
    refine (List.prefix_append_right_inj _).mpr ?_
    exact List.cons_prefix_cons.mpr ⟨rfl, List.prefix_append _ _⟩
  | @leading places some =>
    have covered := leadingUnsigned_pointed (List.forall_mem_nil _) some.all rest
    rw [List.nil_append] at covered
    rw [List.cons_append, covered]
    exact List.cons_prefix_cons.mpr ⟨rfl, List.prefix_append _ _⟩

/-- What is covered is a numeral, unless it has no digit. -/
theorem exists_writesUnsigned (text : List Char) :
    leadingUnsigned text = [] ∨ leadingUnsigned text = ['.'] ∨
      ∃ size, WritesUnsigned (leadingUnsigned text) size := by
  have all (text : List Char) : ∀ digit ∈ text.takeWhile Char.isDigit, digit.isDigit = true :=
    fun digit member => List.all_eq_true.mp List.all_takeWhile digit member
  unfold leadingUnsigned leadingFraction
  by_cases wholeNone : text.takeWhile Char.isDigit = []
  · rw [wholeNone, List.nil_append]
    split
    · next tail _ =>
      by_cases placesNone : tail.takeWhile Char.isDigit = []
      · exact .inr (.inl (by rw [placesNone]))
      · exact .inr (.inr ⟨_, .leading ⟨placesNone, all tail⟩⟩)
    · exact .inl rfl
  · refine .inr (.inr ?_)
    split
    · next tail _ => exact ⟨_, .pointed ⟨wholeNone, all text⟩ (all tail)⟩
    · rw [List.append_nil]
      exact ⟨_, .whole ⟨wholeNone, all text⟩⟩

/-! ### The longest numeral -/

theorem leadingNumeral_begins (text : List Char) : leadingNumeral text <+: text := by
  obtain ⟨sign, body, negative, rfl, signed⟩ := exists_signed text
  rw [leadingNumeral_append signed.splitSign]
  exact (List.prefix_append_right_inj sign).mpr (leadingUnsigned_begins body)

/-- What is covered of a text that begins with a numeral covers the numeral. -/
theorem Writes.covered (writes : Writes numeral negative size) (begins : numeral <+: text) :
    numeral <+: leadingNumeral text ∧ isBare (leadingNumeral text) = false := by
  obtain ⟨rest, rfl⟩ := begins
  obtain ⟨sign, body, rfl, unsigned, signed⟩ := writes.exists_signed
  have covered := unsigned.begins_leadingUnsigned rest
  rw [List.append_assoc, leadingNumeral_append (signed rest).splitSign]
  refine ⟨(List.prefix_append_right_inj sign).mpr covered, Bool.eq_false_iff.mpr fun bare => ?_⟩
  obtain ⟨digit, member, isDigit⟩ := unsigned.exists_digit
  have inside := covered.subset member
  rcases ((signed rest).of_begins (leadingUnsigned_begins _)).isBare_iff.mp bare with none | point
  · rw [none] at inside
    cases inside
  · rw [point, List.mem_singleton] at inside
    rw [inside] at isDigit
    exact absurd isDigit (by decide)

/-- What is covered is a numeral if there is a digit in it. -/
theorem isNumeral_leadingNumeral (filled : isBare (leadingNumeral text) = false) :
    IsNumeral (leadingNumeral text) := by
  obtain ⟨sign, body, negative, rfl, signed⟩ := exists_signed text
  have covered := signed.of_begins (leadingUnsigned_begins body)
  rw [leadingNumeral_append signed.splitSign] at filled ⊢
  have some := mt covered.isBare_iff.mpr (Bool.eq_false_iff.mp filled)
  rcases exists_writesUnsigned body with none | point | ⟨size, writes⟩
  · exact absurd (.inl none) some
  · exact absurd (.inr point) some
  · exact ⟨negative, size, covered.writes writes⟩

/-- The scanner finds the longest numeral with which a text begins, and if there is no digit in what
it finds, then the text begins with no numeral. -/
theorem isLongest_iff :
    IsLongest numeral text ↔ leadingNumeral text = numeral ∧ isBare numeral = false := by
  constructor
  · rintro ⟨begins, ⟨negative, size, writes⟩, longest⟩
    obtain ⟨covered, filled⟩ := writes.covered begins
    have bound := longest _ (leadingNumeral_begins text) (isNumeral_leadingNumeral filled)
    have same := covered.eq_of_length_le bound
    exact ⟨same.symm, same ▸ filled⟩
  · rintro ⟨rfl, filled⟩
    refine ⟨leadingNumeral_begins text, isNumeral_leadingNumeral filled, ?_⟩
    rintro other begins ⟨negative, size, writes⟩
    exact (writes.covered begins).1.length_le

/-! ### What is read -/

/-- Neither a digit nor the point has a small letter. -/
theorem toLower_eq {character : Char} (begins : character.isDigit = true ∨ character = '.') :
    character.toLower = character := by
  rcases begins with isDigit | rfl
  · have small : character.val ≤ '9'.val := of_decide_eq_true (Bool.and_eq_true_iff.mp isDigit).2
    refine dif_neg fun capital => ?_
    have order : 'A'.val ≤ '9'.val := UInt32.le_trans capital.1 small
    exact absurd order (by decide)
  · rfl

/-- No numeral is a word. -/
theorem WritesUnsigned.lowered_ne (writes : WritesUnsigned text size) {first : Char}
    (letter : first.isDigit = false ∧ first ≠ '.') (rest : List Char) :
    lowered text ≠ first :: rest := by
  obtain ⟨character, others, rfl, begins⟩ := writes.exists_cons
  rw [lowered, List.map_cons, toLower_eq begins]
  rintro ⟨⟩
  rcases begins with isDigit | point
  · exact Bool.false_ne_true (letter.1.symm.trans isDigit)
  · exact letter.2 point

theorem digitsValue_append (digits places : List Char) :
    digitsValue (digits ++ places) =
      10 ^ places.length * digitsValue digits + digitsValue places :=
  (Nat.ofDigitChars_append 0).trans Nat.ofDigitChars_eq_ofDigitChars_zero

theorem splitDigits_self (all : ∀ digit ∈ digits, digit.isDigit = true) :
    splitDigits digits = (digits, []) := by
  have split := @Json.splitDigits_append digits [] all nofun
  rwa [List.append_nil] at split

/-- A decimal without an exponent has as many places as there are digits behind the point. -/
theorem decimal?_of_split (first : splitDigits text = (digits, rest))
    (second : splitFraction rest = (places, [])) (some : digits ≠ [] ∨ places ≠ []) :
    decimal? text = .some ⟨digitsValue (digits ++ places), -(places.length : ℤ)⟩ := by
  have written : ¬ (digits.isEmpty = true ∧ places.isEmpty = true) := by
    simpa only [List.isEmpty_iff, not_and_or] using some
  unfold decimal?
  rw [first]
  dsimp only
  rw [second]
  dsimp only
  rw [if_neg written, exponentValue?, Option.map_some, Int.zero_sub]

theorem Decimal.value_pointed (digits places : List Char) :
    Decimal.value ⟨digitsValue (digits ++ places), -(places.length : ℤ)⟩ =
      digitsValue digits + digitsValue places / 10 ^ places.length := by
  rw [Decimal.value, digitsValue_append, zpow_neg, zpow_natCast]
  push_cast
  field_simp

/-- An unsigned numeral is read as a decimal of the size that it writes. -/
theorem WritesUnsigned.exists_decimal (writes : WritesUnsigned text size) :
    ∃ decimal, decimal? text = .some decimal ∧ decimal.value = size := by
  have none : digitsValue [] = 0 := rfl
  have point {digits places : List Char} (all : ∀ digit ∈ digits, digit.isDigit = true) :
      splitDigits (digits ++ '.' :: places) = (digits, '.' :: places) :=
    Json.splitDigits_append all (Json.endsDigits_cons (by decide))
  cases writes with
  | whole some =>
    refine ⟨_, decimal?_of_split (splitDigits_self some.all) rfl (.inl some.ne_nil), ?_⟩
    rw [Decimal.value_pointed, none, Nat.cast_zero, zero_div, add_zero]
  | pointed some all =>
    exact ⟨_, decimal?_of_split (point some.all) (splitDigits_self all) (.inl some.ne_nil),
      Decimal.value_pointed _ _⟩
  | leading some =>
    refine ⟨_, decimal?_of_split (point (List.forall_mem_nil _)) (splitDigits_self some.all)
      (.inr some.ne_nil), ?_⟩
    rw [Decimal.value_pointed, none, Nat.cast_zero, zero_add]

/-- No numeral is rejected, and what it is read as is correctly rounded. -/
theorem Writes.exists_slot (writes : Writes numeral negative size) :
    ∃ slot, parse? numeral = .some slot ∧ RoundsTo negative size slot := by
  obtain ⟨sign, body, rfl, unsigned, signed⟩ := writes.exists_signed
  obtain ⟨decimal, read, rfl⟩ := unsigned.exists_decimal
  have split := (signed []).splitSign
  rw [List.append_nil] at split
  refine ⟨ofDecimal negative decimal, ?_, roundsTo_ofDecimal negative decimal⟩
  have noInf : ¬ (lowered body = "inf".toList ∨ lowered body = "infinity".toList) :=
    not_or.mpr ⟨unsigned.lowered_ne (by decide) _, unsigned.lowered_ne (by decide) _⟩
  have noNan : ¬ lowered body = "nan".toList := unsigned.lowered_ne (by decide) _
  unfold parse?
  rw [split]
  dsimp only
  rw [if_neg noInf, if_neg noNan, read, Option.map_some]

end Gamecode.Number

namespace Gamecode.Builtins

open Number

variable {text : String} {numeral : List Char} {negative : Bool} {size : ℚ}

/-! ### Texts that begin with a number -/

/-- The longest numeral behind the blanks is what the reader of floats is given. -/
theorem floatOfText_of_isLongest (longest : IsLongest numeral (Text.trimStart text.toList)) :
    floatOfText text = (parse? numeral).getD 0 := by
  obtain ⟨rfl, filled⟩ := isLongest_iff.mp longest
  unfold floatOfText
  dsimp only
  rw [filled, if_neg Bool.false_ne_true]

theorem roundsTo_floatOfText (longest : IsLongest numeral (Text.trimStart text.toList))
    (writes : Writes numeral negative size) : RoundsTo negative size (floatOfText text) := by
  obtain ⟨slot, read, rounded⟩ := writes.exists_slot
  rw [floatOfText_of_isLongest longest, read]
  exact rounded

/-- How a text is read whose longest numeral behind the blanks is a given one. The numeral is what
the scanner cuts out, the reader of floats accepts it, and the result is the one float to which the
number that it writes is rounded correctly. Nothing else of the text matters, neither what stands
behind the numeral nor the blanks. -/
structure ReadAs (text : String) (numeral : List Char) : Prop where
  longest : IsLongest numeral (Text.trimStart text.toList)
  scanned : leadingNumeral (Text.trimStart text.toList) = numeral
  accepted : parse? numeral = some (floatOfText text)
  rounded : ∀ {negative size slot}, Writes numeral negative size →
    (RoundsTo negative size slot ↔ slot = floatOfText text)
  alone : ∀ other : String, IsLongest numeral (Text.trimStart other.toList) →
    floatOfText other = floatOfText text

/-- How a text is read that does not begin with a number: nothing is given to the reader of floats,
and the result is zero. -/
structure ReadAsNone (text : String) : Prop where
  none : ∀ numeral, numeral <+: Text.trimStart text.toList → ¬ IsNumeral numeral
  bare : isBare (leadingNumeral (Text.trimStart text.toList)) = true
  zero : floatOfText text = 0

/-- A text is read as the longest numeral with which it begins, after blanks, and as zero if it
begins with none. -/
theorem readAs_longest (text : String) : (∃ numeral, ReadAs text numeral) ∨ ReadAsNone text := by
  cases filled : isBare (leadingNumeral (Text.trimStart text.toList)) with
  | false =>
    have longest := isLongest_iff.mpr ⟨rfl, filled⟩
    obtain ⟨negative, size, writes⟩ := longest.isNumeral
    obtain ⟨slot, read, -⟩ := writes.exists_slot
    refine .inl ⟨_, longest, rfl, ?_, fun writes => ⟨fun rounds => ?_, ?_⟩, fun other same => ?_⟩
    · rw [floatOfText_of_isLongest longest, read]
      rfl
    · exact rounds.unique (roundsTo_floatOfText longest writes)
    · rintro rfl
      exact roundsTo_floatOfText longest writes
    · rw [floatOfText_of_isLongest longest, floatOfText_of_isLongest same]
  | true =>
    refine .inr ⟨fun numeral begins isNumeral => ?_, filled, if_pos filled⟩
    obtain ⟨negative, size, writes⟩ := isNumeral
    exact Bool.false_ne_true ((writes.covered begins).2.symm.trans filled)

example : floatOfText "  -4.5xyz" = 0xc0900000 := by decide

end Gamecode.Builtins
