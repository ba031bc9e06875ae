/-
This file reads texts that were written. The bytes of each character are told from all that may
follow them, so decoding gives back every text that was encoded. A zero byte stands for the
character NUL only, so a text without that character ends where its terminator stands. Bytes stand
in the same order as the texts that they encode.
-/

import Gamecode.Text.Lossy

namespace Gamecode.Text

/-! ### Bytes of a character -/

theorem isContinuation_ofNat : ∀ low < 64, isContinuation (UInt8.ofNat (low + 128)) = true := by
  decide

theorem payload_ofNat : ∀ low < 64, payload (UInt8.ofNat (low + 128)) = low := by
  decide

/-- The second of three bytes is low enough behind 13, which surrogates begin with as well, and high
enough behind zero, where two bytes would do otherwise. -/
theorem isSecond_of_three : ∀ high < 16, ∀ low < 64, (high = 0 → 32 ≤ low) →
    (high = 13 → low < 32) →
      isSecond (UInt8.ofNat (high + 224)) (UInt8.ofNat (low + 128)) = true := by
  decide

/-- The second of four bytes is low enough behind 4, where the characters end, and high enough
behind zero, where three bytes would do otherwise. -/
theorem isSecond_of_four : ∀ high < 5, ∀ low < 64, (high = 0 → 16 ≤ low) →
    (high = 4 → low < 16) →
      isSecond (UInt8.ofNat (high + 240)) (UInt8.ofNat (low + 128)) = true := by
  decide

theorem toNat_ofNat_of_lt {number : Nat} (small : number < 256) :
    (UInt8.ofNat number).toNat = number := by
  rw [UInt8.toNat_ofNat']
  exact Nat.mod_eq_of_lt small

/-- A first byte of two begins nothing shorter. -/
theorem first_of_two : ∀ high < 32, 2 ≤ high → ¬ UInt8.ofNat (high + 192) < 0x80 ∧
    0xc2 ≤ UInt8.ofNat (high + 192) ∧ UInt8.ofNat (high + 192) ≤ 0xdf := by
  decide

/-- A first byte of three begins nothing shorter. -/
theorem first_of_three : ∀ high < 16, ¬ UInt8.ofNat (high + 224) < 0x80 ∧
    ¬ (0xc2 ≤ UInt8.ofNat (high + 224) ∧ UInt8.ofNat (high + 224) ≤ 0xdf) ∧
    0xe0 ≤ UInt8.ofNat (high + 224) ∧ UInt8.ofNat (high + 224) ≤ 0xef := by
  decide

/-- A first byte of four begins nothing shorter. -/
theorem first_of_four : ∀ high < 5, ¬ UInt8.ofNat (high + 240) < 0x80 ∧
    ¬ (0xc2 ≤ UInt8.ofNat (high + 240) ∧ UInt8.ofNat (high + 240) ≤ 0xdf) ∧
    ¬ (0xe0 ≤ UInt8.ofNat (high + 240) ∧ UInt8.ofNat (high + 240) ≤ 0xef) ∧
    0xf0 ≤ UInt8.ofNat (high + 240) ∧ UInt8.ofNat (high + 240) ≤ 0xf4 := by
  decide

variable {value : Nat}

theorem firstCharacter_one (upper : value ≤ 0x7f) (rest : List UInt8) :
    firstCharacter (UInt8.ofNat value) rest = (Char.ofNat value, 1) := by
  have small : UInt8.ofNat value < 0x80 := by
    rw [UInt8.lt_iff_toNat_lt, toNat_ofNat_of_lt (by omega)]
    exact Nat.lt_succ_of_le upper
  unfold firstCharacter
  rw [if_pos small, toNat_ofNat_of_lt (by omega)]

theorem firstCharacter_two (lower : 0x7f < value) (upper : value ≤ 0x7ff) (rest : List UInt8) :
    firstCharacter (UInt8.ofNat (value / 64 % 32 + 192))
      (UInt8.ofNat (value % 64 + 128) :: rest) = (Char.ofNat value, 2) := by
  obtain ⟨notOne, isTwo⟩ := first_of_two (value / 64 % 32) (by omega) (by omega)
  have number : (value / 64 % 32 + 192) % 32 * 64 + value % 64 = value := by omega
  unfold firstCharacter
  rw [if_neg notOne, if_pos isTwo]
  dsimp only
  rw [if_pos (isContinuation_ofNat _ (by omega)), payload_ofNat _ (by omega),
    toNat_ofNat_of_lt (by omega), number]

theorem firstCharacter_three (lower : 0x7ff < value) (upper : value ≤ 0xffff)
    (valid : value < 0xd800 ∨ 0xdfff < value) (rest : List UInt8) :
    firstCharacter (UInt8.ofNat (value / 4096 % 16 + 224))
      (UInt8.ofNat (value / 64 % 64 + 128) :: UInt8.ofNat (value % 64 + 128) :: rest) =
        (Char.ofNat value, 3) := by
  obtain ⟨notOne, notTwo, isThree⟩ := first_of_three (value / 4096 % 16) (by omega)
  have second := isSecond_of_three (value / 4096 % 16) (by omega) (value / 64 % 64) (by omega)
    (by omega) (by omega)
  have number : ((value / 4096 % 16 + 224) % 16 * 64 + value / 64 % 64) * 64 + value % 64 =
      value := by omega
  unfold firstCharacter
  rw [if_neg notOne, if_neg notTwo, if_pos isThree]
  dsimp only
  rw [if_pos second, if_pos (isContinuation_ofNat _ (by omega)), payload_ofNat _ (by omega),
    payload_ofNat _ (by omega), toNat_ofNat_of_lt (by omega), number]

theorem firstCharacter_four (lower : 0xffff < value) (upper : value < 0x110000)
    (rest : List UInt8) :
    firstCharacter (UInt8.ofNat (value / 262144 % 8 + 240))
      (UInt8.ofNat (value / 4096 % 64 + 128) :: UInt8.ofNat (value / 64 % 64 + 128) ::
        UInt8.ofNat (value % 64 + 128) :: rest) = (Char.ofNat value, 4) := by
  obtain ⟨notOne, notTwo, notThree, isFour⟩ := first_of_four (value / 262144 % 8) (by omega)
  have second := isSecond_of_four (value / 262144 % 8) (by omega) (value / 4096 % 64) (by omega)
    (by omega) (by omega)
  have number : (((value / 262144 % 8 + 240) % 8 * 64 + value / 4096 % 64) * 64 +
      value / 64 % 64) * 64 + value % 64 = value := by omega
  unfold firstCharacter
  rw [if_neg notOne, if_neg notTwo, if_neg notThree, if_pos isFour]
  dsimp only
  rw [if_pos second, if_pos (isContinuation_ofNat _ (by omega)),
    if_pos (isContinuation_ofNat _ (by omega)), payload_ofNat _ (by omega),
    payload_ofNat _ (by omega), payload_ofNat _ (by omega), toNat_ofNat_of_lt (by omega), number]

/-- A character is read as it was encoded, whatever follows. -/
theorem firstCharacter_utf8EncodeChar (character : Char) :
    ∃ first others, String.utf8EncodeChar character = first :: others ∧
      ∀ rest, firstCharacter first (others ++ rest) = (character, others.length + 1) := by
  have valid : character.val.toNat < 0xd800 ∨
      0xdfff < character.val.toNat ∧ character.val.toNat < 0x110000 := character.valid
  have whole : Char.ofNat character.val.toNat = character := Char.ofNat_toNat character
  unfold String.utf8EncodeChar
  generalize character.val.toNat = value at valid whole
  rw [← whole]
  dsimp only
  split
  · next upper => exact ⟨_, _, rfl, firstCharacter_one upper⟩
  split
  · next lower upper => exact ⟨_, _, rfl, firstCharacter_two (Nat.not_le.mp lower) upper⟩
  split
  · next lower upper =>
    exact ⟨_, _, rfl, firstCharacter_three (Nat.not_le.mp lower) upper (by omega)⟩
  · next lower => exact ⟨_, _, rfl, firstCharacter_four (Nat.not_le.mp lower) (by omega)⟩

/-- No byte of a character other than NUL is zero. -/
theorem ne_zero_of_mem_utf8EncodeChar {character : Char} (visible : character ≠ '\x00')
    {byte : UInt8} (member : byte ∈ String.utf8EncodeChar character) : byte ≠ 0 := by
  have apart {number : Nat} (positive : 0 < number) (small : number < 256) :
      UInt8.ofNat number ≠ 0 := by
    intro zero
    have same := congrArg UInt8.toNat zero
    rw [toNat_ofNat_of_lt small] at same
    exact Nat.ne_of_gt positive same
  have positive : 0 < character.val.toNat := by
    refine Nat.pos_of_ne_zero fun zero => visible ?_
    exact Char.ext (UInt32.toNat_inj.mp zero)
  unfold String.utf8EncodeChar at member
  generalize character.val.toNat = value at positive member
  dsimp only at member
  split at member
  · next upper =>
    obtain rfl := List.mem_singleton.mp member
    exact apart positive (by omega)
  split at member
  · simp only [List.mem_cons, List.not_mem_nil, or_false] at member
    rcases member with rfl | rfl <;> exact apart (by omega) (by omega)
  split at member
  · simp only [List.mem_cons, List.not_mem_nil, or_false] at member
    rcases member with rfl | rfl | rfl <;> exact apart (by omega) (by omega)
  · simp only [List.mem_cons, List.not_mem_nil, or_false] at member
    rcases member with rfl | rfl | rfl | rfl <;> exact apart (by omega) (by omega)

/-! ### Texts -/

/-- A row of bytes is listed from a place on, behind those that were listed before. -/
theorem toList_loop_eq (bytes : ByteArray) (place : Nat) (listed : List UInt8) :
    ByteArray.toList.loop bytes place listed = listed.reverse ++ bytes.data.toList.drop place := by
  fun_induction ByteArray.toList.loop bytes place listed with
  | case1 place listed inside inductionHypothesis =>
    have bound : place < bytes.data.toList.length := by rwa [Array.length_toList]
    have head : bytes.get! place = bytes.data.toList[place] := by
      rw [Array.getElem_toList]
      exact getElem!_pos bytes.data place inside
    rw [inductionHypothesis, List.drop_eq_getElem_cons bound, List.reverse_cons, head,
      List.append_assoc, List.singleton_append]
  | case2 place listed outside =>
    have bound : bytes.data.toList.length ≤ place := by
      rw [Array.length_toList]
      exact Nat.not_lt.mp outside
    rw [List.drop_eq_nil_of_le bound, List.append_nil]

theorem encode_eq (text : String) : encode text = text.toList.flatMap String.utf8EncodeChar := by
  have bytes : text.toUTF8 = (text.toList.flatMap String.utf8EncodeChar).toByteArray :=
    congrArg String.toUTF8 String.ofList_toList.symm
  rw [encode, bytes, ByteArray.toList, toList_loop_eq, List.data_toByteArray]
  rfl

theorem encode_append (first second : String) :
    encode (first ++ second) = encode first ++ encode second := by
  rw [encode_eq, encode_eq, encode_eq, String.toList_append, List.flatMap_append]

/-- The characters of a text are read as they were encoded, if there are rounds for all of them. -/
theorem decodeCharacters_go_flatMap {characters : List Char} {rounds : Nat}
    (enough : characters.length ≤ rounds) :
    decodeCharacters.go (characters.flatMap String.utf8EncodeChar) rounds = characters := by
  induction characters generalizing rounds with
  | nil => rw [List.flatMap_nil, decodeCharacters.go]
  | cons character rest inductionHypothesis =>
    obtain ⟨first, others, encoded, read⟩ := firstCharacter_utf8EncodeChar character
    obtain ⟨fewer, rfl⟩ := Nat.exists_eq_add_of_le' (Nat.le_trans (Nat.le_add_left 1 _) enough)
    rw [List.flatMap_cons, encoded, List.cons_append, decodeCharacters.go, read]
    dsimp only
    rw [Nat.add_sub_cancel, List.drop_left, inductionHypothesis (Nat.le_of_succ_le_succ enough)]

theorem length_le_flatMap (characters : List Char) :
    characters.length ≤ (characters.flatMap String.utf8EncodeChar).length := by
  induction characters with
  | nil => exact Nat.le_refl _
  | cons character rest inductionHypothesis =>
    obtain ⟨first, others, encoded, -⟩ := firstCharacter_utf8EncodeChar character
    rw [List.flatMap_cons, List.length_append, encoded, List.length_cons, List.length_cons]
    omega

/-- A text is read as it was encoded. -/
theorem decode_encode (text : String) : decode (encode text) = text := by
  rw [decode, decodeCharacters, encode_eq, decodeCharacters_go_flatMap (length_le_flatMap _),
    String.ofList_toList]

/-- The bytes of a text without NUL hold no terminator. -/
theorem ne_zero_of_mem_encode {text : String} (visible : '\x00' ∉ text.toList) {byte : UInt8}
    (member : byte ∈ encode text) : byte ≠ 0 := by
  rw [encode_eq] at member
  obtain ⟨character, inside, bytes⟩ := List.mem_flatMap.mp member
  exact ne_zero_of_mem_utf8EncodeChar (fun same => visible (same ▸ inside)) bytes

/-! ### Order -/

/-- The bytes of a smaller character come first, whatever follows. -/
theorem utf8EncodeChar_append_lt {first second : Char} (less : first < second)
    (left right : List UInt8) :
    String.utf8EncodeChar first ++ left < String.utf8EncodeChar second ++ right := by
  have valid : second.val.toNat < 0xd800 ∨
      0xdfff < second.val.toNat ∧ second.val.toNat < 0x110000 := second.valid
  have less : first.val.toNat < second.val.toNat := less
  unfold String.utf8EncodeChar
  generalize first.val.toNat = value at less
  generalize second.val.toNat = other at less valid
  -- All bytes but the first one are digits in base 64.
  have secondDigit (number : Nat) : number / 4096 = number / 64 / 64 := by omega
  have thirdDigit (number : Nat) : number / 262144 = number / 64 / 64 / 64 := by omega
  simp only [secondDigit, thirdDigit]
  repeat' split
  all_goals
    simp (disch := omega) only [List.cons_append, List.nil_append, List.cons_lt_cons_iff,
      UInt8.lt_iff_toNat_lt, ← UInt8.toNat_inj, toNat_ofNat_of_lt]
    omega

theorem flatMap_utf8EncodeChar_lt {first second : List Char} (less : first < second) :
    first.flatMap String.utf8EncodeChar < second.flatMap String.utf8EncodeChar := by
  induction first generalizing second with
  | nil =>
    cases second with
    | nil => exact absurd less (List.lt_irrefl [])
    | cons character rest =>
      obtain ⟨byte, others, encoded, -⟩ := firstCharacter_utf8EncodeChar character
      rw [List.flatMap_cons, encoded]
      exact List.nil_lt_cons byte _
  | cons character rest inductionHypothesis =>
    cases second with
    | nil => exact absurd less (List.not_lt_nil _)
    | cons other others =>
      rw [List.flatMap_cons, List.flatMap_cons]
      rcases List.cons_lt_cons_iff.mp less with smaller | ⟨rfl, later⟩
      · exact utf8EncodeChar_append_lt smaller _ _
      · exact List.append_left_lt (inductionHypothesis later)

/-- Texts stand in the order of their bytes. -/
theorem encode_lt_encode_iff {first second : String} :
    encode first < encode second ↔ first < second := by
  have forward {first second : String} (less : first < second) : encode first < encode second := by
    rw [encode_eq, encode_eq]
    exact flatMap_utf8EncodeChar_lt less
  refine ⟨fun less => ?_, forward⟩
  refine String.not_le.mp fun below => ?_
  by_cases same : second = first
  · exact List.lt_irrefl (encode first) (same ▸ less)
  · have smaller : second < first :=
      String.not_le.mp fun above => same (String.le_antisymm below above)
    exact List.lt_asymm less (forward smaller)

end Gamecode.Text
