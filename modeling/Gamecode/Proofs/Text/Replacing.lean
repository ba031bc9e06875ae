/-
This file is about bytes that are decoded and encoded again. Bytes that are no text come back as
replacement characters, and a replacement character is at least as long as what it stands for.
Nothing gets shorter on the way, so bytes that come back in a row with others come back as they were
only if each of them is a text.
-/

import Gamecode.Proofs.Text.Encoding

namespace Gamecode.Text

/-! ### The lengths of characters -/

theorem toNat_ofNat {value : Nat} (valid : value < 0xd800 ∨ 0xdfff < value ∧ value < 0x110000) :
    (Char.ofNat value).val.toNat = value := by
  unfold Char.ofNat
  rw [dif_pos valid]
  exact UInt32.toNat_ofNatLT

/-- A character takes the more bytes, the greater its number is. -/
theorem length_utf8EncodeChar_ofNat {value : Nat}
    (valid : value < 0xd800 ∨ 0xdfff < value ∧ value < 0x110000) :
    (String.utf8EncodeChar (Char.ofNat value)).length =
      if value ≤ 0x7f then 1 else if value ≤ 0x7ff then 2 else if value ≤ 0xffff then 3 else 4 := by
  unfold String.utf8EncodeChar
  rw [toNat_ofNat valid]
  dsimp only
  split
  · rfl
  split
  · rfl
  split <;> rfl

/-- A character that was read from at least one byte, and from no more bytes than it is written
with. -/
def NoLonger (read : Char × Nat) : Prop :=
  0 < read.2 ∧ read.2 ≤ (String.utf8EncodeChar read.1).length

theorem noLonger_replacement {width : Nat} (positive : 0 < width) (upper : width ≤ 3) :
    NoLonger (replacement, width) :=
  ⟨positive, upper⟩

theorem noLonger_of_length {character : Char} {width : Nat} (positive : 0 < width)
    (length : (String.utf8EncodeChar character).length = width) : NoLonger (character, width) :=
  ⟨positive, Nat.le_of_eq length.symm⟩

theorem noLonger_one {first : UInt8} (low : first < 0x80) :
    NoLonger (Char.ofNat first.toNat, 1) := by
  rw [UInt8.lt_iff_toNat_lt] at low
  change first.toNat < 128 at low
  refine noLonger_of_length Nat.one_pos ?_
  rw [length_utf8EncodeChar_ofNat (by omega), if_pos (by omega)]

theorem noLonger_two {first : UInt8} (range : 0xc2 ≤ first ∧ first ≤ 0xdf) (second : UInt8) :
    NoLonger (Char.ofNat (first.toNat % 32 * 64 + payload second), 2) := by
  rw [UInt8.le_iff_toNat_le, UInt8.le_iff_toNat_le] at range
  change 194 ≤ first.toNat ∧ first.toNat ≤ 223 at range
  have low : payload second < 64 := Nat.mod_lt _ (by decide)
  refine noLonger_of_length Nat.two_pos ?_
  rw [length_utf8EncodeChar_ofNat (by omega), if_neg (by omega), if_pos (by omega)]

/-- What a second byte may say behind the first bytes that do not leave it every choice. -/
theorem payload_of_isSecond : ∀ second < 256,
    (isSecond 0xe0 (UInt8.ofNat second) = true → 32 ≤ payload (UInt8.ofNat second)) ∧
    (isSecond 0xed (UInt8.ofNat second) = true → payload (UInt8.ofNat second) < 32) ∧
    (isSecond 0xf0 (UInt8.ofNat second) = true → 16 ≤ payload (UInt8.ofNat second)) ∧
    (isSecond 0xf4 (UInt8.ofNat second) = true → payload (UInt8.ofNat second) < 16) := by
  decide +kernel

theorem payload_second {first second : UInt8} (fits : isSecond first second = true) :
    (first.toNat = 224 → 32 ≤ payload second) ∧ (first.toNat = 237 → payload second < 32) ∧
      (first.toNat = 240 → 16 ≤ payload second) ∧ (first.toNat = 244 → payload second < 16) := by
  obtain ⟨long, surrogate, longer, last⟩ := payload_of_isSecond second.toNat second.toNat_lt
  rw [UInt8.ofNat_toNat] at long surrogate longer last
  have named (byte : UInt8) (same : first.toNat = byte.toNat) : isSecond byte second = true :=
    UInt8.toNat_inj.mp same ▸ fits
  exact ⟨fun same => long (named 0xe0 same), fun same => surrogate (named 0xed same),
    fun same => longer (named 0xf0 same), fun same => last (named 0xf4 same)⟩

theorem noLonger_three {first second : UInt8} (range : 0xe0 ≤ first ∧ first ≤ 0xef)
    (fits : isSecond first second = true) (third : UInt8) :
    NoLonger (Char.ofNat ((first.toNat % 16 * 64 + payload second) * 64 + payload third), 3) := by
  rw [UInt8.le_iff_toNat_le, UInt8.le_iff_toNat_le] at range
  change 224 ≤ first.toNat ∧ first.toNat ≤ 239 at range
  obtain ⟨long, surrogate, -, -⟩ := payload_second fits
  have low : payload second < 64 := Nat.mod_lt _ (by decide)
  have lowest : payload third < 64 := Nat.mod_lt _ (by decide)
  refine noLonger_of_length (Nat.zero_lt_succ _) ?_
  rw [length_utf8EncodeChar_ofNat (by omega), if_neg (by omega), if_neg (by omega),
    if_pos (by omega)]

theorem noLonger_four {first second : UInt8} (range : 0xf0 ≤ first ∧ first ≤ 0xf4)
    (fits : isSecond first second = true) (third fourth : UInt8) :
    NoLonger (Char.ofNat (((first.toNat % 8 * 64 + payload second) * 64 + payload third) * 64
      + payload fourth), 4) := by
  rw [UInt8.le_iff_toNat_le, UInt8.le_iff_toNat_le] at range
  change 240 ≤ first.toNat ∧ first.toNat ≤ 244 at range
  obtain ⟨-, -, longer, last⟩ := payload_second fits
  have low : payload second < 64 := Nat.mod_lt _ (by decide)
  have lower : payload third < 64 := Nat.mod_lt _ (by decide)
  have lowest : payload fourth < 64 := Nat.mod_lt _ (by decide)
  refine noLonger_of_length (Nat.zero_lt_succ _) ?_
  rw [length_utf8EncodeChar_ofNat (by omega), if_neg (by omega), if_neg (by omega),
    if_neg (by omega)]

/-- Whatever is read as the first character, it is not longer than it is written. -/
theorem noLonger_firstCharacter (first : UInt8) (rest : List UInt8) :
    NoLonger (firstCharacter first rest) := by
  unfold firstCharacter
  repeat' split
  any_goals exact noLonger_replacement (by decide) (by decide)
  · next low => exact noLonger_one low
  · exact noLonger_two ‹_› _
  · exact noLonger_three ‹_› ‹_› _
  · exact noLonger_four ‹_› ‹_› _ _

/-! ### Bytes that are decoded and encoded again -/

/-- The bytes of the text that is read from some bytes. -/
def mended (bytes : List UInt8) : List UInt8 :=
  encode (decode bytes)

/-- Bytes come back as they were exactly if they are those of a text. -/
theorem mended_eq_self_iff {bytes : List UInt8} :
    mended bytes = bytes ↔ ∃ text, encode text = bytes := by
  constructor
  · exact fun same => ⟨decode bytes, same⟩
  · rintro ⟨text, rfl⟩
    exact congrArg encode (decode_encode text)

theorem length_le_flatMap_go {bytes : List UInt8} {rounds : Nat} (enough : bytes.length ≤ rounds) :
    bytes.length ≤ ((decodeCharacters.go bytes rounds).flatMap String.utf8EncodeChar).length := by
  induction rounds generalizing bytes with
  | zero => exact Nat.le_trans enough (Nat.zero_le _)
  | succ rounds inductionHypothesis =>
    cases bytes with
    | nil => exact Nat.zero_le _
    | cons first rest =>
      obtain ⟨positive, upper⟩ := noLonger_firstCharacter first rest
      rw [List.length_cons] at enough
      have others : (rest.drop ((firstCharacter first rest).2 - 1)).length ≤ rounds := by
        rw [List.length_drop]
        omega
      have later := inductionHypothesis others
      rw [List.length_drop] at later
      rw [decodeCharacters.go, List.length_cons, List.flatMap_cons, List.length_append]
      omega

/-- Nothing gets shorter by being mended. -/
theorem length_le_mended (bytes : List UInt8) : bytes.length ≤ (mended bytes).length := by
  rw [mended, encode_eq, decode, String.toList_ofList]
  exact length_le_flatMap_go (Nat.le_refl _)

/-- Bytes that are mended one after the other are their own row exactly if all of them are texts. -/
theorem flatMap_mended_eq_flatten_iff {parts : List (List UInt8)} :
    parts.flatMap mended = parts.flatten ↔ ∀ bytes ∈ parts, ∃ text, encode text = bytes := by
  have longer (rest : List (List UInt8)) : rest.flatten.length ≤ (rest.flatMap mended).length := by
    induction rest with
    | nil => exact Nat.le_refl _
    | cons bytes rest inductionHypothesis =>
      have first := length_le_mended bytes
      rw [List.flatten_cons, List.flatMap_cons, List.length_append, List.length_append]
      omega
  induction parts with
  | nil => exact iff_of_true rfl nofun
  | cons bytes rest inductionHypothesis =>
    have seam : mended bytes ++ rest.flatMap mended = bytes ++ rest.flatten ↔
        mended bytes = bytes ∧ rest.flatMap mended = rest.flatten := by
      constructor
      · intro same
        -- Neither part gets shorter, so the seam stays where it was.
        have lengths := congrArg List.length same
        have first := length_le_mended bytes
        have others := longer rest
        rw [List.length_append, List.length_append] at lengths
        exact List.append_inj same (by omega)
      · rintro ⟨first, others⟩
        rw [first, others]
    rw [List.flatMap_cons, List.flatten_cons, List.forall_mem_cons, seam]
    exact and_congr mended_eq_self_iff inductionHypothesis

end Gamecode.Text
