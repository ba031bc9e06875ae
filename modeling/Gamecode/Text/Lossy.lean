/-
Texts of bytes. Strings are stored as UTF-8, but a table may hold any bytes; decoding puts the
replacement character for each longest run of bytes that begins a character without finishing it,
and for each byte that cannot begin one.
-/

namespace Gamecode.Text

/-- The character that stands for bytes that are no text. -/
def replacement : Char := '\uFFFD'

/-- Whether a byte can follow the first byte of a character. -/
def isContinuation (byte : UInt8) : Bool :=
  byte &&& 0xc0 == 0x80

/-- The low six bits of a continuation byte. -/
def payload (byte : UInt8) : Nat :=
  byte.toNat % 64

/-- Whether a byte can stand second after a first byte. Some first bytes are narrower here, so that
no character has two forms and no surrogate or number past the last character has one. -/
def isSecond (first second : UInt8) : Bool :=
  if first = 0xe0 then 0xa0 ≤ second && second ≤ 0xbf
  else if first = 0xed then 0x80 ≤ second && second ≤ 0x9f
  else if first = 0xf0 then 0x90 ≤ second && second ≤ 0xbf
  else if first = 0xf4 then 0x80 ≤ second && second ≤ 0x8f
  else isContinuation second

/-- The first character of a text, and how many bytes it takes. -/
def firstCharacter (first : UInt8) (rest : List UInt8) : Char × Nat :=
  if first < 0x80 then (Char.ofNat first.toNat, 1)
  else if 0xc2 ≤ first ∧ first ≤ 0xdf then
    match rest with
    | second :: _ =>
      if isContinuation second then
        (Char.ofNat (first.toNat % 32 * 64 + payload second), 2)
      else (replacement, 1)
    | [] => (replacement, 1)
  else if 0xe0 ≤ first ∧ first ≤ 0xef then
    match rest with
    | second :: rest =>
      if isSecond first second then
        match rest with
        | third :: _ =>
          if isContinuation third then
            (Char.ofNat ((first.toNat % 16 * 64 + payload second) * 64 + payload third), 3)
          else (replacement, 2)
        | [] => (replacement, 2)
      else (replacement, 1)
    | [] => (replacement, 1)
  else if 0xf0 ≤ first ∧ first ≤ 0xf4 then
    match rest with
    | second :: rest =>
      if isSecond first second then
        match rest with
        | third :: rest =>
          if isContinuation third then
            match rest with
            | fourth :: _ =>
              if isContinuation fourth then
                (Char.ofNat (((first.toNat % 8 * 64 + payload second) * 64 + payload third) * 64
                  + payload fourth), 4)
              else (replacement, 3)
            | [] => (replacement, 3)
          else (replacement, 2)
        | [] => (replacement, 2)
      else (replacement, 1)
    | [] => (replacement, 1)
  else (replacement, 1)

/-- Every byte belongs to exactly one character, so there are no more characters than bytes. -/
def decodeCharacters (bytes : List UInt8) : List Char :=
  go bytes bytes.length
where
  go : List UInt8 → Nat → List Char
    | [], _ | _, 0 => []
    | first :: rest, rounds + 1 =>
      let (character, width) := firstCharacter first rest
      character :: go (rest.drop (width - 1)) rounds

/-- The text of some bytes. -/
def decode (bytes : List UInt8) : String :=
  String.ofList (decodeCharacters bytes)

/-- The bytes of a text. -/
def encode (text : String) : List UInt8 :=
  text.toUTF8.toList

end Gamecode.Text
