/-
This file says that structured texts read back: a document, written on one line or on many, is read
as the node that has its values, its elements and its members in their order. Strings read back
because an escape denotes the character that it was written for. The reader has two rounds for each
character, which is more than a document can use up.
-/

import Gamecode.Proofs.Json.Floats

namespace Gamecode

namespace Json

open Reader

/-! ### Characters of strings -/

/-- A piece of a string denotes a character: by itself, or by its number where that is small. -/
inductive Reader.Piece.Denotes : Piece → Char → Prop
  | character (character : Char) : Denotes (.character character) character
  | unit {number : Nat} (small : number < 0x20) : Denotes (.unit number) (Char.ofNat number)

namespace Reader

/-- A piece that denotes a character adds it to the text. -/
theorem join?_cons {piece : Piece} {character : Char} (denotes : piece.Denotes character)
    (rest : List Piece) : join? (piece :: rest) = (join? rest).map (character :: ·) := by
  cases denotes with
  | character => rw [join?]
  | unit small =>
    rename_i number
    have high : isHigh number = false := Bool.and_eq_false_imp.mpr fun above =>
      absurd (of_decide_eq_true above) (by omega)
    have low : isLow number = false := Bool.and_eq_false_imp.mpr fun above =>
      absurd (of_decide_eq_true above) (by omega)
    match rest with
    | [] | .character _ :: _ =>
      unfold join?
      rw [high, low]
      rfl
    | .unit next :: others =>
      rw [join?, high, low]
      rfl

/-- The digits of the number of a control character make up the unit of that number. -/
theorem unit?_hexText : ∀ number < 0x20,
    (Text.padLeft 4 '0' (Text.hexText number)).toList =
        ['0', '0', (number / 16).digitChar, (number % 16).digitChar] ∧
      unit? '0' '0' (number / 16).digitChar (number % 16).digitChar = some (.unit number) := by
  decide

variable {character letter : Char} {rest : List Char}

theorem pieces?_escape (known : escaped? letter = some character) (rest : List Char) :
    pieces? ('\\' :: letter :: rest) =
      (pieces? rest).map fun found => (.character character :: found.1, found.2) := by
  rw [pieces?, known]
  · cases pieces? rest <;> rfl
  · rintro _ _ _ _ _ rfl
    cases known

theorem pieces?_plain (quote : character ≠ '"') (backslash : character ≠ '\\')
    (printable : ¬ character.toNat < 0x20) (rest : List Char) :
    pieces? (character :: rest) =
      (pieces? rest).map fun found => (.character character :: found.1, found.2) := by
  rw [pieces?, if_neg printable]
  · cases pieces? rest <;> rfl
  · exact quote
  · exact fun _ _ _ _ _ same => absurd same backslash
  · exact fun _ _ same => absurd same backslash

/-- A character that was written is read as a piece that denotes it. -/
theorem pieces?_characterText (character : Char) :
    ∃ piece : Piece, piece.Denotes character ∧ ∀ rest,
      pieces? ((characterText character).toList ++ rest) =
        (pieces? rest).map fun found => (piece :: found.1, found.2) := by
  unfold characterText
  split
  · next same => exact same ▸ ⟨_, .character _, pieces?_escape rfl⟩
  split
  · next same => exact same ▸ ⟨_, .character _, pieces?_escape rfl⟩
  split
  · next same => exact same ▸ ⟨_, .character _, pieces?_escape rfl⟩
  split
  · next same => exact same ▸ ⟨_, .character _, pieces?_escape rfl⟩
  split
  · next same => exact same ▸ ⟨_, .character _, pieces?_escape rfl⟩
  split
  · next same => exact same ▸ ⟨_, .character _, pieces?_escape rfl⟩
  split
  · next same => exact same ▸ ⟨_, .character _, pieces?_escape rfl⟩
  split
  · next small =>
    obtain ⟨digits, unit⟩ := unit?_hexText character.toNat small
    have denotes := Piece.Denotes.unit small
    rw [Char.ofNat_toNat] at denotes
    refine ⟨.unit character.toNat, denotes, fun rest => ?_⟩
    rw [String.toList_append, digits]
    show pieces? ('\\' :: 'u' :: '0' :: '0' :: _ :: _ :: rest) = _
    rw [pieces?, unit]
    cases pieces? rest <;> rfl
  · next quote backslash _ _ _ _ _ large =>
    refine ⟨.character character, .character character, fun rest => ?_⟩
    rw [Char.toString_eq_singleton, String.toList_singleton]
    exact pieces?_plain quote backslash large rest

/-- A string reads back, whatever follows its closing quote. -/
theorem string?_stringText (text : String) (rest : List Char) :
    ∃ inner, (stringText text).toList ++ rest = '"' :: inner ∧
      string? inner = some (some text, rest) := by
  have each : ∀ characters : List Char, ∃ pieces,
      pieces? (characters.flatMap (fun character => (characterText character).toList) ++
          '"' :: rest) = some (pieces, rest) ∧ join? pieces = some characters := by
    intro characters
    induction characters with
    | nil => exact ⟨[], by rw [List.flatMap_nil, List.nil_append, pieces?], by rw [join?]⟩
    | cons character others inductionHypothesis =>
      obtain ⟨pieces, read, joined⟩ := inductionHypothesis
      obtain ⟨piece, denotes, known⟩ := pieces?_characterText character
      refine ⟨piece :: pieces, ?_, ?_⟩
      · rw [List.flatMap_cons, List.append_assoc, known, read]
        rfl
      · rw [join?_cons denotes, joined]
        rfl
  obtain ⟨pieces, read, joined⟩ := each text.toList
  refine ⟨text.toList.flatMap (fun character => (characterText character).toList) ++ '"' :: rest,
    ?_, ?_⟩
  · unfold stringText
    rw [String.toList_append, String.toList_append, String.toList_join, List.flatMap_map,
      List.append_assoc, List.append_assoc]
    rfl
  · unfold string?
    rw [read, Option.map_some]
    dsimp only
    rw [joined, Option.map_some, String.ofList_toList]

end Reader

/-! ### Blanks -/

section Blanks

variable {blanks rest : List Char} {character : Char}

theorem skipBlanks_append (all : ∀ blank ∈ blanks, isBlank blank = true) (rest : List Char) :
    skipBlanks (blanks ++ rest) = skipBlanks rest :=
  List.dropWhile_append_of_pos all

theorem skipBlanks_cons (visible : isBlank character = false) (rest : List Char) :
    skipBlanks (character :: rest) = character :: rest :=
  List.dropWhile_cons_of_neg (Bool.eq_false_iff.mp visible)

end Blanks

/-- A layout that puts nothing but blanks between the parts. -/
structure Layout.Blank (layout : Layout) : Prop where
  lineBreak : ∀ depth, ∀ blank ∈ (layout.lineBreak depth).toList, isBlank blank = true
  colon : ∃ blanks, layout.colon.toList = ':' :: blanks ∧ ∀ blank ∈ blanks, isBlank blank = true

theorem Layout.blank_compact : Layout.compact.Blank :=
  ⟨fun _ => nofun, [], rfl, nofun⟩

theorem Layout.blank_pretty : Layout.pretty.Blank := by
  refine ⟨fun depth blank member => ?_, [' '], rfl, ?_⟩
  · change blank ∈ ("\n" ++ String.ofList (List.replicate (2 * depth) ' ')).toList at member
    rw [String.toList_append, @String.toList_ofList (List.replicate _ _)] at member
    rcases List.mem_append.mp member with newline | space
    · rw [List.mem_singleton.mp newline]
      rfl
    · rw [List.eq_of_mem_replicate space]
      rfl
  · intro blank member
    rw [List.mem_singleton.mp member]
    rfl

/-! ### Nodes of documents -/

end Json

open Json

mutual

/-- What a document is read as. -/
def Document.node : Document → Node
  | .null => .null
  | .bool value => .bool value
  | .integer value => .number (integerNumeral value)
  | .float bits => floatNode bits
  | .string text => .string (some text)
  | .array elements => .array (Json.elementNodes elements)
  | .object members => .object (Json.memberNodes members)

def Json.elementNodes : List Document → List Node
  | [] => []
  | element :: rest => element.node :: Json.elementNodes rest

def Json.memberNodes : List (String × Document) → List (Option String × Node)
  | [] => []
  | (key, value) :: rest => (some key, value.node) :: Json.memberNodes rest

end

namespace Json

open Reader

theorem elementNodes_eq_map (elements : List Document) :
    elementNodes elements = elements.map Document.node := by
  induction elements with
  | nil => rw [elementNodes, List.map_nil]
  | cons element rest inductionHypothesis =>
    rw [elementNodes, List.map_cons, inductionHypothesis]

theorem memberNodes_eq_map (members : List (String × Document)) :
    memberNodes members = members.map fun member => (some member.1, member.2.node) := by
  induction members with
  | nil => rw [memberNodes, List.map_nil]
  | cons member rest inductionHypothesis =>
    rw [memberNodes, List.map_cons, inductionHypothesis]

/-! ### First characters -/

/-- A text that begins with a character that is no blank and closes no list. -/
def Begins (text : List Char) : Prop :=
  ∃ first rest, text = first :: rest ∧ isBlank first = false ∧ first ≠ ']'

theorem Begins.append {text : List Char} (begins : Begins text) (rest : List Char) :
    Begins (text ++ rest) := by
  obtain ⟨first, others, rfl, visible, opens⟩ := begins
  exact ⟨first, others ++ rest, rfl, visible, opens⟩

theorem Begins.length_pos {text : List Char} (begins : Begins text) : 0 < text.length := by
  obtain ⟨first, others, rfl, -⟩ := begins
  exact Nat.succ_pos _

theorem Begins.skipBlanks_append {blanks text : List Char} (begins : Begins text)
    (all : ∀ blank ∈ blanks, isBlank blank = true) : skipBlanks (blanks ++ text) = text := by
  obtain ⟨first, others, rfl, visible, -⟩ := begins
  rw [Json.skipBlanks_append all, skipBlanks_cons visible]

theorem Begins.skipBlanks_eq {text : List Char} (begins : Begins text) : skipBlanks text = text :=
  @Begins.skipBlanks_append [] text begins nofun

variable {numeral : Numeral} {text rest : List Char} {rounds : Nat}

/-- A numeral begins with a minus sign or with a digit. -/
theorem Numeral.WellFormed.text_eq_cons (wellFormed : numeral.WellFormed) :
    ∃ first rest, numeral.text = first :: rest ∧ (first = '-' ∨ first.isDigit = true) := by
  obtain ⟨first, others, shape⟩ := List.exists_cons_of_ne_nil wellFormed.whole.ne_nil
  have digit : first.isDigit = true :=
    wellFormed.whole.all first (shape ▸ List.mem_cons_self)
  unfold Numeral.text
  rw [shape]
  cases numeral.negative with
  | true => exact ⟨'-', _, rfl, .inl rfl⟩
  | false => exact ⟨first, _, rfl, .inr digit⟩

theorem begins_numeral (wellFormed : numeral.WellFormed) : Begins numeral.text := by
  obtain ⟨first, others, shape, sign⟩ := wellFormed.text_eq_cons
  refine ⟨first, others, shape, ?_, ?_⟩
  · rw [Bool.eq_false_iff]
    intro blank
    unfold isBlank at blank
    simp only [Bool.or_eq_true, decide_eq_true_eq] at blank
    rcases blank with ((rfl | rfl) | rfl) | rfl <;> exact absurd sign (by decide)
  · rintro rfl
    exact absurd sign (by decide)

/-- A numeral is a value. -/
theorem value?_numeral (wellFormed : numeral.WellFormed) (ends : EndsNumeral rest)
    (known : skipBlanks text = numeral.text ++ rest) :
    value? (rounds + 1) text = some (.number numeral, rest) := by
  have other : ∀ character tail, numeral.text ++ rest = character :: tail →
      character = '-' ∨ character.isDigit = true := by
    intro character tail same
    obtain ⟨first, others, shape, sign⟩ := wellFormed.text_eq_cons
    rw [shape] at same
    cases same
    exact sign
  unfold value?
  rw [known]
  split
  · next same => exact absurd (other _ _ same) (by decide)
  · next same => exact absurd (other _ _ same) (by decide)
  · next same => exact absurd (other _ _ same) (by decide)
  · next same => exact absurd (other _ _ same) (by decide)
  · next same => exact absurd (other _ _ same) (by decide)
  · next same => exact absurd (other _ _ same) (by decide)
  · rw [number?_text wellFormed ends]
    rfl

variable {layout : Layout} {depth : Nat}

theorem begins_stringText (text : String) : Begins (stringText text).toList := by
  unfold stringText
  rw [String.toList_append, String.toList_append, List.append_assoc]
  exact ⟨'"', _, rfl, rfl, by decide⟩

theorem begins_textAt (document : Document) : Begins (document.textAt layout depth).toList := by
  match document with
  | .null =>
    rw [Document.textAt]
    exact ⟨'n', ['u', 'l', 'l'], rfl, rfl, by decide⟩
  | .bool true =>
    rw [Document.textAt]
    exact ⟨'t', ['r', 'u', 'e'], rfl, rfl, by decide⟩
  | .bool false =>
    rw [Document.textAt]
    exact ⟨'f', ['a', 'l', 's', 'e'], rfl, rfl, by decide⟩
  | .integer value =>
    rw [Document.textAt, ← text_integerNumeral]
    exact begins_numeral (wellFormed_integerNumeral value)
  | .float bits =>
    rw [Document.textAt]
    by_cases finite : Number.IsFinite bits
    · obtain ⟨negative, size, denoted⟩ := finite
      rw [← text_floatNumeral denoted]
      exact begins_numeral (wellFormed_floatNumeral denoted)
    · rw [(floatText_of_not_finite finite).1]
      exact ⟨'n', ['u', 'l', 'l'], rfl, rfl, by decide⟩
  | .string text =>
    rw [Document.textAt]
    exact begins_stringText text
  | .array [] =>
    rw [Document.textAt]
    exact ⟨'[', [']'], rfl, rfl, by decide⟩
  | .array (element :: more) =>
    rw [Document.textAt]
    simp only [String.toList_append, List.append_assoc]
    exact ⟨'[', _, rfl, rfl, by decide⟩
  | .object [] =>
    rw [Document.textAt]
    exact ⟨'\x7b', ['\x7d'], rfl, rfl, by decide⟩
  | .object ((key, value) :: more) =>
    rw [Document.textAt]
    simp only [String.toList_append, List.append_assoc]
    exact ⟨'\x7b', _, rfl, rfl, by decide⟩

/-! ### Values -/

theorem endsNumeral_cons {character : Char} (other : character.isDigit = false)
    (point : character ≠ '.') (small : character ≠ 'e') (capital : character ≠ 'E') :
    EndsNumeral (character :: rest) := by
  rintro _ ⟨⟩
  exact ⟨other, point, small, capital⟩

/-- A blank ends a numeral. -/
theorem endsNumeral_append {blanks : List Char} (all : ∀ blank ∈ blanks, isBlank blank = true)
    (ends : EndsNumeral rest) : EndsNumeral (blanks ++ rest) := by
  cases blanks with
  | nil => exact ends
  | cons blank others =>
    have first := all blank List.mem_cons_self
    unfold isBlank at first
    simp only [Bool.or_eq_true, decide_eq_true_eq] at first
    rcases first with ((rfl | rfl) | rfl) | rfl <;>
      exact endsNumeral_cons rfl (by decide) (by decide) (by decide)

/-- What is read where a float was written. -/
theorem value?_floatText {bits : Slot} (ends : EndsNumeral rest)
    (known : skipBlanks text = (floatText bits).toList ++ rest) :
    value? (rounds + 1) text = some (floatNode bits, rest) := by
  by_cases finite : Number.IsFinite bits
  · obtain ⟨negative, size, denoted⟩ := finite
    rw [← text_floatNumeral denoted] at known
    rw [floatNode_of_finite denoted]
    exact value?_numeral (wellFormed_floatNumeral denoted) ends known
  · obtain ⟨null, node⟩ := floatText_of_not_finite finite
    rw [null] at known
    unfold value?
    rw [known, node]
    rfl

/-! ### Steps of the reader -/

namespace Reader

variable {inner tail later blanks : List Char} {node : Node} {nodes : List Node}
  {key : Option String} {fields : List (Option String × Node)}

theorem value?_array (opens : skipBlanks text = '[' :: tail) (begins : Begins inner)
    (known : skipBlanks tail = inner) (read : elements? rounds inner = some (nodes, rest)) :
    value? (rounds + 1) text = some (.array nodes, rest) := by
  obtain ⟨first, others, rfl, -, other⟩ := begins
  simp only [value?, opens, known]
  split
  · next same =>
    cases same
    exact absurd rfl other
  · rw [read]
    rfl

theorem elements?_last (read : value? rounds text = some (node, tail))
    (closes : skipBlanks tail = ']' :: rest) :
    elements? (rounds + 1) text = some ([node], rest) := by
  simp only [elements?, read, closes]

theorem elements?_cons (read : value? rounds text = some (node, tail))
    (goesOn : skipBlanks tail = ',' :: later)
    (others : elements? rounds later = some (nodes, rest)) :
    elements? (rounds + 1) text = some (node :: nodes, rest) := by
  simp only [elements?, read, goesOn, others, Option.map_some]

theorem value?_object (opens : skipBlanks text = '\x7b' :: tail)
    (quoted : ∃ name, inner = '"' :: name) (known : skipBlanks tail = inner)
    (read : members? rounds inner = some (fields, rest)) :
    value? (rounds + 1) text = some (.object fields, rest) := by
  obtain ⟨name, rfl⟩ := quoted
  simp only [value?, opens, known]
  show (members? rounds ('"' :: name)).map _ = _
  rw [read]
  rfl

theorem members?_last (opens : skipBlanks text = '"' :: inner)
    (named : string? inner = some (key, tail)) (colon : skipBlanks tail = ':' :: later)
    (read : value? rounds later = some (node, blanks))
    (closes : skipBlanks blanks = '\x7d' :: rest) :
    members? (rounds + 1) text = some ([(key, node)], rest) := by
  simp only [members?, opens, named, colon, read, closes]

theorem members?_cons {next : List Char} (opens : skipBlanks text = '"' :: inner)
    (named : string? inner = some (key, tail)) (colon : skipBlanks tail = ':' :: later)
    (read : value? rounds later = some (node, blanks))
    (goesOn : skipBlanks blanks = ',' :: next)
    (others : members? rounds next = some (fields, rest)) :
    members? (rounds + 1) text = some ((key, node) :: fields, rest) := by
  simp only [members?, opens, named, colon, read, goesOn, others, Option.map_some]

end Reader

/-! ### Lists and records -/

/-- The elements of a list, without a comma before the first. -/
def elementsText (layout : Layout) (depth : Nat) : List Document → String
  | [] => ""
  | element :: rest => element.textAt layout depth ++ elementsAt layout depth rest

/-- The members of a record, without a comma before the first. -/
def membersText (layout : Layout) (depth : Nat) : List (String × Document) → String
  | [] => ""
  | (key, value) :: rest =>
    stringText key ++ (layout.colon ++ (value.textAt layout depth ++ membersAt layout depth rest))

variable {elements : List Document} {members : List (String × Document)}

theorem toList_elementsAt (nonempty : elements ≠ []) :
    (elementsAt layout depth elements).toList =
      ',' :: ((layout.lineBreak depth).toList ++ (elementsText layout depth elements).toList) := by
  obtain ⟨element, more, rfl⟩ := List.exists_cons_of_ne_nil nonempty
  rw [elementsAt, elementsText]
  simp only [String.toList_append, List.append_assoc]
  rfl

theorem toList_membersAt (nonempty : members ≠ []) :
    (membersAt layout depth members).toList =
      ',' :: ((layout.lineBreak depth).toList ++ (membersText layout depth members).toList) := by
  obtain ⟨⟨key, value⟩, more, rfl⟩ := List.exists_cons_of_ne_nil nonempty
  rw [membersAt, membersText]
  simp only [String.toList_append, List.append_assoc]
  rfl

theorem toList_textAt_array (nonempty : elements ≠ []) :
    ((Document.array elements).textAt layout depth).toList =
      '[' :: ((layout.lineBreak (depth + 1)).toList ++
        ((elementsText layout (depth + 1) elements).toList ++
          ((layout.lineBreak depth).toList ++ [']']))) := by
  obtain ⟨element, more, rfl⟩ := List.exists_cons_of_ne_nil nonempty
  rw [Document.textAt, elementsText]
  simp only [String.toList_append, List.append_assoc]
  rfl

theorem toList_textAt_object (nonempty : members ≠ []) :
    ((Document.object members).textAt layout depth).toList =
      '\x7b' :: ((layout.lineBreak (depth + 1)).toList ++
        ((membersText layout (depth + 1) members).toList ++
          ((layout.lineBreak depth).toList ++ ['\x7d']))) := by
  obtain ⟨⟨key, value⟩, more, rfl⟩ := List.exists_cons_of_ne_nil nonempty
  rw [Document.textAt, membersText]
  simp only [String.toList_append, List.append_assoc]
  rfl

theorem membersText_eq_cons (nonempty : members ≠ []) :
    ∃ inner, (membersText layout depth members).toList = '"' :: inner := by
  obtain ⟨⟨key, value⟩, more, rfl⟩ := List.exists_cons_of_ne_nil nonempty
  rw [membersText, stringText]
  simp only [String.toList_append, List.append_assoc]
  exact ⟨_, rfl⟩

theorem begins_elementsText (nonempty : elements ≠ []) :
    Begins (elementsText layout depth elements).toList := by
  obtain ⟨element, more, rfl⟩ := List.exists_cons_of_ne_nil nonempty
  rw [elementsText, String.toList_append]
  exact (begins_textAt element).append _

theorem begins_membersText (nonempty : members ≠ []) :
    Begins (membersText layout depth members).toList := by
  obtain ⟨inner, quote⟩ := @membersText_eq_cons layout depth members nonempty
  exact ⟨'"', inner, quote, rfl, by decide⟩

/-- What follows an element cannot be taken for a part of a numeral. -/
theorem endsNumeral_elementsAt (ends : EndsNumeral rest) :
    EndsNumeral ((elementsAt layout depth elements).toList ++ rest) := by
  by_cases empty : elements = []
  · rw [empty, elementsAt]
    exact ends
  · rw [toList_elementsAt empty]
    exact endsNumeral_cons rfl (by decide) (by decide) (by decide)

theorem endsNumeral_membersAt (ends : EndsNumeral rest) :
    EndsNumeral ((membersAt layout depth members).toList ++ rest) := by
  by_cases empty : members = []
  · rw [empty, membersAt]
    exact ends
  · rw [toList_membersAt empty]
    exact endsNumeral_cons rfl (by decide) (by decide) (by decide)

/-! ### Documents -/

-- The three statements go by recursion over the document. Each level takes two rounds, one for the
-- list or the record and one for its parts, and has two brackets, so twice the length is enough.
mutual

/-- A document is read as its node, whatever blanks come before it and whatever follows it. -/
theorem value?_textAt (blank : layout.Blank) : ∀ (document : Document) ⦃depth rounds : Nat⦄
    ⦃text rest : List Char⦄, 2 * (document.textAt layout depth).toList.length ≤ rounds + 1 →
      EndsNumeral rest → skipBlanks text = (document.textAt layout depth).toList ++ rest →
        value? (rounds + 1) text = some (document.node, rest)
  | .null | .bool true | .bool false | .array [] | .object [] => by
    intro depth rounds text rest enough ends known
    rw [Document.textAt] at known
    unfold value?
    rw [known]
    rfl
  | .integer value => by
    intro depth rounds text rest enough ends known
    rw [Document.textAt, ← text_integerNumeral] at known
    exact value?_numeral (wellFormed_integerNumeral value) ends known
  | .float bits => by
    intro depth rounds text rest enough ends known
    rw [Document.textAt] at known
    exact value?_floatText ends known
  | .string string => by
    intro depth rounds text rest enough ends known
    obtain ⟨inner, shape, read⟩ := string?_stringText string rest
    rw [Document.textAt, shape] at known
    unfold value?
    rw [known]
    show (string? inner).map _ = _
    rw [read]
    rfl
  | .array (element :: more) => by
    intro depth rounds text rest enough ends known
    have nonempty := List.cons_ne_nil element more
    rw [toList_textAt_array nonempty] at enough known
    simp only [List.length_cons, List.length_append] at enough
    simp only [List.cons_append, List.append_assoc, List.nil_append] at known
    have begins := (begins_elementsText nonempty : Begins
      (elementsText layout (depth + 1) (element :: more)).toList).append
        ((layout.lineBreak depth).toList ++ ']' :: rest)
    have inner := begins.skipBlanks_append (blank.lineBreak (depth + 1))
    obtain ⟨fewer, rfl⟩ : ∃ fewer, rounds = fewer + 1 := ⟨rounds - 1, by omega⟩
    refine value?_array known begins inner ?_
    refine elements?_elementsText blank _ nonempty ?_ (blank.lineBreak depth) begins.skipBlanks_eq
    omega
  | .object (member :: more) => by
    intro depth rounds text rest enough ends known
    have nonempty := List.cons_ne_nil member more
    rw [toList_textAt_object nonempty] at enough known
    simp only [List.length_cons, List.length_append] at enough
    simp only [List.cons_append, List.append_assoc, List.nil_append] at known
    obtain ⟨name, quote⟩ := @membersText_eq_cons layout (depth + 1) _ nonempty
    have begins := (begins_membersText nonempty : Begins
      (membersText layout (depth + 1) (member :: more)).toList).append
        ((layout.lineBreak depth).toList ++ '\x7d' :: rest)
    have inner := begins.skipBlanks_append (blank.lineBreak (depth + 1))
    obtain ⟨fewer, rfl⟩ : ∃ fewer, rounds = fewer + 1 := ⟨rounds - 1, by omega⟩
    refine value?_object known ⟨_, congrArg (· ++ _) quote⟩ inner ?_
    refine members?_membersText blank _ nonempty ?_ (blank.lineBreak depth) begins.skipBlanks_eq
    omega

/-- Elements are read in their order, up to the closing bracket. -/
theorem elements?_elementsText (blank : layout.Blank) : ∀ (elements : List Document)
    ⦃depth rounds : Nat⦄ ⦃text blanks rest : List Char⦄, elements ≠ [] →
      2 * (elementsText layout depth elements).toList.length ≤ rounds →
        (∀ blank ∈ blanks, isBlank blank = true) →
          skipBlanks text = (elementsText layout depth elements).toList ++ (blanks ++ ']' :: rest) →
            elements? (rounds + 1) text = some (elementNodes elements, rest)
  | [] => fun _ _ _ _ _ nonempty => absurd rfl nonempty
  | element :: more => by
    intro depth rounds text blanks rest nonempty enough all known
    rw [elementsText, String.toList_append, List.length_append] at enough
    rw [elementsText, String.toList_append, List.append_assoc] at known
    have ends : EndsNumeral
        ((elementsAt layout depth more).toList ++ (blanks ++ ']' :: rest)) :=
      endsNumeral_elementsAt (endsNumeral_append all
        (endsNumeral_cons rfl (by decide) (by decide) (by decide)))
    have positive :=
      (begins_textAt element : Begins (element.textAt layout depth).toList).length_pos
    obtain ⟨fewer, rfl⟩ : ∃ fewer, rounds = fewer + 1 := ⟨rounds - 1, by omega⟩
    have fits : 2 * (element.textAt layout depth).toList.length ≤ fewer + 1 := by omega
    have value := value?_textAt blank element fits ends known
    by_cases last : more = []
    · subst last
      refine elements?_last value ?_
      show skipBlanks (blanks ++ ']' :: rest) = _
      rw [skipBlanks_append all, skipBlanks_cons rfl]
    · rw [toList_elementsAt last] at enough value
      simp only [List.length_cons, List.length_append] at enough
      rw [List.cons_append, List.append_assoc] at value
      have shorter : 2 * (elementsText layout depth more).toList.length ≤ fewer := by omega
      refine elements?_cons value (skipBlanks_cons rfl _) ?_
      refine elements?_elementsText blank more last shorter all ?_
      exact ((begins_elementsText last).append _).skipBlanks_append (blank.lineBreak depth)

/-- Members are read in their order, up to the closing brace. -/
theorem members?_membersText (blank : layout.Blank) : ∀ (members : List (String × Document))
    ⦃depth rounds : Nat⦄ ⦃text blanks rest : List Char⦄, members ≠ [] →
      2 * (membersText layout depth members).toList.length ≤ rounds →
        (∀ blank ∈ blanks, isBlank blank = true) →
          skipBlanks text = (membersText layout depth members).toList ++
            (blanks ++ '\x7d' :: rest) →
            members? (rounds + 1) text = some (memberNodes members, rest)
  | [] => fun _ _ _ _ _ nonempty => absurd rfl nonempty
  | (key, value) :: more => by
    intro depth rounds text blanks rest nonempty enough all known
    obtain ⟨spaces, colon, allSpaces⟩ := blank.colon
    simp only [membersText, String.toList_append, List.append_assoc, colon, List.length_append,
      List.length_cons, List.cons_append] at enough known
    obtain ⟨inner, shape, named⟩ := string?_stringText key (':' :: (spaces ++
      ((value.textAt layout depth).toList ++ ((membersAt layout depth more).toList ++
        (blanks ++ '\x7d' :: rest)))))
    rw [shape] at known
    have ends : EndsNumeral
        ((membersAt layout depth more).toList ++ (blanks ++ '\x7d' :: rest)) :=
      endsNumeral_membersAt (endsNumeral_append all
        (endsNumeral_cons rfl (by decide) (by decide) (by decide)))
    have positive := (begins_textAt value : Begins (value.textAt layout depth).toList).length_pos
    obtain ⟨fewer, rfl⟩ : ∃ fewer, rounds = fewer + 1 := ⟨rounds - 1, by omega⟩
    have fits : 2 * (value.textAt layout depth).toList.length ≤ fewer + 1 := by omega
    have read := value?_textAt blank value fits ends
      (((begins_textAt value).append _).skipBlanks_append allSpaces)
    by_cases last : more = []
    · subst last
      refine members?_last known named (skipBlanks_cons rfl _) read ?_
      show skipBlanks (blanks ++ '\x7d' :: rest) = _
      rw [skipBlanks_append all, skipBlanks_cons rfl]
    · rw [toList_membersAt last] at enough read named
      simp only [List.length_cons, List.length_append] at enough
      rw [List.cons_append, List.append_assoc] at read named
      have shorter : 2 * (membersText layout depth more).toList.length ≤ fewer := by omega
      refine members?_cons known named (skipBlanks_cons rfl _) read (skipBlanks_cons rfl _) ?_
      refine members?_membersText blank more last shorter all ?_
      exact ((begins_membersText last).append _).skipBlanks_append (blank.lineBreak depth)

end

/-- A document that was written reads back. -/
theorem Reader.read?_textAt (blank : layout.Blank) (document : Document) :
    read? (document.textAt layout 0) = some document.node := by
  have begins := @begins_textAt layout 0 document
  have value := value?_textAt blank document (Nat.le_add_right _ 2)
    (show EndsNumeral [] from nofun) (begins.skipBlanks_eq.trans (List.append_nil _).symm)
  unfold read?
  dsimp only
  rw [value]
  rfl

theorem Reader.read?_compact (document : Document) : read? document.compact = some document.node :=
  read?_textAt Layout.blank_compact document

theorem Reader.read?_pretty (document : Document) : read? document.pretty = some document.node :=
  read?_textAt Layout.blank_pretty document

/-! ### The codec -/

/-- What is documented of a codec holds of documents and their nodes. -/
theorem documented_codec : codec.Documented Document.node where
  read?_write document _ := Reader.read?_pretty document
  text?_string _ := rfl
  integer?_integer _ lowest highest := signed?_integerNumeral lowest highest
  elements?_array elements := congrArg some (elementNodes_eq_map elements)
  members?_object members := congrArg some (memberNodes_eq_map members)
  float?_finite _ finite := isFinite_iff_slot?.mp finite
  float_of_not_finite _ other := (floatText_of_not_finite other).2
  float?_null := rfl

end Json

end Gamecode
