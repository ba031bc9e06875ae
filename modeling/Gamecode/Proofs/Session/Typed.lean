/-
This file is about typing words. A word is typed as segments in a row, each between two marks that
are not in it, and words are typed with white space between them. So every list of words can be
typed, whatever characters are in them, and the line is read as just those words. The only lines
that cannot be read are those in which a mark is left open, which is said by how far the marks of a
line are closed and followed through the line character by character.
-/

import Gamecode.Session.Command

namespace Gamecode

namespace Text

open WordReader (isMark)

/-! ### Typed words -/

/-- What stands between two equal marks, which is free of that mark. -/
structure Segment where
  mark : Char
  text : List Char
  isMark : isMark mark = true
  free : mark ∉ text

/-- A segment with its marks. -/
def Segment.typed (segment : Segment) : List Char :=
  segment.mark :: (segment.text ++ [segment.mark])

/-- A word is typed as segments in a row, at least one of them. -/
def TypesWord (typed word : List Char) : Prop :=
  ∃ segments : List Segment, segments ≠ [] ∧ segments.flatMap Segment.text = word ∧
    segments.flatMap Segment.typed = typed

/-- White space, and some of it. -/
structure IsGap (gap : List Char) : Prop where
  ne_nil : gap ≠ []
  blank : ∀ character ∈ gap, isBlank character = true

theorem isGap_replicate (count : Nat) : IsGap (List.replicate (count + 1) ' ') where
  ne_nil := List.cons_ne_nil _ _
  blank character member := by
    rw [List.eq_of_mem_replicate member]
    decide

/-- Words are typed in a line with white space between them. -/
inductive TypesWords : List Char → List (List Char) → Prop
  | empty : TypesWords [] []
  | last {typed word : List Char} (types : TypesWord typed word) : TypesWords typed [word]
  | next {typed word gap line second : List Char} {words : List (List Char)}
      (types : TypesWord typed word) (isGap : IsGap gap)
      (rest : TypesWords line (second :: words)) :
      TypesWords (typed ++ (gap ++ line)) (word :: second :: words)

/-- A character as a segment, in marks that it is not. -/
def Segment.ofChar (character : Char) : Segment :=
  if single : character = '"' then ⟨'\'', [character], rfl, by simp [single]⟩
  else ⟨'"', [character], rfl, by simp [Ne.symm single]⟩

@[simp]
theorem Segment.text_ofChar (character : Char) : (Segment.ofChar character).text = [character] := by
  unfold ofChar
  split <;> rfl

/-- Every word can be typed, whatever marks are in it. -/
theorem exists_typesWord (word : List Char) : ∃ typed, TypesWord typed word := by
  cases word with
  | nil => exact ⟨_, [⟨'"', [], rfl, nofun⟩], List.cons_ne_nil _ _, rfl, rfl⟩
  | cons character others =>
    refine ⟨_, (character :: others).map Segment.ofChar, List.cons_ne_nil _ _, ?_, rfl⟩
    simp [List.flatMap_map]

theorem exists_typesWords (words : List (List Char)) : ∃ line, TypesWords line words := by
  induction words with
  | nil => exact ⟨[], .empty⟩
  | cons word words inductionHypothesis =>
    obtain ⟨typed, types⟩ := exists_typesWord word
    obtain ⟨line, rest⟩ := inductionHypothesis
    cases words with
    | nil => exact ⟨typed, .last types⟩
    | cons second words =>
      exact ⟨_, .next types (isGap_replicate 0) rest⟩

/-! ### Reading -/

variable {finished : List (List Char)} {current : Option (List Char)} {mark : Char}
  {text typed word gap line before rest : List Char} {words : List (List Char)}

/-- Between marks every other character is added to the word. -/
theorem foldl_read_text (free : mark ∉ text) (word : List Char) :
    text.foldl WordReader.read ⟨finished, some word, some mark⟩ =
      ⟨finished, some (text.reverse ++ word), some mark⟩ := by
  induction text generalizing word with
  | nil => rfl
  | cons character text inductionHypothesis =>
    obtain ⟨other, free⟩ := not_or.mp (mt List.mem_cons.mpr free)
    have step : WordReader.read ⟨finished, some word, some mark⟩ character =
        ⟨finished, some (character :: word), some mark⟩ := if_neg (Ne.symm other)
    rw [List.foldl_cons, step, inductionHypothesis free, List.reverse_cons, List.append_assoc]
    rfl

/-- A mark begins a word, if there is none yet. -/
theorem read_mark (isMark : isMark mark = true) :
    WordReader.read ⟨finished, current, none⟩ mark =
      ⟨finished, some (current.getD []), some mark⟩ :=
  if_pos isMark

/-- A segment is added to the word as one piece. -/
theorem foldl_read_segment (segment : Segment) :
    segment.typed.foldl WordReader.read ⟨finished, current, none⟩ =
      ⟨finished, some (segment.text.reverse ++ current.getD []), none⟩ := by
  rw [Segment.typed, List.foldl_cons, read_mark segment.isMark, List.foldl_append,
    foldl_read_text segment.free]
  exact if_pos rfl

theorem foldl_read_segments (segments : List Segment) (word : List Char) :
    (segments.flatMap Segment.typed).foldl WordReader.read ⟨finished, some word, none⟩ =
      ⟨finished, some ((segments.flatMap Segment.text).reverse ++ word), none⟩ := by
  induction segments generalizing word with
  | nil => rfl
  | cons segment segments inductionHypothesis =>
    rw [List.flatMap_cons, List.foldl_append, foldl_read_segment, Option.getD_some,
      inductionHypothesis, List.flatMap_cons, List.reverse_append, List.append_assoc]

theorem TypesWord.foldl_read (types : TypesWord typed word) :
    typed.foldl WordReader.read ⟨finished, none, none⟩ = ⟨finished, some word.reverse, none⟩ := by
  obtain ⟨segments, some, rfl, rfl⟩ := types
  obtain ⟨segment, segments, rfl⟩ := List.exists_cons_of_ne_nil some
  rw [List.flatMap_cons, List.foldl_append, foldl_read_segment, foldl_read_segments,
    List.flatMap_cons, List.reverse_append, Option.getD_none, List.append_nil]

/-- No mark is white space. -/
theorem isMark_of_isBlank {character : Char} (blank : isBlank character = true) :
    isMark character = false := by
  refine Bool.eq_false_iff.mpr fun mark => ?_
  rcases Bool.or_eq_true_iff.mp mark with double | single
  · rw [of_decide_eq_true double] at blank
    exact absurd blank (by decide)
  · rw [of_decide_eq_true single] at blank
    exact absurd blank (by decide)

theorem read_blank {character : Char} (blank : isBlank character = true) :
    WordReader.read ⟨finished, current, none⟩ character =
      WordReader.close ⟨finished, current, none⟩ := by
  unfold WordReader.read
  dsimp only
  rw [isMark_of_isBlank blank, if_neg Bool.false_ne_true, if_pos blank]

theorem foldl_read_blanks (blank : ∀ character ∈ gap, isBlank character = true) :
    gap.foldl WordReader.read ⟨finished, none, none⟩ = ⟨finished, none, none⟩ := by
  induction gap with
  | nil => rfl
  | cons first others inductionHypothesis =>
    rw [List.foldl_cons, read_blank (blank first List.mem_cons_self)]
    exact inductionHypothesis fun character member =>
      blank character (List.mem_cons_of_mem _ member)

/-- White space ends a word once. -/
theorem IsGap.foldl_read (isGap : IsGap gap) (word : List Char) :
    gap.foldl WordReader.read ⟨finished, some word, none⟩ =
      ⟨word.reverse :: finished, none, none⟩ := by
  obtain ⟨some, blank⟩ := isGap
  obtain ⟨first, others, rfl⟩ := List.exists_cons_of_ne_nil some
  rw [List.foldl_cons, read_blank (blank first List.mem_cons_self)]
  exact foldl_read_blanks fun character member => blank character (List.mem_cons_of_mem _ member)

/-- The words of a line are added to those that were finished before it. -/
theorem TypesWords.words?_foldl_read (types : TypesWords line words)
    (finished : List (List Char)) :
    (line.foldl WordReader.read ⟨finished, none, none⟩).words? =
      some (finished.reverse ++ words) := by
  induction types generalizing finished with
  | empty =>
    rw [List.append_nil]
    rfl
  | @last typed word types =>
    rw [types.foldl_read]
    show some (word.reverse.reverse :: finished).reverse = _
    rw [List.reverse_reverse, List.reverse_cons]
  | @next typed word gap line second words types isGap rest inductionHypothesis =>
    rw [List.foldl_append, types.foldl_read, List.foldl_append, isGap.foldl_read,
      inductionHypothesis, List.reverse_reverse, List.reverse_cons, List.append_assoc]
    rfl

/-- A line of typed words is read as those words. -/
theorem TypesWords.groupedWords? (types : TypesWords line words) :
    groupedWords? line = some words :=
  types.words?_foldl_read []

/-! ### Open marks -/

/-- A text in which every mark that opens a segment is closed again. -/
inductive Closed : List Char → Prop
  | nil : Closed []
  | plain {character : Char} {rest : List Char} (other : isMark character = false)
      (closed : Closed rest) : Closed (character :: rest)
  | segment {rest : List Char} (segment : Segment) (closed : Closed rest) :
      Closed (segment.typed ++ rest)

/-- Behind a text that is closed, the mark is opened and does not come again. -/
def Opens (mark : Char) (line : List Char) : Prop :=
  ∃ before rest, line = before ++ mark :: rest ∧ Closed before ∧ isMark mark = true ∧ mark ∉ rest

/-- A line in which a mark is opened and never closed. -/
def LeftOpen (line : List Char) : Prop :=
  ∃ mark, Opens mark line

theorem Closed.append (closed : Closed text) (next : Closed rest) : Closed (text ++ rest) := by
  induction closed with
  | nil => exact next
  | plain other _ inductionHypothesis => exact .plain other inductionHypothesis
  | segment segment _ inductionHypothesis =>
    rw [List.append_assoc]
    exact .segment segment inductionHypothesis

/-- What a line is when the reader waits for a mark, and when it does not. -/
def Awaits : Option Char → List Char → Prop
  | none, line => Closed line
  | some mark, line => Opens mark line

theorem mark_close (reader : WordReader) : reader.close.mark = reader.mark := by
  unfold WordReader.close
  split <;> rfl

theorem awaits_read {reader : WordReader} (awaits : Awaits reader.mark line) (character : Char) :
    Awaits (reader.read character).mark (line ++ [character]) := by
  obtain ⟨finished, current, mark⟩ := reader
  unfold WordReader.read
  cases mark with
  | none =>
    dsimp only
    split
    · next begins => exact ⟨line, [], rfl, awaits, begins, nofun⟩
    · next other =>
      have closed : Closed (line ++ [character]) :=
        Closed.append awaits (.plain (Bool.eq_false_iff.mpr other) .nil)
      split
      · rw [mark_close]
        exact closed
      · exact closed
  | some mark =>
    obtain ⟨before, rest, rfl, closed, isMark, free⟩ := awaits
    dsimp only
    split
    · next same =>
      have segment : before ++ mark :: rest ++ [character] =
          before ++ ((Segment.mk mark rest isMark free).typed ++ []) := by
        simp [Segment.typed, same]
      rw [segment]
      exact closed.append (.segment _ .nil)
    · next other =>
      refine ⟨before, rest ++ [character], ?_, closed, isMark, ?_⟩
      · rw [List.append_assoc, List.cons_append]
      · simp [free, Ne.symm other]

theorem awaits_run {reader : WordReader} (awaits : Awaits reader.mark before) (line : List Char) :
    Awaits (line.foldl WordReader.read reader).mark (before ++ line) := by
  induction line generalizing reader before with
  | nil =>
    rw [List.append_nil]
    exact awaits
  | cons character line inductionHypothesis =>
    rw [List.append_cons]
    exact inductionHypothesis (awaits_read awaits character)

/-- After a text that is closed, the reader waits for no mark. -/
theorem Closed.exists_foldl_read (closed : Closed text) (finished : List (List Char))
    (current : Option (List Char)) :
    ∃ done begun, text.foldl WordReader.read ⟨finished, current, none⟩ = ⟨done, begun, none⟩ := by
  induction closed generalizing finished current with
  | nil => exact ⟨finished, current, rfl⟩
  | @plain character rest other _ inductionHypothesis =>
    obtain ⟨done, begun, same⟩ : ∃ done begun,
        WordReader.read ⟨finished, current, none⟩ character = ⟨done, begun, none⟩ := by
      unfold WordReader.read
      dsimp only
      rw [other, if_neg Bool.false_ne_true]
      split
      · cases current <;> exact ⟨_, _, rfl⟩
      · exact ⟨_, _, rfl⟩
    rw [List.foldl_cons, same]
    exact inductionHypothesis done begun
  | segment segment _ inductionHypothesis =>
    rw [List.foldl_append, foldl_read_segment]
    exact inductionHypothesis _ _

/-- A line has no words exactly if a mark in it is left open. -/
theorem groupedWords?_eq_none_iff : groupedWords? line = none ↔ LeftOpen line := by
  constructor
  · intro failed
    have awaits := @awaits_run [] .start .nil line
    unfold groupedWords? WordReader.words? at failed
    cases known : (line.foldl WordReader.read .start).mark with
    | none =>
      rw [known] at failed
      cases failed
    | some mark =>
      rw [known] at awaits
      exact ⟨mark, awaits⟩
  · rintro ⟨mark, before, rest, rfl, closed, isMark, free⟩
    obtain ⟨done, begun, same⟩ := closed.exists_foldl_read [] none
    unfold groupedWords? WordReader.start
    rw [List.foldl_append, same, List.foldl_cons, read_mark isMark, foldl_read_text free]
    rfl

end Text

namespace Command

variable {line function : String} {words arguments : List String}

theorem wordsOf_of_typesWords (types : Text.TypesWords line.toList (words.map String.toList)) :
    wordsOf line = .ok words := by
  unfold wordsOf
  rw [types.groupedWords?]
  simp

theorem wordsOf_eq_error_iff :
    (∃ problem, wordsOf line = .error problem) ↔ Text.LeftOpen line.toList := by
  rw [← Text.groupedWords?_eq_none_iff]
  unfold wordsOf
  cases Text.groupedWords? line.toList with
  | none => exact iff_of_true ⟨_, rfl⟩ rfl
  | some words => exact iff_of_false nofun nofun

/-- A function can be called with any arguments, if its name is not that of a command. -/
theorem ofLine_of_typesWords
    (types : Text.TypesWords line.toList ((function :: arguments).map String.toList))
    (plain : function.toList.head? ≠ some '.') (stays : function ≠ "exit" ∧ function ≠ "quit") :
    ofLine line = .ok (some (.call function arguments)) := by
  have called : ofWords function arguments = .ok (.call function arguments) := by
    unfold ofWords
    split
    case h_1 => exact absurd rfl stays.1
    case h_2 => exact absurd rfl stays.2
    case h_14 => exact if_neg plain
    all_goals exact absurd (by decide) plain
  unfold ofLine
  rw [wordsOf_of_typesWords types]
  dsimp only
  rw [called]
  rfl

/-- Every list of words can be typed, and however it is typed, the line is read as those words. A
line cannot be read only if a mark in it is left open. -/
theorem typed_words_read :
    (∀ words : List String,
      (∃ line : String, Text.TypesWords line.toList (words.map String.toList)) ∧
        ∀ line : String, Text.TypesWords line.toList (words.map String.toList) →
          wordsOf line = .ok words) ∧
      ∀ line : String, (∃ problem, wordsOf line = .error problem) ↔ Text.LeftOpen line.toList := by
  refine ⟨fun words => ⟨?_, fun line => wordsOf_of_typesWords⟩, fun line => wordsOf_eq_error_iff⟩
  obtain ⟨line, types⟩ := Text.exists_typesWords (words.map String.toList)
  exact ⟨String.ofList line, by rwa [String.toList_ofList]⟩

/-- A word without marks, an empty word, and a word with marks of both kinds. -/
theorem typed_words_read_mixed :
    Text.TypesWords "'say' \"\"  \"it's \"'\"so\"'".toList
        (["say", "", "it's \"so\""].map String.toList) ∧
      wordsOf "'say' \"\"  \"it's \"'\"so\"'" = .ok ["say", "", "it's \"so\""] := by
  have say : Text.TypesWord "'say'".toList "say".toList :=
    ⟨[⟨'\'', "say".toList, rfl, by decide⟩], List.cons_ne_nil _ _, rfl, rfl⟩
  have empty : Text.TypesWord "\"\"".toList "".toList :=
    ⟨[⟨'"', [], rfl, by decide⟩], List.cons_ne_nil _ _, rfl, rfl⟩
  have mixed : Text.TypesWord "\"it's \"'\"so\"'".toList "it's \"so\"".toList :=
    ⟨[⟨'"', "it's ".toList, rfl, by decide⟩, ⟨'\'', "\"so\"".toList, rfl, by decide⟩],
      List.cons_ne_nil _ _, rfl, rfl⟩
  have types : Text.TypesWords "'say' \"\"  \"it's \"'\"so\"'".toList
      (["say", "", "it's \"so\""].map String.toList) :=
    .next say (Text.isGap_replicate 0) (.next empty (Text.isGap_replicate 1) (.last mixed))
  exact ⟨types, (typed_words_read.1 _).2 _ types⟩

end Command

end Gamecode
