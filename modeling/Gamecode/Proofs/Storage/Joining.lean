/-
This file is about the builtin that joins strings. It reads every argument as a text before it makes
the new temporary, so an argument may be the very temporary whose place in the ring the new one
takes, and everything in other places reads as before. A string of bytes that are no text is not
joined as it is: what is joined are the bytes of the texts that are read from the arguments.
-/

import Gamecode.Assembler
import Gamecode.Proofs.Native
import Gamecode.Proofs.Storage.Strings
import Gamecode.Proofs.Storage.Temporaries
import Gamecode.Proofs.Text.Replacing

namespace Gamecode

/-! ### A new temporary -/

namespace StringHeap

variable {heap after : StringHeap} {reference : Int} {text : List UInt8}

/-- However a heap was added to, the ring has a place and the numbering has not passed its end. -/
theorem Grows.ring_ready {table : Array UInt8} {ringSize : Nat}
    (grows : (create table ringSize).Grows heap) :
    0 < heap.ringSize ∧ heap.lastSerial ≤ maxSerial := by
  induction grows with
  | same =>
    refine ⟨?_, Nat.zero_le _⟩
    show 0 < (Array.replicate (max ringSize 1) _).size
    rw [Array.size_replicate]
    exact Nat.lt_of_lt_of_le Nat.one_pos (Nat.le_max_right _ _)
  | @interned reached _ text inductionHypothesis =>
    obtain ⟨ring, last⟩ := reached.ring_intern text
    rw [StringHeap.ringSize, ring, last]
    exact inductionHypothesis
  | @stored reached _ text inductionHypothesis =>
    rw [ringSize_addTemporary]
    exact ⟨inductionHypothesis.1, nextSerial_le inductionHypothesis.2⟩

/-- The reference of a new temporary is a negative number that a slot holds. -/
theorem reference_addTemporary (text : List UInt8) (bound : heap.lastSerial ≤ maxSerial) :
    -0x80000000 ≤ (heap.addTemporary text).1 ∧ (heap.addTemporary text).1 < 0 := by
  have positive := heap.nextSerial_pos
  have upper := nextSerial_le bound
  unfold maxSerial at upper
  show -0x80000000 ≤ -(heap.nextSerial : Int) ∧ -(heap.nextSerial : Int) < 0
  omega

@[simp] theorem place_addTemporary (heap : StringHeap) (text : List UInt8) (serial : Nat) :
    (heap.addTemporary text).2.place serial = heap.place serial := by
  rw [place, place, ← ringSize, ringSize_addTemporary]
  rfl

/-- A new temporary takes one place of the ring; everything that is not in that place reads as
before. -/
theorem get_addTemporary_other (text : List UInt8) (bound : heap.lastSerial ≤ maxSerial)
    (apart : isTemporary reference = true →
      heap.place (serialOf reference) ≠ heap.place (serialOf (heap.addTemporary text).1)) :
    (heap.addTemporary text).2.get reference = heap.get reference := by
  unfold get
  cases temporary : isTemporary reference with
  | false => rfl
  | true =>
    have number : serialOf (heap.addTemporary text).1 = heap.nextSerial := by
      show min (- -(heap.nextSerial : Int)).toNat maxSerial = heap.nextSerial
      rw [Int.neg_neg, Int.toNat_natCast]
      exact Nat.min_eq_left (nextSerial_le bound)
    have other := apart temporary
    rw [number] at other
    have kept : (heap.addTemporary text).2.ring[heap.place (serialOf reference)]? =
        heap.ring[heap.place (serialOf reference)]? :=
      Array.getElem?_setIfInBounds_ne (Ne.symm other)
    simp only [if_true, place_addTemporary, kept]

end StringHeap

namespace Machine

variable {machine : Machine} {program : Program} {execute : Executor}

/-! ### Texts of arguments -/

/-- An argument is a reference under which some bytes are read. -/
def ReadsArgument (machine : Machine) (index : Nat) (bytes : List UInt8) : Prop :=
  ∃ reference, machine.globals.getSigned (Region.parameterOffset index) = .ok reference ∧
    machine.strings.get reference = .ok bytes

/-- The texts that are read from some bytes, one after the other. -/
def joinedText : List (List UInt8) → String
  | [] => ""
  | bytes :: rest => Text.decode bytes ++ joinedText rest

theorem encode_joinedText (parts : List (List UInt8)) :
    Text.encode (joinedText parts) = parts.flatMap Text.mended := by
  induction parts with
  | nil => rw [joinedText, Text.encode_eq]; rfl
  | cons bytes rest inductionHypothesis =>
    rw [joinedText, Text.encode_append, inductionHypothesis, List.flatMap_cons, Text.mended]

theorem perform_textArgument_bind {α : Type} {index : Nat} {bytes : List UInt8}
    (reads : machine.ReadsArgument index bytes) (next : String → Native α) :
    perform execute program (Native.textArgument index >>= next) machine =
      perform execute program (next (Text.decode bytes)) machine := by
  obtain ⟨reference, given, read⟩ := reads
  have text : machine.strings.getText reference = .ok (Text.decode bytes) := by
    rw [StringHeap.getText, read]
    rfl
  rw [Native.textArgument, bind_assoc]
  exact (perform_check_bind given _).trans (perform_check_bind text next)

/-- The texts of all arguments are read before anything changes. -/
theorem perform_joinTexts_bind {α : Type} {index : Nat} {parts : List (List UInt8)}
    (reads : ∀ place bytes, parts[place]? = some bytes →
      machine.ReadsArgument (index + place) bytes)
    (next : String → Native α) :
    perform execute program (Builtins.joinTexts index parts.length >>= next) machine =
      perform execute program (next (joinedText parts)) machine := by
  induction parts generalizing index next with
  | nil => rfl
  | cons bytes rest inductionHypothesis =>
    have later : ∀ place bytes, rest[place]? = some bytes →
        machine.ReadsArgument (index + 1 + place) bytes := by
      intro place bytes found
      rw [Nat.add_assoc, Nat.add_comm 1]
      exact reads (place + 1) bytes found
    have first : machine.ReadsArgument index bytes := reads 0 bytes rfl
    rw [List.length_cons, Builtins.joinTexts, bind_assoc,
      perform_textArgument_bind first, bind_assoc, inductionHypothesis later]
    rfl

/-! ### The builtin -/

/-- The builtin returns a new temporary that reads as `bytes`. It changes nothing but the return
area and the one place of the ring that the temporary takes. -/
structure Joins (machine : Machine) (bytes : List UInt8) (reference : Int) (after : Machine) :
    Prop where
  temporary : StringHeap.isTemporary reference = true
  written : machine.globals.setSigned Region.returnStart reference = .ok after.globals
  returned : after.globals.getSigned Region.returnStart = .ok reference
  read : after.strings.get reference = .ok bytes
  others : ∀ other, (StringHeap.isTemporary other = true →
      after.strings.place (StringHeap.serialOf other) ≠
        after.strings.place (StringHeap.serialOf reference)) →
    after.strings.get other = machine.strings.get other
  rest : after = { machine with globals := after.globals, strings := after.strings }

/-- The builtin joins the arguments to `bytes`, whatever functions there are to be run. -/
def JoinsTo (machine : Machine) (bytes : List UInt8) : Prop :=
  ∀ (execute : Executor) (program : Program), ∃ reference after,
    perform execute program Builtins.concatenate machine = some (.ok (), after) ∧
      machine.Joins bytes reference after

/-- The builtin has one result only. -/
theorem JoinsTo.unique {bytes other : List UInt8} (joins : machine.JoinsTo bytes)
    (otherwise : machine.JoinsTo other) : bytes = other := by
  let execute : Executor := fun _ _ _ => none
  let program := Assembler.empty.assemble
  obtain ⟨reference, after, ends, joined⟩ := joins execute program
  obtain ⟨second, last, again, rejoined⟩ := otherwise execute program
  rw [ends] at again
  cases again
  obtain rfl := Except.ok.inj (joined.returned.symm.trans rejoined.returned)
  exact Except.ok.inj (joined.read.symm.trans rejoined.read)

/-- A text is returned as a new temporary. -/
theorem perform_returnText_bind {α : Type} {text : String} {reference : Int} {strings : StringHeap}
    {globals : Globals}
    (made : machine.strings.addTemporary (Text.encode text) = (reference, strings))
    (written : machine.globals.setSigned Region.returnStart reference = .ok globals)
    (next : Int → Native α) :
    perform execute program (Native.returnText text >>= next) machine =
      perform execute program (next reference) { machine with globals, strings } := by
  have stored : perform execute program (Native.returnText text >>= next) machine =
      perform execute program ((Native.returnReference (machine.strings.addTemporary
          (Text.encode text)).1 >>= fun _ =>
        pure (machine.strings.addTemporary (Text.encode text)).1) >>= next)
        { machine with strings := (machine.strings.addTemporary (Text.encode text)).2 } := rfl
  rw [stored, made, bind_assoc, Native.returnReference, bind_assoc]
  exact perform_check_bind written _

/-- The new temporary is made after all arguments were read. -/
theorem joinsTo_mended (sized : Region.size ≤ machine.globals.size)
    (room : 0 < machine.strings.ringSize)
    (bound : machine.strings.lastSerial ≤ StringHeap.maxSerial) {parts : List (List UInt8)}
    (count : machine.argumentCount = parts.length)
    (reads : ∀ index bytes, parts[index]? = some bytes → machine.ReadsArgument index bytes) :
    machine.JoinsTo (parts.flatMap Text.mended) := by
  intro execute program
  let text := joinedText parts
  let reference := (machine.strings.addTemporary (Text.encode text)).1
  let strings := (machine.strings.addTemporary (Text.encode text)).2
  have present : Region.returnStart < machine.globals.size := Nat.lt_of_lt_of_le (by decide) sized
  obtain ⟨lower, negative⟩ := machine.strings.reference_addTemporary (Text.encode text) bound
  obtain ⟨globals, written, returned⟩ :=
    Globals.getSigned_setSigned present lower (Int.lt_trans negative (by decide))
  have fromZero : ∀ index bytes, parts[index]? = some bytes →
      machine.ReadsArgument (0 + index) bytes := by
    intro index bytes found
    rw [Nat.zero_add]
    exact reads index bytes found
  refine ⟨reference, { machine with globals, strings }, ?_, ?_⟩
  · calc
      perform execute program Builtins.concatenate machine
        = perform execute program (Builtins.joinTexts 0 machine.argumentCount >>= fun text =>
            Native.returnText text >>= fun _ => pure ()) machine := by
          rw [Builtins.concatenate, Builtins.argumentText, bind_assoc]
          rfl
      _ = perform execute program (Native.returnText text >>= fun _ => pure ()) machine := by
          rw [count, perform_joinTexts_bind fromZero]
      _ = some (.ok (), { machine with globals, strings }) := perform_returnText_bind rfl written _
  · rw [← encode_joinedText]
    exact {
      temporary := decide_eq_true negative
      written := written
      returned := returned
      read := StringHeap.get_addTemporary _ room bound
      others := fun other apart => StringHeap.get_addTemporary_other _ bound fun temporary => by
        have different := apart temporary
        rwa [StringHeap.place_addTemporary, StringHeap.place_addTemporary] at different
      rest := rfl }

/-- In every machine, whatever its ring of temporaries and whatever strings it is given, the builtin
joins the texts that are read from its arguments. It joins the very bytes of the arguments exactly
if all of them are those of texts. -/
theorem strings_joined_as_texts {table : Array UInt8} {ringSize : Nat}
    (grown : (StringHeap.create table ringSize).Grows machine.strings)
    (sized : Region.size ≤ machine.globals.size) {parts : List (List UInt8)}
    (count : machine.argumentCount = parts.length)
    (reads : ∀ index bytes, parts[index]? = some bytes → machine.ReadsArgument index bytes) :
    machine.JoinsTo (parts.flatMap Text.mended) ∧
      (machine.JoinsTo parts.flatten ↔ ∀ bytes ∈ parts, ∃ text, Text.encode text = bytes) := by
  obtain ⟨room, bound⟩ := grown.ring_ready
  have mended := joinsTo_mended sized room bound count reads
  refine ⟨mended, ?_⟩
  rw [← Text.flatMap_mended_eq_flatten_iff]
  constructor
  · exact fun joins => mended.unique joins
  · exact fun same => same ▸ mended

end Machine

/-! ### Two small machines -/

namespace Sample

/-- A builtin is given the permanent string at offset 1 and the first temporary. -/
def given (strings : StringHeap) (arguments : Nat) : Machine :=
  { Machine.create Assembler.empty.assemble .standard with
    globals := ⟨((Array.replicate 28 0).setIfInBounds 4 1).setIfInBounds 7 0xffffffff⟩
    strings
    argumentCount := arguments }

/-- The ring has a single place, and the temporary in it is the second argument. -/
def overwriting : Machine :=
  given ((StringHeap.create #[0, 0xc3, 0xa9, 0] 1).addTemporary [98]).2 2

/-- The argument is a permanent string of a byte that is no text. -/
def illegible : Machine :=
  given (.create #[0, 0xff, 0] 16) 1

end Sample

namespace Machine

theorem strings_joined_as_texts_overwriting :
    (StringHeap.create #[0, 0xc3, 0xa9, 0] 1).Grows Sample.overwriting.strings ∧
      Region.size ≤ Sample.overwriting.globals.size ∧ Sample.overwriting.argumentCount = 2 ∧
      Sample.overwriting.ReadsArgument 0 [0xc3, 0xa9] ∧ Sample.overwriting.ReadsArgument 1 [98] ∧
      Sample.overwriting.JoinsTo [0xc3, 0xa9, 98] := by
  have grown : (StringHeap.create #[0, 0xc3, 0xa9, 0] 1).Grows Sample.overwriting.strings :=
    .stored .same [98]
  have sized : Region.size ≤ Sample.overwriting.globals.size := by decide
  have first : Sample.overwriting.ReadsArgument 0 [0xc3, 0xa9] :=
    ⟨1, rfl, rfl⟩
  have second : Sample.overwriting.ReadsArgument 1 [98] := ⟨-1, rfl, rfl⟩
  have reads : ∀ index bytes, [[0xc3, 0xa9], [98]][index]? = some bytes →
      Sample.overwriting.ReadsArgument index bytes
    | 0, _, rfl => first
    | 1, _, rfl => second
  have texts : ∀ bytes ∈ [[0xc3, 0xa9], [98]], ∃ text, Text.encode text = bytes := by
    simp only [List.forall_mem_cons]
    exact ⟨⟨"é", by decide +kernel⟩, ⟨"b", by decide +kernel⟩, nofun⟩
  exact ⟨grown, sized, rfl, first, second,
    (strings_joined_as_texts grown sized rfl reads).2.mpr texts⟩

/-- A byte that is no text does not come back: the new temporary holds the replacement character. -/
theorem illegible_byte_replaced :
    Sample.illegible.argumentCount = 1 ∧ Sample.illegible.ReadsArgument 0 [0xff] ∧
      Sample.illegible.JoinsTo [0xef, 0xbf, 0xbd] ∧ ¬ Sample.illegible.JoinsTo [0xff] := by
  have read : Sample.illegible.ReadsArgument 0 [0xff] := ⟨1, rfl, rfl⟩
  have reads : ∀ index bytes, [[0xff]][index]? = some bytes →
      Sample.illegible.ReadsArgument index bytes
    | 0, _, rfl => read
  have joins : Sample.illegible.JoinsTo ([[0xff]].flatMap Text.mended) :=
    joinsTo_mended (by decide) (by decide) (by decide) rfl reads
  have replaced : [[0xff]].flatMap Text.mended = [0xef, 0xbf, 0xbd] := by decide +kernel
  rw [replaced] at joins
  exact ⟨rfl, read, joins, fun kept => absurd (kept.unique joins) (by decide)⟩

end Machine

end Gamecode
