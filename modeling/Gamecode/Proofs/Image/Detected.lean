/-
This file is about the changes of a text that its checksum detects. The register of the checksum is
linear: what it holds after two texts differs by what it holds, from zero on, after the bits in
which the texts differ. A shift only takes zero to zero, so bits that are close together leave
something in the register that nothing behind them clears. A shift also keeps the parity of the
register, so an odd number of bits leaves something there too.
-/

import Gamecode.Checksum

namespace Gamecode.Checksum

variable {register other : UInt16} {place : Nat}

/-! ### Bits of the register -/

/-- The bit of a register at a place, where the lowest bit has place zero. -/
def bit (register : UInt16) (place : Nat) : Bool :=
  register.toBitVec.getLsbD place

theorem eq_of_bit_eq (same : ∀ place < 16, bit register place = bit other place) :
    register = other :=
  UInt16.toBitVec_inj.mp (BitVec.eq_of_getLsbD_eq same)

@[simp] theorem bit_zero (place : Nat) : bit 0 place = false :=
  BitVec.getLsbD_zero

@[simp] theorem bit_xor (register other : UInt16) (place : Nat) :
    bit (register ^^^ other) place = (bit register place ^^ bit other place) :=
  BitVec.getLsbD_xor

theorem bit_of_le (outside : 16 ≤ place) : bit register place = false :=
  BitVec.getLsbD_of_ge _ _ outside

theorem bit_shiftLeft (register : UInt16) (place : Nat) :
    bit (register <<< 1) place = (decide (0 < place ∧ place < 16) && bit register (place - 1)) := by
  have same : (register <<< 1).toBitVec = register.toBitVec <<< 1 := rfl
  rw [bit, same, BitVec.getLsbD_shiftLeft, bit]
  by_cases inside : place < 16 <;> cases place <;> simp [inside]

theorem bit_shiftRight (register : UInt16) (place : Nat) :
    bit (register >>> 1) place = bit register (place + 1) := by
  have same : (register >>> 1).toBitVec = register.toBitVec >>> 1 := rfl
  rw [bit, same, BitVec.getLsbD_ushiftRight, Nat.add_comm, bit]

/-- The highest bit is the one that leaves the register. -/
theorem top_eq_bit (register : UInt16) : (register &&& 0x8000 != 0) = bit register 15 := by
  have masked : (register &&& 0x8000).toBitVec =
      if bit register 15 then BitVec.twoPow 16 15 else 0#16 :=
    BitVec.and_twoPow register.toBitVec 15
  cases set : bit register 15 with
  | false =>
    rw [set] at masked
    rw [show register &&& 0x8000 = 0 from UInt16.toBitVec_inj.mp masked]
    rfl
  | true =>
    rw [set] at masked
    rw [show register &&& 0x8000 = 0x8000 from UInt16.toBitVec_inj.mp masked]
    rfl

/-- A shift moves every bit up, and adds the polynomial if the highest bit was set. -/
theorem bit_shift (register : UInt16) (place : Nat) :
    bit (shift register) place =
      ((decide (0 < place ∧ place < 16) && bit register (place - 1)) ^^
        (bit register 15 && bit polynomial place)) := by
  rw [shift, top_eq_bit]
  cases bit register 15 <;> simp [bit_shiftLeft]

/-! ### What a shift does to the register -/

/-- The register is linear: a shift of a sum is the sum of the shifts. -/
theorem shift_xor (register other : UInt16) :
    shift (register ^^^ other) = shift register ^^^ shift other := by
  refine eq_of_bit_eq fun place _ => ?_
  simp only [bit_shift, bit_xor, Bool.and_xor_distrib_left, Bool.and_xor_distrib_right,
    Bool.xor_assoc, Bool.xor_left_comm]

/-- Nothing is lost: the lowest bit tells whether the polynomial was added. -/
theorem eq_zero_of_shift_eq_zero (zero : shift register = 0) : register = 0 := by
  have top : bit register 15 = false := by
    have lowest := bit_shift register 0
    rw [zero] at lowest
    simpa [bit, polynomial] using lowest
  refine eq_of_bit_eq fun place inside => ?_
  rw [bit_zero]
  rcases Nat.lt_or_ge (place + 1) 16 with below | highest
  · have moved := bit_shift register (place + 1)
    rw [zero, top] at moved
    simpa [below] using moved.symm
  · rwa [show place = 15 by omega]

theorem shiftBy_zero (places : Nat) : shiftBy places 0 = 0 := by
  induction places with
  | zero => rfl
  | succ places inductionHypothesis => exact inductionHypothesis

theorem eq_zero_of_shiftBy_eq_zero {places : Nat} (zero : shiftBy places register = 0) :
    register = 0 := by
  induction places generalizing register with
  | zero => exact zero
  | succ places inductionHypothesis =>
    exact eq_zero_of_shift_eq_zero (inductionHypothesis zero)

/-! ### Parity -/

/-- Whether an odd number of the lowest bits are set. -/
def parityBelow (register : UInt16) : (count : Nat) → Bool
  | 0 => false
  | count + 1 => parityBelow register count ^^ bit register count

/-- Whether an odd number of bits are set. -/
def parity (register : UInt16) : Bool :=
  parityBelow register 16

theorem parityBelow_xor (register other : UInt16) (count : Nat) :
    parityBelow (register ^^^ other) count =
      (parityBelow register count ^^ parityBelow other count) := by
  induction count with
  | zero => rfl
  | succ count inductionHypothesis =>
    rw [parityBelow, inductionHypothesis, bit_xor, parityBelow, parityBelow, Bool.xor_assoc,
      Bool.xor_assoc, Bool.xor_left_comm (bit register count)]

/-- What moves up keeps its parity. -/
theorem parityBelow_shiftLeft {count : Nat} (inside : count < 16) :
    parityBelow (register <<< 1) (count + 1) = parityBelow register count := by
  induction count with
  | zero => simp [parityBelow, bit_shiftLeft]
  | succ count inductionHypothesis =>
    rw [parityBelow, inductionHypothesis (by omega), bit_shiftLeft, parityBelow]
    simp [inside]

/-- The polynomial has an even number of terms, so a shift keeps the parity. -/
theorem parity_shift (register : UInt16) : parity (shift register) = parity register := by
  have moved : parity (register <<< 1) = parityBelow register 15 :=
    parityBelow_shiftLeft (by decide)
  have whole : parity register = (parityBelow register 15 ^^ bit register 15) := rfl
  have terms : parity polynomial = true := by decide
  rw [shift, top_eq_bit, whole]
  cases bit register 15 with
  | false => simpa using moved
  | true =>
    rw [if_pos rfl, parity, parityBelow_xor, ← parity, ← parity, moved, terms]

/-! ### Bits that enter the register -/

/-- A register that only holds the highest bit, or nothing. -/
def atTop (set : Bool) : UInt16 :=
  if set then 0x8000 else 0

/-- One bit enters at the top of the register. -/
def enter (register : UInt16) (set : Bool) : UInt16 :=
  shift (register ^^^ atTop set)

/-- The bits enter one after the other. -/
def enterAll (register : UInt16) (bits : List Bool) : UInt16 :=
  bits.foldl enter register

theorem enterAll_append (register : UInt16) (earlier later : List Bool) :
    enterAll register (earlier ++ later) = enterAll (enterAll register earlier) later :=
  List.foldl_append

theorem bit_atTop (set : Bool) (place : Nat) :
    bit (atTop set) place = (set && decide (place = 15)) := by
  cases set with
  | false => exact bit_zero place
  | true =>
    have single : (atTop true).toBitVec = BitVec.twoPow 16 15 := rfl
    rw [bit, single, BitVec.getLsbD_twoPow]
    simp [eq_comm]

/-- As many bits as there is room for, the first one at the top. -/
def topWord : List Bool → UInt16
  | [] => 0
  | set :: rest => atTop set ^^^ (topWord rest >>> 1)

theorem bit_topWord {bits : List Bool} (inside : place < 16) :
    bit (topWord bits) place = bits.getD (15 - place) false := by
  induction bits generalizing place with
  | nil => exact bit_zero place
  | cons set rest inductionHypothesis =>
    rw [topWord, bit_xor, bit_atTop, bit_shiftRight]
    rcases Nat.lt_or_ge (place + 1) 16 with below | highest
    · have index : 15 - place = 15 - (place + 1) + 1 := by omega
      rw [inductionHypothesis below, index, List.getD_cons_succ]
      simp [show place ≠ 15 by omega]
    · obtain rfl : place = 15 := by omega
      rw [bit_of_le (Nat.le_refl 16)]
      simp

/-- The lowest place of the word is free while a bit can still enter. -/
theorem shift_topWord {bits : List Bool} (short : bits.length < 16) :
    shift (topWord bits >>> 1) = topWord bits := by
  refine eq_of_bit_eq fun place inside => ?_
  rw [bit_shift, bit_shiftRight, bit_shiftRight, bit_of_le (Nat.le_refl 16), Bool.false_and,
    Bool.xor_false]
  cases place with
  | zero =>
    rw [bit_topWord inside, List.getD_eq_getElem?_getD, List.getElem?_eq_none (by omega)]
    rfl
  | succ place => simp [inside]

/-- No more bits than there is room for: they can all be put into the register at once. -/
theorem enterAll_eq_shiftBy {bits : List Bool} (short : bits.length ≤ 16) (register : UInt16) :
    enterAll register bits = shiftBy bits.length (register ^^^ topWord bits) := by
  induction bits generalizing register with
  | nil => exact (UInt16.xor_zero).symm
  | cons set rest inductionHypothesis =>
    rw [List.length_cons] at short
    calc enterAll register (set :: rest)
        = shiftBy rest.length (shift (register ^^^ atTop set) ^^^ topWord rest) :=
          inductionHypothesis (by omega) _
      _ = shiftBy rest.length
            (shift (register ^^^ atTop set) ^^^ shift (topWord rest >>> 1)) := by
          rw [shift_topWord (by omega)]
      _ = shiftBy rest.length (shift (register ^^^ topWord (set :: rest))) := by
          rw [← shift_xor, UInt16.xor_assoc, topWord]
      _ = shiftBy (set :: rest).length (register ^^^ topWord (set :: rest)) := rfl

/-! ### What bits leave in the register -/

theorem enter_xor (register other : UInt16) (set otherSet : Bool) :
    enter (register ^^^ other) (set ^^ otherSet) = enter register set ^^^ enter other otherSet := by
  have tops : atTop (set ^^ otherSet) = atTop set ^^^ atTop otherSet := by
    cases set <;> cases otherSet <;> rfl
  rw [enter, tops, enter, enter, ← shift_xor]
  congr 1
  rw [UInt16.xor_assoc, UInt16.xor_assoc, ← UInt16.xor_assoc other, UInt16.xor_comm other,
    UInt16.xor_assoc]

/-- The difference of two registers is what the differences of the bits make of it. -/
theorem enterAll_xor {bits others : List Bool} (length : bits.length = others.length)
    (register other : UInt16) :
    enterAll (register ^^^ other) (List.zipWith xor bits others) =
      enterAll register bits ^^^ enterAll other others := by
  induction bits generalizing others register other with
  | nil =>
    obtain rfl := List.eq_nil_of_length_eq_zero length.symm
    rfl
  | cons set rest inductionHypothesis =>
    cases others with
    | nil => cases length
    | cons otherSet otherRest =>
      have step := inductionHypothesis (Nat.succ.inj length) (enter register set)
        (enter other otherSet)
      rw [← enter_xor] at step
      exact step

theorem enterAll_unset (register : UInt16) (count : Nat) :
    enterAll register (List.replicate count false) = shiftBy count register := by
  induction count generalizing register with
  | zero => rfl
  | succ count inductionHypothesis =>
    have same : enter register false = shift register := congrArg shift UInt16.xor_zero
    rw [List.replicate_succ, enterAll, List.foldl_cons, ← enterAll, same, inductionHypothesis,
      shiftBy]

/-- Whether a number is odd changes with every one that is added. -/
theorem decide_odd_add (number : Nat) (set : Bool) :
    decide ((number + set.toNat) % 2 = 1) = (set ^^ decide (number % 2 = 1)) := by
  cases set with
  | false => exact (Bool.false_xor _).symm
  | true =>
    rw [Bool.toNat_true, Bool.true_xor, ← decide_not, decide_eq_decide]
    omega

theorem count_true_cons (set : Bool) (rest : List Bool) :
    (set :: rest).count true = rest.count true + set.toNat := by
  cases set with
  | false => exact List.count_cons_of_ne (by decide)
  | true => exact List.count_cons_self

theorem parity_enterAll (register : UInt16) (bits : List Bool) :
    parity (enterAll register bits) = (parity register ^^ decide (bits.count true % 2 = 1)) := by
  induction bits generalizing register with
  | nil => exact (Bool.xor_false _).symm
  | cons set rest inductionHypothesis =>
    have top : parity (atTop set) = set := by cases set <;> decide
    have entered : parity (enter register set) = (parity register ^^ set) := by
      rw [enter, parity_shift, parity, parityBelow_xor, ← parity, ← parity, top]
    rw [enterAll, List.foldl_cons, ← enterAll, inductionHypothesis, entered, Bool.xor_assoc,
      count_true_cons, decide_odd_add]

/-- Bits of which an odd number is set leave something in an empty register. -/
theorem enterAll_ne_zero_of_odd {bits : List Bool} (odd : bits.count true % 2 = 1) :
    enterAll 0 bits ≠ 0 := by
  intro zero
  have parities := parity_enterAll 0 bits
  rw [zero, decide_eq_true odd] at parities
  cases parities

/-- All bits that are set lie within so many places in a row. -/
def Within (length : Nat) (bits : List Bool) : Prop :=
  ∃ start, ∀ place : Nat, bits[place]? = some true → start ≤ place ∧ place < start + length

theorem eq_replicate_of_unset {bits : List Bool} (unset : true ∉ bits) :
    bits = List.replicate bits.length false := by
  refine List.eq_replicate_iff.mpr ⟨rfl, fun set member => ?_⟩
  cases set with
  | false => rfl
  | true => exact absurd member unset

/-- The places with the bits that are set, and those before and behind them. -/
theorem Within.exists_eq_append {length : Nat} {bits : List Bool} (within : Within length bits) :
    ∃ (before : Nat) (middle : List Bool) (behind : Nat), middle.length ≤ length ∧
      bits = List.replicate before false ++ middle ++ List.replicate behind false := by
  obtain ⟨start, inside⟩ := within
  have first : true ∉ bits.take start := by
    intro set
    obtain ⟨place, found⟩ := List.getElem?_of_mem set
    rw [List.getElem?_take] at found
    split at found
    · exact absurd (inside place found).1 (by omega)
    · cases found
  have last : true ∉ (bits.drop start).drop length := by
    intro set
    obtain ⟨place, found⟩ := List.getElem?_of_mem set
    rw [List.getElem?_drop, List.getElem?_drop] at found
    exact absurd (inside _ found).2 (by omega)
  refine ⟨(bits.take start).length, (bits.drop start).take length,
    ((bits.drop start).drop length).length, List.length_take_le _ _, ?_⟩
  rw [← eq_replicate_of_unset first, ← eq_replicate_of_unset last, List.append_assoc,
    List.take_append_drop, List.take_append_drop]

theorem topWord_ne_zero {bits : List Bool} (short : bits.length ≤ 16) (member : true ∈ bits) :
    topWord bits ≠ 0 := by
  intro zero
  obtain ⟨index, found⟩ := List.getElem?_of_mem member
  obtain ⟨inside, -⟩ := List.getElem?_eq_some_iff.mp found
  have set : bit (topWord bits) (15 - index) = bits.getD (15 - (15 - index)) false :=
    bit_topWord (by omega)
  rw [zero, bit_zero, show 15 - (15 - index) = index by omega, List.getD_eq_getElem?_getD,
    found] at set
  cases set

/-- Bits that fit into the register leave something in an empty one, wherever they are. -/
theorem enterAll_ne_zero_of_within {bits : List Bool} (within : Within 16 bits)
    (member : true ∈ bits) : enterAll 0 bits ≠ 0 := by
  obtain ⟨before, middle, behind, short, rfl⟩ := within.exists_eq_append
  have set : true ∈ middle := by
    simpa only [List.mem_append, List.mem_replicate, reduceCtorEq, and_false, false_or, or_false]
      using member
  rw [enterAll_append, enterAll_append, enterAll_unset, enterAll_unset, shiftBy_zero,
    enterAll_eq_shiftBy short, UInt16.zero_xor]
  exact fun zero => topWord_ne_zero short set
    (eq_zero_of_shiftBy_eq_zero (eq_zero_of_shiftBy_eq_zero zero))

/-! ### Texts as bits -/

/-- The bits of a byte, the most significant one first. -/
def bitsOf (byte : UInt8) : List Bool :=
  (List.range 8).map byte.toBitVec.getMsbD

/-- The bits of a text. -/
def bits (text : List UInt8) : List Bool :=
  text.flatMap bitsOf

/-- Where two texts of the same length differ, bit by bit. -/
def differences (first second : List UInt8) : List Bool :=
  List.zipWith xor (bits first) (bits second)

theorem length_bitsOf (byte : UInt8) : (bitsOf byte).length = 8 := by
  rw [bitsOf, List.length_map, List.length_range]

theorem bitsOf_inj {byte other : UInt8} (same : bitsOf byte = bitsOf other) : byte = other := by
  refine UInt8.toBitVec_inj.mp (BitVec.eq_of_getMsbD_eq fun place inside => ?_)
  exact List.map_inj_left.mp same place (List.mem_range.mpr inside)

theorem length_bits (text : List UInt8) : (bits text).length = 8 * text.length := by
  induction text with
  | nil => rfl
  | cons byte rest inductionHypothesis =>
    rw [bits, List.flatMap_cons, List.length_append, ← bits, inductionHypothesis, length_bitsOf,
      List.length_cons]
    omega

theorem bits_inj {first second : List UInt8} (same : bits first = bits second) :
    first = second := by
  induction first generalizing second with
  | nil =>
    have lengths := congrArg List.length same
    rw [length_bits, length_bits, List.length_nil] at lengths
    exact (List.eq_nil_of_length_eq_zero (by omega)).symm
  | cons byte rest inductionHypothesis =>
    cases second with
    | nil =>
      have lengths := congrArg List.length same
      rw [length_bits, length_bits, List.length_nil, List.length_cons] at lengths
      omega
    | cons other otherRest =>
      rw [bits, bits, List.flatMap_cons, List.flatMap_cons] at same
      obtain ⟨head, tail⟩ := List.append_inj same (by rw [length_bitsOf, length_bitsOf])
      rw [bitsOf_inj head, inductionHypothesis tail]

/-- A byte enters as its bits do. -/
theorem topWord_bitsOf (byte : UInt8) : topWord (bitsOf byte) = byte.toUInt16 <<< 8 := by
  refine eq_of_bit_eq fun place inside => ?_
  have same : (byte.toUInt16 <<< 8).toBitVec = byte.toBitVec.setWidth 16 <<< 8 := rfl
  rw [bit_topWord inside, bit, same, BitVec.getLsbD_shiftLeft, BitVec.getLsbD_setWidth,
    List.getD_eq_getElem?_getD, bitsOf, List.getElem?_map]
  rcases Nat.lt_or_ge place 8 with low | high
  · rw [List.getElem?_eq_none (by rw [List.length_range]; omega)]
    simp [low]
  · rw [List.getElem?_range (by omega), Option.map_some, Option.getD_some, BitVec.getMsbD,
      show 8 - 1 - (15 - place) = place - 8 by omega]
    simp [inside, Nat.not_lt.mpr high, show 15 - place < 8 by omega, show place - 8 < 16 by omega]

theorem value_push (checksum : Checksum) (byte : UInt8) :
    (checksum.push byte).value = enterAll checksum.value (bitsOf byte) := by
  have short : (bitsOf byte).length ≤ 16 := by
    rw [length_bitsOf]
    decide
  rw [enterAll_eq_shiftBy short, length_bitsOf, topWord_bitsOf, push]

theorem value_append (checksum : Checksum) (text : List UInt8) :
    (checksum.append text).value = enterAll checksum.value (bits text) := by
  induction text generalizing checksum with
  | nil => rfl
  | cons byte rest inductionHypothesis =>
    rw [append, List.foldl_cons, ← append, inductionHypothesis, value_push, bits, bits,
      List.flatMap_cons, enterAll_append]

/-- Two texts of the same length have the same checksum exactly if their differences leave nothing
in an empty register. -/
theorem ofBytes_eq_iff {first second : List UInt8} (length : first.length = second.length) :
    ofBytes first = ofBytes second ↔ enterAll 0 (differences first second) = 0 := by
  have lengths : (bits first).length = (bits second).length := by
    rw [length_bits, length_bits, length]
  have sum := enterAll_xor lengths empty.value empty.value
  rw [UInt16.xor_self, ← value_append, ← value_append] at sum
  rw [differences, sum]
  exact UInt16.xor_eq_zero_iff.symm

theorem mem_differences {first second : List UInt8} (length : first.length = second.length)
    (different : first ≠ second) : true ∈ differences first second := by
  have lengths : (bits first).length = (bits second).length := by
    rw [length_bits, length_bits, length]
  refine Classical.byContradiction fun unset => different (bits_inj ?_)
  refine List.ext_getElem lengths fun place inside otherInside => ?_
  have found : (differences first second)[place]? =
      some ((bits first)[place] ^^ (bits second)[place]) := by
    rw [differences, List.getElem?_zipWith, List.getElem?_eq_getElem inside,
      List.getElem?_eq_getElem otherInside]
  cases same : ((bits first)[place] ^^ (bits second)[place]) with
  | false => exact bne_eq_false_iff_eq.mp same
  | true => exact absurd (List.mem_of_getElem? (same ▸ found)) unset

/-! ### Changes that are detected -/

/-- A text may come in any number of pieces. -/
theorem foldl_append (checksum : Checksum) (pieces : List (List UInt8)) :
    pieces.foldl append checksum = checksum.append pieces.flatten := by
  induction pieces generalizing checksum with
  | nil => rfl
  | cons piece rest inductionHypothesis =>
    rw [List.foldl_cons, inductionHypothesis, append_append, List.flatten_cons]

/-- Two different texts of the same length have different checksums if the bits in which they differ
all lie within sixteen places in a row, wherever that is, or if the number of these bits is odd. The
texts may come in any pieces. -/
theorem change_detected {first second : List UInt8} (length : first.length = second.length)
    (different : first ≠ second)
    (limited : Within 16 (differences first second) ∨
      (differences first second).count true % 2 = 1) :
    ofBytes first ≠ ofBytes second ∧
      ∀ pieces otherPieces : List (List UInt8), pieces.flatten = first →
        otherPieces.flatten = second →
          (pieces.foldl append empty).value ≠ (otherPieces.foldl append empty).value := by
  have detected : ofBytes first ≠ ofBytes second := by
    rw [Ne, ofBytes_eq_iff length]
    rcases limited with within | odd
    · exact enterAll_ne_zero_of_within within (mem_differences length different)
    · exact enterAll_ne_zero_of_odd odd
  refine ⟨detected, ?_⟩
  rintro pieces otherPieces rfl rfl
  rw [foldl_append, foldl_append]
  exact detected

/-- Three bytes, the same with sixteen bits in a row changed, and the same with three bits changed
that are far from each other. -/
theorem change_detected_smudged :
    (differences [0x10, 0x20, 0x30] [0x1f, 0xdf, 0xc0]).count true = 16 ∧
      ofBytes [0x10, 0x20, 0x30] ≠ ofBytes [0x1f, 0xdf, 0xc0] ∧
      (([[0x10], [0x20, 0x30]] : List (List UInt8)).foldl append empty).value ≠
        (([[0x1f, 0xdf], [], [0xc0]] : List (List UInt8)).foldl append empty).value ∧
      ofBytes [0x10, 0x20, 0x30] ≠ ofBytes [0x90, 0x30, 0x31] := by
  have size : (differences [0x10, 0x20, 0x30] [0x1f, 0xdf, 0xc0]).length = 24 := by decide
  have places : ∀ place < 24, (differences [0x10, 0x20, 0x30] [0x1f, 0xdf, 0xc0])[place]? =
      some true → 4 ≤ place ∧ place < 4 + 16 := by decide
  have within : Within 16 (differences [0x10, 0x20, 0x30] [0x1f, 0xdf, 0xc0]) := by
    refine ⟨4, fun place found => places place ?_ found⟩
    obtain ⟨inside, -⟩ := List.getElem?_eq_some_iff.mp found
    exact size ▸ inside
  obtain ⟨whole, pieced⟩ := change_detected (by decide) (by decide) (.inl within)
  have odd : ofBytes [0x10, 0x20, 0x30] ≠ ofBytes [0x90, 0x30, 0x31] :=
    (change_detected (by decide) (by decide) (.inr (by decide))).1
  exact ⟨by decide, whole, pieced _ _ rfl rfl, odd⟩

/-- Changes that are spread over seventeen places may stay undetected: these are the terms of the
polynomial. -/
example : ofBytes [0x00, 0x00, 0x00] = ofBytes [0x88, 0x10, 0x80] := by
  decide +kernel

end Gamecode.Checksum
