/-
This file says what every program that was read from an image fulfils. The checks of the loader end
with the first fault, so a program that passed them all has its reserved region, and each function
with statements has its first statement, its window and its parameters where they belong.
-/

import Gamecode.Image.Decode

namespace Gamecode

/-! ### Steps that succeed -/

/-- Two steps in a row succeed exactly where the second succeeds on the result of the first. -/
theorem Except.bind_eq_ok_iff {ε α β : Type} {first : Except ε α} {next : α → Except ε β}
    {result : β} :
    (first >>= next) = .ok result ↔ ∃ value, first = .ok value ∧ next value = .ok result := by
  cases first with
  | ok value =>
    constructor
    · exact fun ends => ⟨value, rfl, ends⟩
    · rintro ⟨_, same, ends⟩
      cases same
      exact ends
  | error fault => exact iff_of_false nofun fun ⟨_, same, _⟩ => nomatch same

/-- A check and what follows it succeed exactly where both do. -/
theorem Except.unit_bind_eq_ok_iff {ε α : Type} {check : Except ε Unit} {next : Except ε α}
    {result : α} : (check >>= fun _ => next) = .ok result ↔ check = .ok () ∧ next = .ok result := by
  refine Except.bind_eq_ok_iff.trans ⟨?_, fun both => ⟨(), both⟩⟩
  rintro ⟨_, both⟩
  exact both

theorem Except.eq_ok_of_toOption {ε α : Type} {known : Except ε α} {value : α}
    (same : known.toOption = some value) : known = .ok value := by
  cases known with
  | ok other => exact congrArg Except.ok (Option.some.inj same)
  | error fault => cases same

/-- A check of all members of a list passes exactly if each member passes. -/
theorem Except.forM_eq_ok_iff {ε α : Type} {check : α → Except ε Unit} {members : List α} :
    members.forM check = .ok () ↔ ∀ member ∈ members, check member = .ok () := by
  induction members with
  | nil => exact iff_of_true rfl nofun
  | cons head rest inductionHypothesis =>
    rw [List.forall_mem_cons, ← inductionHypothesis]
    exact Except.unit_bind_eq_ok_iff

/-- Each member of a list that was made step by step is the result of one of the steps. -/
theorem Except.mem_of_mapM_eq_ok {ε α β : Type} {make : α → Except ε β} {sources : List α}
    {results : List β} (made : sources.mapM make = .ok results) :
    ∀ result ∈ results, ∃ source ∈ sources, make source = .ok result := by
  induction sources generalizing results with
  | nil =>
    cases made
    exact fun _ inside => nomatch inside
  | cons head rest inductionHypothesis =>
    rw [List.mapM_cons] at made
    obtain ⟨first, headMade, made⟩ := Except.bind_eq_ok_iff.mp made
    obtain ⟨others, restMade, made⟩ := Except.bind_eq_ok_iff.mp made
    cases made
    intro result inside
    rcases List.mem_cons.mp inside with rfl | inRest
    · exact ⟨head, List.mem_cons_self, headMade⟩
    · obtain ⟨source, member, sourceMade⟩ := inductionHypothesis restMade result inRest
      exact ⟨source, List.mem_cons_of_mem _ member, sourceMade⟩

/-! ### Functions -/

/-- The first statement, the window and the parameters of a function lie where they belong. -/
structure Function.Fits (program : Program) (function : Function) (first : Nat) : Prop where
  first_lt : first < program.statements.size
  windowStart_nonneg : 0 ≤ function.windowStart
  windowSize_nonneg : 0 ≤ function.windowSize
  window_le : function.windowStart + function.windowSize ≤ program.globals.size
  parameterSlots_le : function.parameterSlots ≤ function.windowSize

/-- What a program that was read from an image fulfils. -/
structure Program.Loaded (program : Program) : Prop where
  region_le : Region.size ≤ program.globals.size
  parameterCount_le : ∀ {number : Nat} {function : Function},
    program.functions[number]? = some function → function.widths.length ≤ Region.maxParameters
  width_le : ∀ {number : Nat} {function : Function},
    program.functions[number]? = some function → ∀ width ∈ function.widths, width.toNat ≤ 3
  fits : ∀ {number first : Nat} {function : Function},
    program.functions[number]? = some function → function.body = .statements first →
      function.Fits program first

namespace Image

theorem length_widths_of_decodeFunction {record : List UInt8} {function : Function}
    (decoded : decodeFunction record = .ok function) :
    function.widths.length ≤ Region.maxParameters := by
  unfold decodeFunction at decoded
  simp only at decoded
  split at decoded
  · cases decoded
  · next fewEnough =>
    cases decoded
    exact Nat.le_trans (List.length_take_le _ _) (Nat.not_lt.mp fewEnough)

theorem checkBody_eq_ok_iff {program : Program} {number first : Nat} {function : Function} :
    checkBody program number function first = .ok () ↔ function.Fits program first := by
  constructor
  · intro passed
    unfold checkBody at passed
    split at passed
    · cases passed
    next inside =>
    split at passed
    · cases passed
    next window =>
    split at passed
    · cases passed
    next room =>
    obtain ⟨startNonneg, sizeNonneg, bound⟩ := Decidable.not_not.mp window
    exact ⟨Nat.not_le.mp inside, startNonneg, sizeNonneg, bound, Int.not_lt.mp room⟩
  · rintro ⟨inside, startNonneg, sizeNonneg, bound, room⟩
    unfold checkBody
    rw [if_neg (Nat.not_le.mpr inside),
      if_neg (not_not_intro ⟨startNonneg, sizeNonneg, bound⟩), if_neg (Int.not_lt.mpr room)]

/-- A function passes exactly if its names and its widths pass, and its body, if it has one. -/
theorem checkFunction_eq_ok_iff {program : Program} {number : Nat} {function : Function} :
    checkFunction program number function = .ok () ↔
      checkName program function.name = .ok () ∧ checkName program function.file = .ok () ∧
        (∀ width ∈ function.widths, 1 ≤ width ∧ width ≤ 3) ∧
          ∀ first, function.body = .statements first → function.Fits program first := by
  unfold checkFunction
  rw [Except.unit_bind_eq_ok_iff, Except.unit_bind_eq_ok_iff]
  refine and_congr_right fun _ => and_congr_right fun _ => ?_
  dsimp only
  by_cases small : (function.widths.all fun width => 1 ≤ width ∧ width ≤ 3) = true
  · have widths : ∀ width ∈ function.widths, 1 ≤ width ∧ width ≤ 3 := fun width member =>
      of_decide_eq_true (List.all_eq_true.mp small width member)
    rw [if_neg (not_not_intro small), and_iff_right widths]
    cases function.body with
    | builtin => exact iff_of_true rfl nofun
    | statements first =>
      refine checkBody_eq_ok_iff.trans ⟨?_, fun fits => fits first rfl⟩
      rintro fits _ ⟨⟩
      exact fits
  · rw [if_pos small]
    exact iff_of_false nofun fun both => small
      (List.all_eq_true.mpr fun width member => decide_eq_true (both.1 width member))

theorem functions_of_readTables {image : Array UInt8} {header : Header} {program : Program}
    (read : readTables image header = .ok program) :
    ∀ function ∈ program.functions.toList, function.widths.length ≤ Region.maxParameters := by
  unfold readTables at read
  obtain ⟨_, _, read⟩ := Except.bind_eq_ok_iff.mp read
  obtain ⟨_, _, read⟩ := Except.bind_eq_ok_iff.mp read
  obtain ⟨_, _, read⟩ := Except.bind_eq_ok_iff.mp read
  obtain ⟨_, _, read⟩ := Except.bind_eq_ok_iff.mp read
  obtain ⟨functions, decoded, read⟩ := Except.bind_eq_ok_iff.mp read
  obtain ⟨_, _, read⟩ := Except.bind_eq_ok_iff.mp read
  obtain ⟨_, _, read⟩ := Except.bind_eq_ok_iff.mp read
  cases read
  intro function member
  obtain ⟨record, _, decodedHere⟩ := Except.mem_of_mapM_eq_ok decoded function member
  exact length_widths_of_decodeFunction decodedHere

/-- A program passes all checks exactly if its region and each of its definitions and functions
pass. -/
theorem check_eq_ok_iff {program : Program} :
    check program = .ok () ↔
      Region.size ≤ program.globals.size ∧
        (∀ definition ∈ program.globalDefinitions, checkGlobal program definition = .ok ()) ∧
        (∀ definition ∈ program.fieldDefinitions, checkField program definition = .ok ()) ∧
        ∀ number function, program.functions[number]? = some function →
          checkFunction program number function = .ok () := by
  have functions : (∀ member ∈ program.functions.toList.zipIdx,
      checkFunction program member.2 member.1 = .ok ()) ↔
        ∀ number function, program.functions[number]? = some function →
          checkFunction program number function = .ok () := by
    simp only [Prod.forall, List.mem_zipIdx_iff_getElem?, Array.getElem?_toList]
    exact forall_comm
  unfold check
  rw [← functions]
  by_cases region : program.globals.size < Region.size
  · rw [if_pos region]
    exact iff_of_false nofun fun all => Nat.not_le.mpr region all.1
  · rw [if_neg region]
    simp only [← Array.mem_toList_iff, ← Except.forM_eq_ok_iff]
    rw [Except.unit_bind_eq_ok_iff, Except.unit_bind_eq_ok_iff,
      and_iff_right (Nat.not_lt.mp region)]

/-- A program that was loaded was read from the tables of its image, and passed all checks. -/
theorem readTables_check_of_load {image : Array UInt8} {expectation : Expectation}
    {program : Program} (loaded : load image expectation = .ok program) :
    ∃ header, readTables image header = .ok program ∧ check program = .ok () := by
  unfold load at loaded
  obtain ⟨header, _, loaded⟩ := Except.bind_eq_ok_iff.mp loaded
  obtain ⟨_, loaded⟩ := Except.unit_bind_eq_ok_iff.mp loaded
  obtain ⟨tables, read, loaded⟩ := Except.bind_eq_ok_iff.mp loaded
  obtain ⟨passed, loaded⟩ := Except.unit_bind_eq_ok_iff.mp loaded
  cases loaded
  exact ⟨header, read, passed⟩

/-- A program that passes the checks is what they say, if its functions have no more parameters than
there are blocks for them. -/
theorem loaded_of_check {program : Program} (passed : check program = .ok ())
    (few : ∀ {number : Nat} {function : Function}, program.functions[number]? = some function →
      function.widths.length ≤ Region.maxParameters) : program.Loaded := by
  obtain ⟨region, -, -, functions⟩ := check_eq_ok_iff.mp passed
  refine ⟨region, few, fun found => ?_, fun found body => ?_⟩
  · obtain ⟨-, -, small, -⟩ := checkFunction_eq_ok_iff.mp (functions _ _ found)
    exact fun width member => UInt8.le_iff_toNat_le.mp (small width member).2
  · obtain ⟨-, -, -, fits⟩ := checkFunction_eq_ok_iff.mp (functions _ _ found)
    exact fits _ body

/-- A program that was read from an image is what its checks say. -/
theorem loaded_of_load {image : Array UInt8} {expectation : Expectation} {program : Program}
    (loaded : load image expectation = .ok program) : program.Loaded := by
  obtain ⟨_, read, passed⟩ := readTables_check_of_load loaded
  exact loaded_of_check passed fun found =>
    functions_of_readTables read _ (Array.mem_toList_iff.mpr (Array.mem_of_getElem? found))

end Image

end Gamecode
