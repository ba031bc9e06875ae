/-
This file is about the globals that a program declares under a name, for a value or for the place of
a field. They take their slots like everything else. So a global that is declared while no function
is open belongs to no window, and what a function assigns to it lasts. One that is declared while a
function is open is a local of that function: when the function is left, the global gets back what
it held before.
-/

import Gamecode.Proofs.Assembly.Operations
import Gamecode.Proofs.Calls.Reachable

namespace Gamecode

namespace Machine

variable {environment : Environment} {machine after : Machine} {resume : Option Nat} {slot : Nat}

/-- Leaving a function changes its window only. -/
theorem Sound.kept_of_leave (loaded : environment.program.Loaded)
    (sound : machine.Sound environment)
    (left : Machine.leave machine = .ok resume after)
    (outside : ∀ (index : Nat) (found : Function),
      environment.program.functions[index]? = some found → ¬ found.Contains slot) :
    after.globals.slots[slot]? = machine.globals.slots[slot]? := by
  obtain ⟨built, size⟩ := sound
  generalize same : machine.stack = stack at built
  cases built with
  | created =>
    unfold Machine.leave at left
    rw [same] at left
    cases left
    rfl
  | @entered below frame window built fits length savedAt free room =>
    obtain ⟨found, first, isFunction, body, start, width⟩ := fits
    have inside := (loaded.fits isFunction body).window_le_size
    have fitting : frame.windowStart + window.length ≤ machine.globals.size := by
      rw [length, start, width, size]
      exact inside
    rw [leave_eq_ok same ⟨savedAt, fitting⟩] at left
    cases left
    refine Cells.getElem?_put_other _ _ _ _ ?_
    have uncovered := outside _ _ isFunction
    unfold Function.Contains at uncovered
    rw [length, start, width]
    omega

end Machine

namespace Assembler

variable {assembler : Assembler} {first : UInt16} {width index slot : Nat}

/-! ### Declarations -/

/-- The slots of the global that a step declares under a name: the first one as it is handed out,
and how many. -/
def Operation.declared? (assembler : Assembler) : Operation → Option (UInt16 × Nat)
  | .global name type persistent => some ((assembler.global name type persistent).1, type.width)
  | .field name type => some ((assembler.field name type).1.global, 1)
  | _ => none

/-- Slots that are new belong to the function that is open, and to no other one. -/
theorem Arranged.owns_new_iff (arranged : assembler.Arranged)
    (few : assembler.globals.size + width ≤ slotLimit) (inside : index < width) (function : Nat) :
    (assembler.allocate width).2.Owns function ((assembler.allocate width).1.toNat + index) ↔
      assembler.current = some function := by
  have number : (assembler.allocate width).1.toNat = assembler.globals.size :=
    toNat_offset (by omega)
  rw [number, arranged.owns_allocate_iff few]
  constructor
  · rintro (old | opened)
    · exact absurd (arranged.lt_size old) (by omega)
    · exact opened.1
  · exact fun isOpen => .inr ⟨isOpen, by omega, by omega⟩

/-- A global that was just declared belongs to the function that is open, and to no other one. -/
theorem Arranged.owns_declared_iff (arranged : assembler.Arranged) {operation : Operation}
    (few : (assembler.perform operation).globals.size ≤ slotLimit)
    (declares : operation.declared? assembler = some (first, width)) (inside : index < width) :
    first.toNat + index < (assembler.perform operation).globals.size ∧
      ∀ function, (assembler.perform operation).Owns function (first.toNat + index) ↔
        assembler.current = some function := by
  suffices ∃ named : Assembler, assembler.Advances named ∧ named.current = assembler.current ∧
      first = (named.allocate width).1 ∧
      (assembler.perform operation).functions = (named.allocate width).2.functions ∧
      (assembler.perform operation).globals.size = named.globals.size + width by
    obtain ⟨named, advances, current, rfl, functions, size⟩ := this
    rw [size] at few ⊢
    have namedArranged := advances.arranged arranged (Nat.le_trans (Nat.le_add_right _ _) few)
    have number : (named.allocate width).1.toNat = named.globals.size := toNat_offset (by omega)
    refine ⟨by omega, fun function => ?_⟩
    rw [← current, ← namedArranged.owns_new_iff few inside function, Owns, functions, Owns]
  cases operation with
  | global name type persistent =>
    cases declares
    refine ⟨assembler, advances_of_eq rfl rfl (.inl rfl), rfl, rfl, functions_define _ _ _ _, ?_⟩
    exact (congrArg Array.size (globals_define _ _ _ _)).trans (size_allocate _ _)
  | field name type =>
    cases declares
    obtain ⟨named, advances, -, current, same⟩ := assembler.field_eq name type
    rw [perform, same]
    refine ⟨named, advances, current, rfl, functions_define _ _ _ _, ?_⟩
    exact (congrArg Array.size (globals_define _ _ _ _)).trans (size_constant _ _)
  | _ => cases declares

/-! ### What a program does with a slot -/

/-- A program that was built is what its checks say. -/
theorem Made.loaded_of_build (made : assembler.Made) {program : Program}
    (built : assembler.build = .ok program) : program.Loaded ∧ program = assembler.assemble := by
  rw [build_eq] at built
  cases passed : Image.check assembler.assemble with
  | error fault =>
    rw [passed] at built
    cases built
  | ok _ =>
    rw [passed] at built
    cases built
    exact ⟨Image.loaded_of_check passed fun found =>
      made.sound.parameterCount_le _ (Array.mem_of_getElem? found), rfl⟩

/-- Wherever a host is with the program, leaving a function keeps what the slot holds. -/
def KeptOnLeaving (assembler : Assembler) (slot : Nat) : Prop :=
  ∀ {environment : Environment} {machine after : Machine} {resume : Option Nat},
    assembler.build = .ok environment.program →
    environment.builtins.Respects Machine.KeepsCalls environment.program →
    Machine.Reachable environment machine → Machine.leave machine = .ok resume after →
      after.globals.slots[slot]? = machine.globals.slots[slot]?

/-- Wherever a host is with the program, running the function ends with what the slot held before,
whatever the statements of the function assign to it. -/
def RevertedBy (assembler : Assembler) (function slot : Nat) : Prop :=
  ∀ {environment : Environment} {machine after : Machine} {found : Function} {budget first : Nat}
    {result : Except Fault Unit}, assembler.build = .ok environment.program →
    environment.builtins.Respects Machine.KeepsCalls environment.program →
    Machine.Reachable environment machine →
    environment.program.functions[function]? = some found → found.body = .statements first →
    Machine.invoke environment budget function machine = some (result, after) →
      after.globals.slots[slot]? = machine.globals.slots[slot]?

theorem Made.keptOnLeaving (made : assembler.Made)
    (unowned : ∀ function, ¬ assembler.Owns function slot) : assembler.KeptOnLeaving slot := by
  intro environment machine after resume built respects reachable left
  obtain ⟨loaded, same⟩ := made.loaded_of_build built
  refine (reachable.sound loaded respects).kept_of_leave loaded left ?_
  rw [same]
  exact fun function found isFunction contains => unowned function ⟨found, isFunction, contains⟩

theorem Made.revertedBy (made : assembler.Made) {function : Nat}
    (owns : assembler.Owns function slot) : assembler.RevertedBy function slot := by
  intro environment machine after found budget first result built respects reachable isFunction body
    ends
  obtain ⟨loaded, same⟩ := made.loaded_of_build built
  obtain ⟨owner, isOwner, lower, upper⟩ := owns
  have functions : environment.program.functions = assembler.functions :=
    congrArg Program.functions same
  rw [functions] at isFunction
  obtain rfl := Option.some.inj (isOwner.symm.trans isFunction)
  have ready := (reachable.sound loaded respects).ready
  have balanced := Machine.execute_balanced loaded respects budget
  obtain ⟨restores, -⟩ := Machine.invokeWith_restores balanced ready ends
  exact restores.window (functions ▸ isOwner) body slot lower upper

/-- Whatever the steps are, and however they are mixed: a global that is declared under a name
belongs to no function of the program exactly if no function is open when it is declared. Then what
a function assigns to it is still there when the function was left. While a function is open, the
global becomes a local of that function, and running the function ends with what the global held
before. -/
theorem declared_lasts_unless_open {before rest : List Operation} {operation : Operation}
    (few : (run (before ++ operation :: rest)).globals.size ≤ slotLimit)
    (declares : operation.declared? (run before) = some (first, width)) :
    ((run before).current = none → ∀ index < width,
      (∀ function, ¬ (run (before ++ operation :: rest)).Owns function (first.toNat + index)) ∧
        (run (before ++ operation :: rest)).KeptOnLeaving (first.toNat + index)) ∧
    ∀ opened, (run before).current = some opened → ∀ index < width,
      (run (before ++ operation :: rest)).Owns opened (first.toNat + index) ∧
        (run (before ++ operation :: rest)).RevertedBy opened (first.toNat + index) := by
  have made := made_run (before ++ operation :: rest)
  have owns_iff (function : Nat) {index : Nat} (inside : index < width) :
      (run (before ++ operation :: rest)).Owns function (first.toNat + index) ↔
        (run before).current = some function := by
    obtain ⟨arranged, fewThen, -, extend⟩ := around_step few
    obtain ⟨old, declared⟩ := arranged.owns_declared_iff fewThen declares inside
    rw [extend.owns_iff old, declared]
  constructor
  · intro closed index inside
    have unowned (function : Nat) :
        ¬ (run (before ++ operation :: rest)).Owns function (first.toNat + index) := by
      rw [owns_iff function inside, closed]
      exact nofun
    exact ⟨unowned, made.keptOnLeaving unowned⟩
  · intro opened isOpen index inside
    have owned := (owns_iff opened inside).mpr isOpen
    exact ⟨owned, made.revertedBy owned⟩

/-- The step that declares a global. -/
def declareHealth : Operation :=
  .global "health" .float false

/-- The step that opens a function. -/
def openMain : Operation :=
  .beginFunction "main" ⟨[], by decide⟩

/-- A function assigns a constant to the global, which is declared before the function is opened. -/
def declaredEarly : List Operation :=
  [.floatConstant 0x42C80000] ++
    declareHealth :: [openMain, .emit (.store .float) 28 29 0, .emit .done 0 0 0]

/-- The same, but the global is declared after the function was opened. -/
def declaredLate : List Operation :=
  [.floatConstant 0x42C80000, openMain] ++
    declareHealth :: [.emit (.store .float) 28 30 0, .emit .done 0 0 0]

/-- What a slot holds after the program was built and its function was run. -/
def holdsAfter (history : List Operation) (slot : Nat) : Option Slot := do
  let program ← (run history).build.toOption
  let (_, after) ← Machine.invoke ⟨program, .standard, .empty⟩ 9 1 (.create program .standard)
  after.globals.slots[slot]?

theorem declared_lasts_unless_open_early :
    (run declaredEarly).globals.size ≤ slotLimit ∧
      declareHealth.declared? (run [.floatConstant 0x42C80000]) = some (29, 1) ∧
      (∀ function, ¬ (run declaredEarly).Owns function 29) ∧ (run declaredEarly).KeptOnLeaving 29 ∧
      holdsAfter declaredEarly 29 = some 0x42C80000 := by
  have few : (run declaredEarly).globals.size ≤ slotLimit := by decide
  have declares : declareHealth.declared? (run [.floatConstant 0x42C80000]) = some (29, 1) := by
    decide
  have closed : (run [.floatConstant 0x42C80000]).current = none := by decide
  obtain ⟨unowned, kept⟩ := (declared_lasts_unless_open few declares).1 closed 0 Nat.one_pos
  exact ⟨few, declares, unowned, kept, by decide +kernel⟩

/-- A global that is declared after its function was opened lies in the window of the function, and
what the function assigns to it is lost. -/
theorem late_global_reverted :
    (run declaredLate).globals.size < slotLimit ∧
      declareHealth.declared? (run [.floatConstant 0x42C80000, openMain]) = some (30, 1) ∧
      (∃ function, (run declaredLate).functions[1]? = some function ∧ function.Contains 30) ∧
      holdsAfter declaredLate 30 = some 0 := by
  have window : (run declaredLate).functions[1]?.map (fun function =>
      (function.windowBase, function.windowLength)) = some (30, 1) := by decide
  obtain ⟨function, found, same⟩ := Option.map_eq_some_iff.mp window
  obtain ⟨base, length⟩ := Prod.mk.inj same
  have contains : function.Contains 30 := by
    rw [Function.Contains, base, length]
    decide
  exact ⟨by decide, by decide, ⟨function, found, contains⟩, by decide +kernel⟩

end Assembler

end Gamecode
