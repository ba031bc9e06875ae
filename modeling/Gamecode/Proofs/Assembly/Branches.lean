/-
This file is about branches whose target was not known when they were added. A statement holds the
distance of its branch in an operand of 16 bits, in two's complement, and the assembler reduces the
distance to the target to what such an operand holds. So a branch that was patched leads to its
target exactly if the target is near enough; a farther one is missed by a multiple of `2 ^ 16`.
-/

import Gamecode.Proofs.Assembly.Declared
import Gamecode.Proofs.Calls.Convention

namespace Gamecode

/-! ### Distances -/

theorem Opcode.number_of_ofNumber? {number : Nat} {operation : Opcode}
    (found : Opcode.ofNumber? number = some operation) : operation.number = number := by
  obtain ⟨small, -⟩ := List.getElem?_eq_some_iff.mp found
  have numbered : ∀ number < Opcode.count,
      (Opcode.ofNumber? number).map Opcode.number = some number := by decide
  have same := numbered number small
  rw [found] at same
  exact Option.some.inj same

namespace Statement

variable {branch target : Nat} {statement : Statement} {operation : Opcode}

/-- An operand holds what is left of a number after it was cut down to 16 bits. -/
theorem signedOperand_operandOf (number : Int) :
    signedOperand (operandOf number) = number.bmod 0x10000 := by
  have stored : ((operandOf number).toNat : Int) = number % 0x10000 := by
    rw [operandOf, UInt16.toNat_ofNat']
    omega
  rw [signedOperand, Int.bmod_def]
  split <;> split <;> omega

/-- The target is so near that an operand holds the distance to it. -/
def Reaches (branch target : Nat) : Prop :=
  -0x8000 ≤ (target : Int) - branch ∧ (target : Int) - branch < 0x8000

/-- A branch with the distance to its target leads there, unless the distance was cut down. -/
theorem branchTarget_eq_ok_iff :
    branchTarget branch (operandOf ((target : Int) - branch)) = .ok target ↔
      Reaches branch target := by
  rw [branchTarget, signedOperand_operandOf, Reaches]
  have reduced := Int.bmod_def ((target : Int) - branch) 0x10000
  split
  · exact iff_of_false nofun (by split at reduced <;> omega)
  · rw [Except.ok.injEq]
    split at reduced <;> omega

theorem number_of_operation (decoded : statement.operation = .ok operation) :
    statement.number = UInt16.ofNat operation.number := by
  unfold Statement.operation at decoded
  split at decoded
  · next known =>
    cases decoded
    rw [Opcode.number_of_ofNumber? known, UInt16.ofNat_toNat]
  · cases decoded

/-- The operand in which a branch holds its distance. -/
def distance (statement : Statement) : UInt16 :=
  if statement.number = UInt16.ofNat Opcode.goto.number then statement.a else statement.b

theorem distance_of_goto (decoded : statement.operation = .ok .goto) :
    statement.distance = statement.a :=
  if_pos (number_of_operation decoded)

theorem distance_of_conditional
    (decoded : statement.operation = .ok .branchIf ∨ statement.operation = .ok .branchUnless) :
    statement.distance = statement.b := by
  rcases decoded with decoded | decoded <;>
    exact if_neg (number_of_operation decoded ▸ by decide)

/-! ### What a patch changes -/

@[simp] theorem number_retarget (statement : Statement) (delta : UInt16) :
    (Assembler.retarget statement delta).number = statement.number := by
  unfold Assembler.retarget
  split <;> rfl

@[simp] theorem operation_retarget (statement : Statement) (delta : UInt16) :
    (Assembler.retarget statement delta).operation = statement.operation := by
  unfold operation operation?
  rw [number_retarget]

@[simp] theorem distance_retarget (statement : Statement) (delta : UInt16) :
    (Assembler.retarget statement delta).distance = delta := by
  rw [distance, number_retarget, Assembler.retarget]
  split <;> rfl

end Statement

/-! ### Branches that are taken -/

/-- The statement is a branch, and the machine takes it: a branch without a condition, or one whose
condition is met. -/
def Machine.Takes (machine : Machine) (statement : Statement) : Prop :=
  statement.operation = .ok .goto ∨
    ∃ condition, machine.globals.get statement.a.toNat = .ok condition ∧
      (statement.operation = .ok .branchIf ∧ condition ≠ 0 ∨
        statement.operation = .ok .branchUnless ∧ condition = 0)

namespace Machine

variable {program : Program} {configuration : Configuration} {machine noted : Machine}
  {statement : Statement} {index : Nat}

theorem Takes.of_globals {other : Machine} (takes : machine.Takes statement)
    (same : other.globals = machine.globals) : other.Takes statement := by
  unfold Takes at takes ⊢
  rwa [same]

/-- Where the distance leads, execution goes on. -/
def jumpBy (index : Nat) (delta : UInt16) : Action Flow :=
  Flow.jump <$> Action.inspect fun _ => Statement.branchTarget index delta

theorem branch_apply {taken : Slot → Bool} {a : Nat} {condition : Slot} (delta : UInt16)
    (read : machine.globals.get a = .ok condition) (met : taken condition = true) :
    branch taken index a delta machine = jumpBy index delta machine := by
  unfold branch
  rw [Action.bind_apply, Action.inspect_apply read]
  dsimp only
  rw [if_pos met]
  rfl

/-- A branch that is taken goes where its distance leads. -/
theorem Takes.step_eq (takes : machine.Takes statement) :
    step program configuration index statement machine =
      jumpBy index statement.distance machine := by
  unfold step
  rcases takes with decoded | ⟨condition, read, ⟨decoded, met⟩ | ⟨decoded, met⟩⟩
  · rw [Statement.distance_of_goto decoded, Action.inspect_of_ok decoded, pure_bind]
    rfl
  · rw [Statement.distance_of_conditional (.inl decoded), Action.inspect_of_ok decoded, pure_bind]
    exact branch_apply _ read (bne_iff_ne.mpr met)
  · rw [Statement.distance_of_conditional (.inr decoded), Action.inspect_of_ok decoded, pure_bind]
    exact branch_apply _ read (beq_iff_eq.mpr met)

/-- A turn with a branch that is taken goes on at a statement exactly if the distance leads there.
-/
theorem turn_eq_resume_iff {environment : Environment} {execute : Executor}
    {exitDepth target : Nat}
    (found : environment.program.statements[index]? = some statement)
    (begun : begin environment index statement machine = .ok () noted)
    (takes : machine.Takes statement) :
    turn execute environment exitDepth index machine = some (.resume target, noted) ↔
      Statement.branchTarget index statement.distance = .ok target := by
  rw [turn_of_begun found begun, (takes.of_globals (globals_of_begin begun)).step_eq, jumpBy,
    map_eq_pure_bind, Action.bind_apply, Action.inspect]
  cases Statement.branchTarget index statement.distance with
  | error fault =>
    constructor
    · intro resumes
      cases resumes
    · intro same
      cases same
  | ok reached =>
    constructor
    · intro resumes
      cases resumes
      rfl
    · intro same
      cases same
      rfl

/-- Patching a statement does not change when its branch is taken. -/
theorem takes_retarget_iff (statement : Statement) (delta : UInt16) :
    machine.Takes (Assembler.retarget statement delta) ↔ machine.Takes statement := by
  unfold Takes
  rw [Statement.operation_retarget]
  by_cases isGoto : statement.number = UInt16.ofNat Opcode.goto.number
  · have decoded : statement.operation = .ok .goto := by
      rw [Statement.operation, Statement.operation?, isGoto]
      rfl
    exact iff_of_true (.inl decoded) (.inl decoded)
  · rw [Assembler.retarget, if_neg isGoto]

end Machine

/-! ### Patched branches -/

namespace Assembler

variable {assembler : Assembler} {branch target : Nat} {statement : Statement}

theorem getElem?_patchBranch (assembler : Assembler) (branch target index : Nat) :
    (assembler.patchBranch branch target).statements[index]? =
      if branch = index then
        assembler.statements[index]?.map fun statement =>
          retarget statement (Statement.operandOf ((target : Int) - branch))
      else assembler.statements[index]? :=
  Array.getElem?_modify

/-- Wherever a branch is and wherever it is pointed to: patching it changes no other statement, and
it stays the branch that it was. Whenever it is taken, by any program that has it, execution goes on
at the target exactly if the target is no more than 32768 statements before the branch and less than
that behind it. -/
theorem patched_branch_leads_iff (found : assembler.statements[branch]? = some statement) :
    (∀ index, index ≠ branch →
      (assembler.patchBranch branch target).statements[index]? = assembler.statements[index]?) ∧
    ∃ patched, (assembler.patchBranch branch target).statements[branch]? = some patched ∧
      patched.operation = statement.operation ∧
      (∀ machine : Machine, machine.Takes patched ↔ machine.Takes statement) ∧
      (Statement.branchTarget branch patched.distance = .ok target ↔
        Statement.Reaches branch target) ∧
      ∀ {environment : Environment} {execute : Executor} {exitDepth : Nat}
        {machine noted : Machine}, environment.program.statements[branch]? = some patched →
        Machine.begin environment branch patched machine = .ok () noted →
        machine.Takes patched →
          (Machine.turn execute environment exitDepth branch machine =
            some (.resume target, noted) ↔ Statement.Reaches branch target) := by
  have leads : Statement.branchTarget branch (retarget statement
        (Statement.operandOf ((target : Int) - branch))).distance = .ok target ↔
      Statement.Reaches branch target := by
    rw [Statement.distance_retarget, Statement.branchTarget_eq_ok_iff]
  refine ⟨fun index other => ?_, _, ?_, Statement.operation_retarget _ _,
    fun machine => Machine.takes_retarget_iff _ _, leads, ?_⟩
  · rw [getElem?_patchBranch, if_neg (Ne.symm other)]
  · rw [getElem?_patchBranch, if_pos rfl, found, Option.map_some]
  · intro environment execute exitDepth machine noted isStatement begun takes
    rw [Machine.turn_eq_resume_iff isStatement begun takes, leads]

/-- A condition that is met, and a branch on it that is to skip the statement behind it. -/
def skipping : List Operation :=
  [.floatConstant 0x3F800000, .emitBranch .branchIf 28 0, .emit .done 0 0 0]

/-- The program of the skipping branch, once that was pointed to the end. -/
def skippingEnvironment : Environment :=
  ⟨((run skipping).patchBranch 1 3).assemble, .standard, .empty⟩

/-- A host that has just loaded it. -/
def skippingMachine : Machine :=
  .create skippingEnvironment.program .standard

theorem patched_branch_leads_iff_skipping :
    (run skipping).statements[1]? = some ⟨49, 28, 0, 0⟩ ∧
      ((run skipping).patchBranch 1 3).statements[1]? = some ⟨49, 28, 2, 0⟩ ∧
      skippingMachine.Takes ⟨49, 28, 2, 0⟩ ∧ Statement.Reaches 1 3 ∧
      Machine.turn (Machine.execute skippingEnvironment 0) skippingEnvironment 0 1
          skippingMachine =
        some (.resume 3, { skippingMachine with statement := some 1, executed := 1 }) := by
  have found : (run skipping).statements[1]? = some ⟨49, 28, 0, 0⟩ := by decide
  have isPatched : ((run skipping).patchBranch 1 3).statements[1]? = some ⟨49, 28, 2, 0⟩ := by
    decide
  have condition : skippingMachine.globals.get 28 = .ok 0x3F800000 := by rfl
  have takes : skippingMachine.Takes ⟨49, 28, 2, 0⟩ :=
    .inr ⟨_, condition, .inl ⟨rfl, by decide⟩⟩
  have near : Statement.Reaches 1 3 := ⟨by decide, by decide⟩
  obtain ⟨-, patched, same, -, -, -, leads⟩ := @patched_branch_leads_iff _ 1 3 _ found
  obtain rfl := Option.some.inj (isPatched.symm.trans same)
  exact ⟨found, isPatched, takes, near, (leads isPatched rfl takes).mpr near⟩

/-- A function that is to go on at a statement that is too far away. -/
def straying : List Operation :=
  [openMain, .emitGoto 0, .patchBranch 1 40000]

/-- The fault that a run of the first function of a program ends with. -/
def faultOf (history : List Operation) : Option Fault := do
  let program ← (run history).build.toOption
  let (.error fault, _) ←
    Machine.invoke ⟨program, .standard, .empty⟩ 9 1 (.create program .standard) | none
  return fault

/-- The distance is cut down, so the branch does not lead to statement 40000 but to one before the
first statement. -/
theorem far_branch_strays :
    (run straying).statements[1]? = some ⟨61, 39999, 0, 0⟩ ∧
      Statement.branchTarget 1 39999 = .error (.statementOutOfRange (-25536)) ∧
      faultOf straying = some (.statementOutOfRange (-25536)) :=
  ⟨by decide, rfl, by decide +kernel⟩

end Assembler

end Gamecode
