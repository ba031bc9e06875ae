/-
Statements: the number of an operation and three operands of 16 bits. The number is kept as it was
read, so a statement with an unknown number only fails when it is executed.
-/

import Gamecode.Fault
import Gamecode.Opcode

namespace Gamecode

/-- A statement as it stands in an image. -/
structure Statement where
  number : UInt16
  a : UInt16
  b : UInt16
  c : UInt16
deriving Repr, DecidableEq

namespace Statement

/-- The number a 16-bit operand holds when it is read in two's complement. -/
def signedOperand (operand : UInt16) : Int :=
  if operand.toNat < 0x8000 then operand.toNat else (operand.toNat : Int) - 0x10000

/-- The operand that holds a number, reduced modulo `2 ^ 16`. -/
def operandOf (number : Int) : UInt16 :=
  UInt16.ofNat (number % 0x10000).toNat

/-- The operation, if the number stands for one. -/
def operation? (statement : Statement) : Option Opcode :=
  Opcode.ofNumber? statement.number.toNat

/-- The operation; the fault names a number that stands for none. -/
def operation (statement : Statement) : Except Fault Opcode :=
  match statement.operation? with
  | some operation => .ok operation
  | none => .error (.unknownOpcode statement.number.toNat)

/-! ### Branches -/

/-- Where a branch with distance `delta` leads from the statement at `index`. -/
def branchTarget (index : Nat) (delta : UInt16) : Except Fault Nat :=
  let target := (index : Int) + signedOperand delta
  if target < 0 then .error (.statementOutOfRange target) else .ok target.toNat

end Statement

end Gamecode
