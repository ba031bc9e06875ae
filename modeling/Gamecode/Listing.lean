/-
Listings of statements and functions. An operand is shown by the name of the global it starts at, or
by its offset together with the float that the program starts with there. Branches show the
statement they lead to.
-/

import Gamecode.Number.Plain
import Gamecode.Program
import Gamecode.Text.Padding

namespace Gamecode.Listing

/-- A global as an operand. -/
def operand (program : Program) (offset : UInt16) : String :=
  let name := ((program.globalAt? offset).map fun definition =>
    program.nameText definition.name).getD ""
  if name ≠ "" then name
  else
    let initial := program.globals.getD offset.toNat 0
    if initial = 0 then toString offset.toNat
    else toString offset.toNat ++ "(" ++ Number.plainText initial ++ ")"

/-- The statement that a branch leads to, which may lie before the first one. -/
def destination (index : Nat) (delta : UInt16) : String :=
  "-> " ++ toString ((index : Int) + Statement.signedOperand delta)

/-- Operands after the first are shown unless they are zero. -/
def operands (program : Program) (statement : Statement) : List String :=
  operand program statement.a ::
    ([statement.b, statement.c].filter (· ≠ 0)).map (operand program)

/-- The operands of a statement as its operation reads them. -/
def arguments (program : Program) (index : Nat) (statement : Statement) : Opcode → List String
  | .goto => [destination index statement.a]
  | .branchIf | .branchUnless =>
    [operand program statement.a, destination index statement.b]
  | .done => []
  | _ => operands program statement

/-- One statement, with its index in a column of five and its name in a column of ten. -/
def statement (program : Program) (index : Nat) (statement : Statement) : String :=
  let column := Text.padLeft 5 ' ' (toString index) ++ " "
  match statement.operation? with
  | some operation =>
    (arguments program index statement operation).foldl (fun line word => line ++ " " ++ word)
      (column ++ Text.padRight 10 operation.mnemonic)
  | none =>
    let signed (operand : UInt16) : String := toString (Statement.signedOperand operand)
    column ++ "?" ++ toString statement.number.toNat ++ " " ++ signed statement.a ++ " " ++
      signed statement.b ++ " " ++ signed statement.c

/-- The line of one statement. -/
def statementAt? (program : Program) (index : Nat) : Option String :=
  program.statements[index]?.map (statement program index)

/-- The statements from an index on, up to and with the first one that ends a function. -/
def body (program : Program) (first : Nat) : List (Statement × Nat) :=
  let rest := (program.statements.toList.zipIdx).drop first
  let isOpen (entry : Statement × Nat) : Bool := entry.1.number ≠ UInt16.ofNat Opcode.done.number
  rest.takeWhile isOpen ++ (rest.dropWhile isOpen).take 1

/-- The heading and the statements of one function. -/
def function? (program : Program) (number : Nat) : Option String :=
  program.functions[number]?.map fun function =>
    let title := program.functionName number ++ " (" ++ program.functionFile number ++ "):\n"
    match function.body with
    | .builtin builtin => title ++ "  builtin #" ++ toString builtin ++ "\n"
    | .statements first =>
      (body program first).foldl
        (fun lines entry => lines ++ "  " ++ statement program entry.2 entry.1 ++ "\n") title

/-- Every statement of a program. -/
def whole (program : Program) : String :=
  program.statements.toList.zipIdx.foldl
    (fun lines entry => lines ++ statement program entry.2 entry.1 ++ "\n") ""

end Gamecode.Listing
