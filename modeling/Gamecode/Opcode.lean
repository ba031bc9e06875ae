/-
The instruction set. It is closed: the numbers 0 to 65 each stand for one operation. Operations that
differ only in the declared kind of their operands form families with one constructor each.
-/

import Gamecode.Slot

namespace Gamecode

/-! ### Families -/

/-- The kinds of operand that can be compared with each other or with nothing. -/
inductive Comparand
  | float
  | vector
  | string
  | entity
  | function
deriving Repr, DecidableEq

namespace Comparand

/-- Every kind, in the order of the numbers. -/
def all : List Comparand := [float, vector, string, entity, function]

/-- The place of the kind within its family. -/
def index : Comparand → Nat
  | float => 0
  | vector => 1
  | string => 2
  | entity => 3
  | function => 4

/-- How the kind is named in listings. -/
def mark : Comparand → String
  | float => "F"
  | vector => "V"
  | string => "S"
  | entity => "ENT"
  | function => "FNC"

/-- Comparisons of entities have a shorter mark than their negation. -/
def shortMark : Comparand → String
  | entity => "E"
  | kind => kind.mark

end Comparand

/-- The kinds of value that can be loaded and stored. -/
inductive Storable
  | float
  | vector
  | string
  | entity
  | field
  | function
deriving Repr, DecidableEq

namespace Storable

/-- Every kind, in the order of the numbers. -/
def all : List Storable := [float, vector, string, entity, field, function]

/-- The place of the kind within its family. -/
def index : Storable → Nat
  | float => 0
  | vector => 1
  | string => 2
  | entity => 3
  | field => 4
  | function => 5

/-- How the kind is named in listings. -/
def mark : Storable → String
  | float => "F"
  | vector => "V"
  | string => "S"
  | entity => "ENT"
  | field => "FLD"
  | function => "FNC"

/-- A vector takes three slots, everything else one. -/
def width : Storable → Nat
  | vector => 3
  | _ => 1

end Storable

/-! ### Operations -/

/-- The operations. -/
inductive Opcode
  | done
  | multiply
  | dot
  | scaleRight
  | scaleLeft
  | divide
  | add
  | addVectors
  | subtract
  | subtractVectors
  | equal (kind : Comparand)
  | different (kind : Comparand)
  | atMost
  | atLeast
  | less
  | greater
  | load (kind : Storable)
  | address
  | store (kind : Storable)
  | storeThrough (kind : Storable)
  | leave
  | negation (kind : Comparand)
  | branchIf
  | branchUnless
  | call (arguments : Fin 9)
  | state
  | goto
  | conjunction
  | disjunction
  | bitConjunction
  | bitDisjunction
deriving Repr, DecidableEq

namespace Opcode

/-- Every operation, in the order of the numbers. -/
def all : List Opcode :=
  [done, multiply, dot, scaleRight, scaleLeft, divide, add, addVectors, subtract, subtractVectors]
    ++ Comparand.all.map equal
    ++ Comparand.all.map different
    ++ [atMost, atLeast, less, greater]
    ++ Storable.all.map load
    ++ [address]
    ++ Storable.all.map store
    ++ Storable.all.map storeThrough
    ++ [leave]
    ++ Comparand.all.map negation
    ++ [branchIf, branchUnless]
    ++ [call 0, call 1, call 2, call 3, call 4, call 5, call 6, call 7, call 8]
    ++ [state, goto, conjunction, disjunction, bitConjunction, bitDisjunction]

/-- How many operations there are. -/
def count : Nat := 66

/-- The number that stands for an operation in a statement. -/
def number : Opcode → Nat
  | done => 0
  | multiply => 1
  | dot => 2
  | scaleRight => 3
  | scaleLeft => 4
  | divide => 5
  | add => 6
  | addVectors => 7
  | subtract => 8
  | subtractVectors => 9
  | equal kind => 10 + kind.index
  | different kind => 15 + kind.index
  | atMost => 20
  | atLeast => 21
  | less => 22
  | greater => 23
  | load kind => 24 + kind.index
  | address => 30
  | store kind => 31 + kind.index
  | storeThrough kind => 37 + kind.index
  | leave => 43
  | negation kind => 44 + kind.index
  | branchIf => 49
  | branchUnless => 50
  | call arguments => 51 + arguments.val
  | state => 60
  | goto => 61
  | conjunction => 62
  | disjunction => 63
  | bitConjunction => 64
  | bitDisjunction => 65

/-- The operation of a number, if there is one. -/
def ofNumber? (number : Nat) : Option Opcode :=
  all[number]?

/-- The list of the operations is complete. -/
theorem length_all : all.length = count := rfl

/-- Every operation is found by its number. -/
theorem ofNumber?_number (operation : Opcode) : ofNumber? operation.number = some operation := by
  cases operation with
  | equal kind | different kind | load kind | store kind | storeThrough kind | negation kind =>
    cases kind <;> rfl
  | call arguments =>
    match arguments with
    | 0 | 1 | 2 | 3 | 4 | 5 | 6 | 7 | 8 => rfl
  | _ => rfl

/-- The numbers leave no gap at the end. -/
theorem number_lt (operation : Opcode) : operation.number < count :=
  (List.getElem?_eq_some_iff.mp (ofNumber?_number operation)).1

/-- The number of arguments that a call passes; no other operation passes any. -/
def argumentCount? : Opcode → Option Nat
  | call arguments => some arguments.val
  | _ => none

/-- The call that passes a number of arguments, up to eight. -/
def callWith? (arguments : Nat) : Option Opcode :=
  if bound : arguments < 9 then some (call ⟨arguments, bound⟩) else none

/-- The name of an operation in a listing. -/
def mnemonic : Opcode → String
  | done => "DONE"
  | multiply => "MUL_F"
  | dot => "MUL_V"
  | scaleRight => "MUL_FV"
  | scaleLeft => "MUL_VF"
  | divide => "DIV_F"
  | add => "ADD_F"
  | addVectors => "ADD_V"
  | subtract => "SUB_F"
  | subtractVectors => "SUB_V"
  | equal kind => "EQ_" ++ kind.shortMark
  | different kind => "NE_" ++ kind.shortMark
  | atMost => "LE"
  | atLeast => "GE"
  | less => "LT"
  | greater => "GT"
  | load kind => "LOAD_" ++ kind.mark
  | address => "ADDRESS"
  | store kind => "STORE_" ++ kind.mark
  | storeThrough kind => "STOREP_" ++ kind.mark
  | leave => "RETURN"
  | negation kind => "NOT_" ++ kind.mark
  | branchIf => "IF"
  | branchUnless => "IFNOT"
  | call arguments => "CALL" ++ toString arguments.val
  | state => "STATE"
  | goto => "GOTO"
  | conjunction => "AND"
  | disjunction => "OR"
  | bitConjunction => "BITAND"
  | bitDisjunction => "BITOR"

/-- The operation with a name, capitals and small letters being the same. -/
def ofMnemonic? (name : String) : Option Opcode :=
  all.find? fun operation => operation.mnemonic.toLower = name.toLower

end Opcode

end Gamecode
