/-
One statement. Most operations compute values from their first two operands and leave them at the
third; the others move values, branch, call or return. A statement tells where execution goes on,
and leaves the execution of builtins to its caller.
-/

import Gamecode.Machine.Calls

namespace Gamecode.Machine

/-! ### Operands -/

/-- The operand at an offset as a float. -/
def float (machine : Machine) (offset : Nat) : Except Fault Slot :=
  machine.globals.get offset

/-- The operand at an offset as a vector. -/
def vector (machine : Machine) (offset : Nat) : Except Fault Vector3 :=
  machine.globals.getVector offset

/-- The operand at an offset as a reference. -/
def reference (machine : Machine) (offset : Nat) : Except Fault Int :=
  machine.globals.getSigned offset

/-! ### Computed values -/

/-- An operation on two floats. -/
def onFloats (machine : Machine) (a b : Nat) (operation : Slot → Slot → Slot) :
    Except Fault (List Slot) := do
  let left ← machine.float a
  let right ← machine.float b
  return [operation left right]

/-- An operation on two vectors. -/
def onVectors (machine : Machine) (a b : Nat) (operation : Vector3 → Vector3 → List Slot) :
    Except Fault (List Slot) := do
  let left ← machine.vector a
  let right ← machine.vector b
  return operation left right

/-- The truth of a relation between two floats. -/
def comparison (machine : Machine) (a b : Nat) (holds : Slot → Slot → Bool) :
    Except Fault (List Slot) :=
  machine.onFloats a b fun left right => Slot.ofBool (holds left right)

/-- Whether two operands of a kind are equal. -/
def areEqual (machine : Machine) (a b : Nat) : Comparand → Except Fault Bool
  | .float => do
    let left ← machine.float a
    let right ← machine.float b
    return left.equals right
  | .vector => do
    let left ← machine.vector a
    let right ← machine.vector b
    return left.equals right
  | .string => do
    let left ← machine.reference a
    let right ← machine.reference b
    machine.strings.equal left right
  | .entity | .function => do
    let left ← machine.reference a
    let right ← machine.reference b
    return left = right

/-- Whether an operand of a kind is nothing: zero, or a string without text. -/
def isNothing (machine : Machine) (a : Nat) : Comparand → Except Fault Bool
  | .float => Slot.isZero <$> machine.float a
  | .vector => Vector3.isZero <$> machine.vector a
  | .string => do machine.strings.isNull (← machine.reference a)
  | .entity | .function => do return (← machine.reference a) = 0

/-- The second operand is read only where the first does not decide. -/
def conjunction (machine : Machine) (a b : Nat) : Except Fault Bool := do
  let left ← machine.float a
  if left.isZero then return false
  let right ← machine.float b
  return ! right.isZero

/-- Again the second operand is read only where the first does not decide. -/
def disjunction (machine : Machine) (a b : Nat) : Except Fault Bool := do
  let left ← machine.float a
  if ! left.isZero then return true
  let right ← machine.float b
  return ! right.isZero

/-- Floats are cut down to integers before their bits are combined. -/
def onBits (operation : Slot → Slot → Slot) (left right : Slot) : Slot :=
  Number.ofInt (Slot.signed (operation
    (Slot.ofSigned (Number.truncated left)) (Slot.ofSigned (Number.truncated right))))

/-- The slots of a field of an entity. -/
def loaded (machine : Machine) (a b width : Nat) : Except Fault (List Slot) := do
  let entity ← machine.reference a
  let field ← machine.reference b
  let pointer ← machine.entities.address entity field width
  machine.entities.read pointer width

/-- A pointer to a field. One into the world is refused while the world is protected. -/
def fieldAddress (protectWorld : Bool) (machine : Machine) (a b : Nat) :
    Except Fault (List Slot) := do
  let entity ← machine.reference a
  if entity = 0 && protectWorld then throw .worldAssignment
  let field ← machine.reference b
  let pointer ← machine.entities.address entity field 1
  return [Slot.ofSigned pointer]

/-- The values that an operation computes from its operands, for those operations that leave values
at their third operand; none for the others. -/
def computed? (protectWorld : Bool) (machine : Machine) (a b : Nat) :
    Opcode → Option (Except Fault (List Slot))
  | .multiply => some (machine.onFloats a b Slot.multiply)
  | .dot => some (machine.onVectors a b fun left right => [left.dot right])
  | .scaleRight => some do
    let factor ← machine.float a
    let vector ← machine.vector b
    return (vector.scale factor).toList
  | .scaleLeft => some do
    let vector ← machine.vector a
    let factor ← machine.float b
    return (vector.scale factor).toList
  | .divide => some (machine.onFloats a b Slot.divide)
  | .add => some (machine.onFloats a b Slot.add)
  | .addVectors => some (machine.onVectors a b fun left right => (left.add right).toList)
  | .subtract => some (machine.onFloats a b Slot.subtract)
  | .subtractVectors =>
    some (machine.onVectors a b fun left right => (left.subtract right).toList)
  | .equal kind => some do return [Slot.ofBool (← machine.areEqual a b kind)]
  | .different kind => some do return [Slot.ofBool (! (← machine.areEqual a b kind))]
  | .atMost => some (machine.comparison a b Slot.isAtMost)
  | .atLeast => some (machine.comparison a b fun left right => right.isAtMost left)
  | .less => some (machine.comparison a b Slot.isLess)
  | .greater => some (machine.comparison a b fun left right => right.isLess left)
  | .load kind => some (machine.loaded a b kind.width)
  | .address => some (machine.fieldAddress protectWorld a b)
  | .negation kind => some do return [Slot.ofBool (← machine.isNothing a kind)]
  | .conjunction => some do return [Slot.ofBool (← machine.conjunction a b)]
  | .disjunction => some do return [Slot.ofBool (← machine.disjunction a b)]
  | .bitConjunction => some (machine.onFloats a b (onBits (· &&& ·)))
  | .bitDisjunction => some (machine.onFloats a b (onBits (· ||| ·)))
  | .done | .store _ | .storeThrough _ | .leave | .branchIf | .branchUnless | .call _ | .state
  | .goto => none

/-! ### State changes -/

/-- The globals and fields that a state change needs, found by their names. -/
structure StateBindings where
  entity : Nat
  time : Nat
  nextThink : Int
  frame : Int
  think : Int
deriving Repr, DecidableEq

/-- The offset of a global that state changes need. -/
def boundGlobal (program : Program) (name : String) : Except Fault Nat :=
  match program.findGlobal? name with
  | some definition => .ok definition.start
  | none => .error (.unboundState name)

/-- The place of a field that state changes need. -/
def boundField (program : Program) (name : String) : Except Fault Int :=
  match program.findField? name with
  | some definition => .ok definition.start
  | none => .error (.unboundState name)

/-- All names that state changes need, looked up in the order in which a missing one is reported. -/
def stateBindings (program : Program) : Except Fault StateBindings := do
  let entity ← boundGlobal program "self"
  let time ← boundGlobal program "time"
  let nextThink ← boundField program "nextthink"
  let frame ← boundField program "frame"
  let think ← boundField program "think"
  return ⟨entity, time, nextThink, frame, think⟩

/-- The pointers and values of a state change. -/
def stateWrites (program : Program) (interval : Slot) (a b : Nat) (machine : Machine) :
    Except Fault (List (Int × Slot)) := do
  let bindings ← stateBindings program
  let entity ← machine.reference bindings.entity
  let nextThink ← machine.entities.address entity bindings.nextThink 1
  let frame ← machine.entities.address entity bindings.frame 1
  let think ← machine.entities.address entity bindings.think 1
  let time ← machine.float bindings.time
  let frameValue ← machine.float a
  let thinkValue ← machine.float b
  return [(nextThink, time.add interval), (frame, frameValue), (think, thinkValue)]

/-- Everything is read and checked before the first of the three fields is written. -/
def changeState (program : Program) (interval : Slot) (a b : Nat) : Action Unit := do
  let writes ← Action.inspect (stateWrites program interval a b)
  writes.forM fun (pointer, value) =>
    Action.changeEntities fun entities => entities.write pointer [value]

/-! ### Statements -/

/-- What happens after a statement. -/
inductive Flow
  | next
  | jump (target : Nat)
  | leave
  | builtin (function number arguments : Nat)
deriving Repr, DecidableEq

/-- Put the value to return, unless there is none, into the return area. -/
def placeResult (a : Nat) : Action Unit := do
  if a ≠ 0 then
    let value ← Action.inspect fun machine => machine.globals.readPadded a
    Action.changeGlobals fun globals => globals.write Region.returnStart value.toList

/-- Conditions test the raw bits, so a negative zero is true. -/
def branch (taken : Slot → Bool) (index a : Nat) (delta : UInt16) : Action Flow := do
  let condition ← Action.inspect fun machine => machine.globals.get a
  if taken condition then
    let target ← Action.inspect fun _ => Statement.branchTarget index delta
    return .jump target
  return .next

/-- Call the function that an operand refers to. -/
def callFunction (program : Program) (a arguments : Nat) : Action Flow := do
  let reference ← Action.inspect fun machine => machine.reference a
  if reference < 0 then throw (.badFunction reference)
  let function := reference.toNat
  match ← Action.inspect fun _ => resolve program function with
  | .builtin number => return .builtin function number arguments
  | .statements _ => return .jump (← enter program function)

/-- Execute one statement, and tell what happens next. -/
def step (program : Program) (configuration : Configuration) (index : Nat)
    (statement : Statement) : Action Flow := do
  let a := statement.a.toNat
  let b := statement.b.toNat
  let c := statement.c.toNat
  match ← Action.inspect fun _ => statement.operation with
  | .done =>
    Action.changeGlobals fun globals => globals.fill Region.returnStart 3 0
    return .leave
  | .leave =>
    placeResult a
    return .leave
  | .store kind =>
    Action.changeGlobals fun globals => globals.copy a b kind.width
    return .next
  | .storeThrough kind =>
    let pointer ← Action.inspect fun machine => machine.reference b
    let values ← Action.inspect fun machine => machine.globals.slice a kind.width
    Action.changeEntities fun entities => entities.write pointer values
    return .next
  | .branchIf => branch (· != 0) index a statement.b
  | .branchUnless => branch (· == 0) index a statement.b
  | .goto => return .jump (← Action.inspect fun _ => Statement.branchTarget index statement.a)
  | .call arguments => callFunction program a arguments.val
  | .state =>
    changeState program configuration.stateInterval a b
    return .next
  | operation =>
    match ← get >>= fun machine =>
        pure (machine.computed? configuration.protectWorld a b operation) with
    | some values =>
      let values ← Action.inspect fun _ => values
      Action.changeGlobals fun globals => globals.write c values
      return .next
    | none => return .next

end Gamecode.Machine
