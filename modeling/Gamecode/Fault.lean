/-
Everything that can go wrong while an image is loaded or a program runs. A fault is a cause, and its
message is computed from the cause. A call that a host makes fails with a report, which adds where
the program was.
-/

import Gamecode.ValueType

namespace Gamecode

/-! ### Causes -/

/-- Why the bytes of an image cannot be a program. -/
inductive Defect
  | shortHeader (size : Nat)
  | version (found : Int)
  | negativeFieldCount (found : Int)
  | parameterCount (declared : Int)
  | globalCount (found : Nat)
  | parameterWidth (function : Nat)
  | parameterSlots (function slots : Nat) (locals : Int)
  | described (text : String)
deriving Repr, DecidableEq

namespace Defect

/-- The defect in words. -/
def message : Defect → String
  | shortHeader size => s!"image is {size} bytes, header needs 60"
  | version found => s!"version {found} (expected 6)"
  | negativeFieldCount found => s!"negative entity field count {found}"
  | parameterCount declared => s!"truncated record: {declared} parameters (max 8)"
  | globalCount found => s!"{found} globals, the reserved region needs 28"
  | parameterWidth function => s!"function {function} has a parameter width outside 1..=3"
  | parameterSlots function slots locals =>
    s!"function {function} has {slots} parameter slots but only {locals} locals"
  | described text => text

end Defect

/-- Why a snapshot cannot be taken or applied. -/
inductive SnapshotDefect
  | notPersistent (name : String)
  | unknownField (name : String)
  | notSaveable (name : String)
  | unsaveableType (type : ValueType)
  | typeMismatch (name : String) (declared found : ValueType)
  | unknownFunction (name : String)
  | described (text : String)
deriving Repr, DecidableEq

namespace SnapshotDefect

/-- The defect in words. -/
def message : SnapshotDefect → String
  | notPersistent name => s!"no saved global `{name}`"
  | unknownField name => s!"no field `{name}`"
  | notSaveable name => s!"`{name}` cannot be saved"
  | unsaveableType type => "cannot save " ++ type.name ++ " values"
  | typeMismatch name declared found =>
    s!"`{name}` is " ++ declared.name ++ ", snapshot has " ++ found.name
  | unknownFunction name => s!"no function `{name}`"
  | described text => text

end SnapshotDefect

/-- The cause that ends a load or a run. Division by zero is none: it has a float as its result. -/
inductive Fault
  | malformed (defect : Defect)
  | checksumMismatch (expected found : Int)
  | outsideTable (table : String) (offset count limit : Int)
  | unknownOpcode (number : Nat)
  | fieldOutsideRecord (offset : Int) (limit : Nat)
  | unresolvedBuiltin (number : Nat) (name : String)
  | stackOverflow (limit : Nat)
  | localStackOverflow (needed limit : Nat)
  | globalOutOfRange (offset size : Nat)
  | statementOutOfRange (index : Int)
  | badFunction (reference : Int)
  | tooManyArguments (count : Nat)
  | nullFunction
  | badEntity (number : Int)
  | entityLimit (limit : Nat)
  | badPointer (pointer : Int)
  | badString (reference : Int)
  | runaway (limit : Nat)
  | unboundState (name : String)
  | worldAssignment
  | notFound (name : String)
  | raised (text : String)
  | snapshot (defect : SnapshotDefect)
  | device (text : String)
  /-- No error but the end of the program that embeds the machine. -/
  | indexOutOfBounds (index size : Nat)
deriving Repr, DecidableEq

namespace Fault

/-- The fault in words. -/
def message : Fault → String
  | malformed defect => "bad program format: " ++ defect.message
  | checksumMismatch expected found =>
    s!"checksum mismatch: image has {found}, host expects {expected}"
  | outsideTable table offset count limit =>
    s!"{table} table out of bounds: offset {offset}, count {count}, limit {limit}"
  | unknownOpcode number => s!"unknown opcode {number}"
  | fieldOutsideRecord offset limit =>
    s!"invalid field offset {offset} (entity has {limit} fields)"
  | unresolvedBuiltin number name => s!"unresolved builtin #{number} ({name})"
  | stackOverflow limit => s!"stack overflow: call depth limit {limit} reached"
  | localStackOverflow needed limit =>
    s!"locals stack overflow: {needed} slots needed, limit {limit}"
  | globalOutOfRange offset size =>
    s!"global offset {offset} out of range (segment has {size} slots)"
  | statementOutOfRange index => s!"statement {index} out of range"
  | badFunction reference => s!"bad function number {reference}"
  | tooManyArguments count => s!"{count} arguments passed (at most 8)"
  | nullFunction => "NULL function"
  | badEntity number => s!"bad entity number {number}"
  | entityLimit limit => s!"no free entities (limit {limit})"
  | badPointer pointer => s!"bad pointer {pointer}"
  | badString reference => s!"bad string reference {reference}"
  | runaway limit => s!"runaway loop: {limit} statements executed"
  | unboundState name => s!"STATE needs `{name}`, which the program does not declare"
  | worldAssignment => "assignment to world entity"
  | notFound name => s!"`{name}` not found"
  | raised text => text
  | snapshot defect => "save data: " ++ defect.message
  | device text => "i/o: " ++ text
  | indexOutOfBounds index size =>
    s!"index out of bounds: the len is {size} but the index is {index}"

end Fault

/-! ### Reports -/

/-- One active function in a report. -/
structure TraceEntry where
  function : String
  file : String
  statement : Nat
deriving Repr, DecidableEq

/-- The function, where it was declared, and the statement that it executes. -/
def TraceEntry.display (entry : TraceEntry) : String :=
  entry.file ++ " : " ++ entry.function ++ s!" (statement {entry.statement})"

/-- A failed call: the fault, the statement and function it struck, and the active functions with
the innermost first. -/
structure Report where
  fault : Fault
  statement : Option Nat
  function : Option String
  stack : List TraceEntry
deriving Repr, DecidableEq

namespace Report

/-- The report of a call that failed before it ran a statement. -/
def detached (fault : Fault) : Report :=
  ⟨fault, none, none, []⟩

/-- Where the fault struck, as far as that is known. -/
def place (report : Report) : String :=
  match report.function, report.statement with
  | some function, some statement => " in " ++ function ++ s!" at statement {statement}"
  | some function, none => " in " ++ function
  | none, some statement => s!" at statement {statement}"
  | none, none => ""

/-- The fault and its place, with a line for every active function. -/
def message (report : Report) : String :=
  report.stack.foldl (fun text entry => text ++ "\n    " ++ entry.display)
    (report.fault.message ++ report.place)

end Report

end Gamecode
