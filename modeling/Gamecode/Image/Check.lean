/-
The checks that every program passes before it may run: names lie inside the table of strings,
definitions inside the globals or the records of entities, windows inside the globals, first
statements inside the table of statements, and parameters inside their window.
-/

import Gamecode.Program
import Gamecode.Region

namespace Gamecode.Image

/-- A name is offset zero or lies strictly inside the table of strings. -/
def checkName (program : Program) (reference : UInt32) : Except Fault Unit :=
  let offset := Slot.signed reference
  if offset = 0 ∨ (0 < offset ∧ offset.toNat < program.strings.size) then .ok ()
  else .error (.outsideTable "strings" offset 1 program.strings.size)

/-- A definition covers slots below `limit`. -/
def checkExtent (table : String) (definition : Definition) (limit : Nat) : Except Fault Unit :=
  if definition.start + definition.width ≤ limit then .ok ()
  else .error (.outsideTable table definition.start definition.width limit)

/-- A global has a name in the table and lies inside the segment. -/
def checkGlobal (program : Program) (definition : Definition) : Except Fault Unit := do
  checkName program definition.name
  checkExtent "globaldefs" definition program.globals.size

/-- A field has a name in the table and lies inside the record of an entity. -/
def checkField (program : Program) (definition : Definition) : Except Fault Unit := do
  checkName program definition.name
  checkExtent "fielddefs" definition program.entityFields

/-- The window is not negative and ends inside the globals. -/
def WindowFits (program : Program) (function : Function) : Prop :=
  0 ≤ function.windowStart ∧ 0 ≤ function.windowSize ∧
    function.windowStart + function.windowSize ≤ program.globals.size

instance (program : Program) (function : Function) : Decidable (WindowFits program function) :=
  inferInstanceAs (Decidable (_ ∧ _ ∧ _))

/-- What a function with statements has to fulfil beyond the checks of all functions. -/
def checkBody (program : Program) (number : Nat) (function : Function) (first : Nat) :
    Except Fault Unit :=
  if program.statements.size ≤ first then
    .error (.outsideTable "statements" first 1 program.statements.size)
  else if ¬ WindowFits program function then
    .error (.outsideTable "globals" function.windowStart function.windowSize program.globals.size)
  else if function.windowSize < function.parameterSlots then
    .error (.malformed (.parameterSlots number function.parameterSlots function.windowSize))
  else .ok ()

/-- The checks of one function. A builtin has no body to be checked. -/
def checkFunction (program : Program) (number : Nat) (function : Function) :
    Except Fault Unit := do
  checkName program function.name
  checkName program function.file
  if ¬ function.widths.all fun width => 1 ≤ width ∧ width ≤ 3 then
    throw (.malformed (.parameterWidth number))
  match function.body with
  | .statements first => checkBody program number function first
  | .builtin _ => return ()

/-- All checks, in the order in which their faults are reported. -/
def check (program : Program) : Except Fault Unit := do
  if program.globals.size < Region.size then
    throw (.malformed (.globalCount program.globals.size))
  program.globalDefinitions.toList.forM (checkGlobal program)
  program.fieldDefinitions.toList.forM (checkField program)
  program.functions.toList.zipIdx.forM fun (function, number) =>
    checkFunction program number function

end Gamecode.Image
