/-
Builtins that print, that end a program with a message, and that switch tracing on and off.
-/

import Gamecode.Machine.Native
import Gamecode.Snapshot
import Gamecode.Number.Plain

namespace Gamecode.Builtins

/-! ### Descriptions of entities -/

/-- The text of a saved value in the description of an entity. -/
def valueText : SavedValue → String
  | .float bits => Number.display bits
  | .vector components => components.display
  | .string text => text
  | .entity number => "entity " ++ toString number
  | .function name => name ++ "()"

/-- The fields of an entity that are not zero, one in each line. -/
def describeEntity (program : Program) (machine : Machine) (entity : Int) :
    Except Fault String := do
  let snapshot ← Snapshot.ofEntity program machine entity
  return snapshot.entries.foldl
    (fun text entry =>
      text ++ Text.padLeft 15 ' ' entry.1 ++ " " ++ valueText entry.2 ++ "\n")
    ("\nEDICT " ++ toString entity ++ ":\n")

/-- Print the fields of an entity. -/
def printEntity : Native Unit := do
  let entity ← Native.referenceArgument 0
  Native.print (← Native.check fun program machine => describeEntity program machine entity)

/-! ### Texts of arguments -/

/-- The texts of the arguments from `index` on, one after the other. -/
def joinTexts (index : Nat) : (count : Nat) → Native String
  | 0 => return ""
  | count + 1 => do
    let text ← Native.textArgument index
    let rest ← joinTexts (index + 1) count
    return text ++ rest

/-- The texts of all arguments in one. -/
def argumentText : Native String := do
  joinTexts 0 (← Native.argumentCount)

/-- Print all arguments, one directly after the other. -/
def printText : Native Unit := do
  Native.print (← argumentText)

/-! ### Ending a program -/

/-- The entity that the program calls `self`, if it has a global of that name. -/
def selfEntity? (program : Program) (machine : Machine) : Option Int := do
  let definition ← program.findGlobal? "self"
  (machine.globals.getSigned definition.start).toOption

/-- Print a message and the fields of `self` under a heading. The result is the name of the function
that runs, and the message. -/
def announce (heading : String) : Native (String × String) := do
  let message ← argumentText
  let function ← Native.ask fun program machine =>
    (machine.currentFunction?.map program.functionName).getD ""
  let fields ← Native.ask fun program machine =>
    ((selfEntity? program machine).bind fun entity =>
      (describeEntity program machine entity).toOption).getD ""
  Native.print ("======" ++ heading ++ " in " ++ function ++ ":\n" ++ message ++ "\n" ++ fields)
  return (function, message)

/-- End the program with a message. -/
def raiseError : Native Unit := do
  let (function, message) ← announce "SERVER ERROR"
  .fail (.raised ("error in " ++ function ++ ": " ++ message))

/-- Remove `self`, if it can be removed, and end the program with a message. -/
def raiseObjectError : Native Unit := do
  let (function, message) ← announce "OBJECT ERROR"
  let entities ← Native.ask fun program machine =>
    match selfEntity? program machine with
    | some entity =>
      if 0 < entity then (machine.entities.remove entity).toOption.getD machine.entities
      else machine.entities
    | none => machine.entities
  Native.setEntities entities
  .fail (.raised ("object error in " ++ function ++ ": " ++ message))

/-! ### Tracing -/

/-- Turn the listing of statements on or off. -/
def setTracing (tracing : Bool) : Native Unit :=
  Native.modify fun machine => { machine with tracing }

end Gamecode.Builtins
