/-
What a session can tell about its program and its machine: a summary, listings, the busiest
functions, and a line about the state of the machine.
-/

import Gamecode.Listing
import Gamecode.Session.State

namespace Gamecode

/-! ### Summaries -/

/-- A summary of a program. -/
structure Summary where
  version : Int
  checksum : Int
  statements : Nat
  globals : Nat
  globalDefinitions : Nat
  fieldDefinitions : Nat
  entityFields : Nat
  /-- The functions with statements, the null function excluded. -/
  functions : Nat
  /-- The declared builtins that the host offers, and those that it does not. -/
  builtins : List String
  unresolved : List String
deriving Repr, DecidableEq

namespace Summary

/-- The summary as a table. -/
def display (summary : Summary) : String :=
  let unresolved :=
    if summary.unresolved.isEmpty then ""
    else "unresolved     " ++ " ".intercalate summary.unresolved ++ "\n"
  s!"version        {summary.version}\n" ++
    s!"crc            {summary.checksum}\n" ++
    s!"statements     {summary.statements}\n" ++
    s!"globals        {summary.globals}\n" ++
    s!"global defs    {summary.globalDefinitions}\n" ++
    s!"field defs     {summary.fieldDefinitions}\n" ++
    s!"entity fields  {summary.entityFields}\n" ++
    s!"functions      {summary.functions}\n" ++
    "builtins       " ++ " ".intercalate summary.builtins ++ "\n" ++ unresolved

/-- The summary as a structured text. -/
def document (summary : Summary) : Document :=
  .object
    [("version", .integer summary.version),
      ("crc", .integer summary.checksum),
      ("statements", .integer summary.statements),
      ("globals", .integer summary.globals),
      ("global_defs", .integer summary.globalDefinitions),
      ("field_defs", .integer summary.fieldDefinitions),
      ("entity_fields", .integer summary.entityFields),
      ("functions", .integer summary.functions),
      ("builtins", .array (summary.builtins.map .string)),
      ("unresolved", .array (summary.unresolved.map .string))]

end Summary

namespace Session

/-- Every function but the null function, with its number. -/
def callable (program : Program) : List (Function × Nat) :=
  program.functions.toList.zipIdx.drop 1

/-- The declared builtins that are offered or not, as names with numbers. -/
def builtinNames (session : Session) (offered : Bool) : List String :=
  (callable session.program).filterMap fun (function, index) =>
    match function.body with
    | .builtin number =>
      if (session.environment.builtins.get? number).isSome = offered then
        some (session.program.functionName index ++ "#" ++ toString number)
      else none
    | .statements _ => none

/-- The summary of the program of a session. -/
def summary (session : Session) : Summary :=
  let program := session.program
  let hasStatements (entry : Function × Nat) : Bool :=
    match entry.1.body with
    | .statements _ => true
    | .builtin _ => false
  { version := Slot.signed program.header.version
    checksum := Slot.signed program.header.checksum
    statements := program.statements.size
    globals := program.globals.size
    globalDefinitions := program.globalDefinitions.size
    fieldDefinitions := program.fieldDefinitions.size
    entityFields := program.entityFields
    functions := ((callable program).filter hasStatements).length
    builtins := session.builtinNames true
    unresolved := session.builtinNames false }

/-! ### Listings -/

/-- The listing of a function, or of every statement. -/
def listing (session : Session) : Option String → Except Failure String
  | none => .ok (Listing.whole session.program)
  | some name =>
    match (session.program.findFunction? name).bind (Listing.function? session.program) with
    | some text => .ok text
    | none => .error (.argument s!"no function `{name}`")

/-! ### Profiles -/

/-- The name of a function in a profile; one without a name goes by its number. -/
def profileName (program : Program) (function : Nat) : String :=
  let name := program.functionName function
  if name = "" then "#" ++ toString function else name

/-- A row of a profile, with the numbers in columns. -/
def profileRow (statements calls name : String) : String :=
  Text.padLeft 10 ' ' statements ++ " " ++ Text.padLeft 8 ' ' calls ++ "  " ++ name ++ "\n"

/-- A table of the `limit` busiest functions. -/
def profileTable (session : Session) (limit : Nat) : String :=
  (session.machine.profile.busiest limit).foldl
    (fun table (function, counter) =>
      table ++ profileRow (toString counter.statements) (toString counter.calls)
        (profileName session.program function))
    (profileRow "statements" "calls" "function")

/-! ### Machines -/

/-- A record with named parts, on one line. -/
def recordText (name : String) (parts : List (String × String)) : String :=
  let part (entry : String × String) : String := entry.1 ++ ": " ++ entry.2
  name ++ " \x7b " ++ ", ".intercalate (parts.map part) ++ " \x7d"

/-- The offered builtins by number. -/
def builtinsText (table : BuiltinTable) : String :=
  let entry (builtin : Builtin) : String :=
    toString builtin.number ++ ": " ++ Text.quoted builtin.name
  "\x7b" ++ ", ".intercalate (table.entries.map entry) ++ "\x7d"

/-- A line about the state of the machine. -/
def machineText (session : Session) : String :=
  recordText "Vm"
    [("functions", toString session.program.functions.size),
      ("globals", toString session.machine.globals.size),
      ("entities", toString session.machine.entities.count),
      ("depth", toString session.machine.depth),
      ("builtins", builtinsText session.environment.builtins),
      ("trace", toString session.machine.tracing)]

/-- A line about the session. -/
def display (session : Session) : String :=
  recordText "Runtime" [("vm", session.machineText)]

end Session

end Gamecode
