/-
Invocations: what the arguments of the program ask for. They name a command, after flags that every
command takes. These flags may also follow the command, and count from there if they do.
-/

import Gamecode.CommandLine.Flag
import Gamecode.Configuration
import Gamecode.Number.Whole
import Gamecode.Session.Request

namespace Gamecode.CommandLine

/-- What to run, and how. -/
structure RunOrder where
  file : String
  request : Request
  /-- How many functions the profile after the run shows, if it is wanted. -/
  profile : Option Nat
  maxDepth : Option Nat
  runawayLimit : Option Nat
  protectWorld : Bool
deriving Repr, DecidableEq

namespace RunOrder

/-- A configuration with the limits that the order sets. -/
def override (order : RunOrder) (configuration : Configuration) : Configuration :=
  { configuration with
    maxDepth := order.maxDepth.getD configuration.maxDepth
    runawayLimit := order.runawayLimit <|> configuration.runawayLimit
    protectWorld := order.protectWorld || configuration.protectWorld }

end RunOrder

/-- The commands, with what each of them was given. -/
inductive Task
  | summarize (file : String) (structured : Bool)
  | list (file : String) (function : Option String)
  | run (order : RunOrder)
  | converse (file : String)
deriving Repr, DecidableEq

/-- A command, with the flags that every command takes. -/
structure Invocation where
  /-- The file of the configuration. -/
  configuration : Option String
  /-- The checksum that the image has to have. -/
  checksum : Option Nat
  verbosity : Nat
  task : Task
deriving Repr, DecidableEq

/-! ### Values -/

/-- A path has to be something. -/
def isPath (text : String) : Bool := text ≠ ""

/-- Every text is a text. -/
def isText (_ : String) : Bool := true

/-- A checksum is a decimal number of 16 bits. -/
def checksum? (text : String) : Option Nat :=
  (Number.integer? 0 (0x10000 - 1) text.toList).map Int.toNat

/-- A count is a decimal number that fits a machine word. -/
def count? (text : String) : Option Nat :=
  Number.natural? Number.maxCount text.toList

/-- How the result of a run is shown, by name. -/
def returnKind? : (text : String) → Option ReturnKind
  | "float" => some .float
  | "vector" => some .vector
  | "string" => some .string
  | "entity" => some .entity
  | "int" => some .integer
  | "void" => some .void
  | _ => none

/-! ### Levels -/

/-- A flag without a value that may be given once. -/
def switch (name : String) : Flag := ⟨name, none, .switch, isText⟩

/-- A flag with a value that may be given once. -/
def setting (name : String) (accepts : String → Bool) : Flag := ⟨name, none, .setting, accepts⟩

/-- The flags of every level. -/
def commonFlags : List Flag :=
  [setting "config" isPath,
    setting "crc" fun text => (checksum? text).isSome,
    ⟨"verbose", some 'v', .counter, isText⟩,
    ⟨"help", some 'h', .query .help, isText⟩]

/-- The commands of the program; one more tells about them. -/
def taskNames : List String := ["info", "disasm", "run", "repl"]

/-- The command that tells about the others. -/
def helpName : String := "help"

/-- What comes before the command. -/
def outerLevel : Level :=
  { flags := ⟨"version", some 'V', .query .version, isText⟩ :: commonFlags
    operands := []
    commands := helpName :: taskNames }

/-- What the summary of an image takes. -/
def summaryLevel : Level :=
  { flags := switch "json" :: commonFlags, operands := [isPath], commands := [] }

/-- What a listing takes. -/
def listLevel : Level :=
  { flags := commonFlags, operands := [isPath, isText], commands := [] }

/-- What a conversation takes. -/
def converseLevel : Level :=
  { flags := commonFlags, operands := [isPath], commands := [] }

/-- What a run takes. -/
def runLevel : Level :=
  { flags :=
      [⟨"arg", some 'a', .collection, isText⟩,
        setting "returns" fun text => (returnKind? text).isSome,
        switch "trace",
        setting "profile" fun text => (count? text).isSome,
        setting "max-depth" fun text => (count? text).isSome,
        setting "runaway-limit" fun text => (count? text).isSome,
        switch "protect-world",
        setting "load-globals" isPath,
        setting "save-globals" isPath] ++ commonFlags
    operands := [isPath, isText]
    commands := [] }

/-! ### Commands -/

/-- All arguments of a command, with one operand at least. -/
def readCommand (level : Level) (arguments : List String) :
    Except Refusal (String × Option String × Reading) := do
  let (reading, _) ← Reading.start.takeAll level arguments
  let reading ← reading.settle
  match reading.operands with
  | first :: rest => return (first, rest.head?, reading)
  | [] => throw .usage

/-- Read the arguments of a summary. -/
def readSummary (arguments : List String) : Except Refusal (Task × Reading) := do
  let (file, _, reading) ← readCommand summaryLevel arguments
  return (.summarize file (reading.has "json"), reading)

/-- Read the arguments of a listing. -/
def readList (arguments : List String) : Except Refusal (Task × Reading) := do
  let (file, function, reading) ← readCommand listLevel arguments
  return (.list file function, reading)

/-- Read the arguments of a conversation. -/
def readConverse (arguments : List String) : Except Refusal (Task × Reading) := do
  let (file, _, reading) ← readCommand converseLevel arguments
  return (.converse file, reading)

/-- The function that is run unless another one is named. -/
def mainFunction : String := "main"

/-- Read the arguments of a run. -/
def readRun (arguments : List String) : Except Refusal (Task × Reading) := do
  let (file, function, reading) ← readCommand runLevel arguments
  let number (name : String) : Option Nat := (reading.value? name).bind count?
  let request : Request :=
    { function := function.getD mainFunction
      arguments := reading.values "arg"
      returns := ((reading.value? "returns").bind returnKind?).getD .float
      tracing := reading.has "trace"
      restoreFrom := reading.value? "load-globals"
      saveTo := reading.value? "save-globals" }
  let order : RunOrder :=
    { file
      request
      profile := number "profile"
      maxDepth := number "max-depth"
      runawayLimit := number "runaway-limit"
      protectWorld := reading.has "protect-world" }
  return (.run order, reading)

/-- Help is about the program or about one of its commands. -/
def readHelp (arguments : List String) : Refusal :=
  match arguments with
  | [] => .help
  | [name] => if outerLevel.commands.contains name then .help else .usage
  | _ => .usage

/-- Read the arguments of the command of a name. -/
def readTask (name : String) (arguments : List String) : Except Refusal (Task × Reading) :=
  if name = helpName then .error (readHelp arguments)
  else
    match name with
    | "info" => readSummary arguments
    | "disasm" => readList arguments
    | "run" => readRun arguments
    | "repl" => readConverse arguments
    | _ => .error .usage

/-! ### Invocations -/

/-- The most that repeated flags count. -/
def maxVerbosity : Nat := 255

namespace Invocation

/-- Read all arguments. A flag that every command takes counts from behind the command if it was
given there, and from before it otherwise. -/
def ofArguments (arguments : List String) : Except Refusal Invocation := do
  let (outer, command) ← Reading.start.takeAll outerLevel arguments
  let some (name, rest) := command | throw .usage
  let (task, inner) ← readTask name rest
  let outer ← outer.settle
  let latest (flag : String) : Reading := if inner.has flag then inner else outer
  return {
      configuration := (latest "config").value? "config"
      checksum := ((latest "crc").value? "crc").bind checksum?
      verbosity := min maxVerbosity ((latest "verbose").count "verbose")
      task }

end Invocation

end Gamecode.CommandLine
