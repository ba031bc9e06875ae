/-
The state of a program that runs: its globals, strings and entities, its active functions, and what
the machine keeps besides for reports. An action changes the state and either has a result or ends
with a fault; the state that it reached stays in force after a fault too.
-/

import Gamecode.CallStack
import Gamecode.Configuration
import Gamecode.Console
import Gamecode.EntityStore
import Gamecode.Globals
import Gamecode.Profile
import Gamecode.Program
import Gamecode.Region
import Gamecode.StringHeap

namespace Gamecode

/-- The state of a program between two statements. -/
structure Machine where
  globals : Globals
  strings : StringHeap
  entities : EntityStore
  stack : CallStack
  profile : Profile
  /-- The statement that is being executed; none while the machine is idle. -/
  statement : Option Nat
  /-- How many arguments the builtin that is being called was given. -/
  argumentCount : Nat
  /-- The statements executed since the outermost call began. -/
  executed : Nat
  /-- Whether each statement is listed before it is executed. -/
  tracing : Bool
  /-- The listed statements that the host has not taken yet. -/
  traced : Array String
  console : Console
deriving Repr, DecidableEq

namespace Machine

/-- A program right after it was loaded. -/
def create (program : Program) (configuration : Configuration) : Machine :=
  { globals := ⟨program.globals⟩
    strings := .create program.strings configuration.temporaryStrings
    entities :=
      .create program.entityFields configuration.maxEntities configuration.reservedEntities
    stack := .create configuration.maxDepth configuration.localStackSize
    profile := .create program.functions.size
    statement := none
    argumentCount := 0
    executed := 0
    tracing := false
    traced := #[]
    console := .empty }

/-- Globals, strings and entities go back to their state after loading, and nothing is active any
more. The counters, the console and the trace switch stay. -/
def reset (program : Program) (configuration : Configuration) (machine : Machine) : Machine :=
  { machine with
    globals := ⟨program.globals⟩
    strings := .create program.strings configuration.temporaryStrings
    entities := machine.entities.clear
    stack := machine.stack.clear
    statement := none
    executed := 0 }

/-- How many functions are active. -/
def depth (machine : Machine) : Nat :=
  machine.stack.depth

/-- The function of the innermost frame. -/
def currentFunction? (machine : Machine) : Option Nat :=
  machine.stack.innermost?.map Frame.function

/-- The three slots of the return area; zeros in a segment that has none. -/
def returned (machine : Machine) : Vector3 :=
  match machine.globals.readPadded Region.returnStart with
  | .ok value => value
  | .error _ => .zero

/-- Print a text on the console. -/
def print (machine : Machine) (text : String) : Machine :=
  { machine with console := machine.console.print text }

end Machine

/-! ### Actions -/

/-- A change of the machine that may end with a fault. -/
abbrev Action := EStateM Fault Machine

namespace Action

/-- Look at the machine. -/
def inspect {α : Type} (look : Machine → Except Fault α) : Action α := fun machine =>
  match look machine with
  | .ok value => .ok value machine
  | .error fault => .error fault machine

/-- Change the globals. -/
def changeGlobals (change : Globals → Except Fault Globals) : Action Unit := fun machine =>
  match change machine.globals with
  | .ok globals => .ok () { machine with globals }
  | .error fault => .error fault machine

/-- Change the entities. -/
def changeEntities (change : EntityStore → Except Fault EntityStore) : Action Unit :=
  fun machine =>
    match change machine.entities with
    | .ok entities => .ok () { machine with entities }
    | .error fault => .error fault machine

end Action

end Gamecode
