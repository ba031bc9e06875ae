/-
Sessions: one program with its machine and the standard builtins, and what tools do with it. A step
of a session may fail in a file, in a structured text, in an argument, or in the program.
-/

import Gamecode.Builtin.Standard
import Gamecode.Image.Decode
import Gamecode.Json.Reader
import Gamecode.Machine.Run
import Gamecode.Snapshot.Document
import Gamecode.Text.Blank
import Gamecode.Text.Quoted

namespace Gamecode

/-! ### Failures -/

/-- Why a session cannot do what it was asked to. -/
inductive Failure
  | file (problem : String)
  | fault (cause : Fault)
  | report (failed : Report)
  | malformed
  | argument (problem : String)
  | unfinished
deriving Repr, DecidableEq

namespace Failure

/-- The failure in words. -/
def message : Failure → String
  | file problem => "file error: " ++ problem
  | fault cause => cause.message
  | report failed => "runtime error: " ++ failed.message
  | malformed => "json: malformed text"
  | argument problem => "invalid argument: " ++ problem
  | unfinished => "the run did not finish"

end Failure

/-! ### Sessions -/

/-- How the return area is read. -/
inductive ReturnKind
  | float
  | vector
  | string
  | entity
  | integer
  | void
deriving Repr, DecidableEq

/-- A loaded program with its surroundings and its state. -/
structure Session where
  environment : Environment
  machine : Machine

/-- What a step of a session leads to. -/
abbrev Attempt (α : Type) := Except Failure α × Session

namespace Session

/-- No run ends for want of a budget before it has executed more statements than any machine can. -/
def budget : Nat := 0x4000000000000000

/-- A session with a program that no builtins were installed for. -/
def create (program : Program) (configuration : Configuration) : Session :=
  ⟨⟨program, configuration, .empty⟩, .create program configuration⟩

/-- The program that was loaded. -/
def program (session : Session) : Program :=
  session.environment.program

/-- Change the builtins that are offered. -/
def withBuiltins (session : Session) (change : BuiltinTable → BuiltinTable) : Session :=
  let builtins := change session.environment.builtins
  { session with environment := { session.environment with builtins } }

/-- Read an image and offer the standard builtins that it declares. -/
def load (image : Array UInt8) (expectation : Image.Expectation) (configuration : Configuration) :
    Except Fault Session := do
  let program ← Image.load image expectation
  return (create program configuration).withBuiltins (Builtins.install program)

/-- Let a machine take the place of the session's own. -/
def withMachine (session : Session) (machine : Machine) : Session :=
  { session with machine }

/-- Carry out an action on the machine. -/
def act {α : Type} (session : Session) (action : Action α) : Except Fault α × Session :=
  match action session.machine with
  | .ok value machine => (.ok value, session.withMachine machine)
  | .error fault machine => (.error fault, session.withMachine machine)

/-- Take the program back to its state after loading. -/
def reset (session : Session) : Session :=
  session.withMachine
    (session.machine.reset session.program session.environment.configuration)

/-- Turn the listing of statements on or off. -/
def setTracing (session : Session) (tracing : Bool) : Session :=
  session.withMachine { session.machine with tracing }

/-! ### Calls -/

/-- Call a function with given arguments. -/
def callNamed (session : Session) (name : String) (arguments : List Value) : Attempt Vector3 :=
  match Machine.callNamed session.environment budget name arguments session.machine with
  | none => (.error .unfinished, session)
  | some (.ok value, machine) => (.ok value, session.withMachine machine)
  | some (.error report, machine) => (.error (.report report), session.withMachine machine)

/-- The numbers of a text, if it consists of nothing but numbers and blanks. -/
def numbers? (text : String) : Option (List Slot) :=
  (Text.words text.toList).mapM Number.parse?

/-- The argument that a word stands for: a number, three numbers for a vector, or a text, which
becomes a permanent string. -/
def argument (session : Session) (text : String) : Value × Session :=
  match Number.parse? (Text.trim text.toList), numbers? text with
  | some number, _ => (.float number, session)
  | none, some [x, y, z] => (.vector ⟨x, y, z⟩, session)
  | none, _ =>
    let (reference, strings) := session.machine.strings.intern (Text.encode text)
    (.string reference, session.withMachine { session.machine with strings })

/-- The values of several arguments, in their order. -/
def arguments (session : Session) : List String → List Value × Session
  | [] => ([], session)
  | text :: rest =>
    let (value, session) := session.argument text
    let (values, session) := session.arguments rest
    (value :: values, session)

/-- Call a function with the arguments that some words stand for. -/
def call (session : Session) (name : String) (words : List String) : Attempt Vector3 :=
  let (values, session) := session.arguments words
  session.callNamed name values

/-! ### Results -/

/-- The text of what a function returned; none where it returns nothing. -/
def resultText? (session : Session) (value : Vector3) : ReturnKind → Option String
  | .float => some (Number.plainText value.x)
  | .vector => some value.display
  | .string =>
    match session.machine.strings.getText (Slot.signed value.x) with
    | .ok text => some text
    | .error fault => some ("<" ++ fault.message ++ ">")
  | .entity => some ("entity " ++ toString (Slot.signed value.x))
  | .integer => some (toString (Slot.signed value.x))
  | .void => none

/-! ### Globals -/

/-- The text of a global, read by its declared type. -/
def globalText (session : Session) (name : String) : Except Failure String :=
  match session.program.findGlobal? name with
  | none => .error (.argument s!"no global `{name}`")
  | some definition =>
    let globals := session.machine.globals
    let text : Except Fault String :=
      match definition.type? with
      | some .float => Number.plainText <$> globals.get definition.start
      | some .vector => Vector3.display <$> globals.getVector definition.start
      | some .string => do
        let reference ← globals.getSigned definition.start
        Text.quoted <$> session.machine.strings.getText reference
      | some .entity => do
        return "entity " ++ toString (← globals.getSigned definition.start)
      | some .function => do
        let function ← globals.getSigned definition.start
        return session.program.functionName function.toNat ++ "()"
      | _ => toString <$> globals.getSigned definition.start
    text.mapError .fault

/-- The offset of a global of a name. -/
def globalOffset (session : Session) (name : String) : Except Fault Nat :=
  match session.program.findGlobal? name with
  | some definition => .ok definition.start
  | none => .error (.notFound name)

/-- Change the global of a name, from its offset on. -/
def changeGlobal (session : Session) (name : String)
    (change : Nat → Globals → Except Fault Globals) : Except Fault Unit × Session :=
  match session.globalOffset name with
  | .ok offset => session.act (Action.changeGlobals (change offset))
  | .error fault => (.error fault, session)

/-- The persistent globals as a text. -/
def saveGlobalsWith (codec : Codec) (session : Session) : Except Failure String :=
  match Snapshot.ofGlobals session.program session.machine with
  | .ok snapshot => .ok (codec.write snapshot.document)
  | .error fault => .error (.fault fault)

/-- Give the persistent globals the values that a text holds. -/
def loadGlobalsWith (codec : Codec) (session : Session) (text : String) : Attempt Unit :=
  match Snapshot.ofText? codec text with
  | none => (.error .malformed, session)
  | some snapshot =>
    let (result, session) := session.act (Snapshot.applyToGlobals session.program snapshot)
    (result.mapError .fault, session)

/-- Saved games are written in the notation of structured texts. -/
def saveGlobals (session : Session) : Except Failure String :=
  session.saveGlobalsWith Json.codec

/-- Load a saved game. -/
def loadGlobals (session : Session) (text : String) : Attempt Unit :=
  session.loadGlobalsWith Json.codec text

end Session

end Gamecode
