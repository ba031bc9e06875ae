/-
Carrying out invocations on a host. A run of the command line ends with an exit code: zero after
success, one after a failure, and two where the arguments made no sense.
-/

import Gamecode.CommandLine.Invocation
import Gamecode.Configuration.Document
import Gamecode.Session.Conversation

namespace Gamecode.CommandLine

/-- The commands and flags at a glance. -/
def usageText : String :=
  "Usage: progs [--config FILE] [--crc N] [-v]... COMMAND\n\n" ++
    "Commands:\n" ++
    "  info FILE [--json]\n" ++
    "  disasm FILE [FUNCTION]\n" ++
    "  run FILE [FUNCTION] [-a ARG]... [--returns TYPE] [--trace] [--profile N]\n" ++
    "      [--max-depth N] [--runaway-limit N] [--protect-world]\n" ++
    "      [--load-globals FILE] [--save-globals FILE]\n" ++
    "  repl FILE\n" ++
    "  help [COMMAND]\n"

/-- The exit code of a run in which nothing failed. -/
def succeeded : UInt32 := 0

/-- The exit code of a run in which something failed. -/
def failed : UInt32 := 1

/-- The exit code for arguments that make no sense. -/
def misused : UInt32 := 2

/-- The line that ends a run that failed. A fault of the program is told apart from all others. -/
def failureText : Failure → String
  | .report report => "Progs Error: " ++ report.message ++ "\n"
  | failure => "Error: " ++ failure.message ++ "\n"

/-- A step on a host that may fail. -/
abbrev Step (m : Type → Type) := ExceptT Failure m

variable {m : Type → Type} [Monad m] [Host m]

def display (text : String) : Step m Unit :=
  ExceptT.lift (Host.print text)

/-! ### Preparing a session -/

/-- The configuration in a file, or the standard one. -/
def configurationOf : (file : Option String) → Step m Configuration
  | none => return .standard
  | some file => do
    match ← ExceptT.lift (Files.readText file) with
    | .error problem => throw (.file problem)
    | .ok text =>
      match Configuration.ofText? text with
      | some configuration => return configuration
      | none => throw .malformed

/-- A session with the image in a file. -/
def sessionOf (file : String) (checksum : Option Nat) (configuration : Configuration) :
    Step m Session := do
  match ← ExceptT.lift (Files.read file) with
  | .error problem => throw (.file problem)
  | .ok bytes =>
    match Session.load bytes.data ⟨checksum.map UInt16.ofNat⟩ configuration with
    | .ok session => return session
    | .error fault => throw (.fault fault)

/-! ### Tasks -/

def summarize (session : Session) (structured : Bool) : Step m Unit :=
  display (if structured then session.summary.document.pretty ++ "\n" else session.summary.display)

def list (session : Session) (function : Option String) : Step m Unit := do
  display (← session.listing function)

/-- Run, show the profile if it is wanted, and then the result. -/
def run (session : Session) (logging : Bool) (order : RunOrder) : Step m Unit := do
  let (result, session) ← ExceptT.lift (session.serve order.request)
  let session ← ExceptT.lift (session.flush logging)
  match order.profile with
  | some limit => ExceptT.lift (Host.warn (session.profileTable limit))
  | none => pure ()
  match ← result with
  | some text => display (text ++ "\n")
  | none => pure ()

/-- No conversation has more lines. -/
def maxLines : Nat := 0x4000000000000000

def converse (session : Session) (logging : Bool) : Step m Unit := do
  display greeting
  ExceptT.lift (session.converse logging maxLines)

/-- Traced statements are logged if the invocation asks for more than warnings. -/
def perform (invocation : Invocation) : Step m Unit := do
  let logging : Bool := 0 < invocation.verbosity
  let configuration ← configurationOf invocation.configuration
  match invocation.task with
  | .summarize file structured =>
    summarize (← sessionOf file invocation.checksum configuration) structured
  | .list file function => list (← sessionOf file invocation.checksum configuration) function
  | .run order =>
    let configuration := order.override configuration
    run (← sessionOf order.file invocation.checksum configuration) logging order
  | .converse file =>
    converse (← sessionOf file invocation.checksum configuration) logging

/-! ### Runs of the command line -/

def refuse : Refusal → m UInt32
  | .usage => do
    Host.warn usageText
    return misused
  | .help => do
    Host.print usageText
    return succeeded
  | .version => do
    Host.print versionLine
    return succeeded

/-- Do what the arguments ask for. The result is the exit code. -/
def execute (arguments : List String) : m UInt32 := do
  match Invocation.ofArguments arguments with
  | .error refusal => refuse refusal
  | .ok invocation =>
    match ← (perform invocation).run with
    | .ok () => return succeeded
    | .error failure =>
      Host.warn (failureText failure)
      return failed

end Gamecode.CommandLine
