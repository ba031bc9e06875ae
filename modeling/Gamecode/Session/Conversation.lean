/-
Conversations: commands are carried out one after the other, and each of them is answered by a text
or by a problem. A problem does not end the conversation.
-/

import Gamecode.Host
import Gamecode.Session.Command
import Gamecode.Session.Inspection
import Gamecode.Session.Request
import Gamecode.Text.Erasure

namespace Gamecode

/-! ### Texts -/

/-- The name of the program. -/
def programName : String := "progs"

/-- The version of the program. -/
def programVersion : String := "0.1.0"

/-- The name and the version on one line. -/
def versionLine : String := programName ++ " " ++ programVersion ++ "\n"

/-- What a conversation begins with. -/
def greeting : String :=
  versionLine ++ "Type a function name to call it, .help for commands.\n"

/-- The commands at a glance. -/
def commandHelp : String :=
  "REPL Commands:\n" ++
    "  <function> [args]     - Call a function and print its float result\n" ++
    "  .global <name>        - Show a global\n" ++
    "  .set <name> <value>   - Assign a float or 'x y z' vector global\n" ++
    "  .disasm [function]    - Disassemble\n" ++
    "  .profile [n]          - Show the n busiest functions\n" ++
    "  .trace on|off         - Toggle statement tracing\n" ++
    "  .edict <n>            - Show an entity's fields\n" ++
    "  .save [file]          - Print or write persistent globals\n" ++
    "  .restore <file>       - Restore persistent globals\n" ++
    "  .reset                - Reinitialize program state\n" ++
    "  .help                 - Show this help message\n" ++
    "  .exit                 - Exit the REPL"

namespace Session

/-! ### Carrying out a command -/

/-- Give a global one number, or three numbers as a vector. -/
def assign (session : Session) (name value : String) : Attempt String :=
  let change? : Option (Nat → Globals → Except Fault Globals) :=
    match numbers? value with
    | some [number] => some fun offset globals => globals.set offset number
    | some [x, y, z] => some fun offset globals => globals.setVector offset ⟨x, y, z⟩
    | _ => none
  match change? with
  | none => (.error (.argument s!"bad value `{value}`"), session)
  | some change =>
    match session.changeGlobal name change with
    | (.error fault, session) => (.error (.fault fault), session)
    | (.ok (), session) => (session.globalText name, session)

/-- Call a function and show its result as a float. -/
def callShown (session : Session) (function : String) (arguments : List String) :
    Attempt String :=
  let (called, session) := session.call function arguments
  (called.map fun value => (session.resultText? value .float).getD "", session)

/-- The fields of an entity. -/
def describe (session : Session) (entity : Int) : Except Failure String :=
  (Builtins.describeEntity session.program session.machine entity).mapError .fault

section Obey

variable {m : Type → Type} [Monad m] [Files m]

/-- Carry out a command, and answer with a text. -/
def obey (session : Session) : Command → m (Attempt String)
  | .call function arguments => return session.callShown function arguments
  | .showGlobal name => return (session.globalText name, session)
  | .assign name value => return session.assign name value
  | .list function => return (session.listing function, session)
  | .profile limit => return (.ok (session.profileTable limit), session)
  | .trace tracing =>
    return (.ok (if tracing then "trace on" else "trace off"), session.setTracing tracing)
  | .describe entity => return (session.describe entity, session)
  | .save none => return (session.saveGlobals, session)
  | .save (some file) => do
    return ((← session.save file).map fun _ => "saved to " ++ file, session)
  | .restore file => do
    let (restored, session) ← session.restore file
    return (restored.map fun _ => "restored from " ++ file, session)
  | .reset => return (.ok "reset", session.reset)
  | .help => return (.ok commandHelp, session)
  | .leave => return (.ok "", session)

end Obey

/-! ### Conversations -/

variable {m : Type → Type} [Monad m] [Host m]

/-- Show what the program printed since the last time, and log what it traced if there is a log. -/
def flush (session : Session) (logging : Bool) : m Session := do
  let (text, console) := session.machine.console.take
  if logging then session.machine.traced.toList.forM Host.log
  if text ≠ "" then Host.print text
  return session.withMachine { session.machine with console, traced := #[] }

/-- An answer stands on lines of its own, and an empty one is no answer. -/
def answerText (answer : String) : String :=
  if answer = "" then "" else String.ofList (Text.trimEnd answer.toList) ++ "\n"

/-- A problem on a line of its own. -/
def problemText (problem : String) : String :=
  "Error: " ++ problem ++ "\n"

/-- Carry out a command and show the answer. -/
def respond (session : Session) (logging : Bool) (command : Command) : m Session := do
  let (result, session) ← session.obey command
  let session ← session.flush logging
  match result with
  | .ok answer => Host.print (answerText answer)
  | .error failure => Host.warn (problemText failure.message)
  return session

/-- Answer lines until the input ends or a line asks to leave, and no more than `limit` lines. The
backspaces of a line are carried out before it is read. -/
def converse (session : Session) (logging : Bool) : (limit : Nat) → m Unit
  | 0 => return ()
  | limit + 1 => do
    let some line ← Host.nextLine | return ()
    match Command.ofLine (Text.erase line) with
    | .ok (some .leave) => return ()
    | .ok (some command) =>
      let session ← session.respond logging command
      session.converse logging limit
    | .ok none => session.converse logging limit
    | .error problem =>
      Host.warn (problemText problem.message)
      session.converse logging limit

end Session

end Gamecode
