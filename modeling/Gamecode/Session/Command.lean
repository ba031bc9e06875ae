/-
Commands of a conversation. A line is the name of a function with arguments, or a command that
begins with a point; words after those that a command needs are ignored.
-/

import Gamecode.Number.Whole
import Gamecode.Text.Words

namespace Gamecode

/-- The commands of a conversation. -/
inductive Command
  | call (function : String) (arguments : List String)
  | showGlobal (name : String)
  | assign (name value : String)
  | list (function : Option String)
  | profile (limit : Nat)
  | trace (tracing : Bool)
  | describe (entity : Int)
  | save (file : Option String)
  | restore (file : String)
  | reset
  | help
  | leave
deriving Repr, DecidableEq

/-- Why a line is no command. -/
inductive CommandError
  | openQuote
  | incomplete (command missing : String)
  | badCount (word : String)
  | badEntity (word : String)
  | badSwitch (word : String)
  | unknown (command : String)
deriving Repr, DecidableEq

namespace CommandError

/-- The problem in words. -/
def message : CommandError → String
  | openQuote => "unterminated quote"
  | incomplete command missing => command ++ " needs " ++ missing
  | badCount word => s!"bad count `{word}`"
  | badEntity word => s!"bad entity `{word}`"
  | badSwitch word => s!"expected on or off, got `{word}`"
  | unknown command => s!"unknown command `{command}`"

end CommandError

namespace Command

/-! ### Words -/

/-- The words of a line. -/
def wordsOf (line : String) : Except CommandError (List String) :=
  match Text.groupedWords? line.toList with
  | some words => .ok (words.map String.ofList)
  | none => .error .openQuote

/-- A word that a command cannot do without. -/
def need (command missing : String) : List String → Except CommandError (String × List String)
  | [] => .error (.incomplete command missing)
  | word :: rest => .ok (word, rest)

/-! ### Commands with one kind of argument -/

/-- How many functions a profile shows unless told. -/
def profileLimit : Nat := 10

/-- The command that shows a profile; ten functions unless a number is given. -/
def ofLimit : List String → Except CommandError Command
  | [] => .ok (.profile profileLimit)
  | word :: _ =>
    match Number.natural? Number.maxCount word.toList with
    | some limit => .ok (.profile limit)
    | none => .error (.badCount word)

/-- The command that turns tracing on or off. -/
def ofSwitch : (word : String) → Except CommandError Command
  | "on" => .ok (.trace true)
  | "off" => .ok (.trace false)
  | word => .error (.badSwitch word)

/-- The command that shows an entity. -/
def ofEntity (word : String) : Except CommandError Command :=
  match Number.reference? word.toList with
  | some entity => .ok (.describe entity)
  | none => .error (.badEntity word)

/-! ### All commands -/

/-- The command that a first word and the words behind it stand for. -/
def ofWords (head : String) (rest : List String) : Except CommandError Command :=
  match head with
  | "exit" | "quit" | ".exit" => .ok .leave
  | ".help" => .ok .help
  | ".global" => do
    let (name, _) ← need head "a name" rest
    return .showGlobal name
  | ".set" => do
    let (name, rest) ← need head "a name" rest
    let (value, _) ← need head "a value" rest
    return .assign name value
  | ".disasm" => .ok (.list rest.head?)
  | ".profile" => ofLimit rest
  | ".trace" => do
    let (word, _) ← need head "on or off" rest
    ofSwitch word
  | ".edict" => do
    let (word, _) ← need head "an entity number" rest
    ofEntity word
  | ".save" => .ok (.save rest.head?)
  | ".restore" => do
    let (file, _) ← need head "a file" rest
    return .restore file
  | ".reset" => .ok .reset
  | _ =>
    if head.toList.head? = some '.' then .error (.unknown head) else .ok (.call head rest)

/-- The command of a line; none on a line without words. -/
def ofLine (line : String) : Except CommandError (Option Command) :=
  match wordsOf line with
  | .error problem => .error problem
  | .ok [] => .ok none
  | .ok (head :: rest) => some <$> ofWords head rest

end Command

end Gamecode
