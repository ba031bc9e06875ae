/-
Running functions. Statements are executed one after the other until the function that was entered
first returns; the functions that it calls get frames of their own in the meantime. A builtin can
start a run inside a run. Every run has a budget, which bounds both the statements of each run and
how deep runs lie inside each other; a run whose budget is used up has no result.
-/

import Gamecode.Listing
import Gamecode.Machine.Native
import Gamecode.Machine.Step

namespace Gamecode

/-- What stays fixed while a program runs. -/
structure Environment where
  program : Program
  configuration : Configuration
  builtins : BuiltinTable

/-- How a run ends, and the machine that it leaves; none where its budget is used up. -/
abbrev Outcome (ε α : Type) := Option (Except ε α × Machine)

/-- Run a function that was given a number of arguments. -/
abbrev Executor := (function arguments : Nat) → Machine → Outcome Fault Unit

namespace Machine

/-! ### Runs inside runs -/

/-- Run a function on what the parameter blocks hold. Whatever the end, the active functions, the
statement and the argument count are then as they were before. -/
def invokeWith (execute : Executor) (program : Program) (function : Nat) (machine : Machine) :
    Outcome Fault Unit :=
  let arguments := (program.functions[function]?.map Function.parameterCount).getD 0
  (execute function arguments machine).map fun (result, after) =>
    let unwound :=
      match result with
      | .ok _ => after
      | .error _ => (after.unwindTo machine.depth).2
    (result,
      { unwound with
        statement := machine.statement
        argumentCount := machine.argumentCount })

/-- Put arguments into the parameter blocks from `index` on. -/
def stageArguments : List Value → (index : Nat) → Action Unit
  | [], _ => pure ()
  | argument :: rest, index => do
    Action.changeGlobals fun globals =>
      globals.write (Region.parameterOffset index) argument.slots
    stageArguments rest (index + 1)

/-- The statements of a call are counted from its start, unless it is made inside another. -/
def restartCount (machine : Machine) : Machine :=
  if machine.depth = 0 then { machine with executed := 0 } else machine

/-- Run a function on given arguments. A fault is reported as it struck, before the functions that
were active then are left. -/
def callWith (execute : Executor) (program : Program) (function : Nat) (arguments : List Value)
    (machine : Machine) : Outcome Report Vector3 :=
  if Region.maxParameters < arguments.length then
    some (.error (.detached (.tooManyArguments arguments.length)), machine)
  else
    match stageArguments arguments 0 machine with
    | .error fault staged => some (.error (.detached fault), staged)
    | .ok () staged =>
      let started := staged.restartCount
      (execute function arguments.length started).map fun (result, after) =>
        match result with
        | .ok _ => (.ok after.returned, { after with statement := started.statement })
        | .error fault =>
          (.error (after.report program fault),
            { (after.unwindTo started.depth).2 with statement := started.statement })

/-- Carry out a script. -/
def perform {α : Type} (execute : Executor) (program : Program) :
    Native α → Machine → Outcome Fault α
  | .done value, machine => some (.ok value, machine)
  | .fail fault, machine => some (.error fault, machine)
  | .observe next, machine => perform execute program (next program machine) machine
  | .change update next, machine => perform execute program next (update machine)
  | .invoke function next, machine =>
    match invokeWith execute program function machine with
    | none => none
    | some (result, after) => perform execute program (next result) after
  | .call function arguments next, machine =>
    match callWith execute program function arguments machine with
    | none => none
    | some (result, after) => perform execute program (next result) after

/-- Call a builtin, if the host offers it. -/
def callBuiltin (execute : Executor) (environment : Environment)
    (function number arguments : Nat) (machine : Machine) : Outcome Fault Unit :=
  match environment.builtins.get? number with
  | none =>
    some (.error (.unresolvedBuiltin number (environment.program.functionName function)), machine)
  | some builtin =>
    perform execute environment.program builtin.script
      { machine with
        profile := machine.profile.recordCall function
        argumentCount := arguments }

/-! ### Statements in sequence -/

/-- Take note of a statement before it is executed. A call that has used up its statements ends
here. -/
def begin (environment : Environment) (index : Nat) (statement : Statement) : Action Unit :=
  fun machine =>
    let counted :=
      { machine with statement := some index, executed := machine.executed + 1 }
    if environment.configuration.runawayLimit.any (· < counted.executed) then
      .error (.runaway (environment.configuration.runawayLimit.getD 0)) counted
    else
      let charged :=
        match counted.currentFunction? with
        | some function =>
          { counted with profile := counted.profile.recordStatement function }
        | none => counted
      if charged.tracing then
        .ok ()
          { charged with
            traced := charged.traced.push
              (Listing.statement environment.program index statement) }
      else .ok () charged

/-- One statement, from its first note to what happens after it. -/
def advance (environment : Environment) (index : Nat) (statement : Statement) : Action Flow := do
  begin environment index statement
  step environment.program environment.configuration index statement

/-- Execute statements from `index` on until no more than `exitDepth` functions are active. -/
def run (execute : Executor) (environment : Environment) (exitDepth : Nat) :
    (budget index : Nat) → Machine → Outcome Fault Unit
  | 0, _, _ => none
  | budget + 1, index, machine =>
    match environment.program.statements[index]? with
    | none => some (.error (.statementOutOfRange index), machine)
    | some statement =>
      match advance environment index statement machine with
      | .error fault after => some (.error fault, after)
      | .ok .next after => run execute environment exitDepth budget (index + 1) after
      | .ok (.jump target) after => run execute environment exitDepth budget target after
      | .ok (.builtin function number arguments) after =>
        match callBuiltin execute environment function number arguments after with
        | none => none
        | some (.error fault, after) => some (.error fault, after)
        | some (.ok (), after) => run execute environment exitDepth budget (index + 1) after
      | .ok .leave after =>
        match leave after with
        | .error fault after => some (.error fault, after)
        | .ok resume after =>
          if after.depth ≤ exitDepth then some (.ok (), after)
          else
            match resume with
            | some caller => run execute environment exitDepth budget (caller + 1) after
            | none => some (.ok (), after)

/-- Run a function to its end. -/
def execute (environment : Environment) : (budget : Nat) → Executor
  | 0, _, _, _ => none
  | budget + 1, function, arguments, machine =>
    match resolve environment.program function with
    | .error fault => some (.error fault, machine)
    | .ok (.builtin number) =>
      callBuiltin (execute environment budget) environment function number arguments machine
    | .ok (.statements _) =>
      match enter environment.program function machine with
      | .error fault after => some (.error fault, after)
      | .ok first after =>
        run (execute environment budget) environment machine.depth (budget + 1) first after

/-! ### Calls of the host -/

/-- Run a function on what the parameter blocks hold. -/
def invoke (environment : Environment) (budget function : Nat) (machine : Machine) :
    Outcome Fault Unit :=
  invokeWith (execute environment budget) environment.program function machine

/-- Run a function on given arguments. -/
def call (environment : Environment) (budget function : Nat) (arguments : List Value)
    (machine : Machine) : Outcome Report Vector3 :=
  callWith (execute environment budget) environment.program function arguments machine

/-- Run the function of a name. -/
def callNamed (environment : Environment) (budget : Nat) (name : String)
    (arguments : List Value) (machine : Machine) : Outcome Report Vector3 :=
  match environment.program.findFunction? name with
  | some function => call environment budget function arguments machine
  | none => some (.error (.detached (.notFound name)), machine)

end Machine

end Gamecode
