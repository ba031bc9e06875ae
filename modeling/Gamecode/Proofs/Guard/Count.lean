/-
This file counts the statements that runs execute. A statement counts once it has been noted without
a fault, for then it is executed, whatever it does. The counts follow the runs call by call, so they
also tell how far a run has come whose budget is used up.
-/

import Gamecode.Proofs.Run

namespace Gamecode

/-- How many statements are executed when a function is run that was given a number of arguments. -/
abbrev Meter := (function arguments : Nat) → Machine → Nat

namespace Machine

/-! ### Statements that are executed -/

/-- The statements of a function that is run on what the parameter blocks hold. -/
def invokeCount (meter : Meter) (program : Program) (function : Nat) (machine : Machine) : Nat :=
  meter function ((program.functions[function]?.map Function.parameterCount).getD 0) machine

/-- The statements of a function that is run on given arguments. -/
def callWithCount (meter : Meter) (function : Nat) (arguments : List Value) (machine : Machine) :
    Nat :=
  if Region.maxParameters < arguments.length then 0
  else
    match stageArguments arguments 0 machine with
    | .error _ _ => 0
    | .ok () staged => meter function arguments.length staged.restartCount

/-- The statements of all functions that a script runs. -/
def performCount {α : Type} (execute : Executor) (meter : Meter) (program : Program) :
    Native α → Machine → Nat
  | .done _, _ => 0
  | .fail _, _ => 0
  | .observe next, machine => performCount execute meter program (next program machine) machine
  | .change update next, machine => performCount execute meter program next (update machine)
  | .invoke function next, machine =>
    invokeCount meter program function machine +
      (invokeWith execute program function machine).elim 0 fun (result, after) =>
        performCount execute meter program (next result) after
  | .call function arguments next, machine =>
    callWithCount meter function arguments machine +
      (callWith execute program function arguments machine).elim 0 fun (result, after) =>
        performCount execute meter program (next result) after

/-- The statements of all functions that a builtin runs. -/
def callBuiltinCount (execute : Executor) (meter : Meter) (environment : Environment)
    (function number arguments : Nat) (machine : Machine) : Nat :=
  match environment.builtins.get? number with
  | none => 0
  | some builtin =>
    performCount execute meter environment.program builtin.script
      { machine with
        profile := machine.profile.recordCall function
        argumentCount := arguments }

/-- The statements that are executed because of a flow. -/
def followCount (execute : Executor) (meter : Meter) (environment : Environment) :
    Flow → Machine → Nat
  | .builtin function number arguments, machine =>
    callBuiltinCount execute meter environment function number arguments machine
  | .next, _ | .jump _, _ | .leave, _ => 0

/-- The statement of a turn and those of a builtin that it calls. -/
def turnCount (execute : Executor) (meter : Meter) (environment : Environment) (index : Nat)
    (machine : Machine) : Nat :=
  match environment.program.statements[index]? with
  | none => 0
  | some statement =>
    match begin environment index statement machine with
    | .error _ _ => 0
    | .ok () begun =>
      1 +
        match step environment.program environment.configuration index statement begun with
        | .error _ _ => 0
        | .ok flow after => followCount execute meter environment flow after

/-- The statements of a run, as far as its budget reaches. -/
def runCount (execute : Executor) (meter : Meter) (environment : Environment) (exitDepth : Nat) :
    (budget index : Nat) → Machine → Nat
  | 0, _, _ => 0
  | budget + 1, index, machine =>
    turnCount execute meter environment index machine +
      (turn execute environment exitDepth index machine).elim 0 fun
        | (.resume next, after) => runCount execute meter environment exitDepth budget next after
        | (.stop _, _) => 0

/-- The statements of a function and of all that it runs, as far as the budget reaches. -/
def executeCount (environment : Environment) : (budget : Nat) → Meter
  | 0, _, _, _ => 0
  | budget + 1, function, arguments, machine =>
    match resolve environment.program function with
    | .error _ => 0
    | .ok (.builtin number) =>
      callBuiltinCount (execute environment budget) (executeCount environment budget) environment
        function number arguments machine
    | .ok (.statements _) =>
      match enter environment.program function machine with
      | .error _ _ => 0
      | .ok first after =>
        runCount (execute environment budget) (executeCount environment budget) environment
          machine.depth (budget + 1) first after

/-- The statements of a call of the host, as far as the budget reaches. -/
def callCount (environment : Environment) (budget function : Nat) (arguments : List Value)
    (machine : Machine) : Nat :=
  callWithCount (executeCount environment budget) function arguments machine

/-! ### Turns -/

section Turns

variable {environment : Environment} {execute : Executor} {meter : Meter} {index : Nat}
  {machine noted : Machine} {statement : Statement}

theorem turnCount_of_missing (missing : environment.program.statements[index]? = none) :
    turnCount execute meter environment index machine = 0 := by
  unfold turnCount
  rw [missing]

theorem turnCount_of_refused {fault : Fault}
    (found : environment.program.statements[index]? = some statement)
    (refused : begin environment index statement machine = .error fault noted) :
    turnCount execute meter environment index machine = 0 := by
  unfold turnCount
  rw [found]
  dsimp only
  rw [refused]

/-- A statement that was noted counts, whatever comes of it. -/
theorem turnCount_of_begun (found : environment.program.statements[index]? = some statement)
    (begun : begin environment index statement machine = .ok () noted) :
    turnCount execute meter environment index machine =
      1 +
        match step environment.program environment.configuration index statement noted with
        | .error _ _ => 0
        | .ok flow after => followCount execute meter environment flow after := by
  unfold turnCount
  rw [found]
  dsimp only
  rw [begun]

end Turns

end Machine

end Gamecode
