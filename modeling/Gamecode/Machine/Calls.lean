/-
Entering and leaving functions. On entry the window of the function is saved and the arguments are
packed into it by their declared widths; on leaving, the window gets back what was saved. Unwinding
leaves functions until a given number of them is still active.
-/

import Gamecode.Machine.State

namespace Gamecode.Machine

/-- How a function is executed; function zero is the null function. -/
def resolve (program : Program) (function : Nat) : Except Fault Body :=
  if function = 0 then .error .nullFunction
  else
    match program.functions[function]? with
    | some found => .ok found.body
    | none => .error (.badFunction (Slot.signed (Slot.ofSigned function)))

/-! ### Entering -/

/-- Copy the parameter blocks from `block` on to consecutive slots from `target`. -/
def packArguments : List UInt8 → (block target : Nat) → Action Unit
  | [], _, _ => pure ()
  | width :: rest, block, target => do
    Action.changeGlobals fun globals =>
      globals.copy (Region.parameterOffset block) target width.toNat
    packArguments rest (block + 1) (target + width.toNat)

/-- Save a window, and tell where. -/
def saveWindow (start size : Nat) : Action Nat := fun machine =>
  match machine.globals.slice start size with
  | .error fault => .error fault machine
  | .ok window =>
    match machine.stack.save window with
    | .error fault => .error fault machine
    | .ok (position, stack) => .ok position { machine with stack }

/-- Make a frame the innermost one. -/
def pushFrame (frame : Frame) : Action Unit := fun machine =>
  match machine.stack.push frame with
  | .error fault => .error fault machine
  | .ok stack => .ok () { machine with stack }

/-- Count a call of a function. -/
def countCall (function : Nat) : Action Unit :=
  modify fun machine => { machine with profile := machine.profile.recordCall function }

/-- Make a function with statements the innermost one. The result is its first statement. -/
def enter (program : Program) (function : Nat) : Action Nat := do
  Action.inspect fun machine => machine.stack.checkDepth
  let badFunction : Fault := .badFunction (Slot.signed (Slot.ofSigned function))
  let some found := program.functions[function]? | throw badFunction
  let .statements first := found.body | throw badFunction
  let start := found.windowStart.toNat
  let size := found.windowSize.toNat
  let savedAt ← saveWindow start size
  packArguments found.widths 0 start
  let returnTo := (← get).statement
  pushFrame ⟨function, returnTo, start, size, savedAt⟩
  countCall function
  return first

/-! ### Leaving -/

/-- Leave the innermost function. The result is the statement that its caller was executing. -/
def leave : Action (Option Nat) := fun machine =>
  match machine.stack.pop with
  | none => .ok none machine
  | some ((frame, window), stack) =>
    let popped := { machine with stack }
    match popped.globals.write frame.windowStart window with
    | .ok globals => .ok frame.returnTo { popped with globals }
    | .error fault => .error fault popped

/-- Leave a number of functions, whether or not their windows can be restored. The result tells how
many of them could not. -/
def leaveMany : Nat → Machine → Nat × Machine
  | 0, machine => (0, machine)
  | count + 1, machine =>
    match leave machine with
    | .ok _ after => leaveMany count after
    | .error _ after =>
      let (dropped, unwound) := leaveMany count after
      (dropped + 1, unwound)

/-- Leave functions until `depth` of them are active. The result tells how many windows were dropped
because they could not be restored. -/
def unwindTo (depth : Nat) (machine : Machine) : Nat × Machine :=
  let (dropped, unwound) := leaveMany (machine.depth - depth) machine
  (dropped,
    if unwound.depth = 0 then { unwound with stack := unwound.stack.clear } else unwound)

/-! ### Reports -/

/-- The active functions, the innermost first, each with the statement that it executes. -/
def traceFrom (program : Program) (statement : Option Nat) : List Frame → List TraceEntry
  | [] => []
  | frame :: outer =>
    ⟨program.functionName frame.function, program.functionFile frame.function,
        statement.getD 0⟩ ::
      traceFrom program frame.returnTo outer

/-- The active functions, the innermost first. -/
def stackTrace (program : Program) (machine : Machine) : List TraceEntry :=
  traceFrom program machine.statement machine.stack.frames.toList.reverse

/-- The report of a fault that strikes now. -/
def report (program : Program) (fault : Fault) (machine : Machine) : Report :=
  { fault
    statement := machine.statement
    function := machine.currentFunction?.map program.functionName
    stack := machine.stackTrace program }

end Gamecode.Machine
