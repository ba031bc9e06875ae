/-
This file gives a second account of running a function, by recursion on its calls. A statement that
calls a function with statements is one step here: the body of that function is evaluated up to its
own return, and then the caller goes on with the window and the stack that it kept for itself.
Nothing is ever taken off a stack, and a body knows neither to which statement it returns nor how
many functions are active. The frames are there only for the limits, the profile and the reports.
-/

import Gamecode.Proofs.Calls.Loop
import Gamecode.Proofs.Calls.Statement

namespace Gamecode.Structured

open Machine

/-! ### Calls -/

/-- Fails if there is no room for one more frame, or none for the window of the function. -/
def checkRoom (machine : Machine) (found : Function) : Except Fault Unit :=
  if machine.stack.depthLimit ≤ machine.depth then
    .error (.stackOverflow machine.stack.depthLimit)
  else if machine.stack.savedLimit < machine.stack.saved.size + found.windowLength then
    .error (.localStackOverflow (machine.stack.saved.size + found.windowLength)
      machine.stack.savedLimit)
  else .ok ()

/-- The caller goes on with its own stack and with its window as it was; a fault leaves everything
as it struck. -/
def close (caller : Machine) (found : Function) :
    Except Fault Unit × Machine → Except Fault Unit × Machine
  | (.error fault, after) => (.error fault, after)
  | (.ok (), after) =>
    (.ok (),
      { after with
        stack := caller.stack
        globals := ⟨after.globals.slots.put found.windowBase (caller.windowOf found)⟩ })

/-- Evaluate a call: once its arguments are packed, the body is evaluated up to its own return. -/
def activate (evaluate : (index : Nat) → Machine → Outcome Fault Unit) (program : Program)
    (function : Nat) (machine : Machine) : Outcome Fault Unit :=
  match program.functions[function]? with
  | none => none
  | some found =>
    match found.body with
    | .builtin _ => none
    | .statements first =>
      match checkRoom machine found with
      | .error fault => some (.error fault, machine)
      | .ok () => (evaluate first (machine.entered function found)).map (close machine found)

/-! ### Statements and bodies -/

/-- Behind a call a body goes on at the next statement. -/
def behind (index : Nat) (called : Except Fault Unit × Machine) :
    Except Fault (Option Nat) × Machine :=
  (called.1.map fun _ => some (index + 1), called.2)

/-- Where a body goes on after a statement that calls no function with statements; nowhere, if it
returns. -/
def goesOn (execute : Executor) (environment : Environment) (index : Nat) :
    Flow → Machine → Outcome Fault (Option Nat)
  | .next, machine => some (.ok (some (index + 1)), machine)
  | .jump target, machine => some (.ok (some target), machine)
  | .builtin function number arguments, machine =>
    (callBuiltin execute environment function number arguments machine).map (behind index)
  | .leave, machine => some (.ok none, machine)

/-- Evaluate one statement, with the calls that it makes. -/
def statement (execute : Executor) (environment : Environment)
    (evaluate : (index : Nat) → Machine → Outcome Fault Unit) (index : Nat) (machine : Machine) :
    Outcome Fault (Option Nat) :=
  match environment.program.statements[index]? with
  | none => some (.error (.statementOutOfRange index), machine)
  | some statement =>
    match begin environment index statement machine with
    | .error fault begun => some (.error fault, begun)
    | .ok () begun =>
      match callee? environment.program statement begun with
      | some function =>
        (activate evaluate environment.program function begun).map (behind index)
      | none =>
        match step environment.program environment.configuration index statement begun with
        | .error fault after => some (.error fault, after)
        | .ok flow after => goesOn execute environment index flow after

/-- Evaluate a body from a statement on, up to its own return. -/
def body (execute : Executor) (environment : Environment) :
    (budget index : Nat) → Machine → Outcome Fault Unit
  | 0, _, _ => none
  | budget + 1, index, machine =>
    match statement execute environment (body execute environment budget) index machine with
    | none => none
    | some (.error fault, after) => some (.error fault, after)
    | some (.ok none, after) => some (.ok (), after)
    | some (.ok (some next), after) => body execute environment budget next after

/-- Evaluate a function. -/
def execute (environment : Environment) : (budget : Nat) → Executor
  | 0, _, _, _ => none
  | budget + 1, function, arguments, machine =>
    match resolve environment.program function with
    | .error fault => some (.error fault, machine)
    | .ok (.builtin number) =>
      callBuiltin (execute environment budget) environment function number arguments machine
    | .ok (.statements _) =>
      activate (body (execute environment budget) environment (budget + 1)) environment.program
        function machine

/-! ### One statement -/

section Statement

variable {executor : Executor} {environment : Environment}
  {evaluate : (index : Nat) → Machine → Outcome Fault Unit} {index : Nat}
  {instruction : Gamecode.Statement} {machine begun : Machine}

theorem statement_of_missing (missing : environment.program.statements[index]? = none) :
    statement executor environment evaluate index machine =
      some (.error (.statementOutOfRange index), machine) := by
  unfold statement
  rw [missing]

theorem statement_of_refused {fault : Fault}
    (found : environment.program.statements[index]? = some instruction)
    (refused : begin environment index instruction machine = .error fault begun) :
    statement executor environment evaluate index machine = some (.error fault, begun) := by
  unfold statement
  rw [found]
  dsimp only
  rw [refused]

theorem statement_of_callee {function : Nat}
    (found : environment.program.statements[index]? = some instruction)
    (noted : begin environment index instruction machine = .ok () begun)
    (called : callee? environment.program instruction begun = some function) :
    statement executor environment evaluate index machine =
      (activate evaluate environment.program function begun).map (behind index) := by
  unfold statement
  rw [found]
  dsimp only
  rw [noted]
  dsimp only
  rw [called]

/-- A statement that calls no function with statements is its step and what follows from that. -/
theorem statement_of_quiet (found : environment.program.statements[index]? = some instruction)
    (noted : begin environment index instruction machine = .ok () begun)
    (quiet : callee? environment.program instruction begun = none) :
    statement executor environment evaluate index machine =
      match step environment.program environment.configuration index instruction begun with
      | .error fault after => some (.error fault, after)
      | .ok flow after => goesOn executor environment index flow after := by
  unfold statement
  rw [found]
  dsimp only
  rw [noted]
  dsimp only
  rw [quiet]

end Statement

/-! ### Bodies -/

/-- The rest of a body after one of its statements. -/
def carryOn (execute : Executor) (environment : Environment) (budget : Nat) :
    Except Fault (Option Nat) × Machine → Outcome Fault Unit
  | (.error fault, after) => some (.error fault, after)
  | (.ok none, after) => some (.ok (), after)
  | (.ok (some next), after) => body execute environment budget next after

/-- A body is its first statement and the rest of the body. -/
theorem body_succ (execute : Executor) (environment : Environment) (budget index : Nat)
    (machine : Machine) :
    body execute environment (budget + 1) index machine =
      (statement execute environment (body execute environment budget) index machine).bind
        (carryOn execute environment budget) := by
  rw [body]
  rcases statement execute environment (body execute environment budget) index machine with
    _ | ⟨result, after⟩
  · rfl
  · cases result with
    | error fault => rfl
    | ok next => cases next <;> rfl

theorem body_eq_some {execute : Executor} {environment : Environment} {budget index : Nat}
    {machine : Machine} {outcome : Except Fault Unit × Machine}
    (ends : body execute environment budget index machine = some outcome) :
    ∃ fewer ended, budget = fewer + 1 ∧
      statement execute environment (body execute environment fewer) index machine =
        some ended ∧ carryOn execute environment fewer ended = some outcome := by
  cases budget with
  | zero => cases ends
  | succ fewer =>
    rw [body_succ] at ends
    obtain ⟨ended, first, rest⟩ := Option.bind_eq_some_iff.mp ends
    exact ⟨fewer, ended, rfl, first, rest⟩

/-! ### Entering -/

/-- A function is entered exactly where there is room for it. -/
theorem enter_eq_checkRoom {program : Program} (loaded : program.Loaded) {machine : Machine}
    (size : machine.globals.size = program.globals.size) {function first : Nat} {found : Function}
    (isFunction : program.functions[function]? = some found)
    (body : found.body = .statements first) :
    enter program function machine =
      match checkRoom machine found with
      | .error fault => .error fault machine
      | .ok () => .ok first (machine.entered function found) := by
  rw [enter_eq loaded size isFunction body, checkRoom]
  by_cases full : machine.stack.depthLimit ≤ machine.depth
  · rw [if_pos full, if_pos full]
  rw [if_neg full, if_neg full]
  by_cases crowded : machine.stack.savedLimit < machine.stack.saved.size + found.windowLength
  · rw [if_pos crowded, if_pos crowded]
  · rw [if_neg crowded, if_neg crowded]

theorem activate_eq {program : Program} {function first : Nat} {found : Function}
    (isFunction : program.functions[function]? = some found)
    (body : found.body = .statements first)
    (evaluate : (index : Nat) → Machine → Outcome Fault Unit) (machine : Machine) :
    activate evaluate program function machine =
      match checkRoom machine found with
      | .error fault => some (.error fault, machine)
      | .ok () =>
        (evaluate first (machine.entered function found)).map (close machine found) := by
  unfold activate
  rw [isFunction]
  dsimp only
  rw [body]

/-! ### Larger budgets -/

section Within

variable {environment : Environment} {narrow wide : Executor}
  {evaluate further : (index : Nat) → Machine → Outcome Fault Unit}

theorem activate_within
    (within : ∀ {index machine outcome}, evaluate index machine = some outcome →
      further index machine = some outcome)
    {program : Program} {function : Nat} {machine : Machine}
    {outcome : Except Fault Unit × Machine}
    (ends : activate evaluate program function machine = some outcome) :
    activate further program function machine = some outcome := by
  unfold activate at ends ⊢
  split at ends
  · cases ends
  split at ends
  · cases ends
  split at ends
  · exact ends
  · obtain ⟨inner, evaluated, rfl⟩ := Option.map_eq_some_iff.mp ends
    rw [within evaluated, Option.map_some]

theorem goesOn_within (within : narrow.Within wide) {index : Nat} {flow : Flow}
    {machine : Machine} {outcome : Except Fault (Option Nat) × Machine}
    (ends : goesOn narrow environment index flow machine = some outcome) :
    goesOn wide environment index flow machine = some outcome := by
  cases flow with
  | builtin function number arguments =>
    obtain ⟨inner, called, rfl⟩ := Option.map_eq_some_iff.mp ends
    dsimp only [goesOn]
    rw [callBuiltin_within within called, Option.map_some]
  | _ => exact ends

theorem statement_within (executors : narrow.Within wide)
    (within : ∀ {index machine outcome}, evaluate index machine = some outcome →
      further index machine = some outcome)
    {index : Nat} {machine : Machine} {outcome : Except Fault (Option Nat) × Machine}
    (ends : statement narrow environment evaluate index machine = some outcome) :
    statement wide environment further index machine = some outcome := by
  unfold statement at ends ⊢
  split at ends
  · exact ends
  split at ends
  · exact ends
  split at ends
  · obtain ⟨inner, called, rfl⟩ := Option.map_eq_some_iff.mp ends
    rw [activate_within within called, Option.map_some]
  split at ends
  · exact ends
  · exact goesOn_within executors ends

/-- With a larger budget every body is evaluated as it is with a smaller one. -/
theorem body_within (executors : narrow.Within wide) {budget larger : Nat}
    (enough : budget ≤ larger) {index : Nat} {machine : Machine}
    {outcome : Except Fault Unit × Machine}
    (ends : body narrow environment budget index machine = some outcome) :
    body wide environment larger index machine = some outcome := by
  induction budget generalizing larger index machine outcome with
  | zero => cases ends
  | succ budget inductionHypothesis =>
    obtain ⟨more, rfl⟩ : ∃ more, larger = more + 1 := ⟨larger - 1, by omega⟩
    have fewer := Nat.le_of_succ_le_succ enough
    obtain ⟨_, ended, same, evaluated, rest⟩ := body_eq_some ends
    cases same
    rw [body_succ, statement_within executors (inductionHypothesis fewer) evaluated,
      Option.bind_some]
    obtain ⟨result, after⟩ := ended
    cases result with
    | error fault => exact rest
    | ok next =>
      cases next with
      | none => exact rest
      | some next => exact inductionHypothesis fewer rest

end Within

end Gamecode.Structured
