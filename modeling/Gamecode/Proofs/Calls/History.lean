/-
This file keeps the history of runs: which statements were executed and on which machines, and what
else was done to the numbers that the machine keeps for builtins and for its guard. A history
follows a run call by call, through all functions that builtins run. What is known about each of its
events is thereby known about whole runs, also about those that end with a fault.
-/

import Gamecode.Proofs.Guard.Scripts
import Gamecode.Proofs.Run

namespace Gamecode

/-! ### Events -/

/-- What happens in a run. -/
inductive Event
  | counted
  | executed (index : Nat) (statement : Statement) (machine : Machine)
  /-- The argument count becomes that of a builtin, or goes back to what it was. -/
  | arguments (count : Nat)
  /-- A call begins that is not made inside another. -/
  | restarted
deriving Repr, DecidableEq

/-- What happens when a function is run that was given a number of arguments. -/
abbrev Recorder := (function arguments : Nat) → Machine → List Event

namespace Machine

/-- What happens in a run on what the parameter blocks hold. -/
def invokeHistory (recorder : Recorder) (program : Program) (function : Nat) (machine : Machine) :
    List Event :=
  recorder function ((program.functions[function]?.map Function.parameterCount).getD 0) machine ++
    [.arguments machine.argumentCount]

/-- What happens in a run on given arguments. -/
def callWithHistory (recorder : Recorder) (function : Nat) (arguments : List Value)
    (machine : Machine) : List Event :=
  if Region.maxParameters < arguments.length then []
  else
    match stageArguments arguments 0 machine with
    | .error _ _ => []
    | .ok () staged =>
      (if staged.depth = 0 then [.restarted] else []) ++
        recorder function arguments.length staged.restartCount

/-- What happens in all functions that a script runs. -/
def performHistory {α : Type} (execute : Executor) (recorder : Recorder) (program : Program) :
    Native α → Machine → List Event
  | .done _, _ => []
  | .fail _, _ => []
  | .observe next, machine =>
    performHistory execute recorder program (next program machine) machine
  | .change update next, machine => performHistory execute recorder program next (update machine)
  | .invoke function next, machine =>
    invokeHistory recorder program function machine ++
      (invokeWith execute program function machine).elim [] fun (result, after) =>
        performHistory execute recorder program (next result) after
  | .call function arguments next, machine =>
    callWithHistory recorder function arguments machine ++
      (callWith execute program function arguments machine).elim [] fun (result, after) =>
        performHistory execute recorder program (next result) after

/-- What happens in a builtin. -/
def callBuiltinHistory (execute : Executor) (recorder : Recorder) (environment : Environment)
    (function number arguments : Nat) (machine : Machine) : List Event :=
  match environment.builtins.get? number with
  | none => []
  | some builtin =>
    .arguments arguments ::
      performHistory execute recorder environment.program builtin.script
        { machine with
          profile := machine.profile.recordCall function
          argumentCount := arguments }

/-- What happens because of a flow. -/
def followHistory (execute : Executor) (recorder : Recorder) (environment : Environment) :
    Flow → Machine → List Event
  | .builtin function number arguments, machine =>
    callBuiltinHistory execute recorder environment function number arguments machine
  | .next, _ | .jump _, _ | .leave, _ => []

/-- What happens in a turn. -/
def turnHistory (execute : Executor) (recorder : Recorder) (environment : Environment) (index : Nat)
    (machine : Machine) : List Event :=
  match environment.program.statements[index]? with
  | none => []
  | some statement =>
    .counted ::
      match begin environment index statement machine with
      | .error _ _ => []
      | .ok () begun =>
        .executed index statement begun ::
          match step environment.program environment.configuration index statement begun with
          | .error _ _ => []
          | .ok flow after => followHistory execute recorder environment flow after

/-- What happens in a run, as far as its budget reaches. -/
def runHistory (execute : Executor) (recorder : Recorder) (environment : Environment)
    (exitDepth : Nat) : (budget index : Nat) → Machine → List Event
  | 0, _, _ => []
  | budget + 1, index, machine =>
    turnHistory execute recorder environment index machine ++
      (turn execute environment exitDepth index machine).elim [] fun
        | (.resume next, after) =>
          runHistory execute recorder environment exitDepth budget next after
        | (.stop _, _) => []

/-- What happens in a function and in all that it runs, as far as the budget reaches. -/
def executeHistory (environment : Environment) : (budget : Nat) → Recorder
  | 0, _, _, _ => []
  | budget + 1, function, arguments, machine =>
    match resolve environment.program function with
    | .error _ => []
    | .ok (.builtin number) =>
      callBuiltinHistory (execute environment budget) (executeHistory environment budget)
        environment function number arguments machine
    | .ok (.statements _) =>
      match enter environment.program function machine with
      | .error _ _ => []
      | .ok first after =>
        runHistory (execute environment budget) (executeHistory environment budget) environment
          machine.depth (budget + 1) first after

/-- The history of a function that is run on what the parameter blocks hold. -/
def historyOfInvoke (environment : Environment) (budget function : Nat) (machine : Machine) :
    List Event :=
  invokeHistory (executeHistory environment budget) environment.program function machine

/-- The history of a call. -/
def historyOfCall (environment : Environment) (budget function : Nat) (arguments : List Value)
    (machine : Machine) : List Event :=
  callWithHistory (executeHistory environment budget) function arguments machine

/-! ### Turns -/

section Turns

variable {environment : Environment} {execute : Executor} {recorder : Recorder} {index : Nat}
  {machine noted : Machine} {statement : Statement}

theorem turnHistory_of_missing (missing : environment.program.statements[index]? = none) :
    turnHistory execute recorder environment index machine = [] := by
  unfold turnHistory
  rw [missing]

theorem turnHistory_of_refused {fault : Fault}
    (found : environment.program.statements[index]? = some statement)
    (refused : begin environment index statement machine = .error fault noted) :
    turnHistory execute recorder environment index machine = [.counted] := by
  unfold turnHistory
  rw [found]
  dsimp only
  rw [refused]

theorem turnHistory_of_begun (found : environment.program.statements[index]? = some statement)
    (begun : begin environment index statement machine = .ok () noted) :
    turnHistory execute recorder environment index machine =
      [.counted] ++ ([.executed index statement noted] ++
        match step environment.program environment.configuration index statement noted with
        | .error _ _ => []
        | .ok flow after => followHistory execute recorder environment flow after) := by
  unfold turnHistory
  rw [found]
  dsimp only
  rw [begun]
  rfl

end Turns

/-! ### Relations that follow histories -/

/-- What happened relates the machine that is left to the one that was found, if it does so for each
event and if everything else that the machine does is related by an empty history. -/
structure Follows (relation : List Event → Machine → Machine → Prop) (environment : Environment) :
    Prop where
  nothing : ∀ machine, relation [] machine machine
  append : ∀ {first second : List Event} {before middle after : Machine},
    relation first before middle → relation second middle after →
      relation (first ++ second) before after
  begin : ∀ index statement machine,
    relation [.counted] machine ((begin environment index statement).leaves machine)
  step : ∀ index statement machine, relation [.executed index statement machine] machine
    ((step environment.program environment.configuration index statement).leaves machine)
  enter : ∀ function, (enter environment.program function).Keeps (relation [])
  leave : leave.Keeps (relation [])
  stage : ∀ arguments index, (stageArguments arguments index).Keeps (relation [])
  cleared : ∀ machine : Machine, relation [] machine { machine with stack := machine.stack.clear }
  restated : ∀ (machine : Machine) (statement : Option Nat),
    relation [] machine { machine with statement }
  arguments : ∀ (machine : Machine) (statement : Option Nat) (profile : Profile)
    (argumentCount : Nat), relation [.arguments argumentCount] machine
      { machine with statement, profile, argumentCount }
  restarted : ∀ machine : Machine, relation [.restarted] machine { machine with executed := 0 }
  builtins : environment.builtins.KeepByThemselves (relation []) environment.program

end Machine

/-- The recorder tells what relates the machines before and after whatever the executor brings to an
end. -/
def Executor.Recorded (relation : List Event → Machine → Machine → Prop) (execute : Executor)
    (recorder : Recorder) : Prop :=
  ∀ ⦃function arguments : Nat⦄ ⦃machine after : Machine⦄ ⦃result : Except Fault Unit⦄,
    execute function arguments machine = some (result, after) →
      relation (recorder function arguments machine) machine after

namespace Machine.Follows

variable {relation : List Event → Machine → Machine → Prop} {environment : Environment}
  {executor : Executor} {recorder : Recorder} {machine after : Machine}

theorem isPreorder (follows : Follows relation environment) : IsPreorder Machine (relation []) where
  refl := follows.nothing
  trans _ _ _ first second := follows.append first second

/-- Nothing worth recording may come before a history. -/
theorem after_nothing (follows : Follows relation environment) {history : List Event}
    {before : Machine} (first : relation [] before machine)
    (second : relation history machine after) : relation history before after :=
  follows.append first second

/-- Nothing worth recording may come after a history. -/
theorem before_nothing (follows : Follows relation environment) {history : List Event}
    {before : Machine} (first : relation history before machine)
    (second : relation [] machine after) : relation history before after :=
  List.append_nil history ▸ follows.append first second

theorem unwindTo (follows : Follows relation environment) (depth : Nat) (machine : Machine) :
    relation [] machine (machine.unwindTo depth).2 :=
  have := follows.isPreorder
  unwindTo_of_keeps follows.leave follows.cleared depth machine

/-! ### Runs inside runs -/

theorem invokeWith (follows : Follows relation environment)
    (recorded : executor.Recorded relation recorder) {function : Nat} {result : Except Fault Unit}
    (ends : invokeWith executor environment.program function machine = some (result, after)) :
    relation (invokeHistory recorder environment.program function machine) machine after := by
  obtain ⟨⟨inner, reached⟩, ran, same⟩ := Option.map_eq_some_iff.mp ends
  have ranSo := recorded ran
  cases inner with
  | ok value =>
    cases same
    exact follows.append ranSo (follows.arguments reached _ reached.profile _)
  | error fault =>
    cases same
    have unwound := follows.before_nothing ranSo (follows.unwindTo machine.depth reached)
    exact follows.append unwound
      (follows.arguments _ _ (reached.unwindTo machine.depth).2.profile _)

theorem callWith (follows : Follows relation environment)
    (recorded : executor.Recorded relation recorder) {function : Nat} {arguments : List Value}
    {result : Except Report Vector3}
    (ends : callWith executor environment.program function arguments machine =
      some (result, after)) :
    relation (callWithHistory recorder function arguments machine) machine after := by
  unfold Machine.callWith at ends
  unfold callWithHistory
  split at ends
  · next many =>
    cases ends
    rw [if_pos many]
    exact follows.nothing machine
  next few =>
  rw [if_neg few]
  cases inPlace : stageArguments arguments 0 machine with
  | error fault staged =>
    rw [inPlace] at ends
    cases ends
    exact (follows.stage arguments 0).error inPlace
  | ok _ staged =>
    rw [inPlace] at ends
    obtain ⟨⟨inner, reached⟩, ran, same⟩ := Option.map_eq_some_iff.mp ends
    refine follows.after_nothing ((follows.stage arguments 0).ok inPlace) (follows.append
      (?_ : relation _ staged staged.restartCount) ?_)
    · unfold restartCount
      split
      · exact follows.restarted staged
      · exact follows.nothing staged
    cases inner with
    | ok value =>
      cases same
      exact follows.before_nothing (recorded ran) (follows.restated reached _)
    | error fault =>
      cases same
      exact follows.before_nothing (follows.before_nothing (recorded ran)
        (follows.unwindTo _ reached)) (follows.restated _ _)

theorem perform (follows : Follows relation environment)
    (recorded : executor.Recorded relation recorder) {α : Type} {script : Native α}
    (keeps : script.KeepsByItself (relation []) environment.program machine)
    {result : Except Fault α}
    (ends : perform executor environment.program script machine = some (result, after)) :
    relation (performHistory executor recorder environment.program script machine)
      machine after := by
  induction script generalizing machine with
  | done value | fail fault =>
    cases ends
    exact follows.nothing _
  | observe next inductionHypothesis => exact inductionHypothesis _ _ keeps ends
  | change update next inductionHypothesis =>
    exact follows.after_nothing keeps.1 (inductionHypothesis keeps.2 ends)
  | invoke function next inductionHypothesis =>
    unfold Machine.perform at ends
    split at ends
    · cases ends
    · next inner middle ran =>
      unfold performHistory
      rw [ran]
      exact follows.append (follows.invokeWith recorded ran)
        (inductionHypothesis inner (keeps inner middle) ends)
  | call function arguments next inductionHypothesis =>
    unfold Machine.perform at ends
    split at ends
    · cases ends
    · next inner middle ran =>
      unfold performHistory
      rw [ran]
      exact follows.append (follows.callWith recorded ran)
        (inductionHypothesis inner (keeps inner middle) ends)

theorem callBuiltin (follows : Follows relation environment)
    (recorded : executor.Recorded relation recorder) {function number arguments : Nat}
    {result : Except Fault Unit}
    (ends : callBuiltin executor environment function number arguments machine =
      some (result, after)) :
    relation (callBuiltinHistory executor recorder environment function number arguments machine)
      machine after := by
  unfold Machine.callBuiltin at ends
  unfold callBuiltinHistory
  cases offered : environment.builtins.get? number with
  | none =>
    rw [offered] at ends
    cases ends
    exact follows.nothing machine
  | some builtin =>
    rw [offered] at ends
    exact follows.append (follows.arguments machine machine.statement _ arguments)
      (follows.perform recorded (follows.builtins number builtin offered _) ends)

/-! ### Turns and runs -/

theorem follow (follows : Follows relation environment)
    (recorded : executor.Recorded relation recorder) {exitDepth index : Nat} {flow : Flow}
    {outcome : Turn}
    (turned : follow executor environment exitDepth index flow machine = some (outcome, after)) :
    relation (followHistory executor recorder environment flow machine) machine after := by
  cases flow with
  | next | jump target =>
    cases turned
    exact follows.nothing machine
  | builtin function number arguments =>
    obtain ⟨⟨result, last⟩, called, same⟩ := Option.map_eq_some_iff.mp turned
    cases same
    exact follows.callBuiltin recorded called
  | leave =>
    have left := follows.leave machine
    have returned : returnFrom exitDepth machine = (outcome, after) := Option.some.inj turned
    rw [← snd_returnFrom exitDepth, returned] at left
    exact left

theorem turn (follows : Follows relation environment)
    (recorded : executor.Recorded relation recorder) {exitDepth index : Nat} {outcome : Turn}
    (turned : turn executor environment exitDepth index machine = some (outcome, after)) :
    relation (turnHistory executor recorder environment index machine) machine after := by
  cases found : environment.program.statements[index]? with
  | none =>
    rw [turn_of_missing found] at turned
    cases turned
    rw [turnHistory_of_missing found]
    exact follows.nothing machine
  | some statement =>
    have noted := follows.begin index statement machine
    cases begun : Machine.begin environment index statement machine with
    | error fault refused =>
      rw [turn_of_refused found begun] at turned
      cases turned
      rw [turnHistory_of_refused found begun]
      exact Action.leaves_of_error begun ▸ noted
    | ok _ begunOn =>
      rw [turn_of_begun found begun] at turned
      rw [turnHistory_of_begun found begun]
      rw [Action.leaves_of_ok begun] at noted
      refine follows.append noted ?_
      have stepped := follows.step index statement begunOn
      cases ends : Machine.step environment.program environment.configuration index statement
          begunOn with
      | error fault failed =>
        rw [ends] at turned
        cases turned
        rw [Action.leaves_of_error ends] at stepped
        exact follows.append stepped (follows.nothing after)
      | ok flow reached =>
        rw [ends] at turned
        rw [Action.leaves_of_ok ends] at stepped
        exact follows.append stepped (follows.follow recorded turned)

theorem run (follows : Follows relation environment)
    (recorded : executor.Recorded relation recorder) {exitDepth budget index : Nat}
    {result : Except Fault Unit}
    (ends : run executor environment exitDepth budget index machine = some (result, after)) :
    relation (runHistory executor recorder environment exitDepth budget index machine) machine
      after := by
  induction budget generalizing index machine with
  | zero => cases ends
  | succ budget inductionHypothesis =>
    obtain ⟨fewer, ⟨outcome, middle⟩, same, turned, rest⟩ := run_eq_some ends
    cases same
    unfold runHistory
    rw [turned]
    refine follows.append (follows.turn recorded turned) ?_
    cases outcome with
    | resume next => exact inductionHypothesis rest
    | stop last =>
      cases rest
      exact follows.nothing after

/-- A whole run is related as its history tells, however it ends. -/
theorem executes (follows : Follows relation environment) (budget : Nat) :
    Executor.Recorded relation (Machine.execute environment budget)
      (executeHistory environment budget) := by
  induction budget with
  | zero => exact fun _ _ _ _ _ ends => nomatch ends
  | succ budget inductionHypothesis =>
    intro function arguments machine after result ends
    unfold Machine.execute at ends
    unfold executeHistory
    cases resolved : resolve environment.program function with
    | error fault =>
      rw [resolved] at ends
      cases ends
      exact follows.nothing machine
    | ok body =>
      rw [resolved] at ends
      cases body with
      | builtin number => exact follows.callBuiltin inductionHypothesis ends
      | statements first =>
        dsimp only at ends ⊢
        cases entered : Machine.enter environment.program function machine with
        | error fault refused =>
          rw [entered] at ends
          cases ends
          exact (follows.enter function).error entered
        | ok start reached =>
          rw [entered] at ends
          exact follows.after_nothing ((follows.enter function).ok entered)
            (follows.run inductionHypothesis ends)

/-! ### Calls of the host -/

theorem invoke (follows : Follows relation environment) {budget function : Nat}
    {result : Except Fault Unit}
    (ends : Machine.invoke environment budget function machine = some (result, after)) :
    relation (historyOfInvoke environment budget function machine) machine after :=
  follows.invokeWith (follows.executes budget) ends

theorem call (follows : Follows relation environment) {budget function : Nat}
    {arguments : List Value} {result : Except Report Vector3}
    (ends : Machine.call environment budget function arguments machine = some (result, after)) :
    relation (historyOfCall environment budget function arguments machine) machine after :=
  follows.callWith (follows.executes budget) ends

end Machine.Follows

/-! ### Builtins that run nothing -/

/-- A script that runs no function keeps by itself what it respects. -/
theorem Native.Plain.keepsByItself {α : Type} {relation : Machine → Machine → Prop}
    {program : Program} {script : Native α} {wanted : α → Machine → Prop} {machine : Machine}
    (plain : script.Plain) (respects : script.Respects relation program wanted machine) :
    script.KeepsByItself relation program machine := by
  induction script generalizing machine with
  | done value | fail fault => exact trivial
  | observe next inductionHypothesis =>
    exact inductionHypothesis _ _ (plain program machine) respects
  | change update next inductionHypothesis =>
    exact ⟨respects.1, inductionHypothesis plain.2 respects.2⟩
  | invoke function next | call function arguments next => exact plain.elim

/-- The standard builtins keep by themselves every relation that allows what they do. -/
theorem Builtins.keepByThemselves_installClassic {relation : Machine → Machine → Prop}
    [Builtins.Allowed relation] [IsPreorder Machine relation] {program : Program}
    {table : BuiltinTable} (others : table.KeepByThemselves relation program) :
    (installClassic table).KeepByThemselves relation program :=
  every_installClassic (fun script => ∀ machine, script.KeepsByItself relation program machine)
    (fun _ member _ => (plain_standard member).keepsByItself (respects_standard member)) others

end Gamecode
