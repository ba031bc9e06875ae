/-
This file takes the loop over statements apart. Each turn executes one statement and what follows
from it, and either goes on at another statement or stops. A run is therefore a sequence of turns of
which only the last one stops, so whatever every turn keeps is kept by the whole run. A larger
budget never changes the end of a run; it only lets more runs come to their end.
-/

import Gamecode.Proofs.Action

namespace Gamecode

namespace Machine

/-! ### Turns -/

/-- What a turn of the loop ends with. -/
inductive Turn
  | resume (index : Nat)
  | stop (result : Except Fault Unit)

/-- The loop stops after a return where no more than `exitDepth` functions are active then, and
where the function was not entered from a statement. -/
def afterReturn (exitDepth depth : Nat) (returnTo : Option Nat) : Turn :=
  if depth ≤ exitDepth then .stop (.ok ())
  else
    match returnTo with
    | some caller => .resume (caller + 1)
    | none => .stop (.ok ())

/-- Return from the innermost function. -/
def returnFrom (exitDepth : Nat) (machine : Machine) : Turn × Machine :=
  match leave machine with
  | .error fault after => (.stop (.error fault), after)
  | .ok returnTo after => (afterReturn exitDepth after.depth returnTo, after)

theorem snd_returnFrom (exitDepth : Nat) (machine : Machine) :
    (returnFrom exitDepth machine).2 = leave.leaves machine := by
  unfold returnFrom Action.leaves
  cases leave machine with
  | error fault after => rfl
  | ok returnTo after => rfl

/-- The loop goes on after a builtin that has a result. -/
def afterBuiltin (index : Nat) : Except Fault Unit → Turn
  | .ok () => .resume (index + 1)
  | .error fault => .stop (.error fault)

/-- What follows from a statement. -/
def follow (execute : Executor) (environment : Environment) (exitDepth index : Nat) :
    Flow → Machine → Option (Turn × Machine)
  | .next, machine => some (.resume (index + 1), machine)
  | .jump target, machine => some (.resume target, machine)
  | .builtin function number arguments, machine =>
    (callBuiltin execute environment function number arguments machine).map
      fun (result, after) => (afterBuiltin index result, after)
  | .leave, machine => some (returnFrom exitDepth machine)

/-- One statement and what follows from it. -/
def turn (execute : Executor) (environment : Environment) (exitDepth index : Nat)
    (machine : Machine) : Option (Turn × Machine) :=
  match environment.program.statements[index]? with
  | none => some (.stop (.error (.statementOutOfRange index)), machine)
  | some statement =>
    match advance environment index statement machine with
    | .error fault after => some (.stop (.error fault), after)
    | .ok flow after => follow execute environment exitDepth index flow after

variable {environment : Environment} {execute : Executor} {exitDepth : Nat}

theorem turn_of_missing {index : Nat} {machine : Machine}
    (missing : environment.program.statements[index]? = none) :
    turn execute environment exitDepth index machine =
      some (.stop (.error (.statementOutOfRange index)), machine) := by
  unfold turn
  rw [missing]

theorem turn_of_refused {index : Nat} {statement : Statement} {machine noted : Machine}
    {fault : Fault} (found : environment.program.statements[index]? = some statement)
    (refused : begin environment index statement machine = .error fault noted) :
    turn execute environment exitDepth index machine = some (.stop (.error fault), noted) := by
  unfold turn advance
  rw [found]
  dsimp only
  rw [Action.bind_apply, refused]

/-- A turn whose statement was noted is its step and what follows from that. -/
theorem turn_of_begun {index : Nat} {statement : Statement} {machine noted : Machine}
    (found : environment.program.statements[index]? = some statement)
    (begun : begin environment index statement machine = .ok () noted) :
    turn execute environment exitDepth index machine =
      match step environment.program environment.configuration index statement noted with
      | .error fault after => some (.stop (.error fault), after)
      | .ok flow after => follow execute environment exitDepth index flow after := by
  unfold turn advance
  rw [found]
  dsimp only
  rw [Action.bind_apply, begun]

/-- The ways in which a turn ends. -/
inductive Turned (execute : Executor) (environment : Environment) (exitDepth index : Nat)
    (machine : Machine) : Turn → Machine → Prop
  | missing (none : environment.program.statements[index]? = none) :
      Turned execute environment exitDepth index machine
        (.stop (.error (.statementOutOfRange index))) machine
  | fault {statement : Statement} {fault : Fault} {after : Machine}
      (found : environment.program.statements[index]? = some statement)
      (advanced : advance environment index statement machine = .error fault after) :
      Turned execute environment exitDepth index machine (.stop (.error fault)) after
  | next {statement : Statement} {after : Machine}
      (found : environment.program.statements[index]? = some statement)
      (advanced : advance environment index statement machine = .ok .next after) :
      Turned execute environment exitDepth index machine (.resume (index + 1)) after
  | jump {statement : Statement} {target : Nat} {after : Machine}
      (found : environment.program.statements[index]? = some statement)
      (advanced : advance environment index statement machine = .ok (.jump target) after) :
      Turned execute environment exitDepth index machine (.resume target) after
  | builtin {statement : Statement} {function number arguments : Nat} {reached after : Machine}
      {result : Except Fault Unit}
      (found : environment.program.statements[index]? = some statement)
      (advanced : advance environment index statement machine =
        .ok (.builtin function number arguments) reached)
      (called : callBuiltin execute environment function number arguments reached =
        some (result, after)) :
      Turned execute environment exitDepth index machine (afterBuiltin index result) after
  | leave {statement : Statement} {reached after : Machine} {outcome : Turn}
      (found : environment.program.statements[index]? = some statement)
      (advanced : advance environment index statement machine = .ok .leave reached)
      (returned : returnFrom exitDepth reached = (outcome, after)) :
      Turned execute environment exitDepth index machine outcome after

theorem turned_of_turn {index : Nat} {machine after : Machine} {outcome : Turn}
    (ends : turn execute environment exitDepth index machine = some (outcome, after)) :
    Turned execute environment exitDepth index machine outcome after := by
  unfold turn at ends
  split at ends
  · next missing =>
    cases ends
    exact .missing missing
  next statement found =>
  split at ends
  · next fault reached advanced =>
    cases ends
    exact .fault found advanced
  next flow reached advanced =>
  cases flow with
  | next =>
    cases ends
    exact .next found advanced
  | jump target =>
    cases ends
    exact .jump found advanced
  | builtin function number arguments =>
    obtain ⟨⟨result, last⟩, called, same⟩ := Option.map_eq_some_iff.mp ends
    cases same
    exact .builtin found advanced called
  | leave => exact .leave found advanced (Option.some.inj ends)

/-- The rest of a run after one of its turns. -/
def goOn (execute : Executor) (environment : Environment) (exitDepth budget : Nat) :
    Turn × Machine → Outcome Fault Unit
  | (.resume next, machine) => run execute environment exitDepth budget next machine
  | (.stop result, machine) => some (result, machine)

/-- A run is its first turn and the rest of the run. -/
theorem run_succ (budget index : Nat) (machine : Machine) :
    run execute environment exitDepth (budget + 1) index machine =
      (turn execute environment exitDepth index machine).bind
        (goOn execute environment exitDepth budget) := by
  rw [run, turn]
  cases environment.program.statements[index]? with
  | none => rfl
  | some statement =>
    dsimp only
    cases advance environment index statement machine with
    | error fault after => rfl
    | ok flow after =>
      cases flow with
      | next => rfl
      | jump target => rfl
      | builtin function number arguments =>
        dsimp only [follow]
        rcases callBuiltin execute environment function number arguments after with
          _ | ⟨result, returned⟩
        · rfl
        · cases result <;> rfl
      | leave =>
        dsimp only [follow, returnFrom]
        cases leave after with
        | error fault left => rfl
        | ok returnTo left =>
          dsimp only [afterReturn]
          by_cases stops : left.depth ≤ exitDepth
          · rw [if_pos stops, if_pos stops]
            rfl
          · rw [if_neg stops, if_neg stops]
            cases returnTo <;> rfl

/-- A run that ends has a first turn, and a rest that ends in the same way. -/
theorem run_eq_some {budget index : Nat} {machine : Machine}
    {outcome : Except Fault Unit × Machine}
    (ends : run execute environment exitDepth budget index machine = some outcome) :
    ∃ fewer turned, budget = fewer + 1 ∧
      turn execute environment exitDepth index machine = some turned ∧
        goOn execute environment exitDepth fewer turned = some outcome := by
  cases budget with
  | zero => cases ends
  | succ fewer =>
    rw [run_succ] at ends
    obtain ⟨turned, first, rest⟩ := Option.bind_eq_some_iff.mp ends
    exact ⟨fewer, turned, rfl, first, rest⟩

/-! ### Sequences of turns -/

/-- The loop comes from one statement and machine to another one without stopping in between. -/
inductive Turns (execute : Executor) (environment : Environment) (exitDepth start : Nat)
    (machine : Machine) : Nat → Machine → Prop
  | start : Turns execute environment exitDepth start machine start machine
  | resume {index next : Nat} {reached after : Machine}
      (turns : Turns execute environment exitDepth start machine index reached)
      (turned : turn execute environment exitDepth index reached = some (.resume next, after)) :
      Turns execute environment exitDepth start machine next after

/-- A run passes through every place to which its turns lead. -/
theorem Turns.run_eq {start index : Nat} {machine reached : Machine}
    (turns : Turns execute environment exitDepth start machine index reached) :
    ∃ spent, ∀ budget, run execute environment exitDepth (spent + budget) start machine =
      run execute environment exitDepth budget index reached := by
  induction turns with
  | start => exact ⟨0, fun budget => by rw [Nat.zero_add]⟩
  | resume turns turned inductionHypothesis =>
    obtain ⟨spent, same⟩ := inductionHypothesis
    refine ⟨spent + 1, fun budget => ?_⟩
    rw [Nat.add_right_comm, Nat.add_assoc, same, run_succ, turned]
    rfl

theorem Turns.trans {start middle index : Nat} {machine passed reached : Machine}
    (first : Turns execute environment exitDepth start machine middle passed)
    (second : Turns execute environment exitDepth middle passed index reached) :
    Turns execute environment exitDepth start machine index reached := by
  induction second with
  | start => exact first
  | resume _ turned inductionHypothesis => exact .resume inductionHypothesis turned

/-- A sequence of turns comes to an end where one more turn would leave it with an outcome. -/
def Arrives (execute : Executor) (environment : Environment) (exitDepth start : Nat)
    (machine : Machine) (outcome : Turn × Machine) : Prop :=
  ∃ index reached, Turns execute environment exitDepth start machine index reached ∧
    turn execute environment exitDepth index reached = some outcome

/-- What turns lead to later they lead to from the beginning. -/
theorem Turns.arrives {start index : Nat} {machine reached : Machine} {outcome : Turn × Machine}
    (turns : Turns execute environment exitDepth start machine index reached)
    (arrives : Arrives execute environment exitDepth index reached outcome) :
    Arrives execute environment exitDepth start machine outcome := by
  obtain ⟨last, final, more, turned⟩ := arrives
  exact ⟨last, final, turns.trans more, turned⟩

/-- A run ends exactly where its turns come to one that stops. -/
theorem exists_run_iff_arrives {start : Nat} {machine after : Machine}
    {result : Except Fault Unit} :
    (∃ budget, run execute environment exitDepth budget start machine = some (result, after)) ↔
      Arrives execute environment exitDepth start machine (.stop result, after) := by
  constructor
  · rintro ⟨budget, ends⟩
    induction budget generalizing start machine with
    | zero => cases ends
    | succ budget inductionHypothesis =>
      obtain ⟨fewer, ⟨outcome, middle⟩, same, turned, rest⟩ := run_eq_some ends
      cases same
      cases outcome with
      | resume next => exact (Turns.start.resume turned).arrives (inductionHypothesis rest)
      | stop last =>
        cases rest
        exact ⟨start, machine, .start, turned⟩
  · rintro ⟨index, reached, turns, turned⟩
    obtain ⟨spent, same⟩ := turns.run_eq
    refine ⟨spent + 1, ?_⟩
    rw [same, run_succ, turned]
    rfl

/-! ### Larger budgets -/

end Machine

/-- Whatever the one executor brings to an end, the other one brings to the same end. -/
def Executor.Within (narrow wide : Executor) : Prop :=
  ∀ ⦃function arguments : Nat⦄ ⦃machine : Machine⦄ ⦃outcome : Except Fault Unit × Machine⦄,
    narrow function arguments machine = some outcome →
      wide function arguments machine = some outcome

namespace Machine

variable {narrow wide : Executor}

theorem invokeWith_within (within : narrow.Within wide) {program : Program} {function : Nat}
    {machine : Machine} {outcome : Except Fault Unit × Machine}
    (ends : invokeWith narrow program function machine = some outcome) :
    invokeWith wide program function machine = some outcome := by
  obtain ⟨inner, ran, rfl⟩ := Option.map_eq_some_iff.mp ends
  unfold invokeWith
  dsimp only
  rw [within ran, Option.map_some]

/-- A call is refused before it executes anything, or it is one execution with a report after it. -/
theorem callWith_eq (program : Program) (function : Nat) (arguments : List Value)
    (machine : Machine) :
    (∃ outcome, ∀ execute, callWith execute program function arguments machine = some outcome) ∨
      ∃ started finish, KeepsCalls machine started ∧
        ∀ execute, callWith execute program function arguments machine =
          (execute function arguments.length started).map finish := by
  unfold callWith
  by_cases many : Region.maxParameters < arguments.length
  · left
    exact ⟨_, fun execute => if_pos many⟩
  cases staged : stageArguments arguments 0 machine with
  | error fault after =>
    left
    exact ⟨_, fun execute => if_neg many⟩
  | ok _ after =>
    right
    obtain ⟨executed, started⟩ := restartCount_eq after
    have kept := (keepsCalls_stageArguments arguments 0).ok staged
    have counted : KeepsCalls after after.restartCount := by
      rw [started]
      exact ⟨rfl, rfl⟩
    exact ⟨after.restartCount, _, trans_of KeepsCalls kept counted, fun execute => if_neg many⟩

theorem callWith_within (within : narrow.Within wide) {program : Program} {function : Nat}
    {arguments : List Value} {machine : Machine} {outcome : Except Report Vector3 × Machine}
    (ends : callWith narrow program function arguments machine = some outcome) :
    callWith wide program function arguments machine = some outcome := by
  rcases callWith_eq program function arguments machine with
    ⟨refused, same⟩ | ⟨started, finish, -, same⟩
  · rw [same] at ends ⊢
    exact ends
  · rw [same] at ends ⊢
    obtain ⟨inner, ran, rfl⟩ := Option.map_eq_some_iff.mp ends
    rw [within ran, Option.map_some]

theorem perform_within (within : narrow.Within wide) {program : Program} {α : Type}
    {script : Native α} {machine : Machine} {outcome : Except Fault α × Machine}
    (ends : perform narrow program script machine = some outcome) :
    perform wide program script machine = some outcome := by
  induction script generalizing machine with
  | done value => exact ends
  | fail fault => exact ends
  | observe next inductionHypothesis => exact inductionHypothesis _ _ ends
  | change update next inductionHypothesis => exact inductionHypothesis ends
  | invoke function next inductionHypothesis =>
    unfold perform at ends ⊢
    split at ends
    · cases ends
    · next inner middle ran =>
      rw [invokeWith_within within ran]
      exact inductionHypothesis inner ends
  | call function arguments next inductionHypothesis =>
    unfold perform at ends ⊢
    split at ends
    · cases ends
    · next inner middle ran =>
      rw [callWith_within within ran]
      exact inductionHypothesis inner ends

theorem callBuiltin_within (within : narrow.Within wide) {function number arguments : Nat}
    {machine : Machine} {outcome : Except Fault Unit × Machine}
    (ends : callBuiltin narrow environment function number arguments machine = some outcome) :
    callBuiltin wide environment function number arguments machine = some outcome := by
  unfold callBuiltin at ends ⊢
  cases offered : environment.builtins.get? number with
  | none =>
    rw [offered] at ends
    exact ends
  | some builtin =>
    rw [offered] at ends
    exact perform_within within ends

theorem turn_within (within : narrow.Within wide) {index : Nat} {machine : Machine}
    {outcome : Turn × Machine}
    (ends : turn narrow environment exitDepth index machine = some outcome) :
    turn wide environment exitDepth index machine = some outcome := by
  unfold turn at ends ⊢
  cases found : environment.program.statements[index]? with
  | none =>
    rw [found] at ends
    exact ends
  | some statement =>
    rw [found] at ends
    dsimp only at ends ⊢
    cases advanced : advance environment index statement machine with
    | error fault after =>
      rw [advanced] at ends
      exact ends
    | ok flow after =>
      rw [advanced] at ends
      cases flow with
      | builtin function number arguments =>
        obtain ⟨inner, called, rfl⟩ := Option.map_eq_some_iff.mp ends
        dsimp only [follow]
        rw [callBuiltin_within within called, Option.map_some]
      | _ => exact ends

theorem run_within (within : narrow.Within wide) {budget larger index : Nat} {machine : Machine}
    {outcome : Except Fault Unit × Machine} (enough : budget ≤ larger)
    (ends : run narrow environment exitDepth budget index machine = some outcome) :
    run wide environment exitDepth larger index machine = some outcome := by
  induction budget generalizing larger index machine with
  | zero => cases ends
  | succ budget inductionHypothesis =>
    obtain ⟨more, rfl⟩ : ∃ more, larger = more + 1 := ⟨larger - 1, by omega⟩
    obtain ⟨fewer, ⟨outcome, middle⟩, same, turned, rest⟩ := run_eq_some ends
    cases same
    rw [run_succ, turn_within within turned]
    cases outcome with
    | resume next => exact inductionHypothesis (Nat.le_of_succ_le_succ enough) rest
    | stop last => exact rest

theorem Turns.within (within : narrow.Within wide) {start index : Nat}
    {machine reached : Machine}
    (turns : Turns narrow environment exitDepth start machine index reached) :
    Turns wide environment exitDepth start machine index reached := by
  induction turns with
  | start => exact .start
  | resume _ turned inductionHypothesis =>
    exact inductionHypothesis.resume (turn_within within turned)

theorem Arrives.within (within : narrow.Within wide) {start : Nat} {machine : Machine}
    {outcome : Turn × Machine}
    (arrives : Arrives narrow environment exitDepth start machine outcome) :
    Arrives wide environment exitDepth start machine outcome := by
  obtain ⟨index, reached, turns, turned⟩ := arrives
  exact ⟨index, reached, turns.within within, turn_within within turned⟩

/-- With a larger budget every run ends as it does with a smaller one. -/
theorem execute_within {budget larger : Nat} (enough : budget ≤ larger) :
    Executor.Within (Machine.execute environment budget) (Machine.execute environment larger) := by
  induction budget generalizing larger with
  | zero => exact fun _ _ _ _ ends => nomatch ends
  | succ budget inductionHypothesis =>
    intro function arguments machine outcome ends
    obtain ⟨more, rfl⟩ : ∃ more, larger = more + 1 := ⟨larger - 1, by omega⟩
    have within := inductionHypothesis (Nat.le_of_succ_le_succ enough)
    unfold Machine.execute at ends ⊢
    split at ends
    · exact ends
    · exact callBuiltin_within within ends
    · split at ends
      · exact ends
      · exact run_within within enough ends

end Machine

end Gamecode
