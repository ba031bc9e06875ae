/-
This file compares runs with the guard and runs without it. As long as no more statements have been
executed than the guard allows, both are the same step by step. The first statement beyond that ends
the guarded run with the fault of the guard, which every builtin on the way hands on, whatever the
other run goes on to do.
-/

import Gamecode.Proofs.Guard.Count
import Gamecode.Proofs.Guard.Scripts

namespace Gamecode

/-- The environment with another bound on the statements of a call, or with none. -/
def Environment.withLimit (environment : Environment) (runawayLimit : Option Nat) : Environment :=
  { environment with configuration := { environment.configuration with runawayLimit } }

/-! ### Two runs in lockstep -/

/-- How a guarded run compares to a free one, where `start` statements have been executed before.
Either the free run stays within the limit, and the guarded run is the same. Or it goes beyond, and
the guarded run fails when it has executed just as many statements as it may. -/
inductive Lockstep {β : Type} (limit start : Nat) (failure : β)
    (guarded free : Option (β × Machine)) (guardedCount freeCount : Nat) : Prop
  | within (inside : start + freeCount ≤ limit) (same : guarded = free)
      (sameCount : guardedCount = freeCount)
      (ends : ∀ value after, free = some (value, after) →
        value ≠ failure ∧ after.executed = start + freeCount)
  | beyond (exceeded : limit < start + freeCount) (full : start + guardedCount = limit)
      (fails : ∃ after, guarded = some (failure, after))

namespace Lockstep

variable {β γ : Type} {limit start guardedCount freeCount : Nat} {failure : β} {other : γ}
  {guarded free : Option (β × Machine)}

/-- Something that ends without executing a statement. -/
theorem ended {value : β} {after : Machine} (ordinary : value ≠ failure)
    (executed : after.executed = start) (inside : start ≤ limit) :
    Lockstep limit start failure (some (value, after)) (some (value, after)) 0 0 := by
  refine .within inside rfl rfl fun _ _ same => ?_
  cases same
  exact ⟨ordinary, executed⟩

/-- Something whose budget is used up at once. -/
theorem unfinished (inside : start ≤ limit) :
    Lockstep limit start failure (none : Option (β × Machine)) none 0 0 :=
  .within inside rfl rfl fun _ _ same => nomatch same

/-- Two runs stay in lockstep with what follows them, if that hands on the failure. -/
theorem bind {guardedNext freeNext : β × Machine → Option (γ × Machine)}
    {guardedRest freeRest : β × Machine → Nat}
    (first : Lockstep limit start failure guarded free guardedCount freeCount)
    (cut : ∀ after, (∃ last, guardedNext (failure, after) = some (other, last)) ∧
      guardedRest (failure, after) = 0)
    (rest : ∀ value after, value ≠ failure → after.executed ≤ limit →
      Lockstep limit after.executed other (guardedNext (value, after)) (freeNext (value, after))
        (guardedRest (value, after)) (freeRest (value, after))) :
    Lockstep limit start other (guarded.bind guardedNext) (free.bind freeNext)
      (guardedCount + guarded.elim 0 guardedRest) (freeCount + free.elim 0 freeRest) := by
  cases first with
  | beyond exceeded full fails =>
    obtain ⟨after, rfl⟩ := fails
    obtain ⟨last, nothing⟩ := cut after
    refine .beyond (Nat.lt_of_lt_of_le exceeded (by omega)) ?_ last
    rw [Option.elim_some, nothing]
    exact full
  | within inside same sameCount ends =>
    subst same sameCount
    cases guarded with
    | none => exact .within inside rfl rfl fun _ _ same => nomatch same
    | some outcome =>
      obtain ⟨value, after⟩ := outcome
      obtain ⟨ordinary, executed⟩ := ends value after rfl
      have second := rest value after ordinary (executed ▸ inside)
      rw [executed] at second
      show Lockstep limit start other (guardedNext (value, after)) (freeNext (value, after)) _ _
      cases second with
      | within inside same sameCount ends =>
        refine .within (Nat.add_assoc .. ▸ inside) same (congrArg _ sameCount)
          fun last final found => ?_
        rw [Option.elim_some, ← Nat.add_assoc]
        exact ends last final found
      | beyond exceeded full fails =>
        exact .beyond (Nat.add_assoc .. ▸ exceeded) (Nat.add_assoc .. ▸ full) fails

/-- What is done at the end of both runs keeps them in lockstep, if it neither hides nor makes up
the failure and counts nothing. -/
theorem map {finish : β × Machine → γ × Machine}
    (first : Lockstep limit start failure guarded free guardedCount freeCount)
    (cut : ∀ after, (finish (failure, after)).1 = other)
    (rest : ∀ value after, value ≠ failure →
      (finish (value, after)).1 ≠ other ∧ (finish (value, after)).2.executed = after.executed) :
    Lockstep limit start other (guarded.map finish) (free.map finish) guardedCount freeCount := by
  cases first with
  | within inside same sameCount ends =>
    refine .within inside (congrArg _ same) sameCount fun value last found => ?_
    obtain ⟨⟨inner, after⟩, ran, finished⟩ := Option.map_eq_some_iff.mp found
    obtain ⟨ordinary, executed⟩ := ends inner after ran
    obtain ⟨stillOrdinary, kept⟩ := rest inner after ordinary
    rw [finished] at stillOrdinary kept
    exact ⟨stillOrdinary, kept.trans executed⟩
  | beyond exceeded full fails =>
    obtain ⟨after, rfl⟩ := fails
    refine .beyond exceeded full ⟨(finish (failure, after)).2, ?_⟩
    rw [Option.map_some, ← cut after]

/-- Statements that both runs have executed before may be counted with them. -/
theorem after {spent : Nat}
    (rest : Lockstep limit (start + spent) failure guarded free guardedCount freeCount) :
    Lockstep limit start failure guarded free (spent + guardedCount) (spent + freeCount) := by
  cases rest with
  | within inside same sameCount ends =>
    refine .within (Nat.add_assoc .. ▸ inside) same (congrArg _ sameCount)
      fun value last found => ?_
    rw [← Nat.add_assoc]
    exact ends value last found
  | beyond exceeded full fails =>
    exact .beyond (Nat.add_assoc .. ▸ exceeded) (Nat.add_assoc .. ▸ full) fails

/-- The guarded run fails, or the count has come no further than it may. -/
theorem executed_of_guarded {value : β} {last : Machine}
    (lockstep : Lockstep limit start failure guarded free guardedCount freeCount)
    (ends : guarded = some (value, last)) :
    value = failure ∨ start ≤ last.executed ∧ last.executed ≤ limit := by
  cases lockstep with
  | within inside same sameCount counted =>
    obtain ⟨_, executed⟩ := counted value last (same ▸ ends)
    exact .inr ⟨executed ▸ Nat.le_add_right _ _, executed ▸ inside⟩
  | beyond exceeded full fails =>
    obtain ⟨after, failed⟩ := fails
    exact .inl (congrArg Prod.fst (Option.some.inj (ends.symm.trans failed)))

/-- The guarded run fails exactly where the free one exceeds the limit. -/
theorem lt_iff_fails (lockstep : Lockstep limit start failure guarded free guardedCount freeCount) :
    limit < start + freeCount ↔ ∃ after, guarded = some (failure, after) := by
  cases lockstep with
  | within inside same sameCount ends =>
    refine iff_of_false (Nat.not_lt.mpr inside) ?_
    rintro ⟨after, failed⟩
    exact (ends failure after (same ▸ failed)).1 rfl
  | beyond exceeded full fails => exact iff_of_true exceeded fails

theorem eq_of_le (lockstep : Lockstep limit start failure guarded free guardedCount freeCount)
    (inside : start + freeCount ≤ limit) : guarded = free := by
  cases lockstep with
  | within _ same _ _ => exact same
  | beyond exceeded _ _ => exact absurd exceeded (Nat.not_lt.mpr inside)

/-- The guarded run never executes more than it may. -/
theorem guarded_le (first : Lockstep limit start failure guarded free guardedCount freeCount) :
    start + guardedCount ≤ limit := by
  cases first with
  | within inside same sameCount ends => exact sameCount ▸ inside
  | beyond exceeded full fails => exact Nat.le_of_eq full

end Lockstep

/-- Whatever the two executors run, from a machine that may execute more, they run in lockstep. -/
def Executor.Paced (limit : Nat) (guarded free : Executor)
    (guardedMeter freeMeter : Meter) : Prop :=
  ∀ (function arguments : Nat) ⦃machine : Machine⦄, machine.executed ≤ limit →
    Lockstep limit machine.executed (.error (.runaway limit))
      (guarded function arguments machine) (free function arguments machine)
      (guardedMeter function arguments machine) (freeMeter function arguments machine)

namespace Machine

/-! ### What keeps the count -/

/-- The same number of statements has been executed. -/
def SameCount (before after : Machine) : Prop :=
  after.executed = before.executed

instance : IsPreorder Machine SameCount where
  refl _ := rfl
  trans _ _ _ first second := Eq.trans second first

instance : AllowsEntries SameCount where
  globals _ := rfl
  entities _ := rfl
  stack _ _ _ := rfl
  profiled _ _ := rfl

theorem executed_unwindTo (depth : Nat) (machine : Machine) :
    (machine.unwindTo depth).2.executed = machine.executed :=
  @unwindTo_of_keeps SameCount _ keeps_leave (fun _ => rfl) depth machine

/-- The bound plays no part in what a statement does. -/
theorem step_withLimit (environment : Environment) (runawayLimit : Option Nat) (index : Nat)
    (statement : Statement) :
    step (environment.withLimit runawayLimit).program
        (environment.withLimit runawayLimit).configuration index statement =
      step environment.program environment.configuration index statement := rfl

theorem sameCount_step (program : Program) (configuration : Configuration) (index : Nat)
    (statement : Statement) : (step program configuration index statement).Keeps SameCount :=
  keeps_anyStep program configuration index statement

/-! ### Noting a statement -/

/-- The machine that has taken note of a statement. -/
def noted (program : Program) (index : Nat) (statement : Statement) (machine : Machine) : Machine :=
  { machine with
    statement := some index
    executed := machine.executed + 1
    profile :=
      match machine.currentFunction? with
      | some function => machine.profile.recordStatement function
      | none => machine.profile
    traced :=
      if machine.tracing then machine.traced.push (Listing.statement program index statement)
      else machine.traced }

/-- Only the bound decides whether a statement is noted. -/
theorem begin_eq (environment : Environment) (index : Nat) (statement : Statement)
    (machine : Machine) :
    begin environment index statement machine =
      if environment.configuration.runawayLimit.any (· < machine.executed + 1) then
        .error (.runaway (environment.configuration.runawayLimit.getD 0))
          { machine with statement := some index, executed := machine.executed + 1 }
      else .ok () (noted environment.program index statement machine) := by
  have same : currentFunction?
      { machine with statement := some index, executed := machine.executed + 1 } =
        machine.currentFunction? := rfl
  unfold begin noted
  dsimp only
  rw [same]
  cases machine.currentFunction? <;> cases listed : machine.tracing <;>
    simp only [if_true, if_false, Bool.false_eq_true]

/-- Below the bound a statement is noted, and so it is without a bound. -/
theorem begin_withLimit_of_all {environment : Environment} {runawayLimit : Option Nat} {index : Nat}
    {statement : Statement} {machine : Machine}
    (room : ∀ limit, runawayLimit = some limit → machine.executed < limit) :
    begin (environment.withLimit runawayLimit) index statement machine =
      .ok () (noted environment.program index statement machine) := by
  rw [begin_eq]
  refine if_neg ?_
  show ¬ runawayLimit.any (· < machine.executed + 1) = true
  cases runawayLimit with
  | none => exact Bool.false_ne_true
  | some limit =>
    have enough := room limit rfl
    rw [Option.any_some, decide_eq_true_eq]
    omega

/-- At the bound the guard reports a runaway program. -/
theorem begin_withLimit_of_le {environment : Environment} {limit index : Nat}
    {statement : Statement} {machine : Machine} (full : limit ≤ machine.executed) :
    begin (environment.withLimit (some limit)) index statement machine =
      .error (.runaway limit)
        { machine with statement := some index, executed := machine.executed + 1 } := by
  rw [begin_eq]
  refine if_pos ?_
  show (some limit).any (· < machine.executed + 1) = true
  rw [Option.any_some, decide_eq_true_eq]
  omega

/-! ### Scripts -/

section Scripts

variable {α : Type} {limit : Nat} {guarded free : Executor} {guardedMeter freeMeter : Meter}
  {environment : Environment} {program : Program}

theorem perform_invoke (execute : Executor) (program : Program) (function : Nat)
    (next : Except Fault Unit → Native α) (machine : Machine) :
    perform execute program (.invoke function next) machine =
      (invokeWith execute program function machine).bind fun (result, after) =>
        perform execute program (next result) after := by
  rw [perform]
  cases invokeWith execute program function machine <;> rfl

theorem perform_call (execute : Executor) (program : Program) (function : Nat)
    (arguments : List Value) (next : Except Report Vector3 → Native α) (machine : Machine) :
    perform execute program (.call function arguments next) machine =
      (callWith execute program function arguments machine).bind fun (result, after) =>
        perform execute program (next result) after := by
  rw [perform]
  cases callWith execute program function arguments machine <;> rfl

/-- A script that only hands on a fault does not depend on how functions are run. -/
theorem exists_perform_of_failsWith {fault : Fault} {script : Native α}
    (fails : script.FailsWith fault) (program : Program) (machine : Machine) :
    ∃ after, after.executed = machine.executed ∧ ∀ execute meter,
      perform execute program script machine = some (.error fault, after) ∧
        performCount execute meter program script machine = 0 := by
  induction script generalizing machine with
  | done value | invoke function next | call function arguments next => exact fails.elim
  | fail other =>
    cases fails
    exact ⟨machine, rfl, fun _ _ => ⟨rfl, rfl⟩⟩
  | observe next inductionHypothesis =>
    exact inductionHypothesis program machine (fails program machine) machine
  | change update next inductionHypothesis =>
    obtain ⟨after, executed, same⟩ := inductionHypothesis fails.2 (update machine)
    exact ⟨after, executed.trans (fails.1 machine), same⟩

theorem lockstep_invokeWith (paced : guarded.Paced limit free guardedMeter freeMeter)
    (program : Program) (function : Nat) {machine : Machine} (inside : machine.executed ≤ limit) :
    Lockstep limit machine.executed (.error (.runaway limit))
      (invokeWith guarded program function machine) (invokeWith free program function machine)
      (invokeCount guardedMeter program function machine)
      (invokeCount freeMeter program function machine) := by
  refine (paced function _ inside).map (fun _ => rfl) fun result after ordinary => ⟨ordinary, ?_⟩
  cases result with
  | ok value => rfl
  | error fault => exact executed_unwindTo machine.depth after

/-- A script that relays faults runs the same functions in lockstep. -/
theorem lockstep_perform (paced : guarded.Paced limit free guardedMeter freeMeter)
    (program : Program) {script : Native α} (relays : script.Relays) (machine : Machine)
    (inside : machine.executed ≤ limit) :
    Lockstep limit machine.executed (.error (.runaway limit))
      (perform guarded program script machine) (perform free program script machine)
      (performCount guarded guardedMeter program script machine)
      (performCount free freeMeter program script machine) := by
  induction script generalizing machine with
  | done value => exact .ended nofun rfl inside
  | fail fault =>
    refine .ended (fun same => ?_) rfl inside
    exact relays.ne_runaway limit (Except.error.inj same)
  | observe next inductionHypothesis =>
    exact inductionHypothesis program machine (relays program machine) machine inside
  | change update next inductionHypothesis =>
    have kept := relays.1 machine
    rw [← kept] at inside ⊢
    exact inductionHypothesis relays.2 _ inside
  | invoke function next inductionHypothesis =>
    obtain ⟨goesOn, handsOn⟩ := relays
    rw [perform_invoke, perform_invoke]
    refine (lockstep_invokeWith paced program function inside).bind (fun after => ?_)
      fun result after ordinary inside => ?_
    · obtain ⟨last, _, same⟩ := exists_perform_of_failsWith (handsOn (.runaway limit)) program after
      obtain ⟨performed, nothing⟩ := same guarded guardedMeter
      exact ⟨⟨last, performed⟩, nothing⟩
    · cases result with
      | ok value => exact inductionHypothesis (.ok value) goesOn after inside
      | error fault =>
        obtain ⟨last, executed, same⟩ := exists_perform_of_failsWith (handsOn fault) program after
        dsimp only
        rw [(same guarded guardedMeter).1, (same guarded guardedMeter).2, (same free freeMeter).1,
          (same free freeMeter).2]
        exact .ended (fun same => ordinary (congrArg _ (Except.error.inj same))) executed inside
  | call function arguments next => exact relays.elim

theorem lockstep_callBuiltin (paced : guarded.Paced limit free guardedMeter freeMeter)
    (relays : environment.builtins.Every Native.Relays) (function number arguments : Nat)
    {machine : Machine} (inside : machine.executed ≤ limit) :
    Lockstep limit machine.executed (.error (.runaway limit))
      (callBuiltin guarded (environment.withLimit (some limit)) function number arguments machine)
      (callBuiltin free (environment.withLimit none) function number arguments machine)
      (callBuiltinCount guarded guardedMeter (environment.withLimit (some limit)) function number
        arguments machine)
      (callBuiltinCount free freeMeter (environment.withLimit none) function number arguments
        machine) := by
  unfold callBuiltin callBuiltinCount
  dsimp only [Environment.withLimit]
  cases offered : environment.builtins.get? number with
  | none => exact .ended nofun rfl inside
  | some builtin =>
    exact lockstep_perform paced environment.program (relays number builtin offered)
      { machine with
        profile := machine.profile.recordCall function
        argumentCount := arguments } inside

end Scripts

/-! ### Turns and runs -/

section Runs

variable {limit : Nat} {guarded free : Executor} {guardedMeter freeMeter : Meter}
  {environment : Environment}

/-- What follows from a statement is in lockstep. -/
theorem lockstep_follow (paced : guarded.Paced limit free guardedMeter freeMeter)
    (relays : environment.builtins.Every Native.Relays) (exitDepth index : Nat) (flow : Flow)
    {machine : Machine} (inside : machine.executed ≤ limit) :
    Lockstep limit machine.executed (.stop (.error (.runaway limit)))
      (follow guarded (environment.withLimit (some limit)) exitDepth index flow machine)
      (follow free (environment.withLimit none) exitDepth index flow machine)
      (followCount guarded guardedMeter (environment.withLimit (some limit)) flow machine)
      (followCount free freeMeter (environment.withLimit none) flow machine) := by
  cases flow with
  | next | jump target => exact .ended nofun rfl inside
  | builtin function number arguments =>
    refine (lockstep_callBuiltin paced relays function number arguments inside).map
      (fun _ => rfl) fun result after ordinary => ⟨?_, rfl⟩
    cases result with
    | ok value => exact nofun
    | error fault => exact fun same => ordinary (Turn.stop.inj same)
  | leave =>
    cases left : leave machine with
    | error fault after =>
      have kept : SameCount machine after := keeps_leave.error left
      unfold follow returnFrom followCount
      dsimp only
      rw [left]
      refine .ended (fun same => ?_) kept inside
      exact (orderly_leave left).ne_runaway limit (Except.error.inj (Turn.stop.inj same))
    | ok returnTo after =>
      have kept : SameCount machine after := keeps_leave.ok left
      unfold follow returnFrom followCount
      dsimp only
      rw [left]
      refine .ended ?_ kept inside
      unfold afterReturn
      split
      · exact nofun
      · split <;> exact nofun

/-- A turn below the bound is the same with the guard and without it, up to what a builtin runs. -/
theorem lockstep_turn (paced : guarded.Paced limit free guardedMeter freeMeter)
    (relays : environment.builtins.Every Native.Relays) (exitDepth index : Nat)
    {machine : Machine} (inside : machine.executed ≤ limit) :
    Lockstep limit machine.executed (.stop (.error (.runaway limit)))
      (turn guarded (environment.withLimit (some limit)) exitDepth index machine)
      (turn free (environment.withLimit none) exitDepth index machine)
      (turnCount guarded guardedMeter (environment.withLimit (some limit)) index machine)
      (turnCount free freeMeter (environment.withLimit none) index machine) := by
  cases found : environment.program.statements[index]? with
  | none =>
    have missing (runawayLimit : Option Nat) :
        (environment.withLimit runawayLimit).program.statements[index]? = none := found
    rw [turn_of_missing (missing _), turn_of_missing (missing _), turnCount_of_missing (missing _),
      turnCount_of_missing (missing _)]
    exact .ended nofun rfl inside
  | some statement =>
    have present (runawayLimit : Option Nat) :
        (environment.withLimit runawayLimit).program.statements[index]? = some statement := found
    have begun : begin (environment.withLimit none) index statement machine =
        .ok () (noted environment.program index statement machine) :=
      begin_withLimit_of_all nofun
    by_cases room : machine.executed < limit
    · have sameBegun : begin (environment.withLimit (some limit)) index statement machine =
          .ok () (noted environment.program index statement machine) :=
        begin_withLimit_of_all fun bound same => Option.some.inj same ▸ room
      rw [turn_of_begun (present _) begun, turn_of_begun (present _) sameBegun,
        turnCount_of_begun (present _) begun, turnCount_of_begun (present _) sameBegun,
        step_withLimit, step_withLimit]
      refine .after ?_
      cases stepped : step environment.program environment.configuration index statement
          (noted environment.program index statement machine) with
      | error fault after =>
        have kept : after.executed = machine.executed + 1 :=
          (sameCount_step _ _ _ _).error stepped
        refine .ended (fun same => ?_) kept room
        exact (orderly_step _ _ _ _ stepped).ne_runaway limit
          (Except.error.inj (Turn.stop.inj same))
      | ok flow after =>
        have kept : after.executed = machine.executed + 1 :=
          (sameCount_step _ _ _ _).ok stepped
        have rest := lockstep_follow paced relays exitDepth index flow
          (Nat.le_trans (Nat.le_of_eq kept) room)
        rw [kept] at rest
        exact rest
    · have refused : begin (environment.withLimit (some limit)) index statement machine =
          .error (.runaway limit) _ := begin_withLimit_of_le (Nat.not_lt.mp room)
      rw [turn_of_refused (present _) refused, turnCount_of_refused (present _) refused,
        turnCount_of_begun (present _) begun]
      exact .beyond (by omega) (by omega) ⟨_, rfl⟩

/-- A run is in lockstep, turn by turn. -/
theorem lockstep_run (paced : guarded.Paced limit free guardedMeter freeMeter)
    (relays : environment.builtins.Every Native.Relays) (exitDepth budget index : Nat)
    {machine : Machine} (inside : machine.executed ≤ limit) :
    Lockstep limit machine.executed (.error (.runaway limit))
      (run guarded (environment.withLimit (some limit)) exitDepth budget index machine)
      (run free (environment.withLimit none) exitDepth budget index machine)
      (runCount guarded guardedMeter (environment.withLimit (some limit)) exitDepth budget index
        machine)
      (runCount free freeMeter (environment.withLimit none) exitDepth budget index machine) := by
  induction budget generalizing index machine with
  | zero => exact .unfinished inside
  | succ budget inductionHypothesis =>
    rw [run_succ, run_succ]
    refine (lockstep_turn paced relays exitDepth index inside).bind (fun after => ⟨⟨_, rfl⟩, rfl⟩)
      fun outcome after ordinary inside => ?_
    cases outcome with
    | resume next => exact inductionHypothesis next inside
    | stop result =>
      exact .ended (fun same => ordinary (congrArg Turn.stop same)) rfl inside

/-- With the same budget, a function runs in lockstep with the guard and without it. -/
theorem paced_execute (limit : Nat) (relays : environment.builtins.Every Native.Relays)
    (budget : Nat) :
    Executor.Paced limit (execute (environment.withLimit (some limit)) budget)
      (execute (environment.withLimit none) budget)
      (executeCount (environment.withLimit (some limit)) budget)
      (executeCount (environment.withLimit none) budget) := by
  induction budget with
  | zero => exact fun _ _ _ inside => .unfinished inside
  | succ budget paced =>
    intro function arguments machine inside
    unfold execute executeCount
    dsimp only [Environment.withLimit]
    cases resolved : resolve environment.program function with
    | error fault =>
      have ordinary := orderly_resolve environment.program function
      rw [resolved] at ordinary
      refine .ended (fun same => ?_) rfl inside
      exact ordinary.ne_runaway limit (Except.error.inj same)
    | ok body =>
      cases body with
      | builtin number => exact lockstep_callBuiltin paced relays function number arguments inside
      | statements first =>
        dsimp only
        cases entered : enter environment.program function machine with
        | error fault after =>
          have kept : SameCount machine after := (keeps_enter _ _).error entered
          refine .ended (fun same => ?_) kept inside
          exact (orderly_enter _ _ entered).ne_runaway limit (Except.error.inj same)
        | ok first after =>
          have kept : SameCount machine after := (keeps_enter _ _).ok entered
          have rest := lockstep_run paced relays machine.depth (budget + 1) first
            (Nat.le_trans (Nat.le_of_eq kept) inside)
          rw [show after.executed = machine.executed from kept] at rest
          exact rest

end Runs

end Machine

end Gamecode
