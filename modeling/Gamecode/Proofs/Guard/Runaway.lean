/-
This file proves what the guard against runaway programs promises. A guarded call always comes to
its end and never executes more statements than it may. It reports a runaway program exactly where
the call without the guard would execute more or never end; otherwise the guard changes nothing.
-/

import Gamecode.Proofs.Guard.Lockstep
import Gamecode.Proofs.Image.RoundTrip

namespace Gamecode

namespace Machine

/-- The function comes to its end, with a result or with a fault, if the budget is large enough. -/
def Ends (environment : Environment) (function arguments : Nat) (machine : Machine) : Prop :=
  ∃ budget outcome, execute environment budget function arguments machine = some outcome

/-! ### What comes to its end without a statement -/

section Ends

variable {environment : Environment} {function arguments : Nat} {machine : Machine}

theorem ends_of_resolve_eq_error {fault : Fault}
    (resolved : resolve environment.program function = .error fault) :
    Ends environment function arguments machine := by
  refine ⟨1, (.error fault, machine), ?_⟩
  unfold execute
  rw [resolved]

theorem exists_callBuiltin_of_perform {number : Nat}
    (performs : ∀ builtin, environment.builtins.get? number = some builtin →
      ∃ budget outcome, perform (execute environment budget) environment.program builtin.script
        { machine with
          profile := machine.profile.recordCall function
          argumentCount := arguments } = some outcome) :
    ∃ budget outcome, callBuiltin (execute environment budget) environment function number arguments
      machine = some outcome := by
  unfold callBuiltin
  cases offered : environment.builtins.get? number with
  | none => exact ⟨0, _, rfl⟩
  | some builtin => exact performs builtin offered

theorem ends_of_callBuiltin {number : Nat}
    (resolved : resolve environment.program function = .ok (.builtin number))
    (calls : ∃ budget outcome, callBuiltin (execute environment budget) environment function number
      arguments machine = some outcome) : Ends environment function arguments machine := by
  obtain ⟨budget, outcome, called⟩ := calls
  refine ⟨budget + 1, outcome, ?_⟩
  unfold execute
  rw [resolved]
  exact called

/-- A function with statements ends if the run does that starts once it is entered. -/
theorem ends_of_run {first : Nat}
    (resolved : resolve environment.program function = .ok (.statements first))
    (runs : ∀ start entered, enter environment.program function machine = .ok start entered →
      ∃ budget outcome, run (execute environment budget) environment machine.depth budget start
        entered = some outcome) : Ends environment function arguments machine := by
  cases entering : enter environment.program function machine with
  | error fault after =>
    refine ⟨1, (.error fault, after), ?_⟩
    unfold execute
    rw [resolved]
    dsimp only
    rw [entering]
  | ok start entered =>
    obtain ⟨budget, outcome, ran⟩ := runs start entered entering
    refine ⟨budget + 1, outcome, ?_⟩
    unfold execute
    rw [resolved]
    dsimp only
    rw [entering]
    exact run_within (execute_within (Nat.le_refl budget)) (Nat.le_succ budget) ran

/-- A function ends if its statements do, or the builtin that it stands for. -/
theorem ends_of_body
    (statements : ∀ first, resolve environment.program function = .ok (.statements first) →
      Ends environment function arguments machine)
    (builtins : ∀ number, resolve environment.program function = .ok (.builtin number) →
      ∃ budget outcome, callBuiltin (execute environment budget) environment function number
        arguments machine = some outcome) : Ends environment function arguments machine := by
  cases resolved : resolve environment.program function with
  | error fault => exact ends_of_resolve_eq_error resolved
  | ok body =>
    cases body with
    | statements first => exact statements first resolved
    | builtin number => exact ends_of_callBuiltin resolved (builtins number resolved)

/-- Where a function ends, invoking it does. -/
theorem exists_invokeWith
    (runs : Ends environment function
      ((environment.program.functions[function]?.map Function.parameterCount).getD 0) machine) :
    ∃ budget outcome, invokeWith (execute environment budget) environment.program function
      machine = some outcome := by
  obtain ⟨budget, inner, ran⟩ := runs
  refine ⟨budget, ?_⟩
  unfold invokeWith
  dsimp only
  rw [ran]
  exact ⟨_, rfl⟩

end Ends

/-! ### Guarded runs come to their end -/

/-- Under the guard, functions with statements end if they start at a count of `start` or later. -/
def EndsFrom (environment : Environment) (limit start : Nat) : Prop :=
  ∀ ⦃function first arguments : Nat⦄ ⦃machine : Machine⦄,
    resolve environment.program function = .ok (.statements first) →
    start ≤ machine.executed → machine.executed ≤ limit →
      Ends (environment.withLimit (some limit)) function arguments machine

section Guarded

variable {environment : Environment} {limit start : Nat}

/-- A script that settles comes to its end, if all functions with statements do that it runs. These
start where the script did or further on, as nothing sets the count back. -/
theorem exists_perform (relays : environment.builtins.Every Native.Relays)
    (statements : EndsFrom environment limit start) {script : Native Unit} {machine : Machine}
    (settles : script.Settles environment.program environment.builtins machine)
    (relay : script.Relays) (later : start ≤ machine.executed) (inside : machine.executed ≤ limit) :
    ∃ budget outcome, perform (execute (environment.withLimit (some limit)) budget)
      environment.program script machine = some outcome := by
  induction settles with
  | done => exact ⟨0, _, rfl⟩
  | fail fault => exact ⟨0, _, rfl⟩
  | @observe machine next _ inductionHypothesis =>
    exact inductionHypothesis (relay environment.program machine) later inside
  | @change machine update next _ inductionHypothesis =>
    have kept := relay.1 machine
    exact inductionHypothesis relay.2 (kept ▸ later) (kept ▸ inside)
  | @invoke machine function next nested _ nestedHypothesis inductionHypothesis =>
    obtain ⟨goesOn, handsOn⟩ := relay
    have runs : Ends (environment.withLimit (some limit)) function
        ((environment.program.functions[function]?.map Function.parameterCount).getD 0) machine :=
      ends_of_body (fun first resolved => statements resolved later inside) fun number resolved =>
        exists_callBuiltin_of_perform fun builtin offered =>
          nestedHypothesis number builtin resolved offered (relays number builtin offered) later
            inside
    obtain ⟨budget, ⟨result, after⟩, invoked⟩ := exists_invokeWith runs
    change invokeWith _ environment.program _ _ = _ at invoked
    have counted := (lockstep_invokeWith (paced_execute limit relays budget) environment.program
      function inside).executed_of_guarded invoked
    cases result with
    | error fault =>
      obtain ⟨last, _, same⟩ :=
        exists_perform_of_failsWith (handsOn fault) environment.program after
      refine ⟨budget, (.error fault, last), ?_⟩
      rw [perform_invoke, invoked]
      exact (same _ fun _ _ _ => 0).1
    | ok value =>
      obtain ⟨fails, _⟩ | ⟨further, inside⟩ := counted
      obtain ⟨larger, outcome, performed⟩ :=
        inductionHypothesis after goesOn (Nat.le_trans later further) inside
      refine ⟨max budget larger, outcome, ?_⟩
      rw [perform_invoke,
        invokeWith_within (execute_within (Nat.le_max_left budget larger)) invoked]
      exact perform_within (execute_within (Nat.le_max_right budget larger)) performed

variable (relays : environment.builtins.Every Native.Relays)
  (settles : environment.builtins.Every fun script =>
    ∀ machine, script.Settles environment.program environment.builtins machine)

include relays settles

theorem exists_callBuiltin (statements : EndsFrom environment limit start)
    (function number arguments : Nat) {machine : Machine} (later : start ≤ machine.executed)
    (inside : machine.executed ≤ limit) :
    ∃ budget outcome, callBuiltin (execute (environment.withLimit (some limit)) budget)
      (environment.withLimit (some limit)) function number arguments machine = some outcome :=
  exists_callBuiltin_of_perform fun builtin offered =>
    exists_perform relays statements (settles number builtin offered _)
      (relays number builtin offered) later inside

theorem exists_follow (statements : EndsFrom environment limit start) (exitDepth index : Nat)
    (flow : Flow) {machine : Machine} (later : start ≤ machine.executed)
    (inside : machine.executed ≤ limit) :
    ∃ budget outcome, follow (execute (environment.withLimit (some limit)) budget)
      (environment.withLimit (some limit)) exitDepth index flow machine = some outcome := by
  cases flow with
  | next | jump target | leave => exact ⟨0, _, rfl⟩
  | builtin function number arguments =>
    obtain ⟨budget, outcome, called⟩ :=
      exists_callBuiltin relays settles statements function number arguments later inside
    refine ⟨budget, (afterBuiltin index outcome.1, outcome.2), ?_⟩
    dsimp only [follow]
    rw [called]
    rfl

/-- A turn comes to its end if functions do that start after its statement; and where the run goes
on after it, a statement was executed. -/
theorem exists_turn (exitDepth index : Nat) (machine : Machine)
    (statements : EndsFrom environment limit (machine.executed + 1)) :
    ∃ budget outcome after,
      turn (execute (environment.withLimit (some limit)) budget)
        (environment.withLimit (some limit)) exitDepth index machine = some (outcome, after) ∧
      ∀ next, outcome = .resume next →
        machine.executed + 1 ≤ after.executed ∧ after.executed ≤ limit := by
  cases found : environment.program.statements[index]? with
  | none =>
    have missing : (environment.withLimit (some limit)).program.statements[index]? = none := found
    exact ⟨0, _, _, turn_of_missing missing, nofun⟩
  | some statement =>
    have present : (environment.withLimit (some limit)).program.statements[index]? =
        some statement := found
    by_cases room : machine.executed < limit
    · have begun : begin (environment.withLimit (some limit)) index statement machine =
          .ok () (noted environment.program index statement machine) :=
        begin_withLimit_of_all fun bound same => Option.some.inj same ▸ room
      cases stepped : step environment.program environment.configuration index statement
          (noted environment.program index statement machine) with
      | error fault after =>
        refine ⟨0, .stop (.error fault), after, ?_, nofun⟩
        rw [turn_of_begun present begun, step_withLimit, stepped]
      | ok flow after =>
        have kept : after.executed = machine.executed + 1 := (sameCount_step _ _ _ _).ok stepped
        have afterInside : after.executed ≤ limit := Nat.le_trans (Nat.le_of_eq kept) room
        obtain ⟨budget, ⟨outcome, last⟩, followed⟩ := exists_follow relays settles statements
          exitDepth index flow (Nat.le_of_eq kept.symm) afterInside
        refine ⟨budget, outcome, last, ?_, fun next goesOn => ?_⟩
        · rw [turn_of_begun present begun, step_withLimit, stepped]
          exact followed
        · have counted :=
            (lockstep_follow (paced_execute limit relays budget) relays exitDepth index
            flow afterInside).executed_of_guarded followed
          rw [goesOn, kept] at counted
          rcases counted with fails | bounds
          · cases fails
          · exact bounds
    · have refused : begin (environment.withLimit (some limit)) index statement machine =
          .error (.runaway limit) _ := begin_withLimit_of_le (Nat.not_lt.mp room)
      exact ⟨0, _, _, turn_of_refused present refused, nofun⟩

/-- A guarded run comes to its end. Every turn leaves fewer statements to execute, to the run itself
and to the runs that builtins start in it. -/
theorem exists_run (exitDepth index : Nat) {machine : Machine} (inside : machine.executed ≤ limit) :
    ∃ budget outcome, run (execute (environment.withLimit (some limit)) budget)
      (environment.withLimit (some limit)) exitDepth budget index machine = some outcome := by
  induction remaining : limit - machine.executed using Nat.strongRecOn
    generalizing exitDepth index machine with
  | ind remaining shorter =>
    obtain ⟨budget, outcome, after, turned, goesOn⟩ :=
      exists_turn relays settles exitDepth index machine fun function first arguments later resolved
          further stillInside => by
        refine ends_of_run resolved fun start entered entering => ?_
        have kept : SameCount later entered := (keeps_enter _ _).ok entering
        have same : entered.executed = later.executed := kept
        exact shorter (limit - entered.executed) (by omega) later.depth start (by omega) rfl
    cases outcome with
    | stop result =>
      refine ⟨budget + 1, (result, after), ?_⟩
      rw [run_succ, turn_within (execute_within (Nat.le_succ budget)) turned]
      rfl
    | resume next =>
      obtain ⟨further, afterInside⟩ := goesOn next rfl
      obtain ⟨larger, last, ran⟩ :=
        shorter (limit - after.executed) (by omega) exitDepth next afterInside rfl
      have small : budget ≤ max budget larger + 1 := by omega
      have large : larger ≤ max budget larger + 1 := by omega
      refine ⟨max budget larger + 1, last, ?_⟩
      rw [run_succ, turn_within (execute_within small) turned]
      exact run_within (execute_within large) (Nat.le_max_right budget larger) ran

/-- Whatever a guarded call runs comes to its end. -/
theorem ends_of_guarded (function arguments : Nat) {machine : Machine}
    (inside : machine.executed ≤ limit) :
    Ends (environment.withLimit (some limit)) function arguments machine := by
  have statements : EndsFrom environment limit 0 := by
    intro function first arguments machine resolved _ inside
    refine ends_of_run resolved fun start entered entering => ?_
    have kept : SameCount machine entered := (keeps_enter _ _).ok entering
    exact exists_run relays settles _ _ (Nat.le_trans (Nat.le_of_eq kept) inside)
  exact ends_of_body (fun first resolved => statements resolved (Nat.zero_le _) inside)
    fun number resolved => exists_callBuiltin relays settles statements function number arguments
      (Nat.zero_le machine.executed) inside

end Guarded

/-! ### Calls of the host -/

/-- What a call of the host makes of the end of its run. -/
def conclude (program : Program) (started : Machine) :
    Except Fault Unit × Machine → Except Report Vector3 × Machine
  | (.ok _, after) => (.ok after.returned, { after with statement := started.statement })
  | (.error fault, after) =>
    (.error (after.report program fault),
      { (after.unwindTo started.depth).2 with statement := started.statement })

/-- Only a run that the guard stopped is reported as a runaway program. -/
theorem eq_of_conclude {program : Program} {started after : Machine} {report : Report}
    {outcome : Except Fault Unit × Machine}
    (concluded : conclude program started outcome = (.error report, after)) :
    ∃ reached, outcome = (.error report.fault, reached) := by
  obtain ⟨_ | _, reached⟩ := outcome <;> cases concluded
  exact ⟨reached, rfl⟩

/-- A call from an idle machine is refused before anything is executed, and not by the guard, or it
is a run from a machine whose count is zero. -/
theorem callWith_of_idle (program : Program) (function : Nat) (arguments : List Value)
    {machine : Machine} (idle : machine.depth = 0) :
    (∃ fault after, Fault.Ordinary fault ∧
      (∀ execute, callWith execute program function arguments machine =
        some (.error (.detached fault), after)) ∧
      ∀ meter, callWithCount meter function arguments machine = 0) ∨
    ∃ started, started.executed = 0 ∧
      (∀ execute, callWith execute program function arguments machine =
        (execute function arguments.length started).map (conclude program started)) ∧
      ∀ meter, callWithCount meter function arguments machine =
        meter function arguments.length started := by
  by_cases many : Region.maxParameters < arguments.length
  · left
    exact ⟨.tooManyArguments arguments.length, machine, trivial, fun _ => if_pos many,
      fun _ => if_pos many⟩
  cases staged : stageArguments arguments 0 machine with
  | error fault after =>
    left
    refine ⟨fault, after, orderly_stageArguments arguments 0 staged, fun execute => ?_,
      fun meter => ?_⟩
    · unfold callWith
      rw [if_neg many, staged]
    · unfold callWithCount
      rw [if_neg many, staged]
  | ok _ after =>
    right
    have sameDepth := ((keepsCalls_stageArguments arguments 0).ok staged).depth
    have started : after.restartCount.executed = 0 := by
      unfold restartCount
      rw [if_pos (sameDepth.trans idle)]
    refine ⟨after.restartCount, started, fun execute => ?_, fun meter => ?_⟩
    · unfold callWith
      rw [if_neg many, staged]
      refine congrArg (fun finish => Option.map finish _) (funext fun outcome => ?_)
      obtain ⟨_ | _, _⟩ := outcome <;> rfl
    · unfold callWithCount
      rw [if_neg many, staged]

section Calls

variable {environment : Environment} (limit : Nat)
  (relays : environment.builtins.Every Native.Relays)

include relays

/-- With every budget a guarded call either is the same as the one without the guard, which then has
not exceeded the limit, or it reports a runaway program, and the other one has exceeded it. -/
theorem call_cases (budget function : Nat) (arguments : List Value) {machine : Machine}
    (idle : machine.depth = 0) :
    callCount (environment.withLimit (some limit)) budget function arguments machine ≤ limit ∧
      (callCount (environment.withLimit none) budget function arguments machine ≤ limit ∧
          call (environment.withLimit (some limit)) budget function arguments machine =
            call (environment.withLimit none) budget function arguments machine ∧
          (∀ report after, call (environment.withLimit (some limit)) budget function arguments
            machine = some (.error report, after) → report.fault ≠ .runaway limit) ∨
        limit < callCount (environment.withLimit none) budget function arguments machine ∧
          ∃ report after, call (environment.withLimit (some limit)) budget function arguments
            machine = some (.error report, after) ∧ report.fault = .runaway limit) := by
  unfold call callCount
  rcases callWith_of_idle environment.program function arguments idle with
    ⟨fault, after, ordinary, refused, nothing⟩ | ⟨started, fresh, ran, counted⟩
  · rw [nothing, nothing]
    refine ⟨Nat.zero_le limit, .inl ⟨Nat.zero_le limit, (refused _).trans (refused _).symm, ?_⟩⟩
    intro report last failed
    cases failed.symm.trans (refused _)
    exact ordinary.ne_runaway limit
  · have lockstep := paced_execute limit relays budget function arguments.length
      (show started.executed ≤ limit from fresh ▸ Nat.zero_le limit)
    rw [fresh] at lockstep
    have bounded := lockstep.guarded_le
    have fails := lockstep.lt_iff_fails
    rw [Nat.zero_add] at bounded fails
    rw [counted, counted]
    refine ⟨bounded, ?_⟩
    by_cases exceeded : limit < executeCount (environment.withLimit none) budget function
      arguments.length started
    · obtain ⟨reached, failed⟩ := fails.mp exceeded
      have reported : callWith (execute (environment.withLimit (some limit)) budget)
          environment.program function arguments machine =
            some (conclude environment.program started (.error (.runaway limit), reached)) := by
        rw [ran, failed, Option.map_some]
      exact .inr ⟨exceeded, _, _, reported, rfl⟩
    · have within := Nat.le_of_not_lt exceeded
      refine .inl ⟨within, ?_, ?_⟩
      · show callWith _ environment.program function arguments machine =
          callWith _ environment.program function arguments machine
        rw [ran, ran, lockstep.eq_of_le ((Nat.zero_add _).symm ▸ within)]
      · intro report after reported isRunaway
        obtain ⟨outcome, executed, concluded⟩ :=
          Option.map_eq_some_iff.mp ((ran _).symm.trans reported)
        obtain ⟨reached, rfl⟩ := eq_of_conclude concluded
        exact exceeded (fails.mpr ⟨reached, isRunaway ▸ executed⟩)

/-- A guarded call from an idle machine comes to its end, if builtins do. -/
theorem exists_call (settles : environment.builtins.Every fun script =>
      ∀ machine, script.Settles environment.program environment.builtins machine)
    (function : Nat) (arguments : List Value) {machine : Machine} (idle : machine.depth = 0) :
    ∃ budget outcome, call (environment.withLimit (some limit)) budget function arguments machine =
      some outcome := by
  rcases callWith_of_idle environment.program function arguments idle with
    ⟨fault, after, _, refused, _⟩ | ⟨started, fresh, ran, _⟩
  · exact ⟨0, _, refused _⟩
  · obtain ⟨budget, outcome, ends⟩ := ends_of_guarded relays settles function arguments.length
      (show started.executed ≤ limit from fresh ▸ Nat.zero_le limit)
    refine ⟨budget, conclude environment.program started outcome, ?_⟩
    show callWith _ environment.program function arguments machine = _
    rw [ran, ends, Option.map_some]

end Calls

/-- The call would execute more statements than `limit`, or never come to its end. -/
def Exceeds (environment : Environment) (limit function : Nat) (arguments : List Value)
    (machine : Machine) : Prop :=
  (∃ budget, limit < callCount environment budget function arguments machine) ∨
    ∀ budget, call environment budget function arguments machine = none

end Machine

namespace Endless

/-- Function 1 calls the builtin of number 2. Function 3 is a loop without an end. -/
def program : Program :=
  { header :=
      { version := 6
        checksum := 0
        statements := ⟨60, 4⟩
        globalDefinitions := ⟨92, 0⟩
        fieldDefinitions := ⟨92, 0⟩
        functions := ⟨92, 4⟩
        strings := ⟨236, 1⟩
        globals := ⟨237, 29⟩
        entityFields := 0 }
    statements := #[⟨0, 0, 0, 0⟩, ⟨51, 28, 0, 0⟩, ⟨0, 0, 0, 0⟩, ⟨61, 0, 0, 0⟩]
    globalDefinitions := #[]
    fieldDefinitions := #[]
    functions := #[⟨0, 0, 0, 0, 0, 0, [], false⟩, ⟨1, 28, 0, 0, 0, 0, [], false⟩,
      ⟨Slot.ofSigned (-2), 0, 0, 0, 0, 0, [], false⟩, ⟨3, 28, 0, 0, 0, 0, [], false⟩]
    strings := #[0]
    globals := Array.replicate 28 0 ++ #[2]
    entityFields := 0 }

/-- The builtin of number 2 runs function 3, and the others are the standard ones. -/
def environment : Environment :=
  ⟨program, .standard, (Builtins.installClassic .empty).register
    ⟨2, "loop", do Native.ofExcept (← Native.run 3)⟩⟩

theorem loaded : Image.load (Image.save program) .none = .ok environment.program :=
  Image.load_save_of_check (by decide +kernel) (by decide +kernel) (by decide)

theorem relays : environment.builtins.Every Native.Relays := by
  refine Builtins.every_register Native.Relays (Builtins.every_installClassic Native.Relays
    (fun _ member => (Builtins.plain_standard member).relays) (Builtins.every_empty _)) ?_
  exact ⟨trivial, fun _ => rfl⟩

theorem settles : environment.builtins.Every fun script =>
    ∀ machine, script.Settles environment.program environment.builtins machine := by
  refine Builtins.every_register _ (Builtins.every_installClassic _
    (fun _ member machine => (Builtins.plain_standard member).settles _ _ machine)
    (Builtins.every_empty _)) ?_
  exact fun machine => .invoke (fun _ _ resolved => nomatch resolved) fun _ => .done

end Endless

namespace Machine

end Machine

/-! ### Builtins that reset the machine -/

namespace Restarting

/-- Function 1 calls the builtin of number 2 over and over. -/
def program : Program :=
  { header :=
      { version := 6
        checksum := 0
        statements := ⟨60, 3⟩
        globalDefinitions := ⟨84, 0⟩
        fieldDefinitions := ⟨84, 0⟩
        functions := ⟨84, 3⟩
        strings := ⟨192, 1⟩
        globals := ⟨193, 29⟩
        entityFields := 0 }
    statements := #[⟨0, 0, 0, 0⟩, ⟨51, 28, 0, 0⟩, ⟨61, 0xFFFF, 0, 0⟩]
    globalDefinitions := #[]
    fieldDefinitions := #[]
    functions := #[⟨0, 0, 0, 0, 0, 0, [], false⟩, ⟨1, 28, 0, 0, 0, 0, [], false⟩,
      ⟨Slot.ofSigned (-2), 0, 0, 0, 0, 0, [], false⟩]
    strings := #[0]
    globals := Array.replicate 28 0 ++ #[2]
    entityFields := 0 }

/-- The builtin of number 2 resets the machine, and there is no other one. -/
def environment : Environment :=
  ⟨program, .standard, BuiltinTable.empty.register
    ⟨2, "restart", Native.modify (Machine.reset program .standard)⟩⟩

theorem loaded : Image.load (Image.save program) .none = .ok environment.program :=
  Image.load_save_of_check (by decide +kernel) (by decide) (by decide)

theorem propagates : environment.builtins.Every Native.Propagates :=
  Builtins.every_register _ (Builtins.every_empty _) trivial

theorem settles : environment.builtins.Every fun script =>
    ∀ machine, script.Settles environment.program environment.builtins machine :=
  Builtins.every_register _ (Builtins.every_empty _) fun _ => .change .done

/-- Where the loop goes on: one statement was counted since the last reset at most, and the operand
of the call refers to the builtin. -/
structure Circling (machine : Machine) : Prop where
  counted : machine.executed ≤ 1
  called : machine.reference 28 = .ok 2

variable {machine : Machine}

/-- The guard lets the call of the builtin pass. -/
theorem Circling.advance_call (circling : Circling machine) :
    Machine.advance (environment.withLimit (some 5)) 1 ⟨51, 28, 0, 0⟩ machine =
      .ok (.builtin 2 2 0) (Machine.noted program 1 ⟨51, 28, 0, 0⟩ machine) := by
  have counted := circling.counted
  have called : (Machine.noted program 1 ⟨51, 28, 0, 0⟩ machine).reference 28 = .ok 2 :=
    circling.called
  unfold Machine.advance
  rw [Action.bind_apply, Machine.begin_withLimit_of_all fun limit same => by cases same; omega]
  show Machine.callFunction program 28 0 (Machine.noted program 1 ⟨51, 28, 0, 0⟩ machine) = _
  unfold Machine.callFunction
  rw [Action.bind_apply, Action.inspect_apply called]
  rfl

/-- The guard lets the jump pass. -/
theorem Circling.advance_jump (circling : Circling machine) :
    Machine.advance (environment.withLimit (some 5)) 2 ⟨61, 0xFFFF, 0, 0⟩ machine =
      .ok (.jump 1) (Machine.noted program 2 ⟨61, 0xFFFF, 0, 0⟩ machine) := by
  have counted := circling.counted
  unfold Machine.advance
  rw [Action.bind_apply, Machine.begin_withLimit_of_all fun limit same => by cases same; omega]
  rfl

/-- Whatever the budget is, it is used up: the loop comes from the call to the jump and back. -/
theorem run_eq_none (execute : Executor) (exitDepth budget : Nat) :
    (∀ machine, Circling machine →
      Machine.run execute (environment.withLimit (some 5)) exitDepth budget 1 machine = none) ∧
    (∀ machine, machine.executed = 0 → Circling machine →
      Machine.run execute (environment.withLimit (some 5)) exitDepth budget 2 machine = none) := by
  induction budget with
  | zero => exact ⟨fun _ _ => rfl, fun _ _ _ => rfl⟩
  | succ budget inductionHypothesis =>
    obtain ⟨fromCall, fromJump⟩ := inductionHypothesis
    have call : (environment.withLimit (some 5)).program.statements[1]? =
        some ⟨51, 28, 0, 0⟩ := rfl
    have jump : (environment.withLimit (some 5)).program.statements[2]? =
        some ⟨61, 0xFFFF, 0, 0⟩ := rfl
    constructor
    · intro machine circling
      rw [Machine.run, call]
      dsimp only
      rw [circling.advance_call]
      exact fromJump _ rfl ⟨Nat.zero_le 1, rfl⟩
    · intro machine fresh circling
      rw [Machine.run, jump]
      dsimp only
      rw [circling.advance_jump]
      exact fromCall _ ⟨Nat.succ_le_succ (Nat.le_of_eq fresh), circling.called⟩

end Restarting

namespace Machine

end Machine

end Gamecode
