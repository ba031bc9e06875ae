/-
This file proves that the loop over statements does what the evaluation by recursion does. One
statement comes to the same in both accounts, except for a call, where the loop enters the function
and the evaluation waits for its body. A run that starts inside a body passes through the return of
that body, and from there on it is the run of the caller; so by induction on the turns a run is the
evaluation of one body after the other. Conversely an evaluated body is a sequence of turns that
comes to its return.
-/

import Gamecode.Proofs.Calls.Reachable
import Gamecode.Proofs.Calls.Structured

namespace Gamecode.Machine

variable {environment : Environment} {execute : Executor} {exitDepth index : Nat}
  {machine : Machine}

/-! ### One statement -/

/-- What one statement comes to in the loop and in the evaluation by recursion. -/
inductive StatementAgrees (execute : Executor) (environment : Environment) (exitDepth index : Nat)
    (machine : Machine) : Prop
  | endless (turned : turn execute environment exitDepth index machine = none)
      (evaluated : ∀ evaluate,
        Structured.statement execute environment evaluate index machine = none)
  | fault {fault : Fault} {after : Machine}
      (turned : turn execute environment exitDepth index machine =
        some (.stop (.error fault), after))
      (evaluated : ∀ evaluate, Structured.statement execute environment evaluate index machine =
        some (.error fault, after))
  | resumed {next : Nat} {after : Machine} (kept : KeepsCalls machine after)
      (turned : turn execute environment exitDepth index machine = some (.resume next, after))
      (evaluated : ∀ evaluate, Structured.statement execute environment evaluate index machine =
        some (.ok (some next), after))
  | returned {after : Machine} (kept : KeepsCalls machine after)
      (turned : turn execute environment exitDepth index machine =
        some (returnFrom exitDepth after))
      (evaluated : ∀ evaluate, Structured.statement execute environment evaluate index machine =
        some (.ok none, after))
  | called {begun : Machine} {function first : Nat} {found : Function}
      (kept : KeepsCalls machine begun) (current : begun.statement = some index)
      (isFunction : environment.program.functions[function]? = some found)
      (body : found.body = .statements first)
      (turned : turn execute environment exitDepth index machine =
        some (.resume first, begun.entered function found))
      (evaluated : ∀ evaluate, Structured.statement execute environment evaluate index machine =
        ((evaluate first (begun.entered function found)).map
          (Structured.close begun found)).map (Structured.behind index))

/-- A statement that calls no function with statements is the same in both accounts. -/
theorem statementAgrees_of_quiet
    (respects : environment.builtins.Respects KeepsCalls environment.program)
    (balanced : execute.Balanced environment.program)
    (ready : machine.Ready environment.program) {flow : Flow} {after : Machine}
    (kept : KeepsCalls machine after)
    (turned : turn execute environment exitDepth index machine =
      follow execute environment exitDepth index flow after)
    (evaluated : ∀ evaluate, Structured.statement execute environment evaluate index machine =
      Structured.goesOn execute environment index flow after) :
    StatementAgrees execute environment exitDepth index machine := by
  cases flow with
  | next => exact .resumed kept turned evaluated
  | jump target => exact .resumed kept turned evaluated
  | leave => exact .returned kept turned evaluated
  | builtin function number arguments =>
    dsimp only [follow, Structured.goesOn] at turned evaluated
    rcases called : callBuiltin execute environment function number arguments after with
      _ | ⟨result, last⟩
    · rw [called] at turned evaluated
      exact .endless turned evaluated
    · have builtinKept :=
        callBuiltin_keepsCalls balanced respects (ready.of_keepsCalls kept) called
      rw [called] at turned evaluated
      cases result with
      | error fault => exact .fault turned evaluated
      | ok value => exact .resumed (trans_of KeepsCalls kept builtinKept) turned evaluated

theorem statementAgrees (loaded : environment.program.Loaded)
    (respects : environment.builtins.Respects KeepsCalls environment.program)
    (balanced : execute.Balanced environment.program)
    (ready : machine.Ready environment.program) (exitDepth index : Nat) :
    StatementAgrees execute environment exitDepth index machine := by
  cases located : environment.program.statements[index]? with
  | none =>
    exact .fault (turn_of_missing located) fun _ => Structured.statement_of_missing located
  | some statement =>
  cases noted : begin environment index statement machine with
  | error fault begun =>
    exact .fault (turn_of_refused located noted) fun _ =>
      Structured.statement_of_refused located noted
  | ok _ begun =>
  have begunKept := (keepsCalls_begin environment index statement).ok noted
  have turned := @turn_of_begun environment execute exitDepth _ _ _ _ located noted
  cases called : callee? environment.program statement begun with
  | none =>
    have evaluated := fun evaluate =>
      @Structured.statement_of_quiet execute environment evaluate _ _ _ _ located noted called
    have stepKept : KeepsCalls begun ((step environment.program environment.configuration index
        statement).leaves begun) := keepsCalls_step_of_callee?_eq_none called
    unfold Action.leaves at stepKept
    cases stepped : step environment.program environment.configuration index statement begun with
    | error fault after =>
      rw [stepped] at turned evaluated
      exact .fault turned evaluated
    | ok flow after =>
      rw [stepped] at turned evaluated stepKept
      exact statementAgrees_of_quiet respects balanced ready
        (trans_of KeepsCalls begunKept stepKept) turned evaluated
  | some function =>
    obtain ⟨_, _, first, _, _, _, _, resolved⟩ := callee?_eq_some called
    obtain ⟨found, isFunction, body⟩ := resolve_eq_ok resolved
    have begunSize := begunKept.size.trans ready.size
    have evaluated := fun evaluate =>
      @Structured.statement_of_callee execute environment evaluate _ _ _ _ _ located noted called
    rw [step_of_callee called, enterAndJump, Action.bind_apply,
      Structured.enter_eq_checkRoom loaded begunSize isFunction body] at turned
    cases room : Structured.checkRoom begun found with
    | error fault =>
      rw [room] at turned
      refine .fault turned fun evaluate => ?_
      rw [evaluated, Structured.activate_eq isFunction body, room]
      rfl
    | ok _ =>
      rw [room] at turned
      refine .called begunKept (statement_of_begin noted) isFunction body turned
        fun evaluate => ?_
      rw [evaluated, Structured.activate_eq isFunction body, room]

/-! ### From the loop to bodies -/

/-- A machine in which a function is active is ready if its segment has the right size. -/
theorem ready_of_deep (deep : exitDepth < machine.depth)
    (size : machine.globals.size = environment.program.globals.size) :
    machine.Ready environment.program where
  size := size
  idle := by
    intro none
    unfold depth CallStack.depth at deep
    rw [none] at deep
    exact absurd deep (Nat.not_lt_zero _)

theorem size_entered {function : Nat} {found : Function} :
    (machine.entered function found).globals.size = machine.globals.size :=
  Cells.size_packed _ _ _ _

theorem depth_lt_entered {function : Nat} {found : Function} (deep : exitDepth < machine.depth) :
    exitDepth < (machine.entered function found).depth :=
  Nat.lt_of_lt_of_eq (Nat.lt_succ_of_lt deep) (CallStack.depth_entered _ _ _).symm

theorem lt_depth_entered {function : Nat} {found : Function} :
    machine.depth < (machine.entered function found).depth :=
  Nat.lt_of_lt_of_eq (Nat.lt_succ_self _) (CallStack.depth_entered _ _ _).symm

/-- Whatever a function left alone its caller gets back. -/
theorem returnFrom_of_keepsCalls {begun last : Machine} {function : Nat} {found : Function}
    (inside : found.windowBase + found.windowLength ≤ begun.globals.size)
    (kept : KeepsCalls (begun.entered function found) last) (exitDepth : Nat) :
    returnFrom exitDepth last = (afterReturn exitDepth begun.depth begun.statement,
      last.backIn begun.stack found.windowBase (begun.windowOf found)) := by
  have admits := admits_frameFor function inside
  rw [← size_entered, ← kept.size] at admits
  exact returnFrom_entered kept.stack admits

/-- A function that was called returns behind its call, and the caller finds its calls as they
were. -/
theorem returnFrom_called {begun last : Machine} {function : Nat} {found : Function}
    (inside : found.windowBase + found.windowLength ≤ begun.globals.size)
    (kept : KeepsCalls machine begun) (current : begun.statement = some index)
    (deep : exitDepth < machine.depth)
    (calleeKept : KeepsCalls (begun.entered function found) last) :
    returnFrom exitDepth last =
        (.resume (index + 1),
          last.backIn begun.stack found.windowBase (begun.windowOf found)) ∧
      KeepsCalls machine
        (last.backIn begun.stack found.windowBase (begun.windowOf found)) := by
  have deeper : exitDepth < begun.depth := Nat.lt_of_lt_of_eq deep kept.depth.symm
  refine ⟨?_, kept.stack, (size_backIn _ _ _ _).trans ?_⟩
  · rw [returnFrom_of_keepsCalls inside calleeKept, current, afterReturn_call deeper]
  · rw [calleeKept.size, size_entered, kept.size]

/-- What a run that starts inside a body still has to do once the body was evaluated: nothing after
a fault, and otherwise to return from the function and to go on with its caller. -/
inductive Rejoins (execute : Executor) (environment : Environment) (exitDepth budget : Nat)
    (start : Machine) (outcome : Except Fault Unit × Machine) : Except Fault Unit → Machine → Prop
  | fault {fault : Fault} {after : Machine} (same : (.error fault, after) = outcome) :
      Rejoins execute environment exitDepth budget start outcome (.error fault) after
  | returned {after : Machine} {fewer : Nat} (kept : KeepsCalls start after)
      (less : fewer < budget)
      (rest : goOn execute environment exitDepth fewer (returnFrom exitDepth after) =
        some outcome) :
      Rejoins execute environment exitDepth budget start outcome (.ok ()) after

theorem Rejoins.earlier {budget larger : Nat} {start before after : Machine}
    {outcome : Except Fault Unit × Machine} {result : Except Fault Unit}
    (rejoins : Rejoins execute environment exitDepth budget start outcome result after)
    (kept : KeepsCalls before start) (enough : budget ≤ larger) :
    Rejoins execute environment exitDepth larger before outcome result after := by
  cases rejoins with
  | fault same => exact .fault same
  | returned startKept less rest =>
    exact .returned (trans_of KeepsCalls kept startKept) (Nat.lt_of_lt_of_le less enough) rest

/-- A run that starts inside a body evaluates that body and then goes on with the caller. The
induction is on the turns that are left, because the caller goes on where the body ended. -/
theorem exists_body_of_run (loaded : environment.program.Loaded)
    (respects : environment.builtins.Respects KeepsCalls environment.program)
    (balanced : execute.Balanced environment.program) {budget : Nat}
    {outcome : Except Fault Unit × Machine} (deep : exitDepth < machine.depth)
    (size : machine.globals.size = environment.program.globals.size)
    (ends : run execute environment exitDepth budget index machine = some outcome) :
    ∃ result after,
      Structured.body execute environment budget index machine = some (result, after) ∧
        Rejoins execute environment exitDepth budget machine outcome result after := by
  induction budget using Nat.strongRecOn generalizing index machine with
  | _ budget inductionHypothesis =>
  obtain ⟨fewer, ended, rfl, first, rest⟩ := run_eq_some ends
  have ready := ready_of_deep deep size
  rw [Structured.body_succ]
  cases statementAgrees loaded respects balanced ready exitDepth index with
  | endless turned _ =>
    rw [turned] at first
    cases first
  | fault turned evaluated =>
    rw [turned] at first
    cases first
    refine ⟨_, _, ?_, .fault (Option.some.inj rest)⟩
    rw [evaluated]
    rfl
  | resumed kept turned evaluated =>
    rw [turned] at first
    cases first
    obtain ⟨result, after, following, rejoins⟩ := inductionHypothesis fewer (Nat.lt_succ_self _)
      (kept.depth.symm ▸ deep) (kept.size.trans size) rest
    refine ⟨result, after, ?_, rejoins.earlier kept (Nat.le_succ _)⟩
    rw [evaluated]
    exact following
  | returned kept turned evaluated =>
    rw [turned] at first
    cases first
    refine ⟨.ok (), _, ?_, .returned kept (Nat.lt_succ_self _) rest⟩
    rw [evaluated]
    rfl
  | @called begun function start found kept current isFunction body turned evaluated =>
    rw [turned] at first
    cases first
    have begunSize := kept.size.trans size
    -- First the run is one inside the body of the callee, and behind its return one inside ours.
    obtain ⟨result, after, following, rejoins⟩ := inductionHypothesis fewer (Nat.lt_succ_self _)
      (depth_lt_entered (kept.depth.symm ▸ deep)) (size_entered.trans begunSize) rest
    cases rejoins with
    | fault same =>
      refine ⟨_, _, ?_, .fault same⟩
      rw [evaluated, following]
      rfl
    | @returned _ last calleeKept less more =>
      have fits := (loaded.fits isFunction body).window_le_size
      obtain ⟨returns, backKept⟩ :=
        returnFrom_called (begunSize.symm ▸ fits) kept current deep calleeKept
      rw [returns] at more
      obtain ⟨result, final, further, rejoins⟩ := inductionHypothesis last
        (Nat.lt_succ_of_lt less) (backKept.depth.symm ▸ deep) (backKept.size.trans size) more
      refine ⟨result, final, ?_, rejoins.earlier backKept (Nat.le_of_lt (Nat.lt_succ_of_lt less))⟩
      rw [evaluated, following]
      exact Structured.body_within (fun _ _ _ _ same => same) (Nat.le_of_lt less) further

/-! ### From bodies to the loop -/

/-- The turns of the loop come to the end of a body: to its fault, or to its return. -/
inductive BodyArrives (execute : Executor) (environment : Environment) (exitDepth index : Nat)
    (machine : Machine) : Except Fault Unit → Machine → Prop
  | fault {fault : Fault} {after : Machine}
      (arrives : Arrives execute environment exitDepth index machine
        (.stop (.error fault), after)) :
      BodyArrives execute environment exitDepth index machine (.error fault) after
  | returned {after : Machine} (kept : KeepsCalls machine after)
      (arrives : Arrives execute environment exitDepth index machine
        (returnFrom exitDepth after)) :
      BodyArrives execute environment exitDepth index machine (.ok ()) after

theorem BodyArrives.earlier {start : Nat} {before after : Machine} {result : Except Fault Unit}
    (ends : BodyArrives execute environment exitDepth index machine result after)
    (kept : KeepsCalls before machine)
    (turns : Turns execute environment exitDepth start before index machine) :
    BodyArrives execute environment exitDepth start before result after := by
  cases ends with
  | fault arrives => exact .fault (turns.arrives arrives)
  | returned machineKept arrives =>
    exact .returned (trans_of KeepsCalls kept machineKept) (turns.arrives arrives)

theorem bodyArrives_of_body (loaded : environment.program.Loaded)
    (respects : environment.builtins.Respects KeepsCalls environment.program)
    (balanced : execute.Balanced environment.program) {budget : Nat} {after : Machine}
    {result : Except Fault Unit} (deep : exitDepth < machine.depth)
    (size : machine.globals.size = environment.program.globals.size)
    (ends : Structured.body execute environment budget index machine = some (result, after)) :
    BodyArrives execute environment exitDepth index machine result after := by
  induction budget generalizing index machine result after with
  | zero => cases ends
  | succ budget inductionHypothesis =>
  obtain ⟨_, ended, same, first, rest⟩ := Structured.body_eq_some ends
  cases same
  cases statementAgrees loaded respects balanced (ready_of_deep deep size) exitDepth index with
  | endless _ evaluated =>
    rw [evaluated] at first
    cases first
  | fault turned evaluated =>
    rw [evaluated] at first
    cases first
    cases rest
    exact .fault ⟨index, machine, .start, turned⟩
  | resumed kept turned evaluated =>
    rw [evaluated] at first
    cases first
    have following := inductionHypothesis (kept.depth.symm ▸ deep) (kept.size.trans size) rest
    exact following.earlier kept (Turns.start.resume turned)
  | returned kept turned evaluated =>
    rw [evaluated] at first
    cases first
    cases rest
    exact .returned kept ⟨index, machine, .start, turned⟩
  | @called begun function start found kept current isFunction body turned evaluated =>
    rw [evaluated, Option.map_map] at first
    obtain ⟨⟨calleeResult, last⟩, callee, rfl⟩ := Option.map_eq_some_iff.mp first
    have begunSize := kept.size.trans size
    have entering := Turns.start.resume turned
    cases inductionHypothesis (depth_lt_entered (kept.depth.symm ▸ deep))
      (size_entered.trans begunSize) callee with
    | fault arrives =>
      cases rest
      exact .fault (entering.arrives arrives)
    | returned calleeKept arrives =>
      have fits := (loaded.fits isFunction body).window_le_size
      obtain ⟨returns, backKept⟩ :=
        returnFrom_called (begunSize.symm ▸ fits) kept current deep calleeKept
      rw [returns] at arrives
      obtain ⟨final, reached, inside, leaves⟩ := arrives
      have following :=
        inductionHypothesis (backKept.depth.symm ▸ deep) (backKept.size.trans size) rest
      exact following.earlier backKept ((entering.trans inside).resume leaves)

/-- A statement after which its body goes on leaves the active functions alone, with all that it
calls. -/
theorem keepsCalls_of_statement (loaded : environment.program.Loaded)
    (respects : environment.builtins.Respects KeepsCalls environment.program)
    (balanced : execute.Balanced environment.program) {budget : Nat} {next : Option Nat}
    {after : Machine} (deep : exitDepth < machine.depth)
    (size : machine.globals.size = environment.program.globals.size)
    (ends : Structured.statement execute environment
      (Structured.body execute environment budget) index machine = some (.ok next, after)) :
    KeepsCalls machine after := by
  cases statementAgrees loaded respects balanced (ready_of_deep deep size) exitDepth index with
  | endless _ evaluated =>
    rw [evaluated] at ends
    cases ends
  | fault _ evaluated =>
    rw [evaluated] at ends
    cases ends
  | resumed kept _ evaluated =>
    rw [evaluated] at ends
    cases ends
    exact kept
  | returned kept _ evaluated =>
    rw [evaluated] at ends
    cases ends
    exact kept
  | @called begun function start found kept current isFunction body _ evaluated =>
    rw [evaluated, Option.map_map] at ends
    obtain ⟨⟨calleeResult, last⟩, callee, same⟩ := Option.map_eq_some_iff.mp ends
    have begunSize := kept.size.trans size
    cases bodyArrives_of_body loaded respects balanced
      (depth_lt_entered (kept.depth.symm ▸ deep)) (size_entered.trans begunSize) callee with
    | fault _ => cases same
    | returned calleeKept _ =>
      cases same
      have fits := (loaded.fits isFunction body).window_le_size
      exact (returnFrom_called (begunSize.symm ▸ fits) kept current deep calleeKept).2

/-! ### Other executors -/

/-- Whatever the one executor brings to an end from a machine that is ready, the others bring to the
same end from some budget on. -/
structure Transfers (program : Program) (narrow : Executor) (wide : Nat → Executor) : Prop where
  balanced : narrow.Balanced program
  grows : ∀ {fewer more : Nat}, fewer ≤ more → (wide fewer).Within (wide more)
  executed : ∀ {function arguments : Nat} {machine : Machine}
    {outcome : Except Fault Unit × Machine}, machine.Ready program →
      narrow function arguments machine = some outcome →
        ∃ budget, wide budget function arguments machine = some outcome

section Transfer

variable {program : Program} {narrow : Executor} {wide : Nat → Executor}

/-- A script that respects the active functions ends in the same way with the other executors. -/
theorem Transfers.perform (transfers : Transfers program narrow wide) {α : Type}
    {script : Native α} {wanted : α → Machine → Prop} {outcome : Except Fault α × Machine}
    (ready : machine.Ready program) (respects : script.Respects KeepsCalls program wanted machine)
    (ends : perform narrow program script machine = some outcome) :
    ∃ budget, perform (wide budget) program script machine = some outcome := by
  induction script generalizing machine with
  | done value => exact ⟨0, ends⟩
  | fail fault => exact ⟨0, ends⟩
  | observe next inductionHypothesis => exact inductionHypothesis _ _ ready respects ends
  | change update next inductionHypothesis =>
    exact inductionHypothesis (ready.of_keepsCalls respects.1) respects.2 ends
  | invoke function next inductionHypothesis =>
    unfold Machine.perform at ends
    split at ends
    · cases ends
    next inner middle ran =>
    have kept := (invokeWith_restores transfers.balanced ready ran).1.calls
    obtain ⟨executed, ranHere, same⟩ := Option.map_eq_some_iff.mp ran
    obtain ⟨first, ranThere⟩ := transfers.executed ready ranHere
    have invoked : invokeWith (wide first) program function machine = some (inner, middle) := by
      unfold invokeWith
      dsimp only
      rw [ranThere]
      exact congrArg some same
    obtain ⟨second, rest⟩ := inductionHypothesis inner (ready.of_keepsCalls kept)
      (respects inner middle kept) ends
    refine ⟨max first second, ?_⟩
    unfold Machine.perform
    rw [invokeWith_within (transfers.grows (Nat.le_max_left first second)) invoked]
    exact perform_within (transfers.grows (Nat.le_max_right first second)) rest
  | call function arguments next inductionHypothesis =>
    unfold Machine.perform at ends
    split at ends
    · cases ends
    next inner middle ran =>
    have kept := callWith_keepsCalls transfers.balanced ready ran
    obtain ⟨first, called⟩ : ∃ first,
        callWith (wide first) program function arguments machine = some (inner, middle) := by
      rcases callWith_eq program function arguments machine with
        ⟨refused, same⟩ | ⟨started, finish, startKept, same⟩
      · rw [same] at ran
        exact ⟨0, (same _).trans ran⟩
      · rw [same] at ran
        obtain ⟨executed, ranHere, finished⟩ := Option.map_eq_some_iff.mp ran
        obtain ⟨first, ranThere⟩ := transfers.executed (ready.of_keepsCalls startKept) ranHere
        refine ⟨first, ?_⟩
        rw [same, ranThere, Option.map_some, finished]
    obtain ⟨second, rest⟩ := inductionHypothesis inner (ready.of_keepsCalls kept)
      (respects inner middle kept) ends
    refine ⟨max first second, ?_⟩
    unfold Machine.perform
    rw [callWith_within (transfers.grows (Nat.le_max_left first second)) called]
    exact perform_within (transfers.grows (Nat.le_max_right first second)) rest

theorem Transfers.callBuiltin (transfers : Transfers environment.program narrow wide)
    (respects : environment.builtins.Respects KeepsCalls environment.program)
    {function number arguments : Nat} {outcome : Except Fault Unit × Machine}
    (ready : machine.Ready environment.program)
    (ends : callBuiltin narrow environment function number arguments machine = some outcome) :
    ∃ budget, callBuiltin (wide budget) environment function number arguments machine =
      some outcome := by
  unfold Machine.callBuiltin at ends ⊢
  split at ends
  · exact ⟨0, ends⟩
  · next builtin offered =>
    exact transfers.perform (ready.of_keepsCalls ⟨rfl, rfl⟩) (respects number builtin offered _)
      ends

theorem Transfers.goesOn (transfers : Transfers environment.program narrow wide)
    (respects : environment.builtins.Respects KeepsCalls environment.program) {flow : Flow}
    {outcome : Except Fault (Option Nat) × Machine} (ready : machine.Ready environment.program)
    (ends : Structured.goesOn narrow environment index flow machine = some outcome) :
    ∃ budget, Structured.goesOn (wide budget) environment index flow machine = some outcome := by
  cases flow with
  | builtin function number arguments =>
    obtain ⟨inner, called, rfl⟩ := Option.map_eq_some_iff.mp ends
    obtain ⟨budget, there⟩ := transfers.callBuiltin respects ready called
    refine ⟨budget, ?_⟩
    dsimp only [Structured.goesOn]
    rw [there, Option.map_some]
  | _ => exact ⟨0, ends⟩

/-- A statement is the same for the other executors if the calls that it makes are. -/
theorem Transfers.statement (transfers : Transfers environment.program narrow wide)
    (respects : environment.builtins.Respects KeepsCalls environment.program)
    {evaluate : (index : Nat) → Machine → Outcome Fault Unit}
    {further : (budget index : Nat) → Machine → Outcome Fault Unit}
    {outcome : Except Fault (Option Nat) × Machine} (ready : machine.Ready environment.program)
    (calls : ∀ {function : Nat} {begun : Machine} {outcome : Except Fault Unit × Machine},
      KeepsCalls machine begun →
        Structured.activate evaluate environment.program function begun = some outcome →
          ∃ budget, Structured.activate (further budget) environment.program function begun =
            some outcome)
    (ends : Structured.statement narrow environment evaluate index machine = some outcome) :
    ∃ budget, Structured.statement (wide budget) environment (further budget) index machine =
      some outcome := by
  unfold Structured.statement at ends ⊢
  cases located : environment.program.statements[index]? with
  | none =>
    rw [located] at ends
    exact ⟨0, ends⟩
  | some statement =>
  rw [located] at ends
  dsimp only at ends ⊢
  cases noted : begin environment index statement machine with
  | error fault begun =>
    rw [noted] at ends
    exact ⟨0, ends⟩
  | ok _ begun =>
  have begunKept := (keepsCalls_begin environment index statement).ok noted
  rw [noted] at ends
  dsimp only at ends ⊢
  cases called : callee? environment.program statement begun with
  | some function =>
    rw [called] at ends
    obtain ⟨inner, here, rfl⟩ := Option.map_eq_some_iff.mp ends
    obtain ⟨budget, there⟩ := calls begunKept here
    exact ⟨budget, Option.map_eq_some_iff.mpr ⟨inner, there, rfl⟩⟩
  | none =>
  rw [called] at ends
  dsimp only at ends ⊢
  have stepKept : KeepsCalls begun ((step environment.program environment.configuration index
      statement).leaves begun) := keepsCalls_step_of_callee?_eq_none called
  unfold Action.leaves at stepKept
  cases stepped : step environment.program environment.configuration index statement begun with
  | error fault after =>
    rw [stepped] at ends
    exact ⟨0, ends⟩
  | ok flow after =>
    rw [stepped] at ends stepKept
    exact transfers.goesOn respects
      (ready.of_keepsCalls (trans_of KeepsCalls begunKept stepKept)) ends

/-- A body is evaluated in the same way with the other executors. -/
theorem Transfers.body (transfers : Transfers environment.program narrow wide)
    (loaded : environment.program.Loaded)
    (respects : environment.builtins.Respects KeepsCalls environment.program) {budget : Nat}
    {outcome : Except Fault Unit × Machine} (deep : exitDepth < machine.depth)
    (size : machine.globals.size = environment.program.globals.size)
    (ends : Structured.body narrow environment budget index machine = some outcome) :
    ∃ nested, Structured.body (wide nested) environment budget index machine = some outcome := by
  induction budget generalizing index machine outcome with
  | zero => cases ends
  | succ budget inductionHypothesis =>
  have ready := ready_of_deep deep size
  obtain ⟨_, ended, same, first, rest⟩ := Structured.body_eq_some ends
  cases same
  have calls : ∀ {function : Nat} {begun : Machine} {outcome : Except Fault Unit × Machine},
      KeepsCalls machine begun →
        Structured.activate (Structured.body narrow environment budget) environment.program
            function begun = some outcome →
          ∃ nested, Structured.activate (Structured.body (wide nested) environment budget)
            environment.program function begun = some outcome := by
    intro function begun outcome kept activated
    unfold Structured.activate at activated ⊢
    split at activated
    · cases activated
    next found isFunction =>
    split at activated
    · cases activated
    next start body =>
    split at activated
    · exact ⟨0, activated⟩
    · obtain ⟨inner, here, rfl⟩ := Option.map_eq_some_iff.mp activated
      obtain ⟨nested, there⟩ := inductionHypothesis (depth_lt_entered (kept.depth.symm ▸ deep))
        (size_entered.trans (kept.size.trans size)) here
      exact ⟨nested, Option.map_eq_some_iff.mpr ⟨inner, there, rfl⟩⟩
  -- The statement and the rest need budgets of their own; the larger one is enough for both.
  obtain ⟨one, firstThere⟩ := transfers.statement respects ready calls first
  have firstWithin : ∀ {many : Nat}, one ≤ many →
      Structured.statement (wide many) environment (Structured.body (wide many) environment budget)
        index machine = some ended := fun enough =>
    Structured.statement_within (transfers.grows enough)
      (Structured.body_within (transfers.grows enough) (Nat.le_refl budget)) firstThere
  obtain ⟨result, after⟩ := ended
  cases result with
  | error fault =>
    refine ⟨one, ?_⟩
    rw [Structured.body_succ, firstThere]
    exact rest
  | ok next =>
    cases next with
    | none =>
      refine ⟨one, ?_⟩
      rw [Structured.body_succ, firstThere]
      exact rest
    | some next =>
      have kept := keepsCalls_of_statement loaded respects transfers.balanced deep size first
      obtain ⟨other, restThere⟩ :=
        inductionHypothesis (kept.depth.symm ▸ deep) (kept.size.trans size) rest
      refine ⟨max one other, ?_⟩
      rw [Structured.body_succ, firstWithin (Nat.le_max_left one other)]
      exact Structured.body_within (transfers.grows (Nat.le_max_right one other))
        (Nat.le_refl budget) restThere

end Transfer

/-! ### One activation -/

section Activation

variable {function first : Nat} {found : Function} {outcome : Except Fault Unit × Machine}

/-- A run that starts at the entry of a function ends as the evaluation of its body. -/
theorem close_of_run (loaded : environment.program.Loaded)
    (respects : environment.builtins.Respects KeepsCalls environment.program)
    (balanced : execute.Balanced environment.program)
    (size : machine.globals.size = environment.program.globals.size)
    (isFunction : environment.program.functions[function]? = some found)
    (body : found.body = .statements first) {budget : Nat}
    (ends : run execute environment machine.depth budget first (machine.entered function found) =
      some outcome) :
    (Structured.body execute environment budget first (machine.entered function found)).map
      (Structured.close machine found) = some outcome := by
  have fits := (loaded.fits isFunction body).window_le_size
  obtain ⟨result, after, evaluated, rejoins⟩ :=
    exists_body_of_run loaded respects balanced lt_depth_entered (size_entered.trans size) ends
  rw [evaluated]
  cases rejoins with
  | fault same => exact congrArg some same
  | returned kept _ rest =>
    rw [returnFrom_of_keepsCalls (size.symm ▸ fits) kept, depth, afterReturn_own] at rest
    exact rest

/-- An evaluated body is a run that starts at the entry of the function. -/
theorem run_of_close (loaded : environment.program.Loaded)
    (respects : environment.builtins.Respects KeepsCalls environment.program)
    (balanced : execute.Balanced environment.program)
    (size : machine.globals.size = environment.program.globals.size)
    (isFunction : environment.program.functions[function]? = some found)
    (body : found.body = .statements first) {budget : Nat}
    (ends : (Structured.body execute environment budget first
      (machine.entered function found)).map (Structured.close machine found) = some outcome) :
    ∃ enough, run execute environment machine.depth enough first
      (machine.entered function found) = some outcome := by
  have fits := (loaded.fits isFunction body).window_le_size
  obtain ⟨⟨result, after⟩, evaluated, rfl⟩ := Option.map_eq_some_iff.mp ends
  cases bodyArrives_of_body loaded respects balanced lt_depth_entered (size_entered.trans size)
    evaluated with
  | fault arrives => exact exists_run_iff_arrives.mpr arrives
  | returned kept arrives =>
    rw [returnFrom_of_keepsCalls (size.symm ▸ fits) kept, depth, afterReturn_own] at arrives
    exact exists_run_iff_arrives.mpr arrives

end Activation

/-! ### Whole executions -/

section Execution

variable {budget function arguments : Nat} {outcome : Except Fault Unit × Machine}

theorem transfers_of_execute (loaded : environment.program.Loaded)
    (respects : environment.builtins.Respects KeepsCalls environment.program)
    (executed : ∀ {function arguments : Nat} {machine : Machine}
      {outcome : Except Fault Unit × Machine}, machine.Ready environment.program →
        Machine.execute environment budget function arguments machine = some outcome →
          Structured.execute environment budget function arguments machine = some outcome) :
    Transfers environment.program (Machine.execute environment budget)
      fun _ => Structured.execute environment budget where
  balanced := execute_balanced loaded respects budget
  grows := fun _ _ _ _ _ same => same
  executed := fun ready here => ⟨0, executed ready here⟩

theorem transfers_of_structured (loaded : environment.program.Loaded)
    (respects : environment.builtins.Respects KeepsCalls environment.program)
    (executed : ∀ {function arguments : Nat} {machine : Machine}
      {outcome : Except Fault Unit × Machine}, machine.Ready environment.program →
        Structured.execute environment budget function arguments machine = some outcome →
          ∃ enough,
            Machine.execute environment enough function arguments machine = some outcome) :
    Transfers environment.program (Structured.execute environment budget)
      (Machine.execute environment) where
  balanced := by
    intro function arguments machine after result ready here
    obtain ⟨enough, there⟩ := executed ready here
    exact execute_balanced loaded respects enough ready there
  grows := execute_within
  executed := executed

/-- What the loop brings to an end the evaluation by recursion brings to the same end. -/
theorem structured_of_execute (loaded : environment.program.Loaded)
    (respects : environment.builtins.Respects KeepsCalls environment.program)
    (ready : machine.Ready environment.program)
    (ends : Machine.execute environment budget function arguments machine = some outcome) :
    Structured.execute environment budget function arguments machine = some outcome := by
  induction budget generalizing function arguments machine outcome with
  | zero => cases ends
  | succ budget inductionHypothesis =>
    have transfers := transfers_of_execute loaded respects inductionHypothesis
    unfold Machine.execute at ends
    unfold Structured.execute
    cases resolved : resolve environment.program function with
    | error fault =>
      rw [resolved] at ends
      exact ends
    | ok body =>
    rw [resolved] at ends
    cases body with
    | builtin number =>
      obtain ⟨_, there⟩ := transfers.callBuiltin respects ready ends
      exact there
    | statements first =>
      obtain ⟨found, isFunction, body⟩ := resolve_eq_ok resolved
      dsimp only at ends ⊢
      rw [Structured.activate_eq isFunction body]
      rw [Structured.enter_eq_checkRoom loaded ready.size isFunction body] at ends
      cases room : Structured.checkRoom machine found with
      | error fault =>
        rw [room] at ends
        exact ends
      | ok _ =>
        rw [room] at ends
        have closed :=
          close_of_run loaded respects transfers.balanced ready.size isFunction body ends
        obtain ⟨inner, evaluated, same⟩ := Option.map_eq_some_iff.mp closed
        obtain ⟨_, there⟩ := transfers.body loaded respects lt_depth_entered
          (size_entered.trans ready.size) evaluated
        exact Option.map_eq_some_iff.mpr ⟨inner, there, same⟩

/-- What the evaluation by recursion brings to an end the loop brings to the same end. -/
theorem exists_execute_of_structured (loaded : environment.program.Loaded)
    (respects : environment.builtins.Respects KeepsCalls environment.program)
    (ready : machine.Ready environment.program)
    (ends : Structured.execute environment budget function arguments machine = some outcome) :
    ∃ enough, Machine.execute environment enough function arguments machine = some outcome := by
  induction budget generalizing function arguments machine outcome with
  | zero => cases ends
  | succ budget inductionHypothesis =>
    have transfers := transfers_of_structured loaded respects inductionHypothesis
    unfold Structured.execute at ends
    split at ends
    · next fault resolved =>
      refine ⟨1, ?_⟩
      unfold Machine.execute
      rw [resolved]
      exact ends
    · next number resolved =>
      obtain ⟨enough, there⟩ := transfers.callBuiltin respects ready ends
      refine ⟨enough + 1, ?_⟩
      unfold Machine.execute
      rw [resolved]
      exact there
    · next first resolved =>
      obtain ⟨found, isFunction, body⟩ := resolve_eq_ok resolved
      rw [Structured.activate_eq isFunction body] at ends
      have entering := Structured.enter_eq_checkRoom loaded ready.size isFunction body
      cases room : Structured.checkRoom machine found with
      | error fault =>
        rw [room] at ends entering
        refine ⟨1, ?_⟩
        unfold Machine.execute
        rw [resolved]
        dsimp only
        rw [entering]
        exact ends
      | ok _ =>
        rw [room] at ends entering
        obtain ⟨inner, here, same⟩ := Option.map_eq_some_iff.mp ends
        obtain ⟨nested, there⟩ := transfers.body loaded respects lt_depth_entered
          (size_entered.trans ready.size) here
        obtain ⟨enough, ran⟩ := run_of_close loaded respects
          (execute_balanced loaded respects nested) ready.size isFunction body
          (Option.map_eq_some_iff.mpr ⟨inner, there, same⟩)
        refine ⟨max nested enough + 1, ?_⟩
        unfold Machine.execute
        rw [resolved]
        dsimp only
        rw [entering]
        exact run_within (execute_within (Nat.le_max_left nested enough))
          (Nat.le_succ_of_le (Nat.le_max_right nested enough)) ran

theorem transfers_execute (loaded : environment.program.Loaded)
    (respects : environment.builtins.Respects KeepsCalls environment.program) (budget : Nat) :
    Transfers environment.program (Machine.execute environment budget)
      fun _ => Structured.execute environment budget :=
  transfers_of_execute loaded respects fun ready ends =>
    structured_of_execute loaded respects ready ends

theorem transfers_structured (loaded : environment.program.Loaded)
    (respects : environment.builtins.Respects KeepsCalls environment.program) (budget : Nat) :
    Transfers environment.program (Structured.execute environment budget)
      (Machine.execute environment) :=
  transfers_of_structured loaded respects fun ready ends =>
    exists_execute_of_structured loaded respects ready ends

/-- A loop that is started at the entry of a function ends exactly where the function, evaluated by
recursion, does. -/
theorem exists_run_iff_activated (loaded : environment.program.Loaded)
    (respects : environment.builtins.Respects KeepsCalls environment.program)
    (ready : machine.Ready environment.program) {first : Nat} {found : Function}
    (isFunction : environment.program.functions[function]? = some found)
    (body : found.body = .statements first) (room : Structured.checkRoom machine found = .ok ()) :
    (∃ nested budget, run (Machine.execute environment nested) environment machine.depth budget
        first (machine.entered function found) = some outcome) ↔
      ∃ nested budget, Structured.activate
        (Structured.body (Structured.execute environment nested) environment budget)
        environment.program function machine = some outcome := by
  have size : (machine.entered function found).globals.size = environment.program.globals.size :=
    size_entered.trans ready.size
  constructor
  · rintro ⟨nested, budget, ends⟩
    have transfers := transfers_execute loaded respects nested
    have closed := close_of_run loaded respects transfers.balanced ready.size isFunction body ends
    obtain ⟨inner, evaluated, same⟩ := Option.map_eq_some_iff.mp closed
    obtain ⟨_, there⟩ := transfers.body loaded respects lt_depth_entered size evaluated
    refine ⟨nested, budget, ?_⟩
    rw [Structured.activate_eq isFunction body, room]
    exact Option.map_eq_some_iff.mpr ⟨inner, there, same⟩
  · rintro ⟨nested, budget, ends⟩
    rw [Structured.activate_eq isFunction body, room] at ends
    obtain ⟨inner, evaluated, same⟩ := Option.map_eq_some_iff.mp ends
    have transfers := transfers_structured loaded respects nested
    obtain ⟨enough, there⟩ := transfers.body loaded respects lt_depth_entered size evaluated
    obtain ⟨spent, ran⟩ := run_of_close loaded respects
      (execute_balanced loaded respects enough) ready.size isFunction body
      (Option.map_eq_some_iff.mpr ⟨inner, there, same⟩)
    exact ⟨enough, spent, ran⟩

end Execution

/-! ### The loop and the recursion -/

/-- The frames and the saved slots of a stack lie at the bottom of those of another one. -/
def KeepsBelow (base : CallStack) (machine : Machine) : Prop :=
  base.frames.toList <+: machine.stack.frames.toList ∧
    base.saved.toList <+: machine.stack.saved.toList

theorem Over.keepsBelow {size : Nat} {base : CallStack} (atop : machine.Over size base) :
    KeepsBelow base machine :=
  ⟨atop.above.frames, atop.above.saved⟩

/-- In every reachable machine the loop does what the evaluation by recursion does: a function ends
with the one exactly where it ends with the other, with the same result and in the same machine. As
long as the loop goes on, the frame of the function that it was started for and all frames below it
stay where they are, with everything that was saved for them, and the loop passes through reachable
machines only. It ends with the stack that it found before the function was entered, or, after a
fault, with one above that. -/
theorem run_iff_structured {image : Array UInt8} {expectation : Image.Expectation}
    (loads : Image.load image expectation = .ok environment.program)
    (respects : environment.builtins.Respects KeepsCalls environment.program)
    (reachable : Reachable environment machine) :
    (∀ function arguments outcome,
      (∃ budget, Machine.execute environment budget function arguments machine = some outcome) ↔
        ∃ budget,
          Structured.execute environment budget function arguments machine = some outcome) ∧
      ∀ function first entered,
        enter environment.program function machine = .ok first entered →
          (∀ outcome,
            (∃ nested budget, run (Machine.execute environment nested) environment machine.depth
              budget first entered = some outcome) ↔
              ∃ nested budget, Structured.activate
                (Structured.body (Structured.execute environment nested) environment budget)
                environment.program function machine = some outcome) ∧
          (∀ nested index reached,
            Turns (Machine.execute environment nested) environment machine.depth first entered
              index reached →
            Reachable environment reached ∧ KeepsBelow entered.stack reached) ∧
          ∀ nested budget result last,
            run (Machine.execute environment nested) environment machine.depth budget first
              entered = some (result, last) →
            KeepsBelow machine.stack last ∧ (result = .ok () → last.stack = machine.stack) := by
  have loaded := Image.loaded_of_load loads
  have ready := (reachable.sound loaded respects).ready
  refine ⟨fun function arguments outcome => ⟨?_, ?_⟩, ?_⟩
  · rintro ⟨budget, ends⟩
    exact ⟨budget, structured_of_execute loaded respects ready ends⟩
  · rintro ⟨budget, ends⟩
    exact exists_execute_of_structured loaded respects ready ends
  intro function first entered enters
  obtain ⟨found, isFunction, body, rfl⟩ := enter_eq_ok loaded ready.size enters
  have fits := (loaded.fits isFunction body).window_le_size
  have admits := admits_frameFor function (ready.size.symm ▸ fits)
  have atop : (machine.entered function found).Over machine.globals.size
      (machine.stack.entered (machine.frameFor function found) (machine.windowOf found)) :=
    over_entered
  rw [ready.size] at admits atop
  have room : Structured.checkRoom machine found = .ok () := by
    rw [Structured.enter_eq_checkRoom loaded ready.size isFunction body] at enters
    cases checked : Structured.checkRoom machine found with
    | ok _ => rfl
    | error fault =>
      rw [checked] at enters
      cases enters
  refine ⟨fun outcome => ?_, ?_, ?_⟩
  · exact exists_run_iff_activated loaded respects ready isFunction body room
  · intro nested index reached turns
    have balanced := execute_balanced loaded respects nested
    have enteredReachable := reachable.entered function
    rw [Action.leaves_of_ok enters] at enteredReachable
    exact ⟨enteredReachable.turns loaded respects turns,
      (over_of_turns loaded respects balanced admits atop turns).keepsBelow⟩
  · intro nested budget result last ends
    have balanced := execute_balanced loaded respects nested
    cases turnEnds_run loaded respects balanced admits atop ends with
    | fault lastOver =>
      refine ⟨⟨?_, ?_⟩, nofun⟩
      · exact (CallStack.frames_prefix_entered _ _ _).trans lastOver.above.frames
      · exact (CallStack.saved_prefix_entered _ _ _).trans lastOver.above.saved
    | returned sized => exact ⟨⟨List.prefix_rfl, List.prefix_rfl⟩, fun _ => rfl⟩

theorem run_iff_structured_inside :
    Image.load (Image.save Sample.program) .none = .ok Sample.environment.program ∧
      Sample.environment.builtins.Respects KeepsCalls Sample.environment.program ∧
      Reachable Sample.environment Sample.inside ∧
      (∃ outcome budget,
        Structured.execute Sample.environment budget 1 1 Sample.inside = some outcome) ∧
      ∃ first entered, enter Sample.environment.program 1 Sample.inside = .ok first entered ∧
        ∃ budget result last,
          run (Machine.execute Sample.environment 9) Sample.environment Sample.inside.depth budget
            first entered = some (result, last) ∧ KeepsBelow Sample.inside.stack last := by
  have reachable : Reachable Sample.environment Sample.inside := .entered .created 1
  obtain ⟨wholes, runs⟩ := run_iff_structured Sample.loaded Sample.respects reachable
  have ended : (Machine.execute Sample.environment 10 1 1 Sample.inside).isSome = true := by
    decide +kernel
  obtain ⟨⟨result, last⟩, ends⟩ := Option.isSome_iff_exists.mp ended
  obtain ⟨budget, whole⟩ := (wholes 1 1 (result, last)).mp ⟨10, ends⟩
  have resolved : resolve Sample.environment.program 1 = .ok (.statements 1) := rfl
  unfold Machine.execute at ends
  rw [resolved] at ends
  dsimp only at ends
  rw [Sample.enter_inside] at ends
  obtain ⟨-, -, finals⟩ := runs 1 1 _ Sample.enter_inside
  obtain ⟨below, -⟩ := finals 9 10 result last ends
  exact ⟨Sample.loaded, Sample.respects, reachable, ⟨_, budget, whole⟩, 1, _, Sample.enter_inside,
    10, result, last, ends, below⟩

end Gamecode.Machine
