/-
This file says what one statement does to the active functions: nothing at all, unless it calls a
function that has statements. Then that function is entered, if there is room for it.
-/

import Gamecode.Proofs.Calls.Exit

namespace Gamecode.Machine

/-! ### The function that is called -/

/-- The function with statements that a statement calls, if it calls one. -/
def callee? (program : Program) (statement : Statement) (machine : Machine) : Option Nat :=
  match statement.operation with
  | .ok (.call _) =>
    match machine.reference statement.a.toNat with
    | .ok reference =>
      if reference < 0 then none
      else
        match resolve program reference.toNat with
        | .ok (.statements _) => some reference.toNat
        | _ => none
    | .error _ => none
  | _ => none

/-- Enter a function and go on at its first statement. -/
def enterAndJump (program : Program) (function : Nat) : Action Flow := do
  return .jump (← enter program function)

theorem resolve_eq_ok {program : Program} {function : Nat} {body : Body}
    (resolved : resolve program function = .ok body) :
    ∃ found, program.functions[function]? = some found ∧ found.body = body := by
  unfold resolve at resolved
  split at resolved
  · cases resolved
  · split at resolved
    · next found isFunction => exact ⟨found, isFunction, Except.ok.inj resolved⟩
    · cases resolved

theorem body_of_resolve {program : Program} {function : Nat} {found : Function} {body : Body}
    (isFunction : program.functions[function]? = some found)
    (resolved : resolve program function = .ok body) : found.body = body := by
  obtain ⟨other, isOther, same⟩ := resolve_eq_ok resolved
  obtain rfl : found = other := Option.some.inj (isFunction.symm.trans isOther)
  exact same

/-- A call is its look-up of the function, followed by what is done with a builtin or a function
that has statements. -/
theorem callFunction_apply (program : Program) (a arguments : Nat) (machine : Machine) :
    callFunction program a arguments machine =
      match machine.reference a with
      | .error fault => .error fault machine
      | .ok reference =>
        if reference < 0 then .error (.badFunction reference) machine
        else
          match resolve program reference.toNat with
          | .error fault => .error fault machine
          | .ok (.builtin number) => .ok (.builtin reference.toNat number arguments) machine
          | .ok (.statements _) => enterAndJump program reference.toNat machine := by
  unfold callFunction
  rw [Action.bind_apply, Action.inspect]
  cases machine.reference a with
  | error fault => rfl
  | ok reference =>
    dsimp only
    by_cases negative : reference < 0
    · rw [if_pos negative, if_pos negative]
      rfl
    · rw [if_neg negative, if_neg negative, Action.bind_apply, Action.inspect]
      cases resolve program reference.toNat with
      | error fault => rfl
      | ok body => cases body <;> rfl

theorem callee?_eq_some {program : Program} {statement : Statement} {machine : Machine}
    {function : Nat} (called : callee? program statement machine = some function) :
    ∃ arguments reference first, statement.operation = .ok (.call arguments) ∧
      machine.reference statement.a.toNat = .ok reference ∧ ¬ reference < 0 ∧
      reference.toNat = function ∧ resolve program function = .ok (.statements first) := by
  unfold callee? at called
  split at called
  · next arguments decoded =>
    split at called
    · next reference read =>
      split at called
      · cases called
      · next natural =>
        split at called
        · next first resolved =>
          cases called
          exact ⟨arguments, reference, first, decoded, read, natural, rfl, resolved⟩
        · cases called
    · cases called
  · cases called

/-- A statement that calls a function with statements enters it and goes on there. -/
theorem step_of_callee {program : Program} {configuration : Configuration} {index : Nat}
    {statement : Statement} {machine : Machine} {function : Nat}
    (called : callee? program statement machine = some function) :
    step program configuration index statement machine =
      enterAndJump program function machine := by
  obtain ⟨arguments, reference, first, decoded, read, natural, rfl, resolved⟩ :=
    callee?_eq_some called
  unfold step
  rw [Action.inspect_of_ok decoded, pure_bind]
  dsimp only
  rw [callFunction_apply, read]
  dsimp only
  rw [if_neg natural, resolved]

/-- A call of a builtin, or one that fails before a function is entered, leaves the machine alone.
-/
theorem leaves_callFunction_of_callee?_eq_none {program : Program} {statement : Statement}
    {machine : Machine} {arguments : Fin 9}
    (decoded : statement.operation = .ok (.call arguments))
    (none : callee? program statement machine = none) :
    (callFunction program statement.a.toNat arguments.val).leaves machine = machine := by
  unfold Action.leaves
  rw [callFunction_apply]
  unfold callee? at none
  rw [decoded] at none
  dsimp only at none
  cases read : machine.reference statement.a.toNat with
  | error fault => rfl
  | ok reference =>
    rw [read] at none
    dsimp only at none ⊢
    by_cases negative : reference < 0
    · rw [if_pos negative]
    · rw [if_neg negative] at none ⊢
      cases resolved : resolve program reference.toNat with
      | error fault => rfl
      | ok body =>
        cases body with
        | builtin number => rfl
        | statements first =>
          rw [resolved] at none
          cases none

/-- Every other statement only writes. -/
theorem keeps_step_of_callee?_eq_none {relation : Machine → Machine → Prop}
    [IsPreorder Machine relation] [AllowsWrites relation] {program : Program}
    {configuration : Configuration} {index : Nat} {statement : Statement} {machine : Machine}
    (none : callee? program statement machine = none) :
    relation machine ((step program configuration index statement).leaves machine) := by
  cases decoded : statement.operation with
  | error fault =>
    unfold Action.leaves step
    rw [Action.bind_apply, Action.inspect, decoded]
    exact refl_of relation machine
  | ok operation =>
    by_cases call : ∃ arguments, operation = .call arguments
    · obtain ⟨arguments, rfl⟩ := call
      unfold step
      rw [Action.inspect_of_ok decoded, pure_bind]
      dsimp only
      rw [leaves_callFunction_of_callee?_eq_none decoded none]
      exact refl_of relation machine
    · exact keeps_step decoded (fun arguments same => call ⟨arguments, same⟩) machine

/-- So it leaves the active functions alone. -/
theorem keepsCalls_step_of_callee?_eq_none {program : Program} {configuration : Configuration}
    {index : Nat} {statement : Statement} {machine : Machine}
    (none : callee? program statement machine = none) :
    KeepsCalls machine ((step program configuration index statement).leaves machine) :=
  keeps_step_of_callee?_eq_none none

/-! ### What happens after a statement -/

/-- A flow that an operation may lead to: only two operations end a function, and only calls ask for
builtins. -/
def Flow.Follows (operation : Opcode) : Flow → Prop
  | .leave => operation = .done ∨ operation = .leave
  | .builtin _ _ _ => ∃ arguments, operation = .call arguments
  | .next | .jump _ => True

theorem gives_branch (operation : Opcode) (taken : Slot → Bool) (index a : Nat) (delta : UInt16) :
    (branch taken index a delta).Gives (Flow.Follows operation) := by
  refine .after _ fun condition => ?_
  split
  · exact .after _ fun _ => Action.gives_pure trivial
  · exact Action.gives_pure trivial

theorem gives_enterAndJump (operation : Opcode) (program : Program) (function : Nat) :
    (enterAndJump program function).Gives (Flow.Follows operation) :=
  .after _ fun _ => Action.gives_pure trivial

/-- A builtin is asked for under the number that its function has, and nothing else is done. -/
theorem callFunction_eq_builtin {program : Program} {machine after : Machine}
    {a arguments function number count : Nat} (called : callFunction program a arguments machine =
      .ok (.builtin function number count) after) :
    resolve program function = .ok (.builtin number) ∧ after = machine := by
  rw [callFunction_apply] at called
  split at called
  · cases called
  split at called
  · cases called
  split at called
  · cases called
  · next resolved =>
    cases called
    exact ⟨resolved, rfl⟩
  · obtain ⟨_, isCall⟩ := gives_enterAndJump .done program _ called
    cases isCall

theorem gives_callFunction (arguments : Fin 9) (program : Program) (a : Nat) :
    (callFunction program a arguments.val).Gives (Flow.Follows (.call arguments)) := by
  intro machine flow after ends
  rw [callFunction_apply] at ends
  split at ends
  · cases ends
  split at ends
  · cases ends
  split at ends
  · cases ends
  · cases ends
    exact ⟨arguments, rfl⟩
  · exact gives_enterAndJump _ _ _ ends

/-- What happens after a statement fits its operation. -/
theorem gives_step {program : Program} {statement : Statement} {operation : Opcode}
    (decoded : statement.operation = .ok operation) (configuration : Configuration) (index : Nat) :
    (step program configuration index statement).Gives (Flow.Follows operation) := by
  unfold step
  rw [Action.inspect_of_ok decoded, pure_bind]
  cases operation with
  | done => exact .after _ fun _ => Action.gives_pure (.inl rfl)
  | leave => exact .after _ fun _ => Action.gives_pure (.inr rfl)
  | store kind => exact .after _ fun _ => Action.gives_pure trivial
  | storeThrough kind =>
    exact .after _ fun _ => .after _ fun _ => .after _ fun _ => Action.gives_pure trivial
  | branchIf => exact gives_branch _ _ _ _ _
  | branchUnless => exact gives_branch _ _ _ _ _
  | goto => exact .after _ fun _ => Action.gives_pure trivial
  | call arguments => exact gives_callFunction _ _ _
  | state => exact .after _ fun _ => Action.gives_pure trivial
  | _ =>
    refine .after _ fun values => ?_
    cases values with
    | none => exact Action.gives_pure trivial
    | some values => exact .after _ fun _ => .after _ fun _ => Action.gives_pure trivial

/-- What is executed has an operation, which fits what happens after it. -/
theorem follows_of_step {program : Program} {configuration : Configuration} {index : Nat}
    {statement : Statement} {machine after : Machine} {flow : Flow}
    (stepped : step program configuration index statement machine = .ok flow after) :
    ∃ operation, statement.operation = .ok operation ∧ flow.Follows operation := by
  cases decoded : statement.operation with
  | error fault =>
    unfold step at stepped
    rw [Action.bind_apply, Action.inspect, decoded] at stepped
    cases stepped
  | ok operation => exact ⟨operation, rfl, gives_step decoded configuration index stepped⟩

/-- A builtin is asked for by a call, which does nothing else. -/
theorem step_eq_builtin {program : Program} {configuration : Configuration} {index : Nat}
    {statement : Statement} {machine after : Machine} {function number count : Nat}
    (stepped : step program configuration index statement machine =
      .ok (.builtin function number count) after) :
    (∃ arguments, statement.operation = .ok (.call arguments)) ∧
      resolve program function = .ok (.builtin number) ∧ after = machine := by
  obtain ⟨_, decoded, arguments, rfl⟩ := follows_of_step stepped
  unfold step at stepped
  rw [Action.inspect_of_ok decoded, pure_bind] at stepped
  exact ⟨⟨arguments, decoded⟩, callFunction_eq_builtin stepped⟩

/-! ### Taking note of a statement -/

/-- Taking note of a statement changes counters and listings only. -/
theorem leaves_begin (environment : Environment) (index : Nat) (statement : Statement)
    (machine : Machine) :
    ∃ profile traced, (begin environment index statement).leaves machine =
      { machine with
        statement := some index
        executed := machine.executed + 1
        profile
        traced } := by
  unfold Action.leaves begin
  dsimp only
  by_cases runaway :
      environment.configuration.runawayLimit.any (· < machine.executed + 1) = true
  · rw [if_pos runaway]
    exact ⟨machine.profile, machine.traced, rfl⟩
  · rw [if_neg runaway]
    generalize currentFunction? _ = running
    cases running <;> by_cases listed : machine.tracing = true
    · exact ⟨_, _, by rw [if_pos listed]⟩
    · exact ⟨_, _, by rw [if_neg listed]⟩
    · exact ⟨_, _, by rw [if_pos listed]⟩
    · exact ⟨_, _, by rw [if_neg listed]⟩

theorem keepsCalls_begin (environment : Environment) (index : Nat) (statement : Statement) :
    (begin environment index statement).Keeps KeepsCalls := by
  intro machine
  obtain ⟨profile, traced, left⟩ := leaves_begin environment index statement machine
  rw [left]
  exact ⟨rfl, rfl⟩

/-- While a statement is executed it is the current one. -/
theorem statement_of_begin {environment : Environment} {index : Nat} {statement : Statement}
    {machine after : Machine} (begun : begin environment index statement machine = .ok () after) :
    after.statement = some index := by
  obtain ⟨profile, traced, left⟩ := leaves_begin environment index statement machine
  rw [Action.leaves_of_ok begun] at left
  rw [left]

/-! ### All that a statement does to the calls -/

/-- The result of a statement: the active functions are left alone, or a function with statements
was entered from there. -/
theorem advance_cases {environment : Environment} (loaded : environment.program.Loaded)
    {machine : Machine} (size : machine.globals.size = environment.program.globals.size)
    (index : Nat) (statement : Statement) :
    KeepsCalls machine ((advance environment index statement).leaves machine) ∨
      ∃ begun function found first, KeepsCalls machine begun ∧ begun.statement = some index ∧
        environment.program.functions[function]? = some found ∧
        found.body = .statements first ∧
        enter environment.program function begun = .ok first (begun.entered function found) ∧
        advance environment index statement machine =
          .ok (.jump first) (begun.entered function found) := by
  unfold advance
  cases noted : begin environment index statement machine with
  | error fault begun =>
    left
    have kept := (keepsCalls_begin environment index statement).error noted
    unfold Action.leaves
    rw [Action.bind_apply, noted]
    exact kept
  | ok _ begun =>
    have kept := (keepsCalls_begin environment index statement).ok noted
    cases called : callee? environment.program statement begun with
    | none =>
      left
      have quiet : KeepsCalls begun ((step environment.program environment.configuration index
          statement).leaves begun) := keepsCalls_step_of_callee?_eq_none called
      unfold Action.leaves at quiet ⊢
      rw [Action.bind_apply, noted]
      exact trans_of KeepsCalls kept quiet
    | some function =>
      obtain ⟨_, _, first, _, _, _, _, resolved⟩ := callee?_eq_some called
      obtain ⟨found, isFunction, body⟩ := resolve_eq_ok resolved
      unfold Action.leaves
      rw [Action.bind_apply, noted]
      dsimp only
      rw [step_of_callee called, enterAndJump, Action.bind_apply]
      have begunSize := kept.size.trans size
      rcases enter_cases loaded begunSize isFunction body with ⟨fault, refused⟩ | entered
      · rw [refused]
        exact .inl kept
      · rw [entered]
        exact .inr ⟨begun, function, found, first, kept, statement_of_begin noted, isFunction,
          body, entered, rfl⟩

end Gamecode.Machine
