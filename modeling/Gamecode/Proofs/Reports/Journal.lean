/-
This file keeps the journal of a call, against which its reports can be checked. The journal tells
in order where the loop came to a statement, which statements it executed, which functions were
entered and which builtins were started, where a fault was raised, and what was reported of it. It
follows a call through all functions that builtins run, and as far as the budget reaches if the call
has no end.
-/

import Gamecode.Proofs.Calls.Reachable
import Gamecode.Proofs.Guard.Lockstep

namespace Gamecode

/-! ### Notes -/

/-- What is noted in a journal. -/
inductive Note
  /-- The loop came to a statement, or to where there is none. -/
  | reached (machine : Machine)
  /-- The statement is executed on the machine. -/
  | dispatched (index : Nat) (statement : Statement) (machine : Machine)
  /-- A function with statements became the innermost one. -/
  | entered (function : Nat)
  /-- A builtin that the host offers was started. -/
  | started (function : Nat)
  | raised (fault : Fault) (machine : Machine)
  | reported (report : Report)
deriving Repr, DecidableEq

namespace Note

/-- The fault that was raised, and the number of functions that were active then. -/
def raised? : Note → Option (Fault × Nat)
  | .raised fault machine => some (fault, machine.depth)
  | .reached _ | .dispatched _ _ _ | .entered _ | .started _ | .reported _ => none

/-- The report. -/
def reported? : Note → Option Report
  | .reported report => some report
  | .reached _ | .dispatched _ _ _ | .entered _ | .started _ | .raised _ _ => none

end Note

/-- The notes on a function that is run with a number of arguments. -/
abbrev Scribe := (function arguments : Nat) → Machine → List Note

namespace Machine

/-- The notes on a run on what the parameter blocks hold. -/
def invokeJournal (scribe : Scribe) (program : Program) (function : Nat) (machine : Machine) :
    List Note :=
  scribe function ((program.functions[function]?.map Function.parameterCount).getD 0) machine

/-- The notes on a run on given arguments. -/
def callWithJournal (execute : Executor) (scribe : Scribe) (program : Program) (function : Nat)
    (arguments : List Value) (machine : Machine) : List Note :=
  if Region.maxParameters < arguments.length then []
  else
    match stageArguments arguments 0 machine with
    | .error _ _ => []
    | .ok () staged =>
      scribe function arguments.length staged.restartCount ++
        (execute function arguments.length staged.restartCount).elim [] fun
          | (.ok _, _) => []
          | (.error fault, after) => [.reported (after.report program fault)]

/-- The notes on a script and on all functions that it runs. -/
def performJournal {α : Type} (execute : Executor) (scribe : Scribe) (program : Program) :
    Native α → Machine → List Note
  | .done _, _ => []
  | .fail fault, machine => [.raised fault machine]
  | .observe next, machine => performJournal execute scribe program (next program machine) machine
  | .change update next, machine => performJournal execute scribe program next (update machine)
  | .invoke function next, machine =>
    invokeJournal scribe program function machine ++
      (invokeWith execute program function machine).elim [] fun (result, after) =>
        performJournal execute scribe program (next result) after
  | .call function arguments next, machine =>
    callWithJournal execute scribe program function arguments machine ++
      (callWith execute program function arguments machine).elim [] fun (result, after) =>
        performJournal execute scribe program (next result) after

/-- The notes on a builtin. -/
def callBuiltinJournal (execute : Executor) (scribe : Scribe) (environment : Environment)
    (function number arguments : Nat) (machine : Machine) : List Note :=
  match environment.builtins.get? number with
  | none =>
    [.raised (.unresolvedBuiltin number (environment.program.functionName function)) machine]
  | some builtin =>
    .started function ::
      performJournal execute scribe environment.program builtin.script
        { machine with
          profile := machine.profile.recordCall function
          argumentCount := arguments }

/-- The note on the function that a statement put on the stack, if the stack is higher now. -/
def pushed (before after : Machine) : List Note :=
  if before.depth < after.depth then (after.currentFunction?.map Note.entered).toList else []

/-- The notes on what follows from a statement. -/
def followJournal (execute : Executor) (scribe : Scribe) (environment : Environment) :
    Flow → Machine → List Note
  | .builtin function number arguments, machine =>
    callBuiltinJournal execute scribe environment function number arguments machine
  | .leave, machine =>
    match leave machine with
    | .ok _ _ => []
    | .error fault after => [.raised fault after]
  | .next, _ | .jump _, _ => []

/-- The notes on a turn. -/
def turnJournal (execute : Executor) (scribe : Scribe) (environment : Environment) (index : Nat)
    (machine : Machine) : List Note :=
  .reached machine ::
    match environment.program.statements[index]? with
    | none => [.raised (.statementOutOfRange index) machine]
    | some statement =>
      match begin environment index statement machine with
      | .error fault after => [.raised fault after]
      | .ok () begun =>
        .dispatched index statement begun ::
          match step environment.program environment.configuration index statement begun with
          | .error fault after => [.raised fault after]
          | .ok flow after =>
            pushed begun after ++ followJournal execute scribe environment flow after

/-- The notes on a run, as far as its budget reaches. -/
def runJournal (execute : Executor) (scribe : Scribe) (environment : Environment)
    (exitDepth : Nat) : (budget index : Nat) → Machine → List Note
  | 0, _, _ => []
  | budget + 1, index, machine =>
    turnJournal execute scribe environment index machine ++
      (turn execute environment exitDepth index machine).elim [] fun
        | (.resume next, after) => runJournal execute scribe environment exitDepth budget next after
        | (.stop _, _) => []

/-- The notes on a function and on all that it runs, as far as the budget reaches. -/
def executeJournal (environment : Environment) : (budget : Nat) → Scribe
  | 0, _, _, _ => []
  | budget + 1, function, arguments, machine =>
    match resolve environment.program function with
    | .error fault => [.raised fault machine]
    | .ok (.builtin number) =>
      callBuiltinJournal (execute environment budget) (executeJournal environment budget)
        environment function number arguments machine
    | .ok (.statements _) =>
      match enter environment.program function machine with
      | .error fault after => [.raised fault after]
      | .ok first after =>
        .entered function ::
          runJournal (execute environment budget) (executeJournal environment budget) environment
            machine.depth (budget + 1) first after

/-- The journal of a call. -/
def callJournal (environment : Environment) (budget function : Nat) (arguments : List Value)
    (machine : Machine) : List Note :=
  callWithJournal (execute environment budget) (executeJournal environment budget)
    environment.program function arguments machine

end Machine

/-! ### Requirements on journals -/

/-- Each note meets a requirement that may depend on all that was noted before it. -/
def Throughout (required : List Note → Note → Prop) : (past : List Note) → List Note → Prop
  | _, [] => True
  | past, note :: rest => required past note ∧ Throughout required (past ++ [note]) rest

namespace Throughout

variable {required : List Note → Note → Prop} {past journal more : List Note}

theorem append (first : Throughout required past journal)
    (second : Throughout required (past ++ journal) more) :
    Throughout required past (journal ++ more) := by
  induction journal generalizing past with
  | nil => rwa [List.append_nil] at second
  | cons note rest inductionHypothesis =>
    refine ⟨first.1, inductionHypothesis first.2 ?_⟩
    rwa [List.append_assoc, List.singleton_append]

theorem mono {wide : List Note → Note → Prop} (throughout : Throughout required past journal)
    (wider : ∀ {past note}, required past note → wide past note) :
    Throughout wide past journal := by
  induction journal generalizing past with
  | nil => exact trivial
  | cons note rest inductionHypothesis =>
    exact ⟨wider throughout.1, inductionHypothesis throughout.2⟩

/-- The requirement is met wherever the journal is opened. -/
theorem required_of_eq (throughout : Throughout required past journal) {earlier later : List Note}
    {note : Note} (opened : journal = earlier ++ note :: later) :
    required (past ++ earlier) note := by
  induction earlier generalizing past journal with
  | nil =>
    cases opened
    rw [List.append_nil]
    exact throughout.1
  | cons head rest inductionHypothesis =>
    cases opened
    have met := inductionHypothesis throughout.2 rfl
    rwa [List.append_assoc, List.singleton_append] at met

theorem exists_required (throughout : Throughout required past journal) {note : Note}
    (member : note ∈ journal) : ∃ earlier, required earlier note := by
  obtain ⟨earlier, later, opened⟩ := List.append_of_mem member
  exact ⟨_, throughout.required_of_eq opened⟩

end Throughout

/-- All notes of a journal meet a requirement, and what is left at the end, if there is one, meets a
condition that may depend on everything that was noted. -/
structure Told {β : Type} (required : List Note → Note → Prop) (past journal : List Note)
    (outcome : Option (β × Machine)) (post : List Note → β → Machine → Prop) : Prop where
  throughout : Throughout required past journal
  ends : ∀ {value after}, outcome = some (value, after) → post (past ++ journal) value after

namespace Told

variable {β γ : Type} {required : List Note → Note → Prop} {past journal : List Note}
  {outcome : Option (β × Machine)} {value : β} {after : Machine}
  {post : List Note → β → Machine → Prop} {last : List Note → γ → Machine → Prop}

/-- Nothing is noted, and all is over. -/
theorem ended (reached : post past value after) :
    Told required past [] (some (value, after)) post where
  throughout := trivial
  ends same := by
    cases same
    rwa [List.append_nil]

theorem cons {note : Note} (met : required past note)
    (rest : Told required (past ++ [note]) journal outcome post) :
    Told required past (note :: journal) outcome post where
  throughout := ⟨met, rest.throughout⟩
  ends same := by
    rw [← List.singleton_append, ← List.append_assoc]
    exact rest.ends same

/-- One note is made, and all is over. -/
theorem noted {note : Note} (met : required past note)
    (reached : post (past ++ [note]) value after) :
    Told required past [note] (some (value, after)) post :=
  cons met (ended reached)

theorem mono {wide : List Note → Note → Prop} {weak : List Note → β → Machine → Prop}
    (told : Told required past journal outcome post)
    (wider : ∀ {past note}, required past note → wide past note)
    (weaker : ∀ {past value after}, post past value after → weak past value after) :
    Told wide past journal outcome weak where
  throughout := told.throughout.mono wider
  ends same := weaker (told.ends same)

/-- Where the first part ends, a second one may follow it. -/
theorem bind {next : β × Machine → Option (γ × Machine)} {more : β × Machine → List Note}
    (first : Told required past journal outcome post)
    (second : ∀ {value after}, post (past ++ journal) value after →
      Told required (past ++ journal) (more (value, after)) (next (value, after)) last) :
    Told required past (journal ++ outcome.elim [] more) (outcome.bind next) last := by
  rcases outcome with _ | ⟨value, after⟩
  · refine ⟨?_, nofun⟩
    rw [Option.elim_none, List.append_nil]
    exact first.throughout
  · have rest := second (first.ends rfl)
    refine ⟨first.throughout.append rest.throughout, fun same => ?_⟩
    rw [Option.elim_some, ← List.append_assoc]
    exact rest.ends same

theorem map {finish : β × Machine → γ × Machine} (told : Told required past journal outcome post)
    (finished : ∀ {value after}, post (past ++ journal) value after →
      last (past ++ journal) (finish (value, after)).1 (finish (value, after)).2) :
    Told required past journal (outcome.map finish) last where
  throughout := told.throughout
  ends same := by
    obtain ⟨⟨value, after⟩, ends, finish⟩ := Option.map_eq_some_iff.mp same
    have reached := finished (told.ends ends)
    rw [finish] at reached
    exact reached

end Told

namespace Machine

/-! ### What reports are made from -/

/-- The same functions are active, and the same statement is executed. -/
structure KeepsPlace (before after : Machine) : Prop extends KeepsCalls before after where
  statement : after.statement = before.statement

instance : IsPreorder Machine KeepsPlace where
  refl _ := ⟨refl_of KeepsCalls _, rfl⟩
  trans _ _ _ first second :=
    ⟨trans_of KeepsCalls first.toKeepsCalls second.toKeepsCalls,
      second.statement.trans first.statement⟩

instance : Builtins.Allowed KeepsPlace where
  globals sized := ⟨⟨rfl, sized⟩, rfl⟩
  temporary _ _ := ⟨⟨rfl, rfl⟩, rfl⟩
  spawned _ := ⟨⟨rfl, rfl⟩, rfl⟩
  removed _ := ⟨⟨rfl, rfl⟩, rfl⟩
  printed _ _ := ⟨⟨rfl, rfl⟩, rfl⟩
  traced _ _ := ⟨⟨rfl, rfl⟩, rfl⟩

/-- In addition the counters are the same. -/
structure Quiet (before after : Machine) : Prop extends KeepsPlace before after where
  profile : after.profile = before.profile
  executed : after.executed = before.executed

instance : IsPreorder Machine Quiet where
  refl _ := ⟨refl_of KeepsPlace _, rfl, rfl⟩
  trans _ _ _ first second :=
    ⟨trans_of KeepsPlace first.toKeepsPlace second.toKeepsPlace,
      second.profile.trans first.profile, second.executed.trans first.executed⟩

instance : AllowsWrites Quiet where
  globals sized := ⟨⟨⟨rfl, sized⟩, rfl⟩, rfl, rfl⟩
  entities _ := ⟨⟨⟨rfl, rfl⟩, rfl⟩, rfl, rfl⟩

instance : Builtins.Allowed Quiet where
  temporary _ _ := ⟨⟨⟨rfl, rfl⟩, rfl⟩, rfl, rfl⟩
  spawned _ := ⟨⟨⟨rfl, rfl⟩, rfl⟩, rfl, rfl⟩
  removed _ := ⟨⟨⟨rfl, rfl⟩, rfl⟩, rfl, rfl⟩
  printed _ _ := ⟨⟨⟨rfl, rfl⟩, rfl⟩, rfl, rfl⟩
  traced _ _ := ⟨⟨⟨rfl, rfl⟩, rfl⟩, rfl, rfl⟩

section Statements

variable {program : Program} {configuration : Configuration} {index : Nat} {statement : Statement}
  {machine after : Machine}

/-- A statement that fails has only written before. -/
theorem quiet_of_step_eq_error (loaded : program.Loaded)
    (size : machine.globals.size = program.globals.size) {fault : Fault}
    (failed : step program configuration index statement machine = .error fault after) :
    Quiet machine after := by
  cases called : callee? program statement machine with
  | none =>
    have quiet : Quiet machine ((step program configuration index statement).leaves machine) :=
      keeps_step_of_callee?_eq_none called
    rwa [Action.leaves_of_error failed] at quiet
  | some function =>
    obtain ⟨_, _, first, _, _, _, _, resolved⟩ := callee?_eq_some called
    obtain ⟨found, isFunction, body⟩ := resolve_eq_ok resolved
    rw [step_of_callee called, enterAndJump, Action.bind_apply] at failed
    rcases enter_cases loaded size isFunction body with ⟨fault, refused⟩ | entered
    · rw [refused] at failed
      cases failed
      exact refl_of Quiet machine
    · rw [entered] at failed
      cases failed

/-- A statement that does not fail has only written, or it is a call that entered a function. -/
theorem quiet_or_entered_of_step (loaded : program.Loaded)
    (size : machine.globals.size = program.globals.size) {flow : Flow}
    (stepped : step program configuration index statement machine = .ok flow after) :
    Quiet machine after ∨ ∃ arguments function found first,
      statement.operation = .ok (.call arguments) ∧ program.functions[function]? = some found ∧
        flow = .jump first ∧ after = machine.entered function found := by
  cases called : callee? program statement machine with
  | none =>
    have quiet : Quiet machine ((step program configuration index statement).leaves machine) :=
      keeps_step_of_callee?_eq_none called
    rw [Action.leaves_of_ok stepped] at quiet
    exact .inl quiet
  | some function =>
    obtain ⟨arguments, _, first, decoded, _, _, _, resolved⟩ := callee?_eq_some called
    obtain ⟨found, isFunction, body⟩ := resolve_eq_ok resolved
    rw [step_of_callee called, enterAndJump, Action.bind_apply] at stepped
    rcases enter_cases loaded size isFunction body with ⟨fault, refused⟩ | entered
    · rw [refused] at stepped
      cases stepped
    · rw [entered] at stepped
      cases stepped
      exact .inr ⟨arguments, function, found, first, decoded, isFunction, rfl, rfl⟩

theorem Sound.of_step {environment : Environment} {noted : Machine} {flow : Flow}
    (loaded : environment.program.Loaded) (sound : machine.Sound environment)
    (begun : begin environment index statement machine = .ok () noted)
    (stepped : step environment.program environment.configuration index statement noted =
      .ok flow after) : after.Sound environment := by
  have advanced : Machine.advance environment index statement machine = .ok flow after := by
    unfold Machine.advance
    rw [Action.bind_apply, begun]
    exact stepped
  exact Action.leaves_of_ok advanced ▸ sound.advance loaded index statement

/-- As many arguments as there are parameter blocks can always be put in place. -/
theorem Sound.stageArguments_ne_error {environment : Environment}
    (loaded : environment.program.Loaded) (sound : machine.Sound environment)
    {arguments : List Value} (few : arguments.length ≤ Region.maxParameters) (fault : Fault)
    (staged : Machine) : stageArguments arguments 0 machine ≠ .error fault staged := by
  intro misplaced
  have fromZero : 0 + arguments.length ≤ Region.maxParameters := by rwa [Nat.zero_add]
  obtain ⟨globals, -, inPlace⟩ := stageArguments_eq_ok fromZero
    (Nat.le_trans loaded.region_le (Nat.le_of_eq sound.size.symm))
  rw [misplaced] at inPlace
  cases inPlace

theorem pushed_of_keepsCalls (kept : KeepsCalls machine after) : pushed machine after = [] := by
  unfold pushed
  rw [kept.depth, if_neg (Nat.lt_irrefl _)]

theorem depth_entered (machine : Machine) (function : Nat) (found : Function) :
    (machine.entered function found).depth = machine.depth + 1 :=
  CallStack.depth_entered _ _ _

theorem pushed_entered (machine : Machine) (function : Nat) (found : Function) :
    pushed machine (machine.entered function found) = [.entered function] := by
  unfold pushed
  rw [depth_entered, if_pos (Nat.lt_succ_self _), currentFunction?, CallStack.innermost?]
  simp only [entered, CallStack.entered, Array.back?_push, Option.map_some, Option.toList_some,
    frameFor]

end Statements

/-! ### Journals of runs -/

section Rules

variable {environment : Environment} {execute : Executor} {scribe : Scribe}
  {required : List Note → Note → Prop} {past : List Note} {exitDepth index : Nat}
    {machine : Machine}

/-- A turn is told if each of the ways is in which it may go. -/
theorem told_turn {post : List Note → Turn → Machine → Prop}
    (reached : required past (.reached machine))
    (missing : environment.program.statements[index]? = none →
      Told required (past ++ [.reached machine]) [.raised (.statementOutOfRange index) machine]
        (some (.stop (.error (.statementOutOfRange index)), machine)) post)
    (refused : ∀ {statement fault after},
      environment.program.statements[index]? = some statement →
        begin environment index statement machine = .error fault after →
          Told required (past ++ [.reached machine]) [.raised fault after]
            (some (.stop (.error fault), after)) post)
    (dispatched : ∀ {statement begun},
      environment.program.statements[index]? = some statement →
        begin environment index statement machine = .ok () begun →
          required (past ++ [.reached machine]) (.dispatched index statement begun))
    (failed : ∀ {statement begun fault after},
      environment.program.statements[index]? = some statement →
        begin environment index statement machine = .ok () begun →
          step environment.program environment.configuration index statement begun =
              .error fault after →
            Told required (past ++ [.reached machine] ++ [.dispatched index statement begun])
              [.raised fault after] (some (.stop (.error fault), after)) post)
    (followed : ∀ {statement begun flow after},
      environment.program.statements[index]? = some statement →
        begin environment index statement machine = .ok () begun →
          step environment.program environment.configuration index statement begun =
              .ok flow after →
            Told required (past ++ [.reached machine] ++ [.dispatched index statement begun])
              (pushed begun after ++ followJournal execute scribe environment flow after)
              (follow execute environment exitDepth index flow after) post) :
    Told required past (turnJournal execute scribe environment index machine)
      (turn execute environment exitDepth index machine) post := by
  unfold turnJournal
  refine .cons reached ?_
  cases found : environment.program.statements[index]? with
  | none =>
    rw [turn_of_missing found]
    exact missing found
  | some statement =>
    dsimp only
    cases begun : begin environment index statement machine with
    | error fault after =>
      rw [turn_of_refused found begun]
      exact refused found begun
    | ok _ noted =>
      rw [turn_of_begun found begun]
      refine .cons (dispatched found begun) ?_
      cases stepped : step environment.program environment.configuration index statement noted with
      | error fault after => exact failed found begun stepped
      | ok flow after => exact followed found begun stepped

/-- A condition for a loop that goes on, and one for a loop that stops. -/
def afterTurn (running : List Note → Nat → Machine → Prop)
    (stopped : List Note → Except Fault Unit → Machine → Prop) :
    List Note → Turn → Machine → Prop
  | past, .resume next, machine => running past next machine
  | past, .stop result, machine => stopped past result machine

/-- What every turn keeps while the loop goes on holds until it stops. -/
theorem told_run {running : List Note → Nat → Machine → Prop}
    {stopped : List Note → Except Fault Unit → Machine → Prop}
    (turns : ∀ {past index machine}, running past index machine →
      Told required past (turnJournal execute scribe environment index machine)
        (turn execute environment exitDepth index machine) (afterTurn running stopped))
    (budget : Nat) (begins : running past index machine) :
    Told required past (runJournal execute scribe environment exitDepth budget index machine)
      (run execute environment exitDepth budget index machine) stopped := by
  induction budget generalizing past index machine with
  | zero => exact ⟨trivial, nofun⟩
  | succ budget inductionHypothesis =>
    rw [run_succ]
    refine (turns begins).bind fun {outcome after} reached => ?_
    cases outcome with
    | resume next => exact inductionHypothesis reached
    | stop result => exact .ended reached

/-- A builtin is told if its script is, or if the host does not offer it. -/
theorem told_callBuiltin {post : List Note → Except Fault Unit → Machine → Prop}
    {function number arguments : Nat}
    (unresolved : environment.builtins.get? number = none → ∀ fault,
      Told required past [.raised fault machine] (some (.error fault, machine)) post)
    (offered : ∀ {builtin}, environment.builtins.get? number = some builtin →
      Told required past
        (.started function :: performJournal execute scribe environment.program builtin.script
          { machine with
            profile := machine.profile.recordCall function
            argumentCount := arguments })
        (perform execute environment.program builtin.script
          { machine with
            profile := machine.profile.recordCall function
            argumentCount := arguments }) post) :
    Told required past
      (callBuiltinJournal execute scribe environment function number arguments machine)
      (callBuiltin execute environment function number arguments machine) post := by
  unfold callBuiltinJournal callBuiltin
  cases found : environment.builtins.get? number with
  | none => exact unresolved found _
  | some builtin => exact offered found

/-- An execution is told if the builtin or the run is that it stands for. -/
theorem told_execute {budget function arguments : Nat}
    {post : List Note → Except Fault Unit → Machine → Prop}
    (unresolved : ∀ {fault}, resolve environment.program function = .error fault →
      Told required past [.raised fault machine] (some (.error fault, machine)) post)
    (builtin : ∀ {number}, resolve environment.program function = .ok (.builtin number) →
      Told required past
        (callBuiltinJournal (Machine.execute environment budget) (executeJournal environment budget)
          environment function number arguments machine)
        (callBuiltin (Machine.execute environment budget) environment function number arguments
          machine) post)
    (locked : ∀ {fault after}, enter environment.program function machine = .error fault after →
      Told required past [.raised fault after] (some (.error fault, after)) post)
    (entered : ∀ {first after}, enter environment.program function machine = .ok first after →
      Told required past
        (.entered function ::
          runJournal (Machine.execute environment budget) (executeJournal environment budget)
            environment machine.depth (budget + 1) first after)
        (run (Machine.execute environment budget) environment machine.depth (budget + 1) first
          after)
        post) :
    Told required past (executeJournal environment (budget + 1) function arguments machine)
      (Machine.execute environment (budget + 1) function arguments machine) post := by
  unfold executeJournal Machine.execute
  cases resolved : resolve environment.program function with
  | error fault => exact unresolved resolved
  | ok body =>
    cases body with
    | builtin number => exact builtin resolved
    | statements first =>
      dsimp only
      cases ends : enter environment.program function machine with
      | error fault after => exact locked ends
      | ok start after => exact entered ends

/-- A call is told if the execution is that begins once the arguments are in place. -/
theorem told_callWith (reached : List Note → Except Fault Unit → Machine → Prop)
    {program : Program} {function : Nat} {arguments : List Value}
    {post : List Note → Except Report Vector3 → Machine → Prop}
    (many : ∀ report, Region.maxParameters < arguments.length → post past (.error report) machine)
    (misplaced : ∀ {fault staged}, arguments.length ≤ Region.maxParameters →
      stageArguments arguments 0 machine = .error fault staged →
        post past (.error (.detached fault)) staged)
    (executed : ∀ {staged}, arguments.length ≤ Region.maxParameters →
      stageArguments arguments 0 machine = .ok () staged →
        Told required past (scribe function arguments.length staged.restartCount)
          (execute function arguments.length staged.restartCount) reached)
    (returned : ∀ {past staged after}, stageArguments arguments 0 machine = .ok () staged →
      reached past (.ok ()) after →
        post past (.ok after.returned)
          { after with statement := staged.restartCount.statement })
    (reported : ∀ {past staged fault after}, stageArguments arguments 0 machine = .ok () staged →
      reached past (.error fault) after →
        required past (.reported (after.report program fault)) ∧
          post (past ++ [.reported (after.report program fault)])
            (.error (after.report program fault))
            { (after.unwindTo staged.restartCount.depth).2 with
              statement := staged.restartCount.statement }) :
    Told required past (callWithJournal execute scribe program function arguments machine)
      (callWith execute program function arguments machine) post := by
  unfold callWithJournal callWith
  split
  · next more => exact .ended (many _ more)
  next few =>
  cases inPlace : stageArguments arguments 0 machine with
  | error fault staged => exact .ended (misplaced (Nat.not_lt.mp few) inPlace)
  | ok _ staged =>
    dsimp only
    rw [Option.map_eq_bind]
    refine (executed (Nat.not_lt.mp few) inPlace).bind fun {result after} ends => ?_
    cases result with
    | ok _ => exact .ended (returned inPlace ends)
    | error fault =>
      obtain ⟨met, finished⟩ := reported inPlace ends
      exact .noted met finished

end Rules

end Machine

end Gamecode
