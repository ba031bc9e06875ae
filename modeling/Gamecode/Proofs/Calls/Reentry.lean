/-
This file is about functions that a builtin runs while it is being called. Whatever they do, the
active functions and the statement of the outer call are then what they were, and while a function
is active the statements go on being counted. Only an invocation also puts the argument count back:
after a call it is the one that the last builtin was given that the call reached by itself.
-/

import Gamecode.Proofs.Calls.History
import Gamecode.Proofs.Calls.Reachable
import Gamecode.Proofs.Guard.Lockstep

namespace Gamecode

/-! ### The numbers of a history -/

/-- The argument count after a history. -/
def Event.argumentCountAfter (before : Nat) (history : List Event) : Nat :=
  history.foldl (fun current event =>
    match event with
    | .arguments count => count
    | .counted | .executed _ _ _ | .restarted => current) before

/-- How many statements are counted after a history. -/
def Event.executedAfter (before : Nat) (history : List Event) : Nat :=
  history.foldl (fun current event =>
    match event with
    | .counted => current + 1
    | .restarted => 0
    | .executed _ _ _ | .arguments _ => current) before

namespace Machine

/-- The argument count and the number of counted statements are the same. -/
structure KeepsNumbers (before after : Machine) : Prop where
  argumentCount : after.argumentCount = before.argumentCount
  executed : after.executed = before.executed

instance : IsPreorder Machine KeepsNumbers where
  refl _ := ⟨rfl, rfl⟩
  trans _ _ _ first second :=
    ⟨second.argumentCount.trans first.argumentCount, second.executed.trans first.executed⟩

instance : AllowsEntries KeepsNumbers where
  globals _ := ⟨rfl, rfl⟩
  entities _ := ⟨rfl, rfl⟩
  stack _ _ _ := ⟨rfl, rfl⟩
  profiled _ _ := ⟨rfl, rfl⟩

instance : Builtins.Allowed KeepsNumbers where
  temporary _ _ := ⟨rfl, rfl⟩
  spawned _ := ⟨rfl, rfl⟩
  removed _ := ⟨rfl, rfl⟩
  printed _ _ := ⟨rfl, rfl⟩
  traced _ _ := ⟨rfl, rfl⟩

/-- The numbers of the machine are those that a history leads to. -/
structure Numbered (history : List Event) (before after : Machine) : Prop where
  argumentCount : after.argumentCount = Event.argumentCountAfter before.argumentCount history
  executed : after.executed = Event.executedAfter before.executed history

theorem KeepsNumbers.numbered {before after : Machine} (keeps : KeepsNumbers before after) :
    Numbered [] before after :=
  ⟨keeps.argumentCount, keeps.executed⟩

variable {environment : Environment} {executor : Executor} {machine after : Machine}

/-- What an action keeps it keeps without an event. -/
theorem numbered_of_keeps {α : Type} {action : Action α} (keeps : action.Keeps KeepsNumbers) :
    action.Keeps (Numbered []) :=
  fun machine => (keeps machine).numbered

theorem follows_numbered
    (builtins : environment.builtins.KeepByThemselves KeepsNumbers environment.program) :
    Follows Numbered environment where
  nothing _ := ⟨rfl, rfl⟩
  append first second := by
    constructor
    · rw [second.argumentCount, first.argumentCount, Event.argumentCountAfter,
        Event.argumentCountAfter, Event.argumentCountAfter, List.foldl_append]
    · rw [second.executed, first.executed, Event.executedAfter, Event.executedAfter,
        Event.executedAfter, List.foldl_append]
  begin index statement machine := by
    obtain ⟨profile, traced, left⟩ := leaves_begin environment index statement machine
    rw [left]
    exact ⟨rfl, rfl⟩
  step index statement machine := by
    have kept : KeepsNumbers machine _ :=
      keeps_anyStep environment.program environment.configuration index statement machine
    exact ⟨kept.argumentCount, kept.executed⟩
  enter function := numbered_of_keeps (keeps_enter environment.program function)
  leave := numbered_of_keeps keeps_leave
  stage arguments index := numbered_of_keeps (keeps_stageArguments arguments index)
  cleared _ := ⟨rfl, rfl⟩
  restated _ _ := ⟨rfl, rfl⟩
  arguments _ _ _ _ := ⟨rfl, rfl⟩
  restarted _ := ⟨rfl, rfl⟩
  builtins := by
    intro number builtin offered machine
    have keeps := builtins number builtin offered machine
    exact keeps.mono KeepsNumbers.numbered

/-! ### Counting on -/

/-- No fewer statements have been counted. -/
def CountsUp (before after : Machine) : Prop :=
  before.executed ≤ after.executed

instance : IsPreorder Machine CountsUp where
  refl machine := Nat.le_refl machine.executed
  trans _ _ _ first second := Nat.le_trans first second

instance : AllowsEntries CountsUp where
  globals _ := Nat.le_refl _
  entities _ := Nat.le_refl _
  stack _ _ _ := Nat.le_refl _
  profiled _ _ := Nat.le_refl _

theorem countsUp_advance (environment : Environment) (index : Nat) (statement : Statement) :
    (advance environment index statement).Keeps CountsUp := by
  refine Action.Keeps.bind (fun machine => ?_) fun _ => keeps_anyStep _ _ _ _
  obtain ⟨profile, traced, left⟩ := leaves_begin environment index statement machine
  rw [left]
  exact Nat.le_succ machine.executed

/-- The active functions are the same, and no fewer statements have been counted if there are any.
-/
def Continues (before after : Machine) : Prop :=
  KeepsCalls before after ∧ (0 < before.depth → CountsUp before after)

instance : IsPreorder Machine Continues where
  refl machine := ⟨refl_of KeepsCalls machine, fun _ => refl_of CountsUp machine⟩
  trans _ _ _ first second :=
    ⟨trans_of KeepsCalls first.1 second.1, fun active =>
      trans_of CountsUp (first.2 active) (second.2 (first.1.depth ▸ active))⟩

end Machine

/-- While a function is active the executor goes on with the count. -/
def Executor.CountsOn (program : Program) (execute : Executor) : Prop :=
  ∀ ⦃function arguments : Nat⦄ ⦃machine after : Machine⦄ ⦃result : Except Fault Unit⦄,
    machine.Ready program → 0 < machine.depth →
      execute function arguments machine = some (result, after) → machine.CountsUp after

namespace Machine

variable {environment : Environment} {executor : Executor} {machine after : Machine}

theorem invokeWith_continues {program : Program} (balanced : executor.Balanced program)
    (countsOn : executor.CountsOn program) (ready : machine.Ready program) {function : Nat}
    {result : Except Fault Unit}
    (ends : invokeWith executor program function machine = some (result, after)) :
    machine.Continues after := by
  refine ⟨(invokeWith_restores balanced ready ends).1.calls, fun active => ?_⟩
  obtain ⟨⟨inner, reached⟩, ran, same⟩ := Option.map_eq_some_iff.mp ends
  have counted := countsOn ready active ran
  cases inner with
  | ok value =>
    cases same
    exact counted
  | error fault =>
    cases same
    exact Nat.le_trans counted (Nat.le_of_eq (executed_unwindTo machine.depth reached).symm)

/-- A call made inside another does not count anew. -/
theorem callWith_continues {program : Program} (balanced : executor.Balanced program)
    (countsOn : executor.CountsOn program) (ready : machine.Ready program) {function : Nat}
    {arguments : List Value} {result : Except Report Vector3}
    (ends : callWith executor program function arguments machine = some (result, after)) :
    machine.Continues after := by
  refine ⟨callWith_keepsCalls balanced ready ends, fun active => ?_⟩
  unfold callWith at ends
  split at ends
  · cases ends
    exact refl_of CountsUp machine
  have stages : (stageArguments arguments 0).Keeps CountsUp := keeps_stageArguments arguments 0
  split at ends
  · next inPlace =>
    cases ends
    exact stages.error inPlace
  next staged inPlace =>
  have kept := (keepsCalls_stageArguments arguments 0).ok inPlace
  have stagedActive : 0 < staged.depth := kept.depth ▸ active
  have unchanged : staged.restartCount = staged := if_neg (Nat.ne_of_gt stagedActive)
  obtain ⟨⟨inner, reached⟩, ran, same⟩ := Option.map_eq_some_iff.mp ends
  rw [unchanged] at ran same
  have counted := trans_of CountsUp (stages.ok inPlace)
    (countsOn (ready.of_keepsCalls kept) stagedActive ran)
  cases inner with
  | ok value =>
    cases same
    exact counted
  | error fault =>
    cases same
    exact Nat.le_trans counted (Nat.le_of_eq (executed_unwindTo staged.depth reached).symm)

/-- Builtins that leave the calls and the numbers to the machine respect that the count goes on. -/
theorem respects_continues
    (respects : environment.builtins.Respects KeepsCalls environment.program)
    (builtins : environment.builtins.KeepByThemselves KeepsNumbers environment.program) :
    environment.builtins.Respects Continues environment.program := by
  intro number builtin offered machine
  refine (builtins number builtin offered machine).respects
    (respects number builtin offered machine) ?_ And.left
  exact fun kept numbers => ⟨kept, fun _ => Nat.le_of_eq numbers.executed.symm⟩

theorem callBuiltin_continues
    (continues : environment.builtins.Respects Continues environment.program)
    (balanced : executor.Balanced environment.program)
    (countsOn : executor.CountsOn environment.program) (ready : machine.Ready environment.program)
    {function number arguments : Nat} {result : Except Fault Unit}
    (ends : callBuiltin executor environment function number arguments machine =
      some (result, after)) : machine.Continues after := by
  unfold callBuiltin at ends
  split at ends
  · cases ends
    exact refl_of Continues machine
  · next builtin offered =>
    have noted : Continues machine
        { machine with
          profile := machine.profile.recordCall function
          argumentCount := arguments } := ⟨⟨rfl, rfl⟩, fun _ => Nat.le_refl machine.executed⟩
    refine (perform_respects ?_ ?_ noted (continues number builtin offered _) ends).1
    · intro _ before _ _ reached ran
      exact invokeWith_continues balanced countsOn (ready.of_keepsCalls reached.1) ran
    · intro _ _ before _ _ reached ran
      exact callWith_continues balanced countsOn (ready.of_keepsCalls reached.1) ran

/-- A function is active in a machine whose stack lies above the one of a function. -/
theorem Over.depth_pos {size : Nat} {caller : CallStack} {frame : Frame} {window : List Slot}
    (atop : machine.Over size (caller.entered frame window)) : 0 < machine.depth := by
  have deep := atop.above.depth_le
  rw [CallStack.depth_entered] at deep
  exact Nat.lt_of_lt_of_le (Nat.succ_pos _) deep

theorem countsUp_turn (loaded : environment.program.Loaded)
    (continues : environment.builtins.Respects Continues environment.program)
    (balanced : executor.Balanced environment.program)
    (countsOn : executor.CountsOn environment.program) {caller : CallStack} {frame : Frame}
    {window : List Slot} {exitDepth index : Nat} {outcome : Turn}
    (atop : machine.Over environment.program.globals.size (caller.entered frame window))
    (turned : turn executor environment exitDepth index machine = some (outcome, after)) :
    machine.CountsUp after := by
  have advances := countsUp_advance environment index
  cases turned_of_turn turned with
  | missing => exact refl_of CountsUp machine
  | fault _ advanced => exact (advances _).error advanced
  | next _ advanced => exact (advances _).ok advanced
  | jump _ advanced => exact (advances _).ok advanced
  | @builtin statement _ _ _ _ _ _ _ advanced called =>
    have reachedOver := atop.advance loaded index statement
    rw [Action.leaves_of_ok advanced] at reachedOver
    have continued := callBuiltin_continues continues balanced countsOn reachedOver.ready
      called
    exact trans_of CountsUp ((advances _).ok advanced) (continued.2 reachedOver.depth_pos)
  | @leave _ reached _ _ _ advanced returned =>
    have left : CountsUp reached _ := keeps_leave reached
    rw [← snd_returnFrom exitDepth, returned] at left
    exact trans_of CountsUp ((advances _).ok advanced) left

theorem countsUp_turns (loaded : environment.program.Loaded)
    (respects : environment.builtins.Respects KeepsCalls environment.program)
    (continues : environment.builtins.Respects Continues environment.program)
    (balanced : executor.Balanced environment.program)
    (countsOn : executor.CountsOn environment.program) {caller : CallStack} {frame : Frame}
    {window : List Slot}
    (admits : caller.Admits environment.program.globals.size frame window) {start index : Nat}
    (atop : machine.Over environment.program.globals.size (caller.entered frame window))
    (turns : Turns executor environment caller.depth start machine index after) :
    machine.CountsUp after := by
  induction turns with
  | start => exact refl_of CountsUp machine
  | resume turns turned inductionHypothesis =>
    have reachedOver := over_of_turns loaded respects balanced admits atop turns
    exact trans_of CountsUp inductionHypothesis
      (countsUp_turn loaded continues balanced countsOn reachedOver turned)

/-- While a function is active, no run makes the count smaller. -/
theorem execute_countsOn (loaded : environment.program.Loaded)
    (respects : environment.builtins.Respects KeepsCalls environment.program)
    (builtins : environment.builtins.KeepByThemselves KeepsNumbers environment.program)
    (budget : Nat) :
    Executor.CountsOn environment.program (Machine.execute environment budget) := by
  induction budget with
  | zero => exact fun _ _ _ _ _ _ _ ends => nomatch ends
  | succ budget inductionHypothesis =>
    intro function arguments machine after result ready active ends
    have balanced := execute_balanced loaded respects budget
    have continues := respects_continues respects builtins
    unfold Machine.execute at ends
    split at ends
    · cases ends
      exact refl_of CountsUp machine
    · exact (callBuiltin_continues continues balanced inductionHypothesis ready ends).2 active
    · next first resolved =>
      obtain ⟨found, isFunction, body⟩ := resolve_eq_ok resolved
      have inside : found.windowBase + found.windowLength ≤ machine.globals.size :=
        ready.size ▸ (loaded.fits isFunction body).window_le_size
      rcases enter_cases loaded ready.size isFunction body with ⟨fault, refused⟩ | entered
      · rw [refused] at ends
        cases ends
        exact refl_of CountsUp machine
      · rw [entered] at ends
        have admits := ready.size ▸ admits_frameFor function inside
        have enteredOver := ready.size ▸ @over_entered machine function found
        obtain ⟨last, reached, turns, stops⟩ := exists_run_iff_arrives.mp ⟨_, ends⟩
        have enters : machine.CountsUp (machine.entered function found) := Nat.le_refl _
        exact trans_of CountsUp enters (trans_of CountsUp
          (countsUp_turns loaded respects continues balanced inductionHypothesis admits
            enteredOver turns)
          (countsUp_turn loaded continues balanced inductionHypothesis
            (over_of_turns loaded respects balanced admits enteredOver turns) stops))

/-! ### What a nested run gives back -/

/-- Nothing but the globals differs. -/
def ChangesGlobals (before after : Machine) : Prop :=
  ∃ globals, after = { before with globals }

instance : IsPreorder Machine ChangesGlobals where
  refl machine := ⟨machine.globals, rfl⟩
  trans := by
    rintro _ _ _ ⟨_, rfl⟩ ⟨globals, rfl⟩
    exact ⟨globals, rfl⟩

instance : AllowsGlobals ChangesGlobals where
  globals _ := ⟨_, rfl⟩

/-- The statement is the same after a call, however it ends. -/
theorem statement_of_callWith {program : Program} {function : Nat} {arguments : List Value}
    {result : Except Report Vector3}
    (ends : callWith executor program function arguments machine = some (result, after)) :
    after.statement = machine.statement := by
  have stages : (stageArguments arguments 0).Keeps ChangesGlobals :=
    keeps_stageArguments arguments 0
  unfold callWith at ends
  split at ends
  · cases ends
    rfl
  split at ends
  · next inPlace =>
    cases ends
    obtain ⟨_, rfl⟩ := stages.error inPlace
    rfl
  next staged inPlace =>
  obtain ⟨_, rfl⟩ := stages.ok inPlace
  obtain ⟨executed, restarted⟩ := restartCount_eq _
  obtain ⟨⟨inner, reached⟩, ran, same⟩ := Option.map_eq_some_iff.mp ends
  rw [restarted] at same
  cases inner with
  | ok value | error fault =>
    cases same
    rfl

/-- What a nested run gives back, and what its history makes of the rest. -/
structure Returns (history : List Event) (before after : Machine) : Prop where
  stack : after.stack = before.stack
  statement : after.statement = before.statement
  argumentCount : after.argumentCount = Event.argumentCountAfter before.argumentCount history
  executed : after.executed = Event.executedAfter before.executed history
  counted_up : 0 < before.depth → before.executed ≤ after.executed

/-- However a function ends that is run in a reachable machine, the active functions, the saved
slots and the statement are what they were, and while a function is active the statements go on
being counted. An invocation gives the argument count back as well. A call does not: it leaves the
count that its history leads to, and where no function is active it counts the statements anew. -/
theorem reentry_returns {image : Array UInt8} {expectation : Image.Expectation}
    (loads : Image.load image expectation = .ok environment.program)
    (respects : environment.builtins.Respects KeepsCalls environment.program)
    (builtins : environment.builtins.KeepByThemselves KeepsNumbers environment.program)
    (reachable : Reachable environment machine) (budget function : Nat) :
    (∀ result after, invoke environment budget function machine = some (result, after) →
      machine.Returns (historyOfInvoke environment budget function machine) after ∧
        after.argumentCount = machine.argumentCount) ∧
      ∀ arguments result after,
        call environment budget function arguments machine = some (result, after) →
          machine.Returns (historyOfCall environment budget function arguments machine) after := by
  have loaded := Image.loaded_of_load loads
  have ready := (reachable.sound loaded respects).ready
  have balanced := execute_balanced loaded respects budget
  have countsOn := execute_countsOn loaded respects builtins budget
  have follows := follows_numbered builtins
  constructor
  · intro result after ends
    obtain ⟨restores, statement⟩ := invokeWith_restores balanced ready ends
    obtain ⟨argumentCount, executed⟩ := follows.invoke ends
    have continued := invokeWith_continues balanced countsOn ready ends
    refine ⟨⟨restores.calls.stack, statement, argumentCount, executed, continued.2⟩, ?_⟩
    -- The last event of an invocation puts the count back.
    rw [argumentCount, historyOfInvoke, invokeHistory, Event.argumentCountAfter,
      List.foldl_append]
    rfl
  · intro arguments result after ends
    obtain ⟨argumentCount, executed⟩ := follows.call ends
    have continued := callWith_continues balanced countsOn ready ends
    exact ⟨continued.1.stack, statement_of_callWith ends, argumentCount, executed, continued.2⟩

end Machine

namespace Sample

theorem keepsNumbers :
    environment.builtins.KeepByThemselves Machine.KeepsNumbers environment.program := by
  refine Builtins.every_register _
    (Builtins.keepByThemselves_installClassic (Builtins.every_empty _)) fun machine => ?_
  exact Native.KeepsByItself.bind (Native.keepsByItself_check _ machine) fun _ _ _ _ => trivial

/-- A builtin that calls itself without arguments, and complains if that changed its own count. -/
def recount : Native Unit := do
  let before ← Native.argumentCount
  if before ≠ 0 then
    let _ ← Native.runWith 2 []
    let after ← Native.argumentCount
    if after ≠ before then Native.fail (.raised "count lost")

end Sample

namespace Machine

/-- Function 1 is run once more while it is active, in both ways. -/
theorem reentry_returns_inside :
    Image.load (Image.save Sample.program) .none = .ok Sample.environment.program ∧
      Sample.environment.builtins.Respects KeepsCalls Sample.environment.program ∧
      Sample.environment.builtins.KeepByThemselves KeepsNumbers Sample.environment.program ∧
      Reachable Sample.environment Sample.inside ∧ Sample.inside.depth = 1 ∧
      (∃ result after, invoke Sample.environment 9 1 Sample.inside = some (result, after) ∧
        after.argumentCount = Sample.inside.argumentCount ∧
        Sample.inside.executed ≤ after.executed) ∧
      ∃ result after, call Sample.environment 9 1 [.float 7] Sample.inside = some (result, after) ∧
        after.stack = Sample.inside.stack ∧ Sample.inside.executed ≤ after.executed := by
  have reachable : Reachable Sample.environment Sample.inside := .entered .created 1
  have active : Sample.inside.depth = 1 := by decide +kernel
  obtain ⟨invoked, called⟩ :=
    reentry_returns Sample.loaded Sample.respects Sample.keepsNumbers reachable 9 1
  have invokes : (invoke Sample.environment 9 1 Sample.inside).isSome = true := by decide +kernel
  have calls : (call Sample.environment 9 1 [.float 7] Sample.inside).isSome = true := by
    decide +kernel
  obtain ⟨⟨invokeResult, afterInvoke⟩, invokeEnds⟩ := Option.isSome_iff_exists.mp invokes
  obtain ⟨⟨callResult, afterCall⟩, callEnds⟩ := Option.isSome_iff_exists.mp calls
  obtain ⟨returns, argumentCount⟩ := invoked _ _ invokeEnds
  have callReturns := called _ _ _ callEnds
  have positive : 0 < Sample.inside.depth := active ▸ Nat.one_pos
  exact ⟨Sample.loaded, Sample.respects, Sample.keepsNumbers, reachable, active,
    ⟨_, _, invokeEnds, argumentCount, returns.counted_up positive⟩,
    ⟨_, _, callEnds, callReturns.stack, callReturns.counted_up positive⟩⟩

/-- A builtin that was given one argument finds that it was given none, once it has made a call. -/
theorem argumentCount_lost :
    (call ⟨Sample.program, .standard, BuiltinTable.empty.register ⟨2, "recount", Sample.recount⟩⟩
        9 1 [.float 7] (create Sample.program .standard)).map (fun outcome =>
      match outcome.1 with
      | .ok _ => none
      | .error report => some report.fault) = some (some (.raised "count lost")) := by
  decide +kernel

end Machine

end Gamecode
