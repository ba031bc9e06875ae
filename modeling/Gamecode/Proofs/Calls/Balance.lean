/-
This file proves that calls are balanced. While a function runs, its own frame and everything below
it stay where they are: turns of the loop put frames on top of it and take them off again, and a
builtin that runs functions leaves none of them behind. So when the function returns its caller is
the innermost function again, and when it ends with a fault the frames that are still there can all
be left. Either way its window holds what it held before.
-/

import Gamecode.Proofs.Calls.Loop
import Gamecode.Proofs.Calls.Statement
import Gamecode.Proofs.Native

namespace Gamecode

/-- Each slot of the window of the function holds what it held before. -/
def Function.WindowKept (function : Function) (before after : Machine) : Prop :=
  ∀ offset, function.windowBase ≤ offset →
    offset < function.windowBase + function.windowLength →
      after.globals.slots[offset]? = before.globals.slots[offset]?

namespace Machine

/-! ### Machines that are ready -/

/-- The global segment is as long as the program wants it, and nothing is saved for no function. -/
structure Ready (program : Program) (machine : Machine) : Prop where
  size : machine.globals.size = program.globals.size
  idle : machine.stack.frames = #[] → machine.stack.saved = #[]

theorem Ready.of_keepsCalls {program : Program} {before after : Machine}
    (ready : before.Ready program) (kept : KeepsCalls before after) : after.Ready program where
  size := kept.size.trans ready.size
  idle := by
    rw [kept.stack]
    exact ready.idle

/-- The machine after the functions that a fault left active were left. -/
def settled (depth : Nat) : Except Fault Unit → Machine → Machine
  | .ok _, machine => machine
  | .error _, machine => (machine.unwindTo depth).2

/-- The active functions are the same, and so is what the window of the function holds. -/
structure Restores (program : Program) (function : Nat) (before after : Machine) : Prop where
  calls : KeepsCalls before after
  window : ∀ {found : Function} {first : Nat}, program.functions[function]? = some found →
    found.body = .statements first → found.WindowKept before after

/-- Only the active functions and the globals matter. -/
theorem Restores.of_eq {program : Program} {function : Nat} {before after start reached : Machine}
    (restores : start.Restores program function reached) (startStack : start.stack = before.stack)
    (startGlobals : start.globals = before.globals) (stack : after.stack = reached.stack)
    (globals : after.globals = reached.globals) : before.Restores program function after where
  calls := by
    refine ⟨?_, ?_⟩
    · rw [stack, restores.calls.stack, startStack]
    · rw [globals, restores.calls.size, startGlobals]
  window := by
    intro found first isFunction body offset low high
    rw [globals, restores.window isFunction body offset low high, startGlobals]

end Machine

/-- Every function that the executor brings to an end is restored, once those that a fault left
active were left. -/
def Executor.Balanced (program : Program) (execute : Executor) : Prop :=
  ∀ ⦃function arguments : Nat⦄ ⦃machine after : Machine⦄ ⦃result : Except Fault Unit⦄,
    machine.Ready program → execute function arguments machine = some (result, after) →
      machine.Restores program function (Machine.settled machine.depth result after)

namespace Machine

variable {environment : Environment} {program : Program} {execute : Executor}

/-! ### Leaving what a fault left active -/

/-- Dropping everything is no change where nothing is active. -/
theorem clear_of_idle {machine : Machine}
    (idle : machine.stack.frames = #[] → machine.stack.saved = #[]) :
    (if machine.depth = 0 then { machine with stack := machine.stack.clear } else machine) =
      machine := by
  by_cases none : machine.depth = 0
  · have frames : machine.stack.frames = #[] := Array.size_eq_zero_iff.mp none
    have saved := idle frames
    have cleared : machine.stack.clear = machine.stack := by
      unfold CallStack.clear
      rw [← saved, ← frames]
    rw [if_pos none, cleared]
  · rw [if_neg none]

/-- Unwinding to the depth that is there already changes nothing. -/
theorem unwindTo_depth {machine : Machine}
    (idle : machine.stack.frames = #[] → machine.stack.saved = #[]) :
    machine.unwindTo machine.depth = (0, machine) := by
  unfold unwindTo
  rw [Nat.sub_self]
  dsimp only [leaveMany]
  rw [clear_of_idle idle]

theorem settled_of_keepsCalls {before after : Machine} (ready : before.Ready program)
    (kept : KeepsCalls before after) (result : Except Fault Unit) :
    settled before.depth result after = after := by
  cases result with
  | ok value => rfl
  | error fault =>
    have unchanged := unwindTo_depth (ready.of_keepsCalls kept).idle
    rw [settled, ← kept.depth, unchanged]

/-! ### Runs inside runs -/

/-- Running a function without arguments restores it, and the statement is the same again. -/
theorem invokeWith_restores (balanced : execute.Balanced program) {function : Nat}
    {machine after : Machine} {result : Except Fault Unit} (ready : machine.Ready program)
    (ends : invokeWith execute program function machine = some (result, after)) :
    machine.Restores program function after ∧ after.statement = machine.statement := by
  obtain ⟨⟨inner, reached⟩, ran, same⟩ := Option.map_eq_some_iff.mp ends
  have restores := balanced ready ran
  cases inner with
  | ok value =>
    cases same
    exact ⟨restores.of_eq rfl rfl rfl rfl, rfl⟩
  | error fault =>
    cases same
    exact ⟨restores.of_eq rfl rfl rfl rfl, rfl⟩

/-- Running a function on arguments restores it as it was once the arguments were in place. -/
theorem callWith_restores (balanced : execute.Balanced program) {function : Nat}
    {arguments : List Value} {machine staged after : Machine} {result : Except Report Vector3}
    (ready : machine.Ready program) (few : arguments.length ≤ Region.maxParameters)
    (inPlace : stageArguments arguments 0 machine = .ok () staged)
    (ends : callWith execute program function arguments machine = some (result, after)) :
    staged.Restores program function after ∧ after.statement = staged.statement := by
  have stagedReady :=
    ready.of_keepsCalls ((keepsCalls_stageArguments arguments 0).ok inPlace)
  obtain ⟨executed, started⟩ := restartCount_eq staged
  have startedReady : staged.restartCount.Ready program :=
    stagedReady.of_keepsCalls (started ▸ ⟨rfl, rfl⟩)
  unfold callWith at ends
  rw [if_neg (Nat.not_lt.mpr few), inPlace] at ends
  obtain ⟨⟨inner, reached⟩, ran, same⟩ := Option.map_eq_some_iff.mp ends
  have restores := balanced startedReady ran
  rw [started] at restores same
  cases inner with
  | ok value =>
    cases same
    exact ⟨restores.of_eq rfl rfl rfl rfl, rfl⟩
  | error fault =>
    cases same
    exact ⟨restores.of_eq rfl rfl rfl rfl, rfl⟩

/-- A call never changes the active functions, not even one that is refused. -/
theorem callWith_keepsCalls (balanced : execute.Balanced program) {function : Nat}
    {arguments : List Value} {machine after : Machine} {result : Except Report Vector3}
    (ready : machine.Ready program)
    (ends : callWith execute program function arguments machine = some (result, after)) :
    KeepsCalls machine after := by
  by_cases many : Region.maxParameters < arguments.length
  · unfold callWith at ends
    rw [if_pos many] at ends
    cases ends
    exact refl_of KeepsCalls machine
  · cases inPlace : stageArguments arguments 0 machine with
    | error fault staged =>
      unfold callWith at ends
      rw [if_neg many, inPlace] at ends
      cases ends
      exact (keepsCalls_stageArguments arguments 0).error inPlace
    | ok _ staged =>
      have kept := (keepsCalls_stageArguments arguments 0).ok inPlace
      have restores := callWith_restores balanced ready (Nat.not_lt.mp many) inPlace ends
      exact trans_of KeepsCalls kept restores.1.calls

/-- A builtin that respects the active functions leaves them as they are. -/
theorem callBuiltin_keepsCalls (balanced : execute.Balanced environment.program)
    (respects : environment.builtins.Respects KeepsCalls environment.program)
    {function number arguments : Nat} {machine after : Machine} {result : Except Fault Unit}
    (ready : machine.Ready environment.program)
    (ends : callBuiltin execute environment function number arguments machine =
      some (result, after)) : KeepsCalls machine after := by
  unfold callBuiltin at ends
  split at ends
  · cases ends
    exact refl_of KeepsCalls machine
  · next builtin offered =>
    refine (perform_respects ?_ ?_ ⟨rfl, rfl⟩ (respects number builtin offered _) ends).1
    · intro _ before _ _ reached ran
      exact (invokeWith_restores balanced (ready.of_keepsCalls reached) ran).1.calls
    · intro _ _ before _ _ reached ran
      exact callWith_keepsCalls balanced (ready.of_keepsCalls reached) ran

/-! ### One activation -/

/-- The stack of the machine lies above another one, and its segment has `size` slots. -/
structure Over (size : Nat) (base : CallStack) (machine : Machine) : Prop where
  above : CallStack.Above size base machine.stack
  size : machine.globals.size = size

theorem Over.of_keepsCalls {size : Nat} {base : CallStack} {before after : Machine}
    (atop : before.Over size base) (kept : KeepsCalls before after) : after.Over size base where
  above := by
    rw [kept.stack]
    exact atop.above
  size := kept.size.trans atop.size

/-- Where a function is active, the machine is ready for a further one. -/
theorem Over.ready {machine : Machine} {caller : CallStack} {frame : Frame} {window : List Slot}
    (atop : machine.Over program.globals.size (caller.entered frame window)) :
    machine.Ready program where
  size := atop.size
  idle := by
    intro none
    have deep := atop.above.depth_le
    rw [CallStack.depth_entered, CallStack.depth, CallStack.depth, none] at deep
    exact absurd deep (Nat.not_succ_le_zero _)

/-- A statement never leaves a function; it may enter one. -/
theorem Over.advance (loaded : environment.program.Loaded) {base : CallStack} {machine : Machine}
    (atop : machine.Over environment.program.globals.size base) (index : Nat)
    (statement : Statement) :
    ((advance environment index statement).leaves machine).Over
      environment.program.globals.size base := by
  rcases advance_cases loaded atop.size index statement with
    kept | ⟨begun, function, found, first, kept, current, isFunction, body, -, advanced⟩
  · exact atop.of_keepsCalls kept
  · have begunOver := atop.of_keepsCalls kept
    have fits := (loaded.fits isFunction body).window_le_size
    rw [Action.leaves_of_ok advanced]
    refine ⟨.entered begunOver.above ⟨rfl, ?_⟩ ?_, ?_⟩
    · rw [length_windowOf (begunOver.size ▸ fits)]
      exact fits
    · rw [frameFor, current]
      rfl
    · exact (Cells.size_packed _ _ _ _).trans begunOver.size

/-- What a turn ends with while a function is active that was entered from `caller`. As long as the
loop goes on, and after a fault, the function is still active; otherwise it was left. -/
inductive TurnEnds (size : Nat) (caller : CallStack) (frame : Frame) (window : List Slot) :
    Turn → Machine → Prop
  | resume {next : Nat} {after : Machine} (atop : after.Over size (caller.entered frame window)) :
      TurnEnds size caller frame window (.resume next) after
  | fault {fault : Fault} {after : Machine}
      (atop : after.Over size (caller.entered frame window)) :
      TurnEnds size caller frame window (.stop (.error fault)) after
  | returned {last : Machine} (sized : last.globals.size = size) :
      TurnEnds size caller frame window (.stop (.ok ()))
        (last.backIn caller frame.windowStart window)

section Activation

variable {size : Nat} {caller : CallStack} {frame : Frame} {window : List Slot}

/-- A return puts the caller's stack and window back. -/
theorem returnFrom_entered {machine : Machine} {exitDepth : Nat}
    (same : machine.stack = caller.entered frame window)
    (admits : caller.Admits machine.globals.size frame window) :
    returnFrom exitDepth machine =
      (afterReturn exitDepth caller.depth frame.returnTo,
        machine.backIn caller frame.windowStart window) := by
  unfold returnFrom
  rw [leave_eq_ok same admits]
  rfl

/-- A return from the function that the loop was started for stops the loop. -/
theorem afterReturn_own (returnTo : Option Nat) :
    afterReturn caller.depth caller.depth returnTo = .stop (.ok ()) :=
  if_pos (Nat.le_refl _)

/-- A return from a function that was entered later goes on behind its call. -/
theorem afterReturn_call {exitDepth depth index : Nat} (deeper : exitDepth < depth) :
    afterReturn exitDepth depth (some index) = .resume (index + 1) :=
  if_neg (Nat.not_le.mpr deeper)

/-- The innermost function is the one that was entered, or it was called from there, and then the
loop goes on when it returns. -/
theorem Over.own_or_called {machine : Machine}
    (atop : machine.Over size (caller.entered frame window)) :
    machine.stack = caller.entered frame window ∨
      ∃ next after, returnFrom caller.depth machine = (.resume next, after) ∧
        after.Over size (caller.entered frame window) := by
  obtain ⟨above, sized⟩ := atop
  generalize same : machine.stack = stack at above
  cases above with
  | base => exact .inl rfl
  | @entered stack inner saved above admits isCall =>
    have deeper := above.depth_le
    rw [CallStack.depth_entered] at deeper
    obtain ⟨index, fromCall⟩ := Option.isSome_iff_exists.mp isCall
    have returns := @returnFrom_entered _ _ _ _ caller.depth same (sized ▸ admits)
    rw [fromCall, afterReturn_call deeper] at returns
    exact .inr ⟨_, _, returns, above, (size_backIn _ _ _ _).trans sized⟩

theorem turnEnds_returnFrom (admits : caller.Admits size frame window) {machine : Machine}
    (atop : machine.Over size (caller.entered frame window)) :
    TurnEnds size caller frame window (returnFrom caller.depth machine).1
      (returnFrom caller.depth machine).2 := by
  rcases atop.own_or_called with same | ⟨next, after, returns, afterOver⟩
  · rw [returnFrom_entered same (atop.size ▸ admits), afterReturn_own]
    exact .returned atop.size
  · rw [returns]
    exact .resume afterOver

/-- What one turn keeps while a function is active. -/
theorem turnEnds_turn (loaded : environment.program.Loaded)
    (respects : environment.builtins.Respects KeepsCalls environment.program)
    (balanced : execute.Balanced environment.program)
    (admits : caller.Admits environment.program.globals.size frame window) {index : Nat}
    {machine after : Machine} {outcome : Turn}
    (atop : machine.Over environment.program.globals.size (caller.entered frame window))
    (turned : turn execute environment caller.depth index machine = some (outcome, after)) :
    TurnEnds environment.program.globals.size caller frame window outcome after := by
  have advancedOver := fun statement => atop.advance loaded index statement
  cases turned_of_turn turned with
  | missing => exact .fault atop
  | fault _ advanced => exact .fault (Action.leaves_of_error advanced ▸ advancedOver _)
  | next _ advanced => exact .resume (Action.leaves_of_ok advanced ▸ advancedOver _)
  | jump _ advanced => exact .resume (Action.leaves_of_ok advanced ▸ advancedOver _)
  | @builtin statement _ _ _ _ _ result _ advanced called =>
    have reachedOver := advancedOver statement
    rw [Action.leaves_of_ok advanced] at reachedOver
    have afterOver := reachedOver.of_keepsCalls
      (callBuiltin_keepsCalls balanced respects reachedOver.ready called)
    cases result with
    | ok value => exact .resume afterOver
    | error fault => exact .fault afterOver
  | leave _ advanced returned =>
    have ended := turnEnds_returnFrom admits (Action.leaves_of_ok advanced ▸ advancedOver _)
    rw [returned] at ended
    exact ended

/-- What a whole run keeps while a function is active. -/
theorem over_of_turns (loaded : environment.program.Loaded)
    (respects : environment.builtins.Respects KeepsCalls environment.program)
    (balanced : execute.Balanced environment.program)
    (admits : caller.Admits environment.program.globals.size frame window) {start index : Nat}
    {machine reached : Machine}
    (atop : machine.Over environment.program.globals.size (caller.entered frame window))
    (turns : Turns execute environment caller.depth start machine index reached) :
    reached.Over environment.program.globals.size (caller.entered frame window) := by
  induction turns with
  | start => exact atop
  | resume turns turned inductionHypothesis =>
    cases turnEnds_turn loaded respects balanced admits inductionHypothesis turned with
    | resume atop => exact atop

theorem turnEnds_run (loaded : environment.program.Loaded)
    (respects : environment.builtins.Respects KeepsCalls environment.program)
    (balanced : execute.Balanced environment.program)
    (admits : caller.Admits environment.program.globals.size frame window) {budget index : Nat}
    {machine after : Machine} {result : Except Fault Unit}
    (atop : machine.Over environment.program.globals.size (caller.entered frame window))
    (ends : run execute environment caller.depth budget index machine = some (result, after)) :
    TurnEnds environment.program.globals.size caller frame window (.stop result) after := by
  obtain ⟨last, reached, turns, stops⟩ := exists_run_iff_arrives.mp ⟨budget, ends⟩
  exact turnEnds_turn loaded respects balanced admits
    (over_of_turns loaded respects balanced admits atop turns) stops

/-- All functions that a fault left active can be left, so the window is put back in any case. -/
theorem settled_of_turnEnds (admits : caller.Admits size frame window)
    (idle : caller.frames = #[] → caller.saved = #[]) {result : Except Fault Unit}
    {after : Machine} (ends : TurnEnds size caller frame window (.stop result) after) :
    ∃ last : Machine, last.globals.size = size ∧
      settled caller.depth result after = last.backIn caller frame.windowStart window := by
  cases ends with
  | returned sized => exact ⟨_, sized, rfl⟩
  | fault atop =>
    obtain ⟨last, same, sized, unwound⟩ := leaveMany_above atop.above rfl atop.size
    refine ⟨last, sized, ?_⟩
    -- One more function is left than those above the one that was entered: that one itself.
    have count : after.depth - caller.depth =
        after.stack.depth - (caller.entered frame window).depth + 1 := by
      have lower := atop.above.depth_le
      rw [CallStack.depth_entered] at lower ⊢
      unfold depth
      omega
    have left := leave_eq_ok same (sized ▸ admits)
    rw [settled, unwindTo, count, unwound, leaveMany, left]
    exact clear_of_idle idle

end Activation

/-! ### Whole executions -/

/-- The window of a function holds what it held before once it was put back. -/
theorem windowKept_backIn {before last : Machine} {caller : CallStack} {found : Function}
    (inside : found.windowBase + found.windowLength ≤ before.globals.size)
    (sized : last.globals.size = before.globals.size) :
    found.WindowKept before (last.backIn caller found.windowBase (before.windowOf found)) := by
  intro offset low high
  obtain ⟨place, rfl⟩ := Nat.exists_eq_add_of_le low
  have inWindow : place < found.windowLength := by omega
  have length := length_windowOf inside
  have fits : found.windowBase + (before.windowOf found).length ≤ last.globals.slots.size := by
    rw [length]
    exact Nat.le_trans inside (Nat.le_of_eq sized.symm)
  have restored := Cells.getElem?_put_self last.globals.slots found.windowBase
    (before.windowOf found) place (length.symm ▸ inWindow) fits
  rw [backIn, restored, windowOf, Cells.getElem?_window _ _ _ _ inWindow]

/-- The frame that is put on the stack when a function is entered can be taken off again. -/
theorem admits_frameFor {machine : Machine} (function : Nat) {found : Function}
    (inside : found.windowBase + found.windowLength ≤ machine.globals.size) :
    machine.stack.Admits machine.globals.size (machine.frameFor function found)
      (machine.windowOf found) where
  savedAt := rfl
  fits := by
    rw [length_windowOf inside]
    exact inside

theorem over_entered {machine : Machine} {function : Nat} {found : Function} :
    (machine.entered function found).Over machine.globals.size
      (machine.stack.entered (machine.frameFor function found) (machine.windowOf found)) :=
  ⟨.base, Cells.size_packed _ _ _ _⟩

/-- Every execution is balanced: however it ends, the functions that were active before are the
active ones once those that a fault left active were left, and the window is what it was. -/
theorem execute_balanced (loaded : environment.program.Loaded)
    (respects : environment.builtins.Respects KeepsCalls environment.program) (budget : Nat) :
    Executor.Balanced environment.program (Machine.execute environment budget) := by
  induction budget with
  | zero => exact fun _ _ _ _ _ _ ends => nomatch ends
  | succ budget inductionHypothesis =>
    intro function arguments machine after result ready ends
    unfold Machine.execute at ends
    split at ends
    · next fault resolved =>
      cases ends
      have unwound := settled_of_keepsCalls ready (refl_of KeepsCalls machine) (.error fault)
      rw [unwound]
      exact ⟨refl_of KeepsCalls machine, fun _ _ _ _ _ => rfl⟩
    · next number resolved =>
      have kept := callBuiltin_keepsCalls inductionHypothesis respects ready ends
      rw [settled_of_keepsCalls ready kept]
      refine ⟨kept, fun {found first} isFunction body => ?_⟩
      rw [body_of_resolve isFunction resolved] at body
      cases body
    · next first resolved =>
      obtain ⟨found, isFunction, body⟩ := resolve_eq_ok resolved
      have inside : found.windowBase + found.windowLength ≤ machine.globals.size :=
        ready.size ▸ (loaded.fits isFunction body).window_le_size
      have restores : ∀ {last : Machine}, last.globals.size = machine.globals.size →
          machine.Restores environment.program function
            (last.backIn machine.stack found.windowBase (machine.windowOf found)) := by
        intro last sized
        refine ⟨⟨rfl, (size_backIn _ _ _ _).trans sized⟩, fun {other _} isOther _ => ?_⟩
        obtain rfl : found = other := Option.some.inj (isFunction.symm.trans isOther)
        exact windowKept_backIn inside sized
      rcases enter_cases loaded ready.size isFunction body with ⟨fault, refused⟩ | entered
      · rw [refused] at ends
        cases ends
        rw [settled_of_keepsCalls ready (refl_of KeepsCalls machine)]
        exact ⟨refl_of KeepsCalls machine, fun _ _ _ _ _ => rfl⟩
      · rw [entered] at ends
        have admits := admits_frameFor function inside
        have ended := turnEnds_run loaded respects inductionHypothesis (ready.size ▸ admits)
          (ready.size ▸ over_entered) ends
        obtain ⟨last, sized, unwound⟩ := settled_of_turnEnds (ready.size ▸ admits) ready.idle ended
        change machine.Restores _ _ (settled machine.stack.depth result after)
        rw [unwound]
        exact restores (sized.trans ready.size.symm)

end Machine

end Gamecode
