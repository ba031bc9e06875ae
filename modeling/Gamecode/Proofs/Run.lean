/-
This file carries a relation between machines from single steps to whole runs. If noting a
statement, executing it, entering and leaving functions and putting arguments in place each keep a
relation, and every builtin respects it, then whatever runs keeps it, however it ends.
-/

import Gamecode.Proofs.Calls.Loop
import Gamecode.Proofs.Calls.Statement
import Gamecode.Proofs.Native

namespace Gamecode

/-! ### Steps that keep a relation -/

/-- What the machine does by itself, be it part of a run or around one, keeps the relation. -/
structure Machine.StepsKeep (relation : Machine → Machine → Prop) (environment : Environment) :
    Prop where
  advance : ∀ index statement, (advance environment index statement).Keeps relation
  enter : ∀ function, (enter environment.program function).Keeps relation
  leave : leave.Keeps relation
  stage : ∀ arguments index, (stageArguments arguments index).Keeps relation
  noted : ∀ (machine : Machine) (statement : Option Nat) (argumentCount executed : Nat)
    (profile : Profile), relation machine
    { machine with statement, argumentCount, executed, profile }
  cleared : ∀ machine : Machine, relation machine { machine with stack := machine.stack.clear }

/-- A relation that allows everything that entering and leaving functions does. -/
class Machine.AllowsFrames (relation : Machine → Machine → Prop) : Prop extends
    AllowsGlobals relation where
  stack : ∀ (machine : Machine) (frames : Array Frame) (saved : Cells),
    relation machine { machine with stack := { machine.stack with frames, saved } }
  profiled : ∀ (machine : Machine) (profile : Profile), relation machine { machine with profile }

/-- A relation that allows everything that statements do. -/
class Machine.AllowsEntries (relation : Machine → Machine → Prop) : Prop extends
    AllowsWrites relation, AllowsFrames relation

/-- A relation that also allows noting a statement. -/
class Machine.AllowsCalls (relation : Machine → Machine → Prop) : Prop extends
    AllowsEntries relation where
  noted : ∀ (machine : Machine) (statement : Option Nat) (argumentCount executed : Nat)
    (profile : Profile) (traced : Array String),
    relation machine { machine with statement, argumentCount, executed, profile, traced }

/-- Whatever the executor brings to an end keeps the relation. -/
def Executor.Keeps (relation : Machine → Machine → Prop) (execute : Executor) : Prop :=
  ∀ ⦃function arguments : Nat⦄ ⦃machine after : Machine⦄ ⦃result : Except Fault Unit⦄,
    execute function arguments machine = some (result, after) → relation machine after

namespace Machine

section AllowsFrames

variable {relation : Machine → Machine → Prop} [AllowsFrames relation]

theorem keeps_countCall (function : Nat) : (countCall function).Keeps relation := fun machine =>
  AllowsFrames.profiled machine (machine.profile.recordCall function)

variable [IsPreorder Machine relation]

theorem keeps_packArguments (widths : List UInt8) (block target : Nat) :
    (packArguments widths block target).Keeps relation := by
  induction widths generalizing block target with
  | nil => exact Action.keeps_pure ()
  | cons width rest inductionHypothesis =>
    exact (keeps_changeGlobals fun _ _ => Globals.size_copy).bind fun _ => inductionHypothesis _ _

theorem keeps_saveWindow (start size : Nat) : (saveWindow start size).Keeps relation := by
  intro machine
  unfold Action.leaves saveWindow
  cases machine.globals.slice start size with
  | error fault => exact refl_of relation machine
  | ok window =>
    dsimp only
    cases saved : machine.stack.save window with
    | error fault => exact refl_of relation machine
    | ok saving =>
      obtain ⟨position, stack⟩ := saving
      obtain ⟨-, -, rfl⟩ := CallStack.save_eq_ok_iff.mp saved
      exact AllowsFrames.stack machine machine.stack.frames _

theorem keeps_pushFrame (frame : Frame) : (pushFrame frame).Keeps relation := by
  intro machine
  unfold Action.leaves pushFrame
  cases pushed : machine.stack.push frame with
  | error fault => exact refl_of relation machine
  | ok stack =>
    obtain ⟨-, rfl⟩ := CallStack.push_eq_ok_iff.mp pushed
    exact AllowsFrames.stack machine _ machine.stack.saved

theorem keeps_enter (program : Program) (function : Nat) :
    (enter program function).Keeps relation := by
  unfold enter
  refine (Action.keeps_inspect _).bind fun _ => ?_
  dsimp only
  split
  · split
    · refine (keeps_saveWindow _ _).bind fun _ => ?_
      refine (keeps_packArguments _ _ _).bind fun _ => Action.keeps_get.bind fun _ => ?_
      exact (keeps_pushFrame _).bind fun _ => (keeps_countCall _).bind fun _ =>
        Action.keeps_pure _
    · exact Action.keeps_throw _
  · exact Action.keeps_throw _

theorem keeps_leave : leave.Keeps relation := by
  intro machine
  unfold Action.leaves leave
  cases found : machine.stack.pop with
  | none => exact refl_of relation machine
  | some popping =>
    obtain ⟨⟨frame, window⟩, stack⟩ := popping
    obtain ⟨innermost, -, same⟩ := Option.map_eq_some_iff.mp found
    obtain ⟨-, rfl⟩ := Prod.mk.inj same
    have popped : relation machine
        { machine with
          stack := { machine.stack with
            frames := machine.stack.frames.pop
            saved := machine.stack.saved.take innermost.savedAt } } :=
      AllowsFrames.stack machine _ _
    dsimp only
    cases written : machine.globals.write frame.windowStart window with
    | error fault => exact popped
    | ok globals =>
      exact trans_of relation popped (AllowsGlobals.globals (Globals.size_write written))

/-- A call looks the function up and enters it, unless it is a builtin. -/
theorem keeps_callFunction (program : Program) (a arguments : Nat) :
    (callFunction program a arguments).Keeps relation := by
  intro machine
  unfold Action.leaves
  rw [callFunction_apply]
  cases machine.reference a with
  | error fault => exact refl_of relation machine
  | ok reference =>
    dsimp only
    by_cases negative : reference < 0
    · rw [if_pos negative]
      exact refl_of relation machine
    rw [if_neg negative]
    cases resolve program reference.toNat with
    | error fault => exact refl_of relation machine
    | ok body =>
      cases body with
      | builtin number => exact refl_of relation machine
      | statements first =>
        have enters : (enterAndJump program reference.toNat).Keeps relation :=
          (keeps_enter program reference.toNat).bind fun _ => Action.keeps_pure _
        exact enters machine

end AllowsFrames

section AllowsEntries

variable {relation : Machine → Machine → Prop} [AllowsEntries relation]
  [IsPreorder Machine relation]

theorem keeps_anyStep (program : Program) (configuration : Configuration) (index : Nat)
    (statement : Statement) : (step program configuration index statement).Keeps relation := by
  cases decoded : statement.operation with
  | error fault =>
    intro machine
    unfold Action.leaves step
    rw [Action.bind_apply, Action.inspect, decoded]
    exact refl_of relation machine
  | ok operation =>
    by_cases call : ∃ arguments, operation = .call arguments
    · obtain ⟨arguments, rfl⟩ := call
      unfold step
      rw [Action.inspect_of_ok decoded, pure_bind]
      exact keeps_callFunction _ _ _
    · exact keeps_step decoded fun arguments same => call ⟨arguments, same⟩

end AllowsEntries

section Unwinding

variable {relation : Machine → Machine → Prop} [IsPreorder Machine relation]

theorem leaveMany_of_keeps (leaves : leave.Keeps relation) (count : Nat) (machine : Machine) :
    relation machine (machine.leaveMany count).2 := by
  induction count generalizing machine with
  | zero => exact refl_of relation machine
  | succ count inductionHypothesis =>
    rw [leaveMany]
    cases left : leave machine with
    | ok _ after => exact trans_of relation (leaves.ok left) (inductionHypothesis after)
    | error _ after => exact trans_of relation (leaves.error left) (inductionHypothesis after)

theorem unwindTo_of_keeps (leaves : leave.Keeps relation)
    (cleared : ∀ machine : Machine, relation machine { machine with stack := machine.stack.clear })
    (depth : Nat) (machine : Machine) : relation machine (machine.unwindTo depth).2 := by
  have left := leaveMany_of_keeps leaves (machine.depth - depth) machine
  unfold unwindTo
  dsimp only
  split
  · exact trans_of relation left (cleared _)
  · exact left

end Unwinding

section AllowsCalls

variable {relation : Machine → Machine → Prop} [AllowsCalls relation]

theorem keeps_begin (environment : Environment) (index : Nat) (statement : Statement) :
    (begin environment index statement).Keeps relation := by
  intro machine
  obtain ⟨profile, traced, left⟩ := leaves_begin environment index statement machine
  rw [left]
  exact AllowsCalls.noted machine _ _ _ profile traced

variable [IsPreorder Machine relation]

theorem keeps_advance (environment : Environment) (index : Nat) (statement : Statement) :
    (advance environment index statement).Keeps relation :=
  (keeps_begin environment index statement).bind fun _ => keeps_anyStep _ _ _ _

theorem stepsKeep (environment : Environment) : StepsKeep relation environment where
  advance := keeps_advance environment
  enter := keeps_enter environment.program
  leave := keeps_leave
  stage := keeps_stageArguments
  noted machine statement argumentCount executed profile :=
    AllowsCalls.noted machine statement argumentCount executed profile machine.traced
  cleared machine := AllowsFrames.stack machine #[] #[]

end AllowsCalls

end Machine

namespace Machine.StepsKeep

variable {relation : Machine → Machine → Prop} {environment : Environment} {execute : Executor}

/-- The statement and the argument count may be put back. -/
theorem restated (steps : StepsKeep relation environment) (machine : Machine)
    (statement : Option Nat) (argumentCount : Nat) :
    relation machine { machine with statement, argumentCount } :=
  steps.noted machine statement argumentCount machine.executed machine.profile

variable [IsPreorder Machine relation]

theorem unwound (steps : StepsKeep relation environment) (depth : Nat) (machine : Machine)
    (statement : Option Nat) (argumentCount : Nat) :
    relation machine { (machine.unwindTo depth).2 with statement, argumentCount } :=
  trans_of relation (unwindTo_of_keeps steps.leave steps.cleared depth machine)
    (steps.restated _ statement argumentCount)

/-! ### Runs inside runs -/

theorem invokeWith (steps : StepsKeep relation environment) (keeps : execute.Keeps relation)
    {function : Nat} {machine after : Machine} {result : Except Fault Unit}
    (ends : invokeWith execute environment.program function machine = some (result, after)) :
    relation machine after := by
  obtain ⟨⟨inner, reached⟩, ran, same⟩ := Option.map_eq_some_iff.mp ends
  have kept := keeps ran
  cases inner with
  | ok value =>
    cases same
    exact trans_of relation kept (steps.restated reached _ _)
  | error fault =>
    cases same
    exact trans_of relation kept (steps.unwound machine.depth reached _ _)

/-- A call keeps the relation also where it is refused. -/
theorem callWith (steps : StepsKeep relation environment) (keeps : execute.Keeps relation)
    {function : Nat} {arguments : List Value} {machine after : Machine}
    {result : Except Report Vector3}
    (ends : callWith execute environment.program function arguments machine =
      some (result, after)) : relation machine after := by
  unfold Machine.callWith at ends
  split at ends
  · cases ends
    exact refl_of relation machine
  split at ends
  · next staged =>
    cases ends
    exact (steps.stage arguments 0).error staged
  next staged inPlace =>
  obtain ⟨⟨inner, reached⟩, ran, same⟩ := Option.map_eq_some_iff.mp ends
  have started : relation machine staged.restartCount := by
    obtain ⟨executed, restarted⟩ := restartCount_eq staged
    rw [restarted]
    exact trans_of relation ((steps.stage arguments 0).ok inPlace)
      (steps.noted staged staged.statement staged.argumentCount executed staged.profile)
  have kept := trans_of relation started (keeps ran)
  cases inner with
  | ok value =>
    cases same
    exact trans_of relation kept (steps.restated reached _ reached.argumentCount)
  | error fault =>
    cases same
    exact trans_of relation kept (steps.unwound staged.restartCount.depth reached _
      (reached.unwindTo staged.restartCount.depth).2.argumentCount)

theorem callBuiltin (steps : StepsKeep relation environment)
    (respects : environment.builtins.Respects relation environment.program)
    (keeps : execute.Keeps relation) {function number arguments : Nat} {machine after : Machine}
    {result : Except Fault Unit}
    (ends : callBuiltin execute environment function number arguments machine =
      some (result, after)) : relation machine after := by
  unfold Machine.callBuiltin at ends
  split at ends
  · cases ends
    exact refl_of relation machine
  · next builtin offered =>
    have noted := steps.noted machine machine.statement arguments machine.executed
      (machine.profile.recordCall function)
    refine (perform_respects ?_ ?_ noted (respects number builtin offered _) ends).1
    · exact fun _ ran => steps.invokeWith keeps ran
    · exact fun _ ran => steps.callWith keeps ran

/-! ### Turns and runs -/

theorem turn (steps : StepsKeep relation environment)
    (respects : environment.builtins.Respects relation environment.program)
    (keeps : execute.Keeps relation) {exitDepth index : Nat} {machine after : Machine}
    {outcome : Turn}
    (turned : turn execute environment exitDepth index machine = some (outcome, after)) :
    relation machine after := by
  cases turned_of_turn turned with
  | missing => exact refl_of relation machine
  | fault _ advanced => exact (steps.advance _ _).error advanced
  | next _ advanced => exact (steps.advance _ _).ok advanced
  | jump _ advanced => exact (steps.advance _ _).ok advanced
  | builtin _ advanced called =>
    exact trans_of relation ((steps.advance _ _).ok advanced)
      (steps.callBuiltin respects keeps called)
  | @leave _ reached _ _ _ advanced returned =>
    have left := steps.leave reached
    rw [← snd_returnFrom exitDepth, returned] at left
    exact trans_of relation ((steps.advance _ _).ok advanced) left

theorem turns (steps : StepsKeep relation environment)
    (respects : environment.builtins.Respects relation environment.program)
    (keeps : execute.Keeps relation) {exitDepth start index : Nat} {machine reached : Machine}
    (turns : Turns execute environment exitDepth start machine index reached) :
    relation machine reached := by
  induction turns with
  | start => exact refl_of relation machine
  | resume _ turned inductionHypothesis =>
    exact trans_of relation inductionHypothesis (steps.turn respects keeps turned)

theorem executes (steps : StepsKeep relation environment)
    (respects : environment.builtins.Respects relation environment.program) (budget : Nat) :
    Executor.Keeps relation (Machine.execute environment budget) := by
  induction budget with
  | zero => exact fun _ _ _ _ _ ends => nomatch ends
  | succ budget inductionHypothesis =>
    intro function arguments machine after result ends
    unfold Machine.execute at ends
    split at ends
    · cases ends
      exact refl_of relation machine
    · exact steps.callBuiltin respects inductionHypothesis ends
    · split at ends
      · next refused =>
        cases ends
        exact (steps.enter function).error refused
      · next entered =>
        obtain ⟨_, _, turns, turned⟩ := exists_run_iff_arrives.mp ⟨_, ends⟩
        exact trans_of relation ((steps.enter function).ok entered)
          (trans_of relation (steps.turns respects inductionHypothesis turns)
            (steps.turn respects inductionHypothesis turned))

/-! ### Calls of the host -/

theorem invoke (steps : StepsKeep relation environment)
    (respects : environment.builtins.Respects relation environment.program)
    {budget function : Nat} {machine after : Machine} {result : Except Fault Unit}
    (ends : Machine.invoke environment budget function machine = some (result, after)) :
    relation machine after :=
  steps.invokeWith (steps.executes respects budget) ends

theorem call (steps : StepsKeep relation environment)
    (respects : environment.builtins.Respects relation environment.program)
    {budget function : Nat} {arguments : List Value} {machine after : Machine}
    {result : Except Report Vector3}
    (ends : Machine.call environment budget function arguments machine = some (result, after)) :
    relation machine after :=
  steps.callWith (steps.executes respects budget) ends

end Machine.StepsKeep

end Gamecode
