/-
This file compares two runs of the same program. They are made under configurations that may differ
in their limits, and in machines that may differ in what is kept for reports. As long as every
builtin goes on alike in both machines, whatever the functions that it runs do, so do statements,
functions and calls.
-/

import Gamecode.Proofs.Guard.Lockstep
import Gamecode.Proofs.Paired.Actions

namespace Gamecode

/-! ### Machines that go on alike -/

/-- How many frames, saved slots and records there may be. -/
structure Limits where
  depth : Nat
  saved : Nat
  records : Nat

/-- None of the limits is below the other one. -/
structure Limits.Within (narrow wide : Limits) : Prop where
  depth : narrow.depth ≤ wide.depth
  saved : narrow.saved ≤ wide.saved
  records : narrow.records ≤ wide.records

namespace Machine

def limits (machine : Machine) : Limits :=
  ⟨machine.stack.depthLimit, machine.stack.savedLimit, machine.entities.limit⟩

/-- What the machine notes down without computing with it: counters, listings, the console, and what
is kept for the builtin that is being called. -/
inductive Noting : (Machine → Machine) → Prop
  | executed (executed : Nat) : Noting fun machine => { machine with executed }
  | profile (change : Profile → Profile) :
      Noting fun machine => { machine with profile := change machine.profile }
  | listed (line : String) :
      Noting fun machine => { machine with
        traced := if machine.tracing then machine.traced.push line else machine.traced }
  | tracing (tracing : Bool) : Noting fun machine => { machine with tracing }
  | printed (text : String) : Noting fun machine => machine.print text
  | argumentCount (argumentCount : Nat) : Noting fun machine => { machine with argumentCount }

/-- Related machines hold the same content and have executed as many statements. They stay related
whatever is noted down in both of them. The limits of the first one are no looser, and in a faithful
comparison they are the same. -/
class Synchronous (faithful : Prop) (relation : Machine → Machine → Prop) : Prop extends
    Parallel relation where
  within : ∀ {left right : Machine}, relation left right → left.limits.Within right.limits
  exact : faithful → ∀ {left right : Machine}, relation left right → right.limits = left.limits
  executed_eq : ∀ {left right : Machine}, relation left right → right.executed = left.executed
  noting : ∀ {note : Machine → Machine}, Noting note → ∀ {left right : Machine},
    relation left right → relation (note left) (note right)
  restored : ∀ {left right leftBefore rightBefore : Machine}, relation left right →
    relation leftBefore rightBefore →
      relation { left with argumentCount := leftBefore.argumentCount }
        { right with argumentCount := rightBefore.argumentCount }

/-- The machines are related, and the argument count is the same. This is so while a builtin is
called. -/
def Exact (relation : Machine → Machine → Prop) (left right : Machine) : Prop :=
  relation left right ∧ right.argumentCount = left.argumentCount

theorem exact_exact (relation : Machine → Machine → Prop) :
    Exact (Exact relation) = Exact relation :=
  funext fun _ => funext fun _ => propext ⟨And.left, fun both => ⟨both, both.2⟩⟩

section Exact

variable {relation : Machine → Machine → Prop}

instance [Parallel relation] : Parallel (Exact relation) where
  content_eq both := Parallel.content_eq both.1
  holding both content := ⟨Parallel.holding both.1 content, both.2⟩

variable {faithful : Prop}

instance [Synchronous faithful relation] : Synchronous faithful (Exact relation) where
  within both := Synchronous.within faithful both.1
  exact isFaithful _ _ both := Synchronous.exact isFaithful both.1
  executed_eq both := Synchronous.executed_eq faithful both.1
  noting := by
    rintro note noted left right ⟨related, same⟩
    refine ⟨Synchronous.noting faithful noted related, ?_⟩
    cases noted with
    | argumentCount count => rfl
    | _ => exact same
  restored both before := ⟨Synchronous.restored faithful both.1 before.1, before.2⟩

end Exact

end Machine

/-! ### Limits -/

/-- A limit that is no tighter refuses no more, and without it both runs match. -/
theorem Matched.limited {α : Type} {faithful tight loose : Prop} [Decidable tight] [Decidable loose]
    {relation : Machine → Machine → Prop} {fault other : Fault} {left right : Machine}
    {leftRest rightRest : Outcome Fault α} (related : relation left right) (weaker : loose → tight)
    (exact : faithful → (tight → loose) ∧ other = fault)
    (rest : Matched faithful relation leftRest rightRest) :
    Matched faithful relation (if tight then some (.error fault, left) else leftRest)
      (if loose then some (.error other, right) else rightRest) := by
  by_cases refused : tight
  · rw [if_pos refused]
    by_cases isFaithful : faithful
    · obtain ⟨stillRefused, rfl⟩ := exact isFaithful
      rw [if_pos (stillRefused refused)]
      exact .same related
    · exact .excused isFaithful ⟨_, rfl⟩
  · rw [if_neg refused, if_neg (mt weaker refused)]
    exact rest

/-- The second configuration differs from the first one in its limits only, and none of them is
tighter. In a faithful comparison the bound on statements is the same. -/
structure Configuration.Admits (faithful : Prop) (narrow wide : Configuration) : Prop where
  interval_eq : wide.stateInterval = narrow.stateInterval
  protect_eq : wide.protectWorld = narrow.protectWorld
  guard : ∀ executed, wide.runawayLimit.any (· < executed) = true →
    narrow.runawayLimit.any (· < executed) = true
  exact : faithful → wide.runawayLimit = narrow.runawayLimit

theorem Configuration.Admits.refl {faithful : Prop} (configuration : Configuration) :
    configuration.Admits faithful configuration where
  interval_eq := rfl
  protect_eq := rfl
  guard _ := id
  exact _ := rfl

namespace Machine

/-! ### Entering functions -/

section Entering

variable {faithful : Prop} {relation : Machine → Machine → Prop} [Synchronous faithful relation]

theorem depthLimit_eq (isFaithful : faithful) {left right : Machine}
    (related : relation left right) : right.stack.depthLimit = left.stack.depthLimit :=
  congrArg Limits.depth (Synchronous.exact isFaithful related)

theorem savedLimit_eq (isFaithful : faithful) {left right : Machine}
    (related : relation left right) : right.stack.savedLimit = left.stack.savedLimit :=
  congrArg Limits.saved (Synchronous.exact isFaithful related)

theorem carries_checkDepth :
    (Action.inspect fun machine => machine.stack.checkDepth).Carries faithful relation := by
  intro left right related
  have form (machine : Machine) :
      (Action.inspect fun machine => machine.stack.checkDepth).outcome machine =
        if machine.stack.depthLimit ≤ machine.depth then
          some (.error (.stackOverflow machine.stack.depthLimit), machine)
        else some (.ok (), machine) := by
    unfold Action.outcome Action.inspect CallStack.checkDepth
    show _ = if machine.stack.depthLimit ≤ machine.stack.depth then _ else _
    by_cases full : machine.stack.depthLimit ≤ machine.stack.depth
    · simp only [if_pos full]
    · simp only [if_neg full]
  have wider : left.stack.depthLimit ≤ right.stack.depthLimit :=
    (Synchronous.within faithful related).depth
  rw [form, form, Parallel.depth_eq related]
  refine .limited related (Nat.le_trans wider) (fun isFaithful => ?_) (.same related)
  rw [depthLimit_eq isFaithful related]
  exact ⟨id, rfl⟩

theorem carries_packArguments (widths : List UInt8) (block target : Nat) :
    (packArguments widths block target).Carries faithful relation := by
  induction widths generalizing block target with
  | nil => exact Action.carries_pure ()
  | cons width rest inductionHypothesis =>
    exact (Action.carries_changeGlobals _).bind fun _ => inductionHypothesis _ _

omit [Synchronous faithful relation] in
/-- A window is saved if it can be read and there is room for it. -/
theorem outcome_saveWindow (start size : Nat) (machine : Machine) :
    (saveWindow start size).outcome machine =
      match machine.globals.slice start size with
      | .error fault => some (.error fault, machine)
      | .ok window =>
        if machine.stack.savedLimit < machine.stack.saved.size + window.length then
          some (.error (.localStackOverflow (machine.stack.saved.size + window.length)
            machine.stack.savedLimit), machine)
        else
          some (.ok machine.stack.saved.size,
            { machine with
              stack := { machine.stack with
                saved := machine.stack.saved ++ window.toArray } }) := by
  unfold Action.outcome saveWindow
  cases machine.globals.slice start size with
  | error fault => rfl
  | ok window =>
    dsimp only [CallStack.save]
    by_cases full : machine.stack.savedLimit < machine.stack.saved.size + window.length
    · rw [if_pos full, if_pos full]
    · rw [if_neg full, if_neg full]

theorem carries_saveWindow (start size : Nat) :
    (saveWindow start size).Carries faithful relation := by
  intro left right related
  have ofContent : OfContent fun machine => machine.globals.slice start size := fun _ _ => rfl
  rw [outcome_saveWindow, outcome_saveWindow, ofContent.eq related, Parallel.saved_eq related]
  cases left.globals.slice start size with
  | error fault => exact .same related
  | ok window =>
    have wider : left.stack.savedLimit ≤ right.stack.savedLimit :=
      (Synchronous.within faithful related).saved
    refine .limited related (Nat.lt_of_le_of_lt wider) (fun isFaithful => ?_) (.same ?_)
    · rw [savedLimit_eq isFaithful related]
      exact ⟨id, rfl⟩
    · exact Parallel.change related fun content =>
        { content with saved := left.stack.saved ++ window.toArray }

theorem carries_pushFrame (frame : Frame) : (pushFrame frame).Carries faithful relation := by
  intro left right related
  have form (machine : Machine) : (pushFrame frame).outcome machine =
      if machine.stack.depthLimit ≤ machine.depth then
        some (.error (.stackOverflow machine.stack.depthLimit), machine)
      else
        some (.ok (),
          { machine with
            stack := { machine.stack with frames := machine.stack.frames.push frame } }) := by
    unfold Action.outcome pushFrame CallStack.push CallStack.checkDepth
    show _ = if machine.stack.depthLimit ≤ machine.stack.depth then _ else _
    by_cases full : machine.stack.depthLimit ≤ machine.stack.depth
    · simp only [if_pos full]
      rfl
    · simp only [if_neg full]
      rfl
  have wider : left.stack.depthLimit ≤ right.stack.depthLimit :=
    (Synchronous.within faithful related).depth
  rw [form, form, Parallel.depth_eq related, Parallel.frames_eq related]
  refine .limited related (Nat.le_trans wider) (fun isFaithful => ?_) (.same ?_)
  · rw [depthLimit_eq isFaithful related]
    exact ⟨id, rfl⟩
  · exact Parallel.change related fun content =>
      { content with frames := left.stack.frames.push frame }

theorem carries_countCall (function : Nat) : (countCall function).Carries faithful relation :=
  fun _ _ related => .same
    (Synchronous.noting faithful (.profile fun profile => profile.recordCall function) related)

theorem carries_enter (program : Program) (function : Nat) :
    (enter program function).Carries faithful relation := by
  unfold enter
  refine Action.Carries.bind carries_checkDepth fun _ => ?_
  dsimp only
  split
  · next found isFunction =>
    split
    · next first body =>
      refine Action.Carries.bind (carries_saveWindow _ _) fun savedAt => ?_
      refine Action.Carries.bind (carries_packArguments _ _ _) fun _ => ?_
      exact Action.carries_get_bind Machine.statement (fun _ _ => rfl) fun statement =>
        (carries_pushFrame ⟨function, statement, _, _, savedAt⟩).bind fun _ =>
          (carries_countCall function).bind fun _ => Action.carries_pure first
    · exact Action.carries_throw _
  · exact Action.carries_throw _

/-- Entering a function or not, a call carries the relation. -/
theorem carries_callFunction (program : Program) (a arguments : Nat) :
    (callFunction program a arguments).Carries faithful relation := by
  unfold callFunction
  refine Action.Carries.bind (Action.carries_inspect fun _ _ => rfl) fun reference => ?_
  split
  · exact Action.carries_throw (.badFunction reference)
  · refine Action.Carries.bind (Action.carries_known _) fun body => ?_
    cases body with
    | builtin number => exact Action.carries_pure _
    | statements first => exact (carries_enter _ _).bind fun _ => Action.carries_pure _

theorem carries_anyStep (program : Program) (configuration : Configuration) (index : Nat)
    (statement : Statement) :
    (step program configuration index statement).Carries faithful relation := by
  cases decoded : statement.operation with
  | error fault =>
    intro left right related
    unfold Action.outcome step
    rw [Action.bind_apply, Action.bind_apply, Action.inspect, Action.inspect, decoded]
    exact .same related
  | ok operation =>
    by_cases call : ∃ arguments, operation = .call arguments
    · obtain ⟨arguments, rfl⟩ := call
      unfold step
      rw [Action.inspect_of_ok decoded, pure_bind]
      exact carries_callFunction _ _ _
    · exact carries_step decoded fun arguments same => call ⟨arguments, same⟩

end Entering

/-! ### Taking note of a statement -/

/-- In both machines the statement is noted, unless the bound on statements is used up. -/
theorem matched_begin {faithful : Prop} {relation : Machine → Machine → Prop}
    [Synchronous faithful relation] {program : Program} {narrow wide : Configuration}
    {builtins : BuiltinTable} (admits : narrow.Admits faithful wide) (index : Nat)
    (statement : Statement) {left right : Machine} (related : relation left right) :
    Matched faithful relation ((begin ⟨program, narrow, builtins⟩ index statement).outcome left)
      ((begin ⟨program, wide, builtins⟩ index statement).outcome right) := by
  have form (configuration : Configuration) (machine : Machine) :
      (begin ⟨program, configuration, builtins⟩ index statement).outcome machine =
        if configuration.runawayLimit.any (· < machine.executed + 1) then
          some (.error (.runaway (configuration.runawayLimit.getD 0)),
            { machine with statement := some index, executed := machine.executed + 1 })
        else some (.ok (), noted program index statement machine) := by
    rw [Action.outcome, begin_eq]
    dsimp only
    by_cases full : configuration.runawayLimit.any (· < machine.executed + 1) = true
    · rw [if_pos full, if_pos full]
    · rw [if_neg full, if_neg full]
  have current := Parallel.statement related (some index)
  have counted := Synchronous.noting faithful (.executed (left.executed + 1)) current
  rw [form, form, Synchronous.executed_eq faithful related]
  refine .limited counted (admits.guard _) (fun isFaithful => ?_) (.same ?_)
  · rw [admits.exact isFaithful]
    exact ⟨id, rfl⟩
  · have ofContent : OfContent currentFunction? := fun _ _ => rfl
    unfold noted
    rw [ofContent.eq related, Synchronous.executed_eq faithful related]
    have listed := Synchronous.noting faithful
      (.listed (Listing.statement program index statement)) counted
    cases left.currentFunction? with
    | none => exact listed
    | some function =>
      exact Synchronous.noting faithful
        (.profile fun profile => profile.recordStatement function) listed

end Machine

/-! ### Runs inside runs -/

/-- Whatever function the two executors run in related machines, they bring it to the same end. -/
def Executor.Carries (faithful : Prop) (relation : Machine → Machine → Prop)
    (left right : Executor) : Prop :=
  ∀ (function arguments : Nat) ⦃leftMachine rightMachine : Machine⦄,
    relation leftMachine rightMachine →
      Matched faithful relation (left function arguments leftMachine)
        (right function arguments rightMachine)

namespace Machine

section Nested

variable {faithful : Prop} {relation : Machine → Machine → Prop} [Synchronous faithful relation]
  {leftExecute rightExecute : Executor} {left right : Machine}

theorem matched_invokeWith (carries : Executor.Carries faithful relation leftExecute rightExecute)
    (program : Program) (function : Nat) (related : relation left right) :
    Matched faithful relation (invokeWith leftExecute program function left)
      (invokeWith rightExecute program function right) := by
  have restored {leftAfter rightAfter : Machine} (reached : relation leftAfter rightAfter) :
      relation
        { leftAfter with statement := left.statement, argumentCount := left.argumentCount }
        { rightAfter with statement := right.statement, argumentCount := right.argumentCount } := by
    rw [Parallel.statement_eq related]
    exact Synchronous.restored faithful (Parallel.statement reached left.statement) related
  refine (carries function _ related).map (fun {value _ _} reached => ⟨rfl, ?_⟩) fun _ _ _ => id
  cases value with
  | ok _ => exact restored reached
  | error fault =>
    have unwound := related_unwindTo left.depth reached
    rw [← Parallel.depth_eq related] at unwound ⊢
    exact restored unwound

/-- A fault is reported in the same way in both machines. -/
theorem ofContent_report (program : Program) (fault : Fault) :
    OfContent (report program fault) := fun _ _ => rfl

theorem ofContent_returned : OfContent returned := fun _ _ => rfl

omit [Synchronous faithful relation] in
/-- A call is its arguments put in place, and then an execution with a report after it. -/
theorem callWith_eq_bind (execute : Executor) (program : Program) (function : Nat)
    (arguments : List Value) (machine : Machine) :
    callWith execute program function arguments machine =
      if Region.maxParameters < arguments.length then
        some (.error (.detached (.tooManyArguments arguments.length)), machine)
      else
        ((stageArguments arguments 0).outcome machine).bind fun
          | (.error fault, staged) => some (.error (.detached fault), staged)
          | (.ok _, staged) =>
            (execute function arguments.length staged.restartCount).map fun
              | (.ok _, after) =>
                (.ok after.returned, { after with statement := staged.restartCount.statement })
              | (.error fault, after) =>
                (.error (after.report program fault),
                  { (after.unwindTo staged.restartCount.depth).2 with
                    statement := staged.restartCount.statement }) := by
  unfold callWith Action.outcome
  cases stageArguments arguments 0 machine with
  | error fault staged => rfl
  | ok _ staged =>
    dsimp only [Option.bind_some]
    congr 2
    funext ⟨result, after⟩
    cases result <;> rfl

/-- A call may begin in machines that have executed different numbers of statements, if it is there
that the count begins anew. -/
theorem matched_callWith {outer : Machine → Machine → Prop} [Parallel outer]
    (narrower : ∀ {left right : Machine}, relation left right → outer left right)
    (starts : ∀ {first second : Machine}, outer first second → first.stack = left.stack →
      relation first.restartCount second.restartCount)
    (carries : Executor.Carries faithful relation leftExecute rightExecute) (program : Program)
    (function : Nat) (arguments : List Value) (related : outer left right) :
    Matched faithful outer (callWith leftExecute program function arguments left)
      (callWith rightExecute program function arguments right) := by
  rw [callWith_eq_bind, callWith_eq_bind]
  split
  · exact .same related
  have kept {value staged}
      (ends : (stageArguments arguments 0).outcome left = some (value, staged)) :
      staged.stack = left.stack :=
    ((keepsCalls_stageArguments arguments 0).of_outcome ends).stack
  refine ((carries_stageArguments arguments 0 related).and kept).bind
    (fun {value _ _} ⟨staged, stack⟩ => ?_) ?_
  · cases value with
    | error fault => exact .same staged
    | ok _ =>
      have started := starts staged stack
      refine (carries function _ started).map (fun {value _ _} reached => ?_) ?_
      · rw [Parallel.statement_eq started, Parallel.depth_eq started]
        cases value with
        | ok _ =>
          exact ⟨congrArg Except.ok (ofContent_returned.eq reached),
            narrower (Parallel.statement reached _)⟩
        | error fault =>
          exact ⟨congrArg Except.error ((ofContent_report program fault).eq reached),
            narrower (Parallel.statement (related_unwindTo _ reached) _)⟩
      · rintro - value machine ⟨fault, rfl⟩
        exact ⟨_, rfl⟩
  · rintro - value machine ⟨fault, rfl⟩
    exact ⟨_, _, ⟨_, rfl⟩, rfl⟩

end Nested

theorem related_restartCount (faithful : Prop) {relation : Machine → Machine → Prop}
    [Synchronous faithful relation] {left right : Machine} (related : relation left right) :
    relation left.restartCount right.restartCount := by
  have parallel : Parallel relation := Synchronous.toParallel faithful
  unfold restartCount
  rw [Parallel.depth_eq related]
  split
  · exact Synchronous.noting faithful (.executed 0) related
  · exact related

end Machine

/-! ### Builtins -/

/-- In related machines the script goes on alike, provided that the functions which it runs do. -/
def Native.Carries {α : Type} (faithful : Prop) (relation : Machine → Machine → Prop)
    (program : Program) (script : Native α) : Prop :=
  ∀ ⦃leftExecute rightExecute : Executor⦄,
    Executor.Carries faithful relation leftExecute rightExecute →
      ∀ ⦃left right : Machine⦄, relation left right →
        Matched faithful relation (Machine.perform leftExecute program script left)
          (Machine.perform rightExecute program script right)

/-- Every builtin of the table goes on alike in machines that are related and in which it was given
as many arguments. -/
def BuiltinTable.Carry (faithful : Prop) (relation : Machine → Machine → Prop) (program : Program)
    (table : BuiltinTable) : Prop :=
  table.Every (Native.Carries faithful (Machine.Exact relation) program)

namespace Machine

section Runs

variable {faithful : Prop} {relation : Machine → Machine → Prop} [Synchronous faithful relation]
  {leftExecute rightExecute : Executor} {left right : Machine} {program : Program}
  {narrow wide : Configuration} {builtins : BuiltinTable}

theorem matched_callBuiltin
    (carries : Executor.Carries faithful (Exact relation) leftExecute rightExecute)
    (carry : builtins.Carry faithful relation program) (function number arguments : Nat)
    (related : relation left right) :
    Matched faithful relation
      (callBuiltin leftExecute ⟨program, narrow, builtins⟩ function number arguments left)
      (callBuiltin rightExecute ⟨program, wide, builtins⟩ function number arguments right) := by
  unfold callBuiltin
  dsimp only
  cases offered : builtins.get? number with
  | none => exact .same related
  | some builtin =>
    have counted := Synchronous.noting faithful
      (.profile fun profile => profile.recordCall function) related
    have given := Synchronous.noting faithful (.argumentCount arguments) counted
    exact (carry number builtin offered carries ⟨given, rfl⟩).mono And.left

/-! ### Turns and runs -/

instance : Fallible Turn := ⟨fun outcome => ∃ fault, outcome = .stop (.error fault)⟩

theorem matched_returnFrom (exitDepth : Nat) (related : relation left right) :
    Matched faithful relation (some (returnFrom exitDepth left))
      (some (returnFrom exitDepth right)) := by
  have form (machine : Machine) : some (returnFrom exitDepth machine) =
      (leave.outcome machine).map fun
        | (.error fault, after) => (.stop (.error fault), after)
        | (.ok returnTo, after) => (afterReturn exitDepth after.depth returnTo, after) := by
    unfold returnFrom Action.outcome
    cases leave machine <;> rfl
  rw [form, form]
  refine (carries_leave related).map (fun {value _ _} reached => ?_) ?_
  · cases value with
    | error fault => exact ⟨rfl, reached⟩
    | ok returnTo =>
      refine ⟨?_, reached⟩
      dsimp only
      rw [Parallel.depth_eq reached]
  · rintro - value machine ⟨fault, rfl⟩
    exact ⟨fault, rfl⟩

theorem matched_follow
    (carries : Executor.Carries faithful (Exact relation) leftExecute rightExecute)
    (carry : builtins.Carry faithful relation program) (exitDepth index : Nat) (flow : Flow)
    (related : relation left right) :
    Matched faithful relation
      (follow leftExecute ⟨program, narrow, builtins⟩ exitDepth index flow left)
      (follow rightExecute ⟨program, wide, builtins⟩ exitDepth index flow right) := by
  cases flow with
  | next | jump target => exact .same related
  | builtin function number arguments =>
    refine (matched_callBuiltin carries carry function number arguments related).map
      (fun reached => ⟨rfl, reached⟩) ?_
    rintro - value machine ⟨fault, rfl⟩
    exact ⟨fault, rfl⟩
  | leave => exact matched_returnFrom exitDepth related

theorem matched_advance (admits : narrow.Admits faithful wide) (index : Nat) (statement : Statement)
    (related : relation left right) :
    Matched faithful relation
      ((advance ⟨program, narrow, builtins⟩ index statement).outcome left)
      ((advance ⟨program, wide, builtins⟩ index statement).outcome right) := by
  have sameStep : step program wide index statement = step program narrow index statement := by
    unfold step
    rw [admits.interval_eq, admits.protect_eq]
  unfold advance
  rw [Action.outcome_bind, Action.outcome_bind, sameStep]
  exact (matched_begin admits index statement related).andThen id fun reached =>
    carries_anyStep program narrow index statement reached

omit [Synchronous faithful relation] in
/-- A turn that finds a statement notes and executes it, and goes on unless that failed. -/
theorem turn_eq_bind {environment : Environment} {exitDepth index : Nat} {statement : Statement}
    (found : environment.program.statements[index]? = some statement) (execute : Executor)
    (machine : Machine) :
    turn execute environment exitDepth index machine =
      ((advance environment index statement).outcome machine).bind fun
        | (.error fault, after) => some (.stop (.error fault), after)
        | (.ok flow, after) => follow execute environment exitDepth index flow after := by
  unfold turn Action.outcome
  rw [found]
  dsimp only
  cases advance environment index statement machine <;> rfl

theorem matched_turn
    (carries : Executor.Carries faithful (Exact relation) leftExecute rightExecute)
    (carry : builtins.Carry faithful relation program) (admits : narrow.Admits faithful wide)
    (exitDepth index : Nat) (related : relation left right) :
    Matched faithful relation
      (turn leftExecute ⟨program, narrow, builtins⟩ exitDepth index left)
      (turn rightExecute ⟨program, wide, builtins⟩ exitDepth index right) := by
  cases found : program.statements[index]? with
  | none =>
    have missing (configuration : Configuration) :
        (Environment.mk program configuration builtins).program.statements[index]? = none := found
    rw [turn_of_missing (missing narrow), turn_of_missing (missing wide)]
    exact .same related
  | some statement =>
    have present (configuration : Configuration) :
        (Environment.mk program configuration builtins).program.statements[index]? =
          some statement := found
    rw [turn_eq_bind (present narrow), turn_eq_bind (present wide)]
    refine (matched_advance admits index statement related).bind (fun {value _ _} reached => ?_) ?_
    · cases value with
      | error fault => exact .same reached
      | ok flow => exact matched_follow carries carry exitDepth index flow reached
    · rintro - value machine ⟨fault, rfl⟩
      exact ⟨_, _, ⟨fault, rfl⟩, rfl⟩

/-- Two runs go on alike, turn by turn. -/
theorem matched_run
    (carries : Executor.Carries faithful (Exact relation) leftExecute rightExecute)
    (carry : builtins.Carry faithful relation program) (admits : narrow.Admits faithful wide)
    (exitDepth budget index : Nat) (related : relation left right) :
    Matched faithful relation
      (run leftExecute ⟨program, narrow, builtins⟩ exitDepth budget index left)
      (run rightExecute ⟨program, wide, builtins⟩ exitDepth budget index right) := by
  induction budget generalizing index left right with
  | zero => exact .unfinished
  | succ budget inductionHypothesis =>
    rw [run_succ, run_succ]
    refine (matched_turn carries carry admits exitDepth index related).bind
      (fun {outcome _ _} reached => ?_) ?_
    · cases outcome with
      | resume next => exact inductionHypothesis next reached
      | stop result => exact .same reached
    · rintro - outcome machine ⟨fault, rfl⟩
      exact ⟨_, _, ⟨fault, rfl⟩, rfl⟩

end Runs

/-- A function with statements is entered, and unless that fails its statements are run. -/
theorem execute_of_statements {environment : Environment} {function first : Nat}
    (resolved : resolve environment.program function = .ok (.statements first))
    (budget arguments : Nat) (machine : Machine) :
    execute environment (budget + 1) function arguments machine =
      ((enter environment.program function).outcome machine).bind
        (Action.andThen
          (run (execute environment budget) environment machine.depth (budget + 1))) := by
  unfold execute Action.outcome
  rw [resolved]
  dsimp only
  cases enter environment.program function machine <;> rfl

/-- With the same budget, a function goes on alike in related machines. The induction is on the
budget and takes all relations at once, since builtins are compared in machines with the same
argument count. -/
theorem carries_execute {faithful : Prop} {program : Program} {narrow wide : Configuration}
    {builtins : BuiltinTable} (admits : narrow.Admits faithful wide) (budget : Nat) :
    ∀ {relation : Machine → Machine → Prop} [Synchronous faithful relation],
      builtins.Carry faithful relation program →
        Executor.Carries faithful relation (execute ⟨program, narrow, builtins⟩ budget)
          (execute ⟨program, wide, builtins⟩ budget) := by
  induction budget with
  | zero => exact fun _ _ _ _ _ _ => .unfinished
  | succ budget inductionHypothesis =>
    intro relation _ carry function arguments left right related
    have nested : Executor.Carries faithful (Exact relation)
        (execute ⟨program, narrow, builtins⟩ budget)
        (execute ⟨program, wide, builtins⟩ budget) := by
      refine inductionHypothesis ?_
      unfold BuiltinTable.Carry
      rw [exact_exact]
      exact carry
    cases resolved : resolve program function with
    | error fault =>
      unfold execute
      dsimp only
      rw [resolved]
      exact .same related
    | ok body =>
      cases body with
      | builtin number =>
        unfold execute
        dsimp only
        rw [resolved]
        exact matched_callBuiltin nested carry function number arguments related
      | statements first =>
        have resolvedIn (configuration : Configuration) :
            resolve (Environment.mk program configuration builtins).program function =
              .ok (.statements first) := resolved
        rw [execute_of_statements (resolvedIn narrow), execute_of_statements (resolvedIn wide),
          Parallel.depth_eq related]
        exact (carries_enter program function related).andThen id fun reached =>
          matched_run nested carry admits left.depth (budget + 1) _ reached

/-! ### Calls of the host -/

section Host

variable {faithful : Prop} {relation : Machine → Machine → Prop} [Synchronous faithful relation]
  {left right : Machine} {program : Program} {narrow wide : Configuration}
  {builtins : BuiltinTable}

theorem matched_invoke (admits : narrow.Admits faithful wide)
    (carry : builtins.Carry faithful relation program) (budget function : Nat)
    (related : relation left right) :
    Matched faithful relation (invoke ⟨program, narrow, builtins⟩ budget function left)
      (invoke ⟨program, wide, builtins⟩ budget function right) :=
  matched_invokeWith (carries_execute admits budget carry) program function related

theorem matched_call (admits : narrow.Admits faithful wide)
    (carry : builtins.Carry faithful relation program) (budget function : Nat)
    (arguments : List Value) (related : relation left right) :
    Matched faithful relation (call ⟨program, narrow, builtins⟩ budget function arguments left)
      (call ⟨program, wide, builtins⟩ budget function arguments right) :=
  matched_callWith id (fun started _ => related_restartCount faithful started)
    (carries_execute admits budget carry) program function arguments related

theorem matched_callNamed (admits : narrow.Admits faithful wide)
    (carry : builtins.Carry faithful relation program) (budget : Nat) (name : String)
    (arguments : List Value) (related : relation left right) :
    Matched faithful relation (callNamed ⟨program, narrow, builtins⟩ budget name arguments left)
      (callNamed ⟨program, wide, builtins⟩ budget name arguments right) := by
  unfold callNamed
  dsimp only
  cases program.findFunction? name with
  | none => exact .same related
  | some function => exact matched_call admits carry budget function arguments related

end Host

end Machine

end Gamecode
