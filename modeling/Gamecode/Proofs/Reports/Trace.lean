/-
This file proves that the stack in a report is the one on which the fault was raised. Where a
function is called, the statement that is being executed becomes the return address of the new
frame, and no statement of the caller is executed before the function returns. So as long as a frame
is active, the return address of the frame above it is the call that it executes. Runs inside runs
keep this, as all their statements are executed deeper and the current statement is put back after
them.
-/

import Gamecode.Proofs.Reports.Journal

namespace Gamecode

/-! ### Activations -/

/-- The active functions, the innermost last. -/
def Machine.active (machine : Machine) : List Frame :=
  machine.stack.frames.toList

theorem Machine.length_active (machine : Machine) : machine.active.length = machine.depth :=
  Array.length_toList

/-- If the note is about a statement, at least `depth` functions were active there. -/
def Note.Deep (depth : Nat) : Note → Prop
  | .dispatched _ _ machine => depth ≤ machine.depth
  | .reached _ | .entered _ | .started _ | .raised _ _ | .reported _ => True

/-- All statements in the journal were executed where at least `depth` functions were active. -/
def Deep (depth : Nat) (journal : List Note) : Prop :=
  ∀ note ∈ journal, note.Deep depth

/-- The function of the last frame executes a call: of all statements that were executed since no
fewer frames were active, the call is the last that was not executed further inside. -/
def Calling (program : Program) (past : List Note) (frames : List Frame) (index : Nat) : Prop :=
  ∃ earlier statement arguments machine later,
    past = earlier ++ .dispatched index statement machine :: later ∧
      program.statements[index]? = some statement ∧
      statement.operation = .ok (.call arguments) ∧ machine.active = frames ∧
      Deep (frames.length + 1) later

/-- Every frame but the first was entered from a call that the frame below it executes. -/
def Linked (program : Program) (past : List Note) (frames : List Frame) : Prop :=
  ∀ place frame, frames[place + 1]? = some frame →
    ∃ index, frame.returnTo = some index ∧ Calling program past (frames.take (place + 1)) index

section Traces

variable {program : Program} {past journal : List Note} {frames : List Frame}
  {environment : Environment} {machine after : Machine}

theorem Note.Deep.mono {depth less : Nat} {note : Note} (deep : note.Deep depth)
    (fewer : less ≤ depth) : note.Deep less := by
  cases note with
  | dispatched index statement machine => exact Nat.le_trans fewer deep
  | reached | entered | started | raised | reported => exact trivial

theorem Deep.mono {depth less : Nat} (deep : Deep depth journal) (fewer : less ≤ depth) :
    Deep less journal :=
  fun note member => (deep note member).mono fewer

theorem deep_nil {depth : Nat} : Deep depth [] :=
  List.forall_mem_nil _

theorem deep_singleton {depth : Nat} {note : Note} (deep : note.Deep depth) : Deep depth [note] :=
  List.forall_mem_singleton.mpr deep

theorem Calling.later {index : Nat} (calling : Calling program past frames index)
    (deep : Deep (frames.length + 1) journal) : Calling program (past ++ journal) frames index := by
  obtain ⟨earlier, statement, arguments, machine, later, rfl, found, decoded, same, inner⟩ :=
    calling
  refine ⟨earlier, statement, arguments, machine, later ++ journal, ?_, found, decoded, same, ?_⟩
  · rw [List.append_assoc, List.cons_append]
  · exact List.forall_mem_append.mpr ⟨inner, deep⟩

namespace Linked

/-- The frames stay linked as long as nothing is executed below the last one. -/
theorem later (linked : Linked program past frames) (deep : Deep frames.length journal) :
    Linked program (past ++ journal) frames := by
  intro place frame found
  obtain ⟨index, entered, calling⟩ := linked place frame found
  obtain ⟨inside, -⟩ := List.getElem?_eq_some_iff.mp found
  refine ⟨index, entered, calling.later (deep.mono ?_)⟩
  rw [List.length_take]
  omega

/-- A function is entered from a call. -/
theorem push (linked : Linked program past frames) {frame : Frame}
    (called : frames = [] ∨
      ∃ index, frame.returnTo = some index ∧ Calling program past frames index) :
    Linked program past (frames ++ [frame]) := by
  intro place other found
  by_cases inside : place + 1 < frames.length
  · rw [List.getElem?_append_left inside] at found
    rw [List.take_append_of_le_length (Nat.le_of_lt inside)]
    exact linked place other found
  · obtain ⟨bounded, -⟩ := List.getElem?_eq_some_iff.mp found
    rw [List.length_append, List.length_singleton] at bounded
    have last : place + 1 = frames.length := by omega
    rw [last, List.getElem?_concat_length] at found
    cases found
    rcases called with empty | called
    · rw [empty] at last
      cases last
    · rw [last, List.take_left]
      exact called

/-- Leaving a function leaves the others linked. -/
theorem dropLast (linked : Linked program past frames) : Linked program past frames.dropLast := by
  intro place frame found
  rw [List.dropLast_eq_take] at found ⊢
  have within : place + 1 < frames.length - 1 := by
    obtain ⟨bounded, -⟩ := List.getElem?_eq_some_iff.mp found
    rw [List.length_take] at bounded
    omega
  rw [List.getElem?_take_of_lt within] at found
  rw [List.take_take, Nat.min_eq_left (Nat.le_of_lt within)]
  exact linked place frame found

end Linked

/-! ### Faithful reports -/

/-- What a report says of a fault is what the machine was like on which the fault was raised: for
each frame, the innermost first, there is an entry with the name and the file of its function. The
first entry has the statement of the report, and each further one the call that its function
executes. -/
structure Report.Describes (report : Report) (program : Program) (past : List Note)
    (machine : Machine) : Prop where
  statement : report.statement = machine.statement
  function : report.function = machine.currentFunction?.map program.functionName
  names : report.stack.map (fun entry => (entry.function, entry.file)) =
    machine.active.reverse.map fun frame =>
      (program.functionName frame.function, program.functionFile frame.function)
  innermost : ∀ entry, report.stack[0]? = some entry → report.statement = some entry.statement
  outer : ∀ place entry, report.stack[place + 1]? = some entry →
    Calling program past (machine.active.take (machine.depth - (place + 1))) entry.statement

/-- The last thing that was noted before the report is that its fault was raised on a machine that
the report describes. -/
def Report.Faithful (report : Report) (program : Program) (past : List Note) : Prop :=
  ∃ earlier machine, past = earlier ++ [.raised report.fault machine] ∧
    report.Describes program earlier machine

/-- If the note is a report, it is faithful. -/
def Note.Faithful (program : Program) (past : List Note) : Note → Prop
  | .reported report => report.Faithful program past
  | .reached _ | .dispatched _ _ _ | .entered _ | .started _ | .raised _ _ => True

namespace Machine

theorem names_traceFrom (program : Program) (statement : Option Nat) (frames : List Frame) :
    (traceFrom program statement frames).map (fun entry => (entry.function, entry.file)) =
      frames.map fun frame =>
        (program.functionName frame.function, program.functionFile frame.function) := by
  induction frames generalizing statement with
  | nil => rfl
  | cons frame outer inductionHypothesis =>
    rw [traceFrom, List.map_cons, List.map_cons, inductionHypothesis]

/-- The statement of each outer entry is the return address of the frame further inside. -/
theorem statement_of_traceFrom {statement : Option Nat} {frames : List Frame} {place : Nat}
    {entry : TraceEntry} (found : (traceFrom program statement frames)[place + 1]? = some entry) :
    place + 1 < frames.length ∧
      ∃ frame, frames[place]? = some frame ∧ entry.statement = frame.returnTo.getD 0 := by
  induction frames generalizing statement place with
  | nil => cases found
  | cons frame outer inductionHypothesis =>
    rw [traceFrom, List.getElem?_cons_succ] at found
    cases place with
    | zero =>
      cases outer with
      | nil => cases found
      | cons next rest =>
        cases found
        exact ⟨Nat.succ_lt_succ (Nat.zero_lt_succ _), frame, rfl, rfl⟩
    | succ place =>
      obtain ⟨bounded, inner, isInner, same⟩ := inductionHypothesis found
      exact ⟨Nat.succ_lt_succ bounded, inner, isInner, same⟩

/-- The report of a fault describes the machine that it strikes, if the frames are linked. -/
theorem describes_report (fault : Fault)
    (linked : Linked program past machine.active)
    (located : machine.active = [] ∨ machine.statement.isSome) :
    (machine.report program fault).Describes program past machine where
  statement := rfl
  function := rfl
  names := names_traceFrom program machine.statement machine.active.reverse
  innermost := by
    intro entry first
    change (traceFrom program machine.statement machine.active.reverse)[0]? = some entry at first
    change machine.statement = some entry.statement
    cases frames : machine.active.reverse with
    | nil =>
      rw [frames] at first
      cases first
    | cons frame outer =>
      rw [frames] at first
      cases first
      rcases located with empty | executing
      · rw [empty] at frames
        cases frames
      · obtain ⟨index, same⟩ := Option.isSome_iff_exists.mp executing
        rw [same]
        rfl
  outer := by
    intro place entry found
    change (traceFrom program machine.statement machine.active.reverse)[place + 1]? = some entry
      at found
    obtain ⟨bounded, frame, isFrame, same⟩ := statement_of_traceFrom found
    rw [List.length_reverse] at bounded
    rw [List.getElem?_reverse (Nat.lt_of_succ_lt bounded)] at isFrame
    -- Counted from the outside, the frame further inside is the next one.
    obtain ⟨below, count⟩ : ∃ below, machine.depth - (place + 1) = below + 1 := by
      rw [← length_active]
      exact ⟨machine.active.length - (place + 2), by omega⟩
    have next : machine.active.length - 1 - place = below + 1 := by
      rw [← length_active] at count
      omega
    rw [next] at isFrame
    obtain ⟨index, returnTo, calling⟩ := linked below frame isFrame
    rw [same, returnTo, Option.getD_some, count]
    exact calling

/-! ### Machines in a call -/

/-- No statement is taken up: a function may be run, by the host or by the builtin that the current
statement has called. -/
structure Waiting (environment : Environment) (past : List Note) (machine : Machine) : Prop where
  sound : machine.Sound environment
  linked : Linked environment.program past machine.active
  calling : machine.active = [] ∨ ∃ index, machine.statement = some index ∧
    Calling environment.program past machine.active index

/-- The loop is about to go on at a statement, in a function that is active beyond `exitDepth`. -/
structure Running (environment : Environment) (exitDepth : Nat) (past : List Note) (index : Nat)
    (machine : Machine) : Prop where
  sound : machine.Sound environment
  linked : Linked environment.program past machine.active
  deeper : exitDepth < machine.depth
  located : machine.statement.isSome ∨ index < environment.program.statements.size

/-- The last note is that the fault was raised on the machine, whose frames are linked. -/
def Struck (program : Program) (past : List Note) (fault : Fault) (machine : Machine) : Prop :=
  ∃ earlier, past = earlier ++ [.raised fault machine] ∧ Linked program earlier machine.active ∧
    (machine.active = [] ∨ machine.statement.isSome)

/-- What is left by a run: after a fault, the machine that it struck. -/
def Finished (program : Program) (past : List Note) : Except Fault Unit → Machine → Prop
  | .ok _, _ => True
  | .error fault, machine => Struck program past fault machine

/-- What is left by a script. -/
def Performed {α : Type} (environment : Environment) (depth : Nat) (past : List Note) :
    Except Fault α → Machine → Prop
  | .ok _, machine => Waiting environment past machine ∧ machine.depth = depth
  | .error fault, machine => Struck environment.program past fault machine

/-- A report is faithful, and a statement is executed where at least `depth` functions are active.
-/
structure Traced (program : Program) (depth : Nat) (past : List Note) (note : Note) : Prop where
  faithful : note.Faithful program past
  deep : note.Deep depth

end Machine

theorem Throughout.deep {depth : Nat}
    (throughout : Throughout (Machine.Traced program depth) past journal) : Deep depth journal := by
  intro note member
  obtain ⟨earlier, traced⟩ := throughout.exists_required member
  exact traced.deep

namespace Machine

theorem Traced.mono {depth less : Nat} (fewer : less ≤ depth) {note : Note}
    (traced : Traced program depth past note) : Traced program less past note :=
  ⟨traced.faithful, traced.deep.mono fewer⟩

theorem active_of_keepsCalls {before after : Machine} (kept : KeepsCalls before after) :
    after.active = before.active :=
  congrArg (fun stack => stack.frames.toList) kept.stack

theorem active_entered (machine : Machine) (function : Nat) (found : Function) :
    (machine.entered function found).active =
      machine.active ++ [machine.frameFor function found] :=
  Array.toList_push

/-- A return takes the last frame off. -/
theorem active_leaves_leave (machine : Machine) :
    (leave.leaves machine).active = machine.active.dropLast := by
  obtain ⟨globals, saved, same⟩ := leaves_leave machine
  rw [same]
  exact Array.toList_pop

namespace Waiting

/-- After something that was executed further inside, the machine waits as it did before. -/
theorem later (waiting : Waiting environment past machine) (kept : KeepsPlace machine after)
    (deep : Deep (machine.depth + 1) journal) : Waiting environment (past ++ journal) after := by
  have same := active_of_keepsCalls kept.toKeepsCalls
  rw [← length_active] at deep
  refine ⟨waiting.sound.of_keepsCalls kept.toKeepsCalls, ?_, ?_⟩
  · rw [same]
    exact waiting.linked.later (deep.mono (Nat.le_succ _))
  · rw [same, kept.statement]
    exact waiting.calling.imp_right fun ⟨index, executing, calling⟩ =>
      ⟨index, executing, calling.later deep⟩

theorem keep (waiting : Waiting environment past machine) (kept : KeepsPlace machine after) :
    Waiting environment past after :=
  List.append_nil past ▸ waiting.later kept deep_nil

/-- A fault that is raised here is raised on linked frames. -/
theorem struck (waiting : Waiting environment past machine) (fault : Fault) :
    Struck environment.program (past ++ [.raised fault machine]) fault machine := by
  refine ⟨past, rfl, waiting.linked, waiting.calling.imp_right ?_⟩
  rintro ⟨index, executing, -⟩
  rw [executing]
  rfl

/-- A function that is entered here is linked to its caller. -/
theorem entered (waiting : Waiting environment past machine) (function : Nat) (found : Function) :
    Linked environment.program (past ++ [.entered function])
      (machine.entered function found).active := by
  rw [active_entered]
  refine (waiting.linked.push ?_).later (deep_singleton trivial)
  exact waiting.calling

end Waiting

/-! ### Runs inside runs -/

end Machine

/-- Reports are faithful in whatever the executor does where a function may be run, all of which
lies further inside. A fault leaves the machine that it struck. -/
def Executor.Traces (environment : Environment) (execute : Executor) (scribe : Scribe) : Prop :=
  ∀ ⦃function arguments : Nat⦄ ⦃past : List Note⦄ ⦃machine : Machine⦄,
    Machine.Waiting environment past machine →
      Told (Machine.Traced environment.program (machine.depth + 1)) past
        (scribe function arguments machine) (execute function arguments machine)
        (Machine.Finished environment.program)

namespace Machine

variable {execute : Executor} {scribe : Scribe}

/-- After a function was run, the machine waits as it did before. -/
theorem traced_invokeWith (traces : execute.Traces environment scribe)
    (balanced : execute.Balanced environment.program) {function : Nat}
    (waiting : Waiting environment past machine) :
    Told (Traced environment.program (machine.depth + 1)) past
      (invokeJournal scribe environment.program function machine)
      (invokeWith execute environment.program function machine)
      fun past _ after => Waiting environment past after ∧ after.depth = machine.depth := by
  have told := @traces function
    ((environment.program.functions[function]?.map Function.parameterCount).getD 0) _ _ waiting
  refine ⟨told.throughout, fun ends => ?_⟩
  obtain ⟨restores, statement⟩ := invokeWith_restores balanced waiting.sound.ready ends
  have kept : KeepsPlace machine _ := ⟨restores.calls, statement⟩
  exact ⟨waiting.later kept told.throughout.deep, kept.depth⟩

/-- A call leaves the active functions and the statement as they were, also one that is refused. -/
theorem callWith_keepsPlace (balanced : execute.Balanced program) {function : Nat}
    {arguments : List Value} {result : Except Report Vector3} (ready : machine.Ready program)
    (ends : callWith execute program function arguments machine = some (result, after)) :
    KeepsPlace machine after := by
  refine ⟨callWith_keepsCalls balanced ready ends, ?_⟩
  by_cases many : Region.maxParameters < arguments.length
  · unfold callWith at ends
    rw [if_pos many] at ends
    cases ends
    rfl
  · have staging : (stageArguments arguments 0).Keeps KeepsPlace := keeps_stageArguments arguments 0
    cases inPlace : stageArguments arguments 0 machine with
    | error fault staged =>
      unfold callWith at ends
      rw [if_neg many, inPlace] at ends
      cases ends
      exact (staging.error inPlace).statement
    | ok _ staged =>
      have restored := callWith_restores balanced ready (Nat.not_lt.mp many) inPlace ends
      exact restored.2.trans (staging.ok inPlace).statement

/-- What a call reports it reports faithfully, and the report is the last of its notes unless the
call was refused. -/
theorem reported_callWith (loaded : environment.program.Loaded)
    (traces : execute.Traces environment scribe) {function : Nat} {arguments : List Value}
    (waiting : Waiting environment past machine) :
    Told (Traced environment.program (machine.depth + 1)) past
      (callWithJournal execute scribe environment.program function arguments machine)
      (callWith execute environment.program function arguments machine)
      fun past result _ => ∀ report, result = .error report →
        arguments.length ≤ Region.maxParameters →
          ∃ earlier, past = earlier ++ [.reported report] := by
  refine told_callWith (Finished environment.program) ?_ ?_ ?_ ?_ ?_
  · exact fun _ many _ _ few => absurd many (Nat.not_lt.mpr few)
  · exact fun few misplaced =>
      absurd misplaced (waiting.sound.stageArguments_ne_error loaded few _ _)
  · intro staged few inPlace
    have staging : (stageArguments arguments 0).Keeps KeepsPlace := keeps_stageArguments arguments 0
    have kept := staging.ok inPlace
    obtain ⟨executed, started⟩ := restartCount_eq staged
    have keptStarted : KeepsPlace machine staged.restartCount := by
      rw [started]
      exact ⟨⟨kept.stack, kept.size⟩, kept.statement⟩
    have told := @traces function arguments.length _ _ (waiting.keep keptStarted)
    rwa [keptStarted.depth] at told
  · exact fun _ _ _ isError => nomatch isError
  · intro past staged fault after _ struck
    obtain ⟨earlier, rfl, linked, located⟩ := struck
    refine ⟨⟨⟨earlier, after, rfl, describes_report fault linked located⟩, trivial⟩, ?_⟩
    · rintro report ⟨⟩ -
      exact ⟨_, rfl⟩

/-- After a call, the machine waits as it did before. -/
theorem traced_callWith (loaded : environment.program.Loaded)
    (traces : execute.Traces environment scribe)
    (balanced : execute.Balanced environment.program) {function : Nat} {arguments : List Value}
    (waiting : Waiting environment past machine) :
    Told (Traced environment.program (machine.depth + 1)) past
      (callWithJournal execute scribe environment.program function arguments machine)
      (callWith execute environment.program function arguments machine)
      fun past _ after => Waiting environment past after ∧ after.depth = machine.depth := by
  have told := @reported_callWith _ _ _ _ _ loaded traces function arguments waiting
  refine ⟨told.throughout, fun ends => ?_⟩
  have kept := callWith_keepsPlace balanced waiting.sound.ready ends
  exact ⟨waiting.later kept told.throughout.deep, kept.depth⟩

/-! ### Builtins -/

/-- A script that keeps its place by itself keeps it also through the functions that it runs. -/
theorem traced_perform (loaded : environment.program.Loaded)
    (traces : execute.Traces environment scribe)
    (balanced : execute.Balanced environment.program) {α : Type} {script : Native α} {depth : Nat}
    (keeps : script.KeepsByItself KeepsPlace environment.program machine)
    (waiting : Waiting environment past machine) (deep : machine.depth = depth) :
    Told (Traced environment.program (depth + 1)) past
      (performJournal execute scribe environment.program script machine)
      (perform execute environment.program script machine) (Performed environment depth) := by
  induction script generalizing past machine with
  | done value => exact .ended ⟨waiting, deep⟩
  | fail fault => exact .noted ⟨trivial, trivial⟩ (waiting.struck fault)
  | observe next inductionHypothesis => exact inductionHypothesis _ _ keeps waiting deep
  | change update next inductionHypothesis =>
    exact inductionHypothesis keeps.2 (waiting.keep keeps.1) (keeps.1.depth.trans deep)
  | invoke function next inductionHypothesis =>
    rw [perform_invoke]
    have told := @traced_invokeWith _ _ _ _ _ traces balanced function waiting
    rw [deep] at told
    exact told.bind fun {result after} reached =>
      inductionHypothesis result (keeps result after) reached.1 reached.2
  | call function arguments next inductionHypothesis =>
    rw [perform_call]
    have told := @traced_callWith _ _ _ _ _ loaded traces balanced function arguments waiting
    rw [deep] at told
    exact told.bind fun {result after} reached =>
      inductionHypothesis result (keeps result after) reached.1 reached.2

theorem traced_callBuiltin (loaded : environment.program.Loaded)
    (builtins : environment.builtins.KeepByThemselves KeepsPlace environment.program)
    (traces : execute.Traces environment scribe)
    (balanced : execute.Balanced environment.program) {function number arguments : Nat}
    (waiting : Waiting environment past machine) :
    Told (Traced environment.program (machine.depth + 1)) past
      (callBuiltinJournal execute scribe environment function number arguments machine)
      (callBuiltin execute environment function number arguments machine)
      (Performed environment machine.depth) := by
  refine told_callBuiltin
    (fun _ fault => .noted ⟨trivial, trivial⟩ (waiting.struck fault)) fun found => ?_
  have started : KeepsPlace machine
      { machine with
        profile := machine.profile.recordCall function
        argumentCount := arguments } := ⟨⟨rfl, rfl⟩, rfl⟩
  exact .cons ⟨trivial, trivial⟩ (traced_perform loaded traces balanced (builtins number _ found _)
    (waiting.later started (deep_singleton trivial)) rfl)

/-! ### Turns -/

namespace Running

variable {exitDepth index next : Nat} {statement : Statement}

/-- The loop stays where it is as long as nothing is executed further outside. -/
theorem later (running : Running environment exitDepth past index machine)
    (kept : KeepsCalls machine after)
    (located : after.statement.isSome ∨ next < environment.program.statements.size)
    (deep : Deep machine.depth journal) :
    Running environment exitDepth (past ++ journal) next after where
  sound := running.sound.of_keepsCalls kept
  linked := by
    rw [← length_active] at deep
    rw [active_of_keepsCalls kept]
    exact running.linked.later deep
  deeper := by
    rw [kept.depth]
    exact running.deeper
  located := located

theorem keep (running : Running environment exitDepth past index machine)
    (kept : KeepsCalls machine after)
    (located : after.statement.isSome ∨ next < environment.program.statements.size) :
    Running environment exitDepth past next after :=
  List.append_nil past ▸ running.later kept located deep_nil

theorem reached (running : Running environment exitDepth past index machine) :
    Running environment exitDepth (past ++ [.reached machine]) index machine :=
  running.later (refl_of KeepsCalls machine) running.located (deep_singleton trivial)

theorem struck (running : Running environment exitDepth past index machine)
    (kept : KeepsCalls machine after) (executing : after.statement.isSome) (fault : Fault) :
    Struck environment.program (past ++ [.raised fault after]) fault after := by
  refine ⟨past, rfl, ?_, .inr executing⟩
  rw [active_of_keepsCalls kept]
  exact running.linked

/-- Where a statement is executed, the frames are linked as they were before. -/
theorem dispatched (running : Running environment exitDepth past index machine)
    (begun : begin environment index statement machine = .ok () after) :
    Running environment exitDepth
      (past ++ [.reached machine] ++ [.dispatched index statement after]) index after := by
  have kept := (keepsCalls_begin environment index statement).ok begun
  have executing : after.statement.isSome := by
    rw [statement_of_begin begun]
    rfl
  exact (running.reached).later kept (.inl executing)
    (deep_singleton (Nat.le_of_eq kept.depth.symm))

/-- A statement that calls a builtin waits for it. -/
theorem waiting
    (running : Running environment exitDepth (past ++ [.dispatched index statement machine]) next
      machine)
    (executing : machine.statement = some index)
    (found : environment.program.statements[index]? = some statement) {arguments : Fin 9}
    (decoded : statement.operation = .ok (.call arguments)) :
    Waiting environment (past ++ [.dispatched index statement machine]) machine where
  sound := running.sound
  linked := running.linked
  calling := .inr ⟨index, executing, past, statement, arguments, machine, [], rfl, found, decoded,
    rfl, deep_nil⟩

/-- The loop goes on after a builtin, unless that ends with a fault. -/
theorem afterBuiltin (running : Running environment exitDepth past index machine)
    {later : List Note} {result : Except Fault Unit}
    (performed : Performed environment machine.depth later result after) :
    afterTurn (Running environment exitDepth) (Finished environment.program) later
      (Machine.afterBuiltin next result) after := by
  cases result with
  | error fault => exact performed
  | ok _ =>
    obtain ⟨waiting, depth⟩ := performed
    have deeper := running.deeper
    rw [← depth] at deeper
    refine ⟨waiting.sound, waiting.linked, deeper, .inl ?_⟩
    rcases waiting.calling with empty | ⟨call, executing, -⟩
    · rw [← length_active, empty] at deeper
      exact absurd deeper (Nat.not_lt_zero _)
    · rw [executing]
      rfl

/-- The loop goes on in the function that called, unless that is the end of the loop. -/
theorem returned (loaded : environment.program.Loaded)
    (running : Running environment exitDepth past index machine)
    (executing : machine.statement.isSome) :
    ∃ outcome after, returnFrom exitDepth machine = (outcome, after) ∧
      afterTurn (Running environment exitDepth) (Finished environment.program) past outcome after ∧
        ∃ resume, leave machine = .ok resume after := by
  obtain ⟨resume, after, left, sound⟩ := running.sound.leave loaded
  refine ⟨afterReturn exitDepth after.depth resume, after, ?_, ?_, resume, left⟩
  · unfold returnFrom
    rw [left]
  · have active := active_leaves_leave machine
    obtain ⟨globals, saved, same⟩ := leaves_leave machine
    rw [Action.leaves_of_ok left] at active same
    unfold afterReturn
    by_cases stops : after.depth ≤ exitDepth
    · rw [if_pos stops]
      exact trivial
    rw [if_neg stops]
    cases resume with
    | none => exact trivial
    | some caller =>
      refine ⟨sound, ?_, Nat.not_le.mp stops, .inl ?_⟩
      · rw [active]
        exact running.linked.dropLast
      · rw [same]
        exact executing

end Running

theorem traced_follow (loaded : environment.program.Loaded)
    (builtins : environment.builtins.KeepByThemselves KeepsPlace environment.program)
    (traces : execute.Traces environment scribe)
    (balanced : execute.Balanced environment.program) {exitDepth index : Nat} {flow : Flow}
    (running : Running environment exitDepth past index machine)
    (executing : machine.statement.isSome)
    (waiting : ∀ function number arguments, flow = .builtin function number arguments →
      Waiting environment past machine) :
    Told (Traced environment.program (exitDepth + 1)) past
      (followJournal execute scribe environment flow machine)
      (follow execute environment exitDepth index flow machine)
      (afterTurn (Running environment exitDepth) (Finished environment.program)) := by
  cases flow with
  | next | jump target =>
    exact .ended (running.keep (refl_of KeepsCalls machine) (.inl executing))
  | builtin function number arguments =>
    have called := @traced_callBuiltin _ _ _ _ _ loaded builtins traces balanced function number
      arguments (waiting function number arguments rfl)
    refine (called.mono (Traced.mono ?_) id).map fun performed => running.afterBuiltin performed
    exact Nat.succ_le_succ (Nat.le_of_lt running.deeper)
  | leave =>
    obtain ⟨outcome, after, returned, reached, resume, left⟩ := running.returned loaded executing
    dsimp only [followJournal, follow]
    rw [left, returned]
    exact .ended reached

/-- One turn reports faithfully, and where the loop goes on the frames are linked. -/
theorem traced_turn (loaded : environment.program.Loaded)
    (builtins : environment.builtins.KeepByThemselves KeepsPlace environment.program)
    (traces : execute.Traces environment scribe)
    (balanced : execute.Balanced environment.program) {exitDepth index : Nat}
    (running : Running environment exitDepth past index machine) :
    Told (Traced environment.program (exitDepth + 1)) past
      (turnJournal execute scribe environment index machine)
      (turn execute environment exitDepth index machine)
      (afterTurn (Running environment exitDepth) (Finished environment.program)) := by
  refine told_turn ⟨trivial, trivial⟩ ?_ ?_ ?_ ?_ ?_
  · intro missing
    have executing := running.located.resolve_right
      (Nat.not_lt.mpr (Array.getElem?_eq_none_iff.mp missing))
    exact .noted ⟨trivial, trivial⟩
      (running.reached.struck (refl_of KeepsCalls machine) executing _)
  · intro statement fault after _ refused
    have kept := (keepsCalls_begin environment index statement).error refused
    have executing : after.statement.isSome := by
      obtain ⟨profile, traced, left⟩ := leaves_begin environment index statement machine
      rw [Action.leaves_of_error refused] at left
      rw [left]
      rfl
    exact .noted ⟨trivial, trivial⟩ (running.reached.struck kept executing fault)
  · intro statement noted _ begun
    have kept := (keepsCalls_begin environment index statement).ok begun
    refine ⟨trivial, ?_⟩
    change exitDepth + 1 ≤ noted.depth
    rw [kept.depth]
    exact running.deeper
  · intro statement noted fault after _ begun failed
    have dispatched := running.dispatched begun
    have quiet := quiet_of_step_eq_error loaded dispatched.sound.size failed
    have executing : after.statement.isSome := by
      rw [quiet.statement, statement_of_begin begun]
      rfl
    exact .noted ⟨trivial, trivial⟩ (dispatched.struck quiet.toKeepsCalls executing fault)
  · intro statement noted flow after found begun stepped
    have dispatched := running.dispatched begun
    have current := statement_of_begin begun
    rcases quiet_or_entered_of_step loaded dispatched.sound.size stepped with
      quiet | ⟨arguments, function, called, first, decoded, isFunction, rfl, rfl⟩
    · have executing : after.statement.isSome := by
        rw [quiet.statement, current]
        rfl
      rw [pushed_of_keepsCalls quiet.toKeepsCalls]
      refine traced_follow loaded builtins traces balanced
        (dispatched.keep quiet.toKeepsCalls (.inl executing)) executing ?_
      rintro function number count rfl
      obtain ⟨⟨arguments, decoded⟩, -, rfl⟩ := step_eq_builtin stepped
      exact dispatched.waiting current found decoded
    · have sound := running.sound.of_step loaded begun stepped
      rw [pushed_entered]
      change Told _ _ [.entered function]
        (some (Turn.resume first, noted.entered function called)) _
      refine .noted ⟨trivial, trivial⟩ ⟨sound, ?_, ?_, .inl ?_⟩
      · exact (dispatched.waiting current found decoded).entered function called
      · rw [depth_entered]
        exact Nat.lt_succ_of_lt dispatched.deeper
      · change noted.statement.isSome
        rw [current]
        rfl

/-! ### Whole executions -/

/-- Reports are faithful in every execution, whatever its budget is. -/
theorem traces_execute (loaded : environment.program.Loaded)
    (builtins : environment.builtins.KeepByThemselves KeepsPlace environment.program)
    (budget : Nat) :
    Executor.Traces environment (Machine.execute environment budget)
      (executeJournal environment budget) := by
  have respects := builtins.respects KeepsPlace.toKeepsCalls
  induction budget with
  | zero => exact fun _ _ _ _ _ => ⟨trivial, nofun⟩
  | succ budget inductionHypothesis =>
    intro function arguments past machine waiting
    have balanced := execute_balanced loaded respects budget
    refine told_execute (fun _ => .noted ⟨trivial, trivial⟩ (waiting.struck _)) ?_ ?_ ?_
    · intro number _
      refine (traced_callBuiltin loaded builtins inductionHypothesis balanced waiting).mono id ?_
      intro past result after performed
      cases result with
      | ok _ => exact trivial
      | error fault => exact performed
    · intro fault after locked
      obtain rfl := enter_eq_error loaded waiting.sound.size locked
      exact .noted ⟨trivial, trivial⟩ (waiting.struck fault)
    · intro first after entered
      obtain ⟨found, isFunction, body, rfl⟩ := enter_eq_ok loaded waiting.sound.size entered
      have sound := waiting.sound.enter loaded function
      rw [Action.leaves_of_ok entered] at sound
      refine .cons ⟨trivial, trivial⟩ (told_run
        (fun running => traced_turn loaded builtins inductionHypothesis balanced running) _ ?_)
      refine ⟨sound, waiting.entered function found, ?_,
        .inr (loaded.fits isFunction body).first_lt⟩
      rw [depth_entered]
      exact Nat.lt_succ_self _

/-- Where no function is active, the host may call one. -/
theorem waiting_of_idle (sound : machine.Sound environment) (idle : machine.depth = 0) :
    Waiting environment [] machine := by
  have empty : machine.active = [] := by
    rw [← List.length_eq_zero_iff, length_active]
    exact idle
  refine ⟨sound, ?_, .inl empty⟩
  rw [empty]
  exact fun _ _ found => nomatch found

end Machine

end Traces

/-! ### Reports of calls -/

namespace Sample

/-- The host lets no call execute more than two statements, and offers one builtin. -/
def bounded (script : Native Unit) : Environment :=
  ⟨program, { Configuration.standard with runawayLimit := some 2 },
    BuiltinTable.empty.register ⟨2, "apply", script⟩⟩

/-- Run the function that is given, and hand its fault on. -/
def invoking : Native Unit := do
  let function ← Native.referenceArgument 0
  Native.ofExcept (← Native.run function.toNat)

/-- Call the function that is given, and hand the fault in its report on. -/
def calling : Native Unit := do
  let function ← Native.referenceArgument 0
  match ← Native.runWith function.toNat [] with
  | .ok _ => pure ()
  | .error report => .fail report.fault

/-- The machine in which the host calls. -/
def idle : Machine :=
  .create program .standard

/-- What is reported of function 3 where the builtin called it from function 1. -/
def inner : Report :=
  ⟨.runaway 2, some 4, some "", [⟨"", "", 4⟩, ⟨"", "", 2⟩]⟩

theorem loaded_bounded (script : Native Unit) :
    Image.load (Image.save program) .none = .ok (bounded script).program := loaded

theorem reachable_bounded (script : Native Unit) : Machine.Reachable (bounded script) idle :=
  .changed .created ⟨rfl, rfl⟩

theorem keepByThemselves_invoking :
    (bounded invoking).builtins.KeepByThemselves Machine.KeepsPlace (bounded invoking).program := by
  refine Builtins.every_register _ (Builtins.every_empty _) fun machine => ?_
  refine (Native.keepsByItself_check _ machine).bind fun function _ result _ => ?_
  cases result with
  | ok _ | error fault => exact trivial

theorem keepByThemselves_calling :
    (bounded calling).builtins.KeepByThemselves Machine.KeepsPlace (bounded calling).program := by
  refine Builtins.every_register _ (Builtins.every_empty _) fun machine => ?_
  refine (Native.keepsByItself_check _ machine).bind fun function _ result _ => ?_
  cases result with
  | ok _ | error report => exact trivial

end Sample

namespace Machine

variable {image : Array UInt8} {expectation : Image.Expectation} {environment : Environment}
  {machine : Machine}

/-- Every report of a call, also of one that a builtin makes while another call is going on, is
faithful: its fault is the one that was raised last, and its stack is the one on which it was
raised, with the calls that the functions further outside execute. A call whose arguments could be
put in place and that fails ends with its report. -/
theorem reports_faithful (loads : Image.load image expectation = .ok environment.program)
    (builtins : environment.builtins.KeepByThemselves KeepsPlace environment.program)
    (reachable : Reachable environment machine) (idle : machine.depth = 0)
    (budget function : Nat) (arguments : List Value) :
    (∀ past report later,
      callJournal environment budget function arguments machine =
          past ++ .reported report :: later →
        report.Faithful environment.program past) ∧
      ∀ report after,
        call environment budget function arguments machine = some (.error report, after) →
          arguments.length ≤ Region.maxParameters →
            ∃ past, callJournal environment budget function arguments machine =
              past ++ [.reported report] := by
  have loaded := Image.loaded_of_load loads
  have traces := traces_execute loaded builtins budget
  have sound := reachable.sound loaded (builtins.respects KeepsPlace.toKeepsCalls)
  have waiting := waiting_of_idle sound idle
  have told := @reported_callWith _ _ _ _ _ loaded traces function arguments waiting
  constructor
  · intro past report later opened
    exact (told.throughout.required_of_eq opened).faithful
  · intro report after ends few
    exact told.ends ends report rfl few

theorem reports_faithful_nested :
    Image.load (Image.save Sample.program) .none = .ok (Sample.bounded Sample.calling).program ∧
      (Sample.bounded Sample.calling).builtins.KeepByThemselves KeepsPlace
        (Sample.bounded Sample.calling).program ∧
      Reachable (Sample.bounded Sample.calling) Sample.idle ∧ Sample.idle.depth = 0 ∧
      ∃ past later,
        callJournal (Sample.bounded Sample.calling) 9 1 [] Sample.idle =
            past ++ .reported Sample.inner :: later ∧
          Sample.inner.Faithful (Sample.bounded Sample.calling).program past := by
  have loads := Sample.loaded_bounded Sample.calling
  have builtins := Sample.keepByThemselves_calling
  have reachable := Sample.reachable_bounded Sample.calling
  have idle : Sample.idle.depth = 0 := rfl
  have faithful := (reports_faithful loads builtins reachable idle 9 1 []).1
  have member : .reported Sample.inner ∈
      callJournal (Sample.bounded Sample.calling) 9 1 [] Sample.idle := by decide +kernel
  obtain ⟨past, later, opened⟩ := List.append_of_mem member
  exact ⟨loads, builtins, reachable, idle, past, later, opened, faithful past _ later opened⟩

/-- The frames of a run that a builtin has started do not come into the report if the builtin hands
its fault on: the fault is raised where two functions are active, and is reported with one. -/
theorem invoked_frames_unreported :
    Image.load (Image.save Sample.program) .none = .ok (Sample.bounded Sample.invoking).program ∧
      (Sample.bounded Sample.invoking).builtins.KeepByThemselves KeepsPlace
        (Sample.bounded Sample.invoking).program ∧
      Reachable (Sample.bounded Sample.invoking) Sample.idle ∧ Sample.idle.depth = 0 ∧
      (callJournal (Sample.bounded Sample.invoking) 9 1 [] Sample.idle).filterMap Note.raised? =
        [(.runaway 2, 2), (.runaway 2, 1)] ∧
      (callJournal (Sample.bounded Sample.invoking) 9 1 [] Sample.idle).filterMap Note.reported? =
        [⟨.runaway 2, some 2, some "", [⟨"", "", 2⟩]⟩] := by
  refine ⟨Sample.loaded_bounded _, Sample.keepByThemselves_invoking,
    Sample.reachable_bounded _, rfl, ?_, ?_⟩
  · decide +kernel
  · decide +kernel

end Machine

end Gamecode
