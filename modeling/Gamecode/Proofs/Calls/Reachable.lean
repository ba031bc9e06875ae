/-
This file is about every machine that a host can come to, also from within a builtin. Its stack was
built by entering functions one after the other, and this alone fixes where each saved window lies,
that it can be put back, and when there is room for one more function. With that, running a function
restores the active functions, the statement and the window from wherever it is run.
-/

import Gamecode.Proofs.Calls.Balance
import Gamecode.Proofs.Image.RoundTrip

namespace Gamecode

/-! ### Stacks that were built by entering functions -/

namespace CallStack

/-- How many slots the windows of the frames take together. -/
def totalWindows : List Frame → Nat
  | [] => 0
  | frame :: rest => frame.windowSize + totalWindows rest

/-- The window of the frame is the one of its function. -/
def FrameFits (program : Program) (frame : Frame) : Prop :=
  ∃ found first, program.functions[frame.function]? = some found ∧
    found.body = .statements first ∧ frame.windowStart = found.windowBase ∧
      frame.windowSize = found.windowLength

/-- A stack that was made from an empty one by entering functions, each time where there was room.
-/
inductive Built (program : Program) (depthLimit savedLimit : Nat) : CallStack → Prop
  | created : Built program depthLimit savedLimit (.create depthLimit savedLimit)
  | entered {stack : CallStack} {frame : Frame} {window : List Slot}
      (built : Built program depthLimit savedLimit stack)
      (fits : FrameFits program frame) (length : window.length = frame.windowSize)
      (savedAt : frame.savedAt = stack.saved.size) (free : stack.depth < depthLimit)
      (room : stack.saved.size + window.length ≤ savedLimit) :
      Built program depthLimit savedLimit (stack.entered frame window)

variable {program : Program} {depthLimit savedLimit : Nat} {stack : CallStack}

theorem Built.limits (built : Built program depthLimit savedLimit stack) :
    stack.depthLimit = depthLimit ∧ stack.savedLimit = savedLimit := by
  induction built with
  | created => exact ⟨rfl, rfl⟩
  | entered _ _ _ _ _ _ inductionHypothesis => exact inductionHypothesis

theorem Built.depth_le (built : Built program depthLimit savedLimit stack) :
    stack.depth ≤ depthLimit := by
  cases built with
  | created => exact Nat.zero_le _
  | entered _ _ _ _ free _ =>
    rw [depth_entered]
    exact free

theorem Built.saved_le (built : Built program depthLimit savedLimit stack) :
    stack.saved.size ≤ savedLimit := by
  cases built with
  | created => exact Nat.zero_le _
  | entered _ _ _ _ _ room =>
    rw [size_saved_entered]
    exact room

theorem Built.idle (built : Built program depthLimit savedLimit stack)
    (none : stack.frames = #[]) : stack.saved = #[] := by
  cases built with
  | created => rfl
  | entered => exact absurd none Array.push_ne_empty

theorem totalWindows_append (below above : List Frame) :
    totalWindows (below ++ above) = totalWindows below + totalWindows above := by
  induction below with
  | nil => exact (Nat.zero_add _).symm
  | cons frame rest inductionHypothesis =>
    rw [List.cons_append, totalWindows, totalWindows, inductionHypothesis, Nat.add_assoc]

/-- The saved slots are the windows of all frames. -/
theorem Built.saved_eq (built : Built program depthLimit savedLimit stack) :
    stack.saved.size = totalWindows stack.frames.toList := by
  induction built with
  | created => rfl
  | entered _ _ length _ _ _ inductionHypothesis =>
    rw [size_saved_entered, inductionHypothesis, length, CallStack.entered, Array.toList_push,
      totalWindows_append]
    rfl

/-- Each frame is the one of a function, and its window is saved behind those of the frames below.
-/
theorem Built.frame_eq (built : Built program depthLimit savedLimit stack) {place : Nat}
    {frame : Frame} (found : stack.frames[place]? = some frame) :
    FrameFits program frame ∧
      frame.savedAt = totalWindows (stack.frames.toList.take place) := by
  induction built with
  | created => cases found
  | @entered stack top window built fits length savedAt _ _ inductionHypothesis =>
    rw [CallStack.entered] at found ⊢
    dsimp only at found ⊢
    rw [Array.toList_push]
    rw [Array.getElem?_push] at found
    by_cases isTop : place = stack.frames.size
    · rw [if_pos isTop] at found
      cases found
      rw [isTop, ← Array.length_toList, List.take_left, savedAt, built.saved_eq]
      exact ⟨fits, rfl⟩
    · rw [if_neg isTop] at found
      obtain ⟨inside, -⟩ := Array.getElem?_eq_some_iff.mp found
      rw [List.take_append_of_le_length (by rw [Array.length_toList]; exact Nat.le_of_lt inside)]
      exact inductionHypothesis found

/-- A frame comes back with as many slots as its window has. -/
theorem Built.length_of_pop (built : Built program depthLimit savedLimit stack) {frame : Frame}
    {window : List Slot} {below : CallStack}
    (popped : stack.pop = some ((frame, window), below)) : window.length = frame.windowSize := by
  cases built with
  | created => cases popped
  | entered _ _ length savedAt _ _ =>
    rw [CallStack.entered, pop_push_save savedAt] at popped
    cases popped
    exact length

end CallStack

namespace Machine

/-! ### What entering and leaving keep -/

/-- The stack was built by entering functions of the program within the limits of the configuration,
and the segment is as long as the program wants it. -/
structure Sound (environment : Environment) (machine : Machine) : Prop where
  built : machine.stack.Built environment.program environment.configuration.maxDepth
    environment.configuration.localStackSize
  size : machine.globals.size = environment.program.globals.size

variable {environment : Environment} {machine after : Machine}

theorem Sound.ready (sound : machine.Sound environment) : machine.Ready environment.program :=
  ⟨sound.size, sound.built.idle⟩

theorem Sound.of_keepsCalls (sound : machine.Sound environment) (kept : KeepsCalls machine after) :
    after.Sound environment where
  built := by
    rw [kept.stack]
    exact sound.built
  size := kept.size.trans sound.size

/-- The room for one more function depends on the frames and the saved windows only. -/
theorem Sound.enter_eq (loaded : environment.program.Loaded) (sound : machine.Sound environment)
    {function first : Nat} {found : Function}
    (isFunction : environment.program.functions[function]? = some found)
    (body : found.body = .statements first) :
    enter environment.program function machine =
      if machine.depth = environment.configuration.maxDepth then
        .error (.stackOverflow environment.configuration.maxDepth) machine
      else if environment.configuration.localStackSize <
          machine.stack.saved.size + found.windowLength then
        .error (.localStackOverflow (machine.stack.saved.size + found.windowLength)
          environment.configuration.localStackSize) machine
      else .ok first (machine.entered function found) := by
  obtain ⟨depthLimit, savedLimit⟩ := sound.built.limits
  have depth_le : machine.depth ≤ environment.configuration.maxDepth := sound.built.depth_le
  rw [Machine.enter_eq loaded sound.size isFunction body, depthLimit, savedLimit]
  by_cases full : machine.depth = environment.configuration.maxDepth
  · rw [if_pos full, if_pos (Nat.le_of_eq full.symm)]
  · rw [if_neg full, if_neg fun least => full (Nat.le_antisymm depth_le least)]

/-- Entering a function, or failing to, keeps the stack sound. -/
theorem Sound.enter (loaded : environment.program.Loaded) (sound : machine.Sound environment)
    (function : Nat) : ((enter environment.program function).leaves machine).Sound environment := by
  by_cases hasStatements : ∃ found first,
      environment.program.functions[function]? = some found ∧ found.body = .statements first
  · obtain ⟨found, first, isFunction, body⟩ := hasStatements
    have inside : found.windowBase + found.windowLength ≤ machine.globals.size :=
      sound.size ▸ (loaded.fits isFunction body).window_le_size
    unfold Action.leaves
    rw [sound.enter_eq loaded isFunction body]
    by_cases full : machine.depth = environment.configuration.maxDepth
    · rw [if_pos full]
      exact sound
    by_cases crowded : environment.configuration.localStackSize <
        machine.stack.saved.size + found.windowLength
    · rw [if_neg full, if_pos crowded]
      exact sound
    · rw [if_neg full, if_neg crowded]
      have length := length_windowOf inside
      refine ⟨.entered sound.built ⟨found, first, isFunction, body, rfl, rfl⟩ length rfl ?_ ?_, ?_⟩
      · exact Nat.lt_of_le_of_ne sound.built.depth_le full
      · rw [length]
        exact Nat.not_lt.mp crowded
      · exact (Cells.size_packed _ _ _ _).trans sound.size
  · obtain ⟨fault, refused⟩ : ∃ fault,
        Machine.enter environment.program function machine = .error fault machine :=
      enter_of_no_statements fun found first isFunction body =>
        hasStatements ⟨found, first, isFunction, body⟩
    rw [Action.leaves_of_error refused]
    exact sound

/-- A statement keeps the stack sound, whatever it is. -/
theorem Sound.advance (loaded : environment.program.Loaded) (sound : machine.Sound environment)
    (index : Nat) (statement : Statement) :
    ((advance environment index statement).leaves machine).Sound environment := by
  rcases advance_cases loaded sound.size index statement with
    kept | ⟨begun, function, found, first, kept, -, -, -, entered, advanced⟩
  · exact sound.of_keepsCalls kept
  · have begunSound := (sound.of_keepsCalls kept).enter loaded function
    rw [Action.leaves_of_ok entered] at begunSound
    rw [Action.leaves_of_ok advanced]
    exact begunSound

/-- Every function can be left, and leaving it keeps the stack sound. -/
theorem Sound.leave (loaded : environment.program.Loaded) (sound : machine.Sound environment) :
    ∃ resume after, leave machine = .ok resume after ∧ after.Sound environment := by
  obtain ⟨built, size⟩ := sound
  generalize same : machine.stack = stack at built
  cases built with
  | created =>
    refine ⟨none, machine, ?_, same ▸ .created, size⟩
    unfold Machine.leave
    rw [same]
    rfl
  | @entered below frame window built fits length savedAt free room =>
    obtain ⟨found, first, isFunction, body, start, width⟩ := fits
    have inside := (loaded.fits isFunction body).window_le_size
    refine ⟨frame.returnTo, machine.backIn below frame.windowStart window, ?_, built,
      (size_backIn _ _ _ _).trans size⟩
    refine leave_eq_ok same ⟨savedAt, ?_⟩
    rw [length, start, width, size]
    exact inside

/-- No window is ever dropped. -/
theorem Sound.leaveMany (loaded : environment.program.Loaded) (sound : machine.Sound environment)
    (count : Nat) : (leaveMany count machine).1 = 0 := by
  induction count generalizing machine with
  | zero => rfl
  | succ count inductionHypothesis =>
    obtain ⟨resume, after, left, afterSound⟩ := sound.leave loaded
    rw [Machine.leaveMany, left]
    exact inductionHypothesis afterSound

theorem Sound.create (environment : Environment) :
    (create environment.program environment.configuration).Sound environment :=
  ⟨.created, rfl⟩

theorem Sound.reset (sound : machine.Sound environment) :
    (machine.reset environment.program environment.configuration).Sound environment where
  built := by
    obtain ⟨depthLimit, savedLimit⟩ := sound.built.limits
    have cleared : machine.stack.clear = .create environment.configuration.maxDepth
        environment.configuration.localStackSize := by
      unfold CallStack.clear CallStack.create
      rw [depthLimit, savedLimit]
    rw [Machine.reset, cleared]
    exact .created
  size := rfl

/-! ### Reachable machines -/

/-- The machines that a host can come to, in the middle of a run as well. A host or a builtin may
change everything but the active functions and the number of global slots; those it changes only by
running functions. -/
inductive Reachable (environment : Environment) : Machine → Prop
  | created : Reachable environment (create environment.program environment.configuration)
  | reset {machine : Machine} (reachable : Reachable environment machine) :
      Reachable environment (machine.reset environment.program environment.configuration)
  | changed {machine after : Machine} (reachable : Reachable environment machine)
      (kept : KeepsCalls machine after) : Reachable environment after
  | entered {machine : Machine} (reachable : Reachable environment machine) (function : Nat) :
      Reachable environment ((enter environment.program function).leaves machine)
  | advanced {machine : Machine} (reachable : Reachable environment machine) (index : Nat)
      (statement : Statement) :
      Reachable environment ((advance environment index statement).leaves machine)
  | left {machine : Machine} (reachable : Reachable environment machine) :
      Reachable environment (leave.leaves machine)
  | invoked {machine after : Machine} {budget function : Nat} {result : Except Fault Unit}
      (reachable : Reachable environment machine)
      (ends : invoke environment budget function machine = some (result, after)) :
      Reachable environment after
  | called {machine after : Machine} {budget function : Nat} {arguments : List Value}
      {result : Except Report Vector3} (reachable : Reachable environment machine)
      (ends : call environment budget function arguments machine = some (result, after)) :
      Reachable environment after

theorem Reachable.sound (loaded : environment.program.Loaded)
    (respects : environment.builtins.Respects KeepsCalls environment.program)
    (reachable : Reachable environment machine) : machine.Sound environment := by
  induction reachable with
  | created => exact .create environment
  | reset _ sound => exact sound.reset
  | changed _ kept sound => exact sound.of_keepsCalls kept
  | entered _ function sound => exact sound.enter loaded function
  | advanced _ index statement sound => exact sound.advance loaded index statement
  | left _ sound =>
    obtain ⟨resume, after, left, afterSound⟩ := sound.leave loaded
    rw [Action.leaves_of_ok left]
    exact afterSound
  | @invoked _ _ budget _ _ _ ends sound =>
    have balanced := execute_balanced loaded respects budget
    exact sound.of_keepsCalls (invokeWith_restores balanced sound.ready ends).1.calls
  | @called _ _ budget _ _ _ _ ends sound =>
    have balanced := execute_balanced loaded respects budget
    exact sound.of_keepsCalls (callWith_keepsCalls balanced sound.ready ends)

/-- A turn of the loop comes from a reachable machine to a reachable one. -/
theorem Reachable.turn (loaded : environment.program.Loaded)
    (respects : environment.builtins.Respects KeepsCalls environment.program)
    (reachable : Reachable environment machine) {budget exitDepth index : Nat} {outcome : Turn}
    (turned : turn (Machine.execute environment budget) environment exitDepth index machine =
      some (outcome, after)) : Reachable environment after := by
  have advancedReachable := fun statement => reachable.advanced index statement
  cases turned_of_turn turned with
  | missing => exact reachable
  | fault _ advanced => exact Action.leaves_of_error advanced ▸ advancedReachable _
  | next _ advanced => exact Action.leaves_of_ok advanced ▸ advancedReachable _
  | jump _ advanced => exact Action.leaves_of_ok advanced ▸ advancedReachable _
  | @builtin statement _ _ _ _ _ _ _ advanced called =>
    have reachedReachable := advancedReachable statement
    rw [Action.leaves_of_ok advanced] at reachedReachable
    have balanced := execute_balanced loaded respects budget
    have ready := (reachedReachable.sound loaded respects).ready
    exact reachedReachable.changed (callBuiltin_keepsCalls balanced respects ready called)
  | @leave statement _ _ _ _ advanced returned =>
    have left := (advancedReachable statement).left
    rw [Action.leaves_of_ok advanced, ← snd_returnFrom exitDepth, returned] at left
    exact left

theorem Reachable.turns (loaded : environment.program.Loaded)
    (respects : environment.builtins.Respects KeepsCalls environment.program)
    (reachable : Reachable environment machine) {budget exitDepth start index : Nat}
    (turns : Turns (Machine.execute environment budget) environment exitDepth start machine index
      after) : Reachable environment after := by
  induction turns with
  | start => exact reachable
  | resume _ turned inductionHypothesis => exact inductionHypothesis.turn loaded respects turned

/-! ### The account of the active functions -/

/-- What the stack of active functions and the stack of saved slots have to do with each other, with
the limits, and with the functions of the program. -/
structure Accounted (environment : Environment) (machine : Machine) : Prop where
  size : machine.globals.size = environment.program.globals.size
  depth_le : machine.depth ≤ environment.configuration.maxDepth
  saved_le : machine.stack.saved.size ≤ environment.configuration.localStackSize
  saved_eq : machine.stack.saved.size = CallStack.totalWindows machine.stack.frames.toList
  savedAt : ∀ {place : Nat} {frame : Frame}, machine.stack.frames[place]? = some frame →
    frame.savedAt = CallStack.totalWindows (machine.stack.frames.toList.take place)
  window : ∀ {place : Nat} {frame : Frame}, machine.stack.frames[place]? = some frame →
    CallStack.FrameFits environment.program frame ∧
      frame.windowStart + frame.windowSize ≤ machine.globals.size

theorem Sound.accounted (loaded : environment.program.Loaded)
    (sound : machine.Sound environment) : machine.Accounted environment where
  size := sound.size
  depth_le := sound.built.depth_le
  saved_le := sound.built.saved_le
  saved_eq := sound.built.saved_eq
  savedAt := fun found => (sound.built.frame_eq found).2
  window := by
    intro place frame found
    have fits := (sound.built.frame_eq found).1
    refine ⟨fits, ?_⟩
    obtain ⟨called, first, isFunction, body, start, width⟩ := fits
    rw [start, width, sound.size]
    exact (loaded.fits isFunction body).window_le_size

/-- No more arguments than there are parameter blocks can always be put into them. -/
theorem stageArguments_eq_ok {arguments : List Value} {index : Nat}
    (few : index + arguments.length ≤ Region.maxParameters)
    (region : Region.size ≤ machine.globals.size) :
    ∃ globals, globals.size = machine.globals.size ∧
      stageArguments arguments index machine = .ok () { machine with globals } := by
  induction arguments generalizing index machine with
  | nil => exact ⟨machine.globals, rfl, rfl⟩
  | cons argument rest inductionHypothesis =>
    rw [List.length_cons] at few
    have index_lt : index < Region.maxParameters := by omega
    have blockInside := Region.parameterOffset_add_le index_lt
    have width : argument.slots.length ≤ 3 := argument.width_le
    obtain ⟨middle, written⟩ : ∃ middle,
        machine.globals.write (Region.parameterOffset index) argument.slots = .ok middle := by
      refine ⟨_, Globals.write_eq_ok_iff.mpr ⟨?_, rfl⟩⟩
      unfold Region.blockWidth at blockInside
      unfold Globals.Covers
      omega
    have size := Globals.size_write written
    obtain ⟨globals, sized, staged⟩ :=
      @inductionHypothesis { machine with globals := middle } (index + 1) (by omega)
        (Nat.le_trans region (Nat.le_of_eq size.symm))
    refine ⟨globals, sized.trans size, ?_⟩
    rw [stageArguments, Action.bind_apply, Action.changeGlobals, written]
    exact staged

end Machine

/-! ### A small program -/

namespace Sample

/-- A function with statements, but without a name. -/
def function (first window locals : UInt32) (widths : List UInt8) : Function :=
  ⟨first, window, locals, 0, 0, 0, widths, false⟩

/-- Function 1 hands function 3 to the builtin and returns its own parameter. Function 3 has its
window in the same place, and writes to it. -/
def program : Program :=
  { header :=
      { version := 6
        checksum := 0
        statements := ⟨60, 6⟩
        globalDefinitions := ⟨108, 0⟩
        fieldDefinitions := ⟨108, 0⟩
        functions := ⟨108, 4⟩
        strings := ⟨252, 1⟩
        globals := ⟨253, 34⟩
        entityFields := 0 }
    statements := #[⟨0, 0, 0, 0⟩, ⟨31, 32, 4, 0⟩, ⟨52, 31, 0, 0⟩, ⟨43, 28, 0, 0⟩, ⟨31, 33, 28, 0⟩,
      ⟨43, 28, 0, 0⟩]
    globalDefinitions := #[]
    fieldDefinitions := #[]
    functions := #[⟨0, 0, 0, 0, 0, 0, [], false⟩, function 1 28 2 [1], function (-2) 0 0 [1],
      function 4 28 1 []]
    strings := #[0]
    globals := Array.replicate 28 0 ++ #[0, 0, 0, 2, 3, 7]
    entityFields := 0 }

/-- The builtin of number 2 runs the function that it is given. -/
def environment : Environment :=
  ⟨program, .standard, (Builtins.installClassic .empty).register
    ⟨2, "apply", do
      let function ← Native.referenceArgument 0
      let _ ← Native.run function.toNat⟩⟩

theorem loaded : Image.load (Image.save program) .none = .ok environment.program :=
  Image.load_save_of_check (by decide +kernel) (by decide +kernel) (by decide +kernel)

theorem respects : environment.builtins.Respects Machine.KeepsCalls environment.program := by
  refine Builtins.respects_register (Builtins.respects_installClassic Builtins.respects_empty) ?_
  exact fun machine => Native.Respects.bind (Native.respects_check fun _ _ _ _ _ => trivial)

/-- The machine in which function 1 was entered. -/
def inside : Machine :=
  (Machine.enter program 1).leaves (.create program .standard)

theorem isFunction : environment.program.functions[1]? = some (function 1 28 2 [1]) := rfl

theorem body : (function 1 28 2 [1]).body = .statements 1 := by decide

/-- Function 1 can be entered once more. -/
theorem enter_inside : Machine.enter environment.program 1 inside =
    .ok 1 (inside.entered 1 (function 1 28 2 [1])) := by
  have size : inside.globals.size = environment.program.globals.size := by decide +kernel
  rw [Machine.enter_eq (Image.loaded_of_load loaded) size isFunction body,
    if_neg (by decide +kernel), if_neg (by decide +kernel)]

end Sample

namespace Machine

variable {image : Array UInt8} {expectation : Image.Expectation} {environment : Environment}
  {machine : Machine}

/-! ### What holds everywhere -/

/-- The active functions are accounted for in every reachable machine: the innermost one can always
be left, with as many saved slots as its window has, unwinding drops no window, and the room for one
more function is told by the number of frames and of saved slots alone. A function that is refused
for want of room changes nothing. -/
theorem calls_accounted (loads : Image.load image expectation = .ok environment.program)
    (respects : environment.builtins.Respects KeepsCalls environment.program)
    (reachable : Reachable environment machine) :
    machine.Accounted environment ∧
      (∀ frame window below, machine.stack.pop = some ((frame, window), below) →
        window.length = frame.windowSize) ∧
      (∃ resume after, leave machine = .ok resume after) ∧
      (∀ depth, (machine.unwindTo depth).1 = 0) ∧
      ∀ function found first, environment.program.functions[function]? = some found →
        found.body = .statements first →
          enter environment.program function machine =
            if machine.depth = environment.configuration.maxDepth then
              .error (.stackOverflow environment.configuration.maxDepth) machine
            else if environment.configuration.localStackSize <
                machine.stack.saved.size + found.windowLength then
              .error (.localStackOverflow (machine.stack.saved.size + found.windowLength)
                environment.configuration.localStackSize) machine
            else .ok first (machine.entered function found) := by
  have loaded := Image.loaded_of_load loads
  have sound := reachable.sound loaded respects
  refine ⟨sound.accounted loaded, ?_, ?_, ?_, ?_⟩
  · exact fun _ _ _ popped => sound.built.length_of_pop popped
  · obtain ⟨resume, after, left, -⟩ := sound.leave loaded
    exact ⟨resume, after, left⟩
  · exact fun depth => sound.leaveMany loaded (machine.depth - depth)
  · exact fun _ _ _ isFunction body => sound.enter_eq loaded isFunction body

theorem calls_accounted_inside :
    Image.load (Image.save Sample.program) .none = .ok Sample.environment.program ∧
      Sample.environment.builtins.Respects KeepsCalls Sample.environment.program ∧
      Reachable Sample.environment Sample.inside ∧ Sample.inside.depth = 1 ∧
      Sample.inside.Accounted Sample.environment ∧ (Sample.inside.unwindTo 0).1 = 0 := by
  have reachable : Reachable Sample.environment Sample.inside := .entered .created 1
  obtain ⟨accounted, -, -, unwound, -⟩ :=
    calls_accounted Sample.loaded Sample.respects reachable
  exact ⟨Sample.loaded, Sample.respects, reachable, by decide +kernel, accounted, unwound 0⟩

/-! ### What a call restores -/

/-- However a function ends that is run in a reachable machine, the active functions, the saved
slots and the statement are then what they were, and the window of a function with statements holds
what it held before the function was entered. For a call that is after its arguments were put in
place; a call with too many arguments changes nothing. -/
theorem calls_restored (loads : Image.load image expectation = .ok environment.program)
    (respects : environment.builtins.Respects KeepsCalls environment.program)
    (reachable : Reachable environment machine) (budget function : Nat) :
    (∀ result after, invoke environment budget function machine = some (result, after) →
      after.stack = machine.stack ∧ after.statement = machine.statement ∧
        ∀ found first, environment.program.functions[function]? = some found →
          found.body = .statements first → found.WindowKept machine after) ∧
      ∀ arguments result after,
        call environment budget function arguments machine = some (result, after) →
          after.stack = machine.stack ∧ after.statement = machine.statement ∧
            (Region.maxParameters < arguments.length → after = machine) ∧
            (arguments.length ≤ Region.maxParameters →
              ∃ staged, stageArguments arguments 0 machine = .ok () staged ∧
                ∀ found first, environment.program.functions[function]? = some found →
                  found.body = .statements first → found.WindowKept staged after) := by
  have loaded := Image.loaded_of_load loads
  have ready := (reachable.sound loaded respects).ready
  have balanced := execute_balanced loaded respects budget
  constructor
  · intro result after ends
    obtain ⟨restores, statement⟩ := invokeWith_restores balanced ready ends
    exact ⟨restores.calls.stack, statement, fun _ _ => restores.window⟩
  · intro arguments result after ends
    have stack := (callWith_keepsCalls balanced ready ends).stack
    by_cases many : Region.maxParameters < arguments.length
    · have unchanged : after = machine := by
        unfold call callWith at ends
        rw [if_pos many] at ends
        cases ends
        rfl
      exact ⟨stack, unchanged ▸ rfl, fun _ => unchanged,
        fun few => absurd many (Nat.not_lt.mpr few)⟩
    · have few := Nat.not_lt.mp many
      have fromZero : 0 + arguments.length ≤ Region.maxParameters := by rwa [Nat.zero_add]
      have region := Nat.le_trans loaded.region_le (Nat.le_of_eq ready.size.symm)
      obtain ⟨globals, -, staged⟩ := stageArguments_eq_ok fromZero region
      obtain ⟨restores, statement⟩ := callWith_restores balanced ready few staged ends
      exact ⟨stack, statement, fun more => absurd more many,
        fun _ => ⟨_, staged, fun _ _ => restores.window⟩⟩

theorem calls_restored_inside :
    Image.load (Image.save Sample.program) .none = .ok Sample.environment.program ∧
      Sample.environment.builtins.Respects KeepsCalls Sample.environment.program ∧
      Reachable Sample.environment Sample.inside ∧
      ∃ result after, invoke Sample.environment 9 1 Sample.inside = some (result, after) ∧
        after.stack = Sample.inside.stack ∧ after.statement = Sample.inside.statement := by
  have reachable : Reachable Sample.environment Sample.inside := .entered .created 1
  obtain ⟨invoked, -⟩ := calls_restored Sample.loaded Sample.respects reachable 9 1
  have runs : (invoke Sample.environment 9 1 Sample.inside).isSome = true := by decide +kernel
  obtain ⟨⟨result, after⟩, ends⟩ := Option.isSome_iff_exists.mp runs
  obtain ⟨stack, statement, -⟩ := invoked result after ends
  exact ⟨Sample.loaded, Sample.respects, reachable, result, after, ends, stack, statement⟩

end Machine

end Gamecode
