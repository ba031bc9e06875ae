/-
This file proves that bookkeeping never shows. Between calls a machine keeps the trace switch,
listings, counters, the number of statements that the last call executed, and the argument count of
the builtin that was called last. A call counts its statements anew and a builtin is told its own
argument count, so whatever the bookkeeping is, a host gets the same results from the same calls,
reads the same on the console, and finds the same globals, strings and entities after each of them.
-/

import Gamecode.Proofs.Paired.Limits

namespace Gamecode

namespace Machine

/-! ### Machines that differ in their bookkeeping -/

/-- The machines hold the same content under the same limits, so only their bookkeeping may differ.
On both consoles the same text was printed behind what was there at the start. -/
structure SameButNotes (leftStart rightStart : String) (left right : Machine) : Prop where
  content : right.content = left.content
  limits : right.limits = left.limits
  printed : ∃ printed, left.console = ⟨leftStart ++ printed⟩ ∧
    right.console = ⟨rightStart ++ printed⟩

/-- Within a call the machines have also executed as many statements. -/
def InStep (leftStart rightStart : String) (left right : Machine) : Prop :=
  SameButNotes leftStart rightStart left right ∧ right.executed = left.executed

variable {leftStart rightStart : String} {left right : Machine}

instance : Parallel (SameButNotes leftStart rightStart) where
  content_eq related := related.content
  holding related _ := ⟨rfl, related.limits, related.printed⟩

theorem SameButNotes.print (related : SameButNotes leftStart rightStart left right)
    (text : String) :
    SameButNotes leftStart rightStart (left.print text) (right.print text) where
  content := related.content
  limits := related.limits
  printed := by
    obtain ⟨printed, onLeft, onRight⟩ := related.printed
    refine ⟨printed ++ text, ?_, ?_⟩
    · rw [Machine.print, Console.print, onLeft, String.append_assoc]
    · rw [Machine.print, Console.print, onRight, String.append_assoc]

instance {faithful : Prop} : Synchronous faithful (InStep leftStart rightStart) where
  content_eq both := both.1.content
  holding both content := ⟨Parallel.holding both.1 content, both.2⟩
  within both := by
    rw [both.1.limits]
    exact ⟨Nat.le_refl _, Nat.le_refl _, Nat.le_refl _⟩
  exact _ _ _ both := both.1.limits
  executed_eq both := both.2
  noting := by
    rintro note noted left right ⟨related, same⟩
    cases noted with
    | executed executed => exact ⟨⟨related.content, related.limits, related.printed⟩, rfl⟩
    | profile | listed | tracing | argumentCount =>
      exact ⟨⟨related.content, related.limits, related.printed⟩, same⟩
    | printed text => exact ⟨related.print text, same⟩
  restored both _ := ⟨⟨both.1.content, both.1.limits, both.1.printed⟩, both.2⟩

/-- Where no function is active, the statements are counted anew in both machines. -/
theorem SameButNotes.restartCount (related : SameButNotes leftStart rightStart left right)
    (idle : left.depth = 0) : InStep leftStart rightStart left.restartCount right.restartCount := by
  have otherIdle : right.depth = 0 := (Parallel.depth_eq related).trans idle
  unfold Machine.restartCount
  rw [if_pos idle, if_pos otherIdle]
  exact ⟨⟨related.content, related.limits, related.printed⟩, rfl⟩

/-! ### Calls from outside -/

variable {environment : Environment}

/-- A call has the same result in both machines, and leaves machines that differ in their
bookkeeping only. -/
theorem SameButNotes.call (standard : environment.builtins.AllStandard)
    (related : SameButNotes leftStart rightStart left right) (idle : left.depth = 0)
    (budget function : Nat) (arguments : List Value) :
    Matched True (SameButNotes leftStart rightStart)
      (call environment budget function arguments left)
      (call environment budget function arguments right) := by
  have carry : environment.builtins.Carry True (InStep leftStart rightStart) environment.program :=
    standard.every fun _ member => Builtins.carries_standard member
  have carries : Executor.Carries True (InStep leftStart rightStart) (execute environment budget)
      (execute environment budget) :=
    carries_execute (.refl environment.configuration) budget carry
  refine matched_callWith ?_ ?_ carries environment.program function arguments related
  · exact And.left
  · -- The statements are counted anew before the first one, so from there on the runs are in step.
    intro first second staged stack
    exact staged.restartCount ((congrArg CallStack.depth stack).trans idle)

/-! ### What a host sees -/

/-- What a host sees of a call. -/
structure Reply where
  result : Except Report Vector3
  printed : String
  globals : Globals
  strings : StringHeap
  entities : EntityStore

/-- What was printed from one machine to the next. -/
def printedSince (before after : Machine) : String :=
  String.ofList (after.console.contents.toList.drop before.console.contents.length)

/-- What calls in a row show, up to the first one that exceeds its budget. -/
def replies (environment : Environment) (budget : Nat) :
    List (Nat × List Value) → Machine → List Reply
  | [], _ => []
  | (function, arguments) :: rest, machine =>
    match call environment budget function arguments machine with
    | none => []
    | some (result, after) =>
      { result
        printed := printedSince machine after
        globals := after.globals
        strings := after.strings
        entities := after.entities } :: replies environment budget rest after

theorem printedSince_eq {before after : Machine} {printed : String}
    (console : after.console = ⟨before.console.contents ++ printed⟩) :
    printedSince before after = printed := by
  rw [printedSince, console, String.toList_append, ← String.length_toList, List.drop_left,
    String.ofList_toList]

/-- Nothing is active, and there are as many globals as the program asks for. -/
structure Idle (environment : Environment) (machine : Machine) : Prop where
  stack : machine.stack =
    .create environment.configuration.maxDepth environment.configuration.localStackSize
  statement : machine.statement = none
  size : machine.globals.size = environment.program.globals.size

/-- The machines hold the same globals, strings and entities. -/
structure AgreesWith (left right : Machine) : Prop where
  globals : right.globals = left.globals
  strings : right.strings = left.strings
  entities : right.entities = left.entities

theorem Idle.depth_eq {machine : Machine} (idle : machine.Idle environment) : machine.depth = 0 :=
  congrArg CallStack.depth idle.stack

theorem Idle.ready {machine : Machine} (idle : machine.Idle environment) :
    machine.Ready environment.program where
  size := idle.size
  idle _ := by
    rw [idle.stack]
    rfl

/-- Idle machines that agree differ in their bookkeeping only. -/
theorem Idle.sameButNotes (idle : left.Idle environment) (other : right.Idle environment)
    (agree : left.AgreesWith right) :
    SameButNotes left.console.contents right.console.contents left right where
  content := by
    unfold content
    rw [agree.globals, agree.strings, agree.entities, idle.stack, other.stack, idle.statement,
      other.statement]
  limits := by
    unfold limits
    rw [agree.entities, idle.stack, other.stack]
  printed := ⟨"", by rw [String.append_empty], by rw [String.append_empty]⟩

theorem SameButNotes.entities_eq (related : SameButNotes leftStart rightStart left right) :
    right.entities = left.entities := by
  have records : right.entities.limit = left.entities.limit :=
    congrArg Limits.records related.limits
  rw [Parallel.entities_eq related, records]

/-- The consoles of such machines may be looked at from anywhere on. -/
theorem SameButNotes.restart (related : SameButNotes leftStart rightStart left right) :
    SameButNotes left.console.contents right.console.contents left right where
  content := related.content
  limits := related.limits
  printed := ⟨"", by rw [String.append_empty], by rw [String.append_empty]⟩

/-- Machines that differ in their bookkeeping only give the same replies. -/
theorem SameButNotes.replies_eq (loaded : environment.program.Loaded)
    (standard : environment.builtins.AllStandard) (budget : Nat) (calls : List (Nat × List Value))
    (related : SameButNotes left.console.contents right.console.contents left right)
    (ready : left.Ready environment.program) (idle : left.depth = 0) :
    replies environment budget calls right = replies environment budget calls left := by
  have respects : environment.builtins.Every fun script => ∀ machine,
      script.Respects KeepsCalls environment.program (fun _ _ => True) machine :=
    standard.every fun _ member _ => Builtins.respects_standard member
  induction calls generalizing left right with
  | nil => rfl
  | cons first rest inductionHypothesis =>
    obtain ⟨function, arguments⟩ := first
    have matched := related.call standard idle budget function arguments
    unfold replies
    generalize leftEnds : Machine.call environment budget function arguments left = leftOutcome
      at matched
    generalize Machine.call environment budget function arguments right = rightOutcome at matched
    cases matched with
    | unfinished => rfl
    | excused unfaithful => exact absurd trivial unfaithful
    | @same result leftAfter rightAfter reached =>
      have kept := callWith_keepsCalls (execute_balanced loaded respects budget) ready leftEnds
      -- Only what later calls print matters to them, so the consoles are compared from here on.
      have later := inductionHypothesis reached.restart (ready.of_keepsCalls kept)
        (kept.depth.trans idle)
      obtain ⟨printed, onLeft, onRight⟩ := reached.printed
      have globals : rightAfter.globals = leftAfter.globals :=
        congrArg Content.globals reached.content
      have strings : rightAfter.strings = leftAfter.strings :=
        congrArg Content.strings reached.content
      dsimp only
      rw [printedSince_eq onLeft, printedSince_eq onRight, globals, strings,
        reached.entities_eq, later]

/-- Bookkeeping never shows: idle machines of a loaded program with standard builtins that agree on
globals, strings and entities give the same replies to the same calls, whatever their trace switch,
their counters and their last argument count are. -/
theorem replies_eq_of_agreesWith {image : Array UInt8} {expectation : Image.Expectation}
    (loads : Image.load image expectation = .ok environment.program)
    (standard : environment.builtins.AllStandard) (idle : left.Idle environment)
    (other : right.Idle environment) (agree : left.AgreesWith right) (budget : Nat)
    (calls : List (Nat × List Value)) :
    replies environment budget calls right = replies environment budget calls left :=
  (idle.sameButNotes other agree).replies_eq (Image.loaded_of_load loads) standard budget calls
    idle.ready idle.depth_eq

end Machine

/-! ### A machine that has been in use -/

namespace Sample

def cramped : Environment :=
  ⟨breeding, tight, classic⟩

/-- The machine is idle again, but it lists statements, and all its counters show that it was in
use. -/
def worn : Machine :=
  { Machine.create breeding tight with
    profile := (Profile.create 4).recordCall 1
    argumentCount := 5
    executed := 3
    tracing := true
    console := ⟨"done"⟩ }

/-- The first call creates an entity, the second one asks for a function that is not there, and the
third one would create one entity too many. -/
def visits : List (Nat × List Value) :=
  [(1, []), (9, []), (1, [])]

theorem loaded_breeding : Image.load (Image.save breeding) .none = .ok breeding :=
  Image.load_save_of_check (by decide +kernel) (by decide +kernel) (by decide +kernel)

end Sample

namespace Machine

theorem replies_eq_of_agreesWith_worn :
    Image.load (Image.save Sample.breeding) .none = .ok Sample.cramped.program ∧
      Sample.cramped.builtins.AllStandard ∧
      (create Sample.breeding Sample.tight).Idle Sample.cramped ∧ Sample.worn.Idle Sample.cramped ∧
      (create Sample.breeding Sample.tight).AgreesWith Sample.worn ∧
      replies Sample.cramped 9 Sample.visits Sample.worn =
        replies Sample.cramped 9 Sample.visits (create Sample.breeding Sample.tight) ∧
      (replies Sample.cramped 9 Sample.visits Sample.worn).map
          (fun reply => (reply.result.toOption, reply.entities.count)) =
        [(some .zero, 2), (none, 2), (none, 2)] := by
  have standard : Sample.cramped.builtins.AllStandard :=
    Builtins.allStandard_installClassic Builtins.allStandard_empty
  have idle : (create Sample.breeding Sample.tight).Idle Sample.cramped := ⟨rfl, rfl, rfl⟩
  have other : Sample.worn.Idle Sample.cramped := ⟨rfl, rfl, rfl⟩
  have agree : (create Sample.breeding Sample.tight).AgreesWith Sample.worn := ⟨rfl, rfl, rfl⟩
  exact ⟨Sample.loaded_breeding, standard, idle, other, agree,
    replies_eq_of_agreesWith Sample.loaded_breeding standard idle other agree 9 Sample.visits,
    by decide +kernel⟩

end Machine

end Gamecode
