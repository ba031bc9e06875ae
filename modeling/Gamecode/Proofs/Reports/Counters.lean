/-
This file proves that the counters of the functions tell how much was done. The profile is the
journal replayed: each note charges one statement or one call to a function, and nothing else
changes a counter. All charges go to functions of the program, since some function is active
wherever a statement is executed, and so no charge is lost.
-/

import Gamecode.Proofs.Calls.History
import Gamecode.Proofs.Reports.Journal

namespace Gamecode

/-! ### Sums over all functions -/

namespace Profile

/-- What is counted in all counters together. -/
def sum (measure : Counter → Nat) : List Counter → Nat
  | [] => 0
  | counter :: rest => measure counter + sum measure rest

/-- What is counted for all functions together. -/
def total (measure : Counter → Nat) (profile : Profile) : Nat :=
  sum measure profile.counters.toList

theorem sum_modify {measure : Counter → Nat} {change : Counter → Counter} {amount : Nat}
    (adds : ∀ counter, measure (change counter) = measure counter + amount)
    {counters : List Counter} {function : Nat} (inside : function < counters.length) :
    sum measure (counters.modify function change) = sum measure counters + amount := by
  induction counters generalizing function with
  | nil => cases inside
  | cons counter rest inductionHypothesis =>
    cases function with
    | zero =>
      rw [List.modify_zero_cons, sum, sum, adds]
      omega
    | succ function =>
      rw [List.modify_succ_cons, sum, sum, inductionHypothesis (Nat.lt_of_succ_lt_succ inside),
        Nat.add_assoc]

theorem sum_replicate_zero {measure : Counter → Nat} (zero : measure .zero = 0) (count : Nat) :
    sum measure (List.replicate count .zero) = 0 := by
  induction count with
  | zero => rfl
  | succ count inductionHypothesis =>
    rw [List.replicate_succ, sum, zero, inductionHypothesis]

variable {profile : Profile} {function : Nat}

theorem total_recordCall {measure : Counter → Nat} {amount : Nat}
    (adds : ∀ counter : Counter,
      measure { counter with calls := counter.calls + 1 } = measure counter + amount)
    (inside : function < profile.counters.size) :
    (profile.recordCall function).total measure = profile.total measure + amount := by
  unfold total recordCall
  rw [Array.toList_modify]
  exact sum_modify adds inside

theorem total_recordStatement {measure : Counter → Nat} {amount : Nat}
    (adds : ∀ counter : Counter,
      measure { counter with statements := counter.statements + 1 } = measure counter + amount)
    (inside : function < profile.counters.size) :
    (profile.recordStatement function).total measure = profile.total measure + amount := by
  unfold total recordStatement
  rw [Array.toList_modify]
  exact sum_modify adds inside

end Profile

/-! ### Charges -/

namespace Note

/-- What the note charges to a function. -/
def charge (profile : Profile) : Note → Profile
  | .dispatched _ _ machine => (machine.currentFunction?.map profile.recordStatement).getD profile
  | .entered function | .started function => profile.recordCall function
  | .reached _ | .raised _ _ | .reported _ => profile

/-- What the note charges, if anything, it charges to one of the first `size` functions. -/
def Charged (size : Nat) : Note → Prop
  | .dispatched _ _ machine => ∃ function, machine.currentFunction? = some function ∧
      function < size
  | .entered function | .started function => function < size
  | .reached _ | .raised _ _ | .reported _ => True

/-- A statement was executed. -/
def isStatement : Note → Bool
  | .dispatched _ _ _ => true
  | .reached _ | .entered _ | .started _ | .raised _ _ | .reported _ => false

/-- A statement was executed where the function was the innermost one. -/
def isStatementOf (function : Nat) : Note → Bool
  | .dispatched _ _ machine => machine.currentFunction? = some function
  | .reached _ | .entered _ | .started _ | .raised _ _ | .reported _ => false

/-- A frame was put on the stack. -/
def isEntry : Note → Bool
  | .entered _ => true
  | .reached _ | .dispatched _ _ _ | .started _ | .raised _ _ | .reported _ => false

/-- A builtin was started. -/
def isStart : Note → Bool
  | .started _ => true
  | .reached _ | .dispatched _ _ _ | .entered _ | .raised _ _ | .reported _ => false

/-- The function was entered, or it is a builtin and was started. -/
def isCallOf (function : Nat) : Note → Bool
  | .entered other | .started other => other = function
  | .reached _ | .dispatched _ _ _ | .raised _ _ | .reported _ => false

end Note

/-- The profile of the functions after everything in the journal was charged. -/
def Profile.replay (profile : Profile) (journal : List Note) : Profile :=
  journal.foldl Note.charge profile

namespace Profile

variable {profile : Profile} {note : Note} {size : Nat}

theorem size_charge : (note.charge profile).counters.size = profile.counters.size := by
  cases note with
  | dispatched index statement machine =>
    cases current : machine.currentFunction? with
    | none => rw [Note.charge, current]; rfl
    | some function =>
      rw [Note.charge, current]
      exact Array.size_modify
  | entered function | started function => exact Array.size_modify
  | reached | raised | reported => rfl

theorem get_recordCall {called : Nat} (inside : called < profile.counters.size) (function : Nat) :
    (profile.recordCall called).get function =
      ⟨(profile.get function).calls + if called = function then 1 else 0,
        (profile.get function).statements⟩ := by
  by_cases same : called = function
  · rw [← same, get_recordCall_self inside, if_pos rfl]
  · rw [get_recordCall_other (Ne.symm same), if_neg same]
    rfl

theorem get_recordStatement {charged : Nat} (inside : charged < profile.counters.size)
    (function : Nat) :
    (profile.recordStatement charged).get function =
      ⟨(profile.get function).calls,
        (profile.get function).statements + if charged = function then 1 else 0⟩ := by
  by_cases same : charged = function
  · rw [← same, get_recordStatement_self inside, if_pos rfl]
  · rw [get_recordStatement_other (Ne.symm same), if_neg same]
    rfl

/-- What a note adds to the counters of a function. -/
theorem get_charge (sized : profile.counters.size = size) (charged : note.Charged size)
    (function : Nat) :
    (note.charge profile).get function =
      ⟨(profile.get function).calls + if note.isCallOf function then 1 else 0,
        (profile.get function).statements + if note.isStatementOf function then 1 else 0⟩ := by
  cases note with
  | dispatched index statement machine =>
    obtain ⟨current, isCurrent, inside⟩ := charged
    simp only [Note.charge, Note.isCallOf, Note.isStatementOf, isCurrent, Option.map_some,
      Option.getD_some, get_recordStatement (sized ▸ inside), Option.some.injEq, decide_eq_true_eq,
      Bool.false_eq_true, if_false, Nat.add_zero]
  | entered called | started called =>
    simp only [Note.charge, Note.isCallOf, Note.isStatementOf, get_recordCall (sized ▸ charged),
      decide_eq_true_eq, Bool.false_eq_true, if_false, Nat.add_zero]
  | reached | raised | reported => rfl

/-- What a note adds to the sums over all functions. -/
theorem total_charge (sized : profile.counters.size = size) (charged : note.Charged size) :
    (note.charge profile).total Counter.statements =
        profile.total Counter.statements + (if note.isStatement then 1 else 0) ∧
      (note.charge profile).total Counter.calls =
        profile.total Counter.calls + ((if note.isEntry then 1 else 0) +
          if note.isStart then 1 else 0) := by
  cases note with
  | dispatched index statement machine =>
    obtain ⟨current, isCurrent, inside⟩ := charged
    simp only [Note.charge, isCurrent, Option.map_some, Option.getD_some]
    exact ⟨total_recordStatement (fun _ => rfl) (sized ▸ inside),
      total_recordStatement (fun _ => rfl) (sized ▸ inside)⟩
  | entered called | started called =>
    exact ⟨total_recordCall (fun _ => rfl) (sized ▸ charged),
      total_recordCall (fun _ => rfl) (sized ▸ charged)⟩
  | reached | raised | reported => exact ⟨rfl, rfl⟩

variable {journal : List Note}

/-- After a replay, each function has what the journal charges to it. -/
theorem get_replay (sized : profile.counters.size = size)
    (charged : ∀ note ∈ journal, note.Charged size) (function : Nat) :
    (profile.replay journal).get function =
      ⟨(profile.get function).calls + journal.countP (Note.isCallOf function),
        (profile.get function).statements + journal.countP (Note.isStatementOf function)⟩ := by
  induction journal generalizing profile with
  | nil => rfl
  | cons note rest inductionHypothesis =>
    obtain ⟨first, others⟩ := List.forall_mem_cons.mp charged
    change ((note.charge profile).replay rest).get function = _
    rw [inductionHypothesis (size_charge.trans sized) others, get_charge sized first,
      List.countP_cons, List.countP_cons]
    dsimp only
    congr 1 <;> omega

/-- After a replay, all functions together have what the journal charges. -/
theorem total_replay (sized : profile.counters.size = size)
    (charged : ∀ note ∈ journal, note.Charged size) :
    (profile.replay journal).total Counter.statements =
        profile.total Counter.statements + journal.countP Note.isStatement ∧
      (profile.replay journal).total Counter.calls =
        profile.total Counter.calls +
          (journal.countP Note.isEntry + journal.countP Note.isStart) := by
  induction journal generalizing profile with
  | nil => exact ⟨rfl, rfl⟩
  | cons note rest inductionHypothesis =>
    obtain ⟨first, others⟩ := List.forall_mem_cons.mp charged
    obtain ⟨statements, calls⟩ := total_charge sized first
    obtain ⟨moreStatements, moreCalls⟩ := inductionHypothesis (size_charge.trans sized) others
    change ((note.charge profile).replay rest).total _ = _ ∧
      ((note.charge profile).replay rest).total _ = _
    rw [moreStatements, moreCalls, statements, calls, List.countP_cons, List.countP_cons,
      List.countP_cons]
    omega

theorem replay_append (profile : Profile) (journal more : List Note) :
    profile.replay (journal ++ more) = (profile.replay journal).replay more :=
  List.foldl_append

end Profile

/-! ### Builtins that only invoke -/

/-- The script runs functions only as parts of the call that is going on. -/
def Native.OnlyInvokes {α : Type} : Native α → Prop
  | .done _ | .fail _ => True
  | .observe next => ∀ program machine, OnlyInvokes (next program machine)
  | .change _ next => OnlyInvokes next
  | .invoke _ next => ∀ result, OnlyInvokes (next result)
  | .call _ _ _ => False

namespace Native

variable {α β : Type}

theorem OnlyInvokes.bind {script : Native α} {next : α → Native β} (first : script.OnlyInvokes)
    (second : ∀ value, (next value).OnlyInvokes) : (script >>= next).OnlyInvokes := by
  change (Native.bind script next).OnlyInvokes
  induction script with
  | done value => exact second value
  | fail fault => exact trivial
  | observe look inductionHypothesis =>
    exact fun program machine => inductionHypothesis program machine (first program machine)
  | change update rest inductionHypothesis => exact inductionHypothesis first
  | invoke function rest inductionHypothesis =>
    exact fun result => inductionHypothesis result (first result)
  | call function arguments rest => exact first.elim

/-- A script that runs no function only invokes. -/
theorem Plain.onlyInvokes {script : Native α} (plain : script.Plain) : script.OnlyInvokes := by
  induction script with
  | done value | fail fault => exact trivial
  | observe next inductionHypothesis =>
    exact fun program machine => inductionHypothesis program machine (plain program machine)
  | change update next inductionHypothesis => exact inductionHypothesis plain.2
  | invoke function next | call function arguments next => exact plain.elim

end Native

namespace Machine

/-! ### Machines whose counters were replayed -/

/-- How many statements a call may have executed that has counted so many. The statement at which
the guard steps in is counted, but it is not executed. -/
def permitted (runawayLimit : Option Nat) (counted : Nat) : Nat :=
  runawayLimit.elim counted (min counted)

/-- The profile is the journal replayed, no charge is lost, and the count of statements is right up
to the limit. -/
structure Replayed (environment : Environment) (past : List Note) (machine : Machine) : Prop where
  profile : machine.profile =
    (Profile.create environment.program.functions.size).replay past
  charged : ∀ note ∈ past, note.Charged environment.program.functions.size
  executed : past.countP Note.isStatement =
    permitted environment.configuration.runawayLimit machine.executed

variable {environment : Environment} {past journal : List Note} {machine after : Machine}

/-- A note may be made of what changes the counters as it charges. -/
theorem Replayed.append (replayed : Replayed environment past machine) {note : Note}
    (charged : note.Charged environment.program.functions.size)
    (profile : after.profile = note.charge machine.profile)
    (executed : permitted environment.configuration.runawayLimit after.executed =
      permitted environment.configuration.runawayLimit machine.executed +
        if note.isStatement then 1 else 0) :
    Replayed environment (past ++ [note]) after where
  profile := by
    rw [profile, Profile.replay_append, replayed.profile]
    rfl
  charged := List.forall_mem_append.mpr ⟨replayed.charged, List.forall_mem_singleton.mpr charged⟩
  executed := by
    rw [List.countP_append, List.countP_singleton, executed, replayed.executed]

/-- Only the counters matter. -/
theorem Replayed.of_eq (replayed : Replayed environment past machine)
    (profile : after.profile = machine.profile) (executed : after.executed = machine.executed) :
    Replayed environment past after :=
  ⟨profile.trans replayed.profile, replayed.charged, executed ▸ replayed.executed⟩

theorem Replayed.raised (replayed : Replayed environment past machine) (fault : Fault)
    (struck : Machine) : Replayed environment (past ++ [.raised fault struck]) machine :=
  replayed.append trivial rfl rfl

/-- Leaving functions changes no counter. -/
theorem Replayed.leave (replayed : Replayed environment past machine) :
    Replayed environment past (leave.leaves machine) := by
  obtain ⟨globals, saved, same⟩ := leaves_leave machine
  exact replayed.of_eq (same ▸ rfl) (same ▸ rfl)

/-- The counters of two machines are the same. -/
def SameCounters (before after : Machine) : Prop :=
  after.profile = before.profile ∧ after.executed = before.executed

instance : IsPreorder Machine SameCounters where
  refl _ := ⟨rfl, rfl⟩
  trans _ _ _ first second := ⟨second.1.trans first.1, second.2.trans first.2⟩

theorem sameCounters_unwindTo (depth : Nat) (machine : Machine) :
    SameCounters machine (machine.unwindTo depth).2 := by
  refine unwindTo_of_keeps (fun machine => ?_) (fun _ => ⟨rfl, rfl⟩) depth machine
  obtain ⟨globals, saved, same⟩ := leaves_leave machine
  exact ⟨same ▸ rfl, same ▸ rfl⟩

/-! ### Taking up a statement -/

/-- Where a function is active, the innermost one is a function of the program. -/
theorem Sound.exists_currentFunction (sound : machine.Sound environment)
    (active : 0 < machine.depth) : ∃ function,
      machine.currentFunction? = some function ∧ function < environment.program.functions.size := by
  have inside : machine.stack.frames.size - 1 < machine.stack.frames.size :=
    Nat.sub_one_lt_of_lt active
  have innermost := Array.getElem?_eq_getElem inside
  obtain ⟨called, first, isFunction, -⟩ := (sound.built.frame_eq innermost).1
  refine ⟨_, ?_, (Array.getElem?_eq_some_iff.mp isFunction).choose⟩
  unfold currentFunction? CallStack.innermost?
  rw [Array.back?_eq_getElem?, innermost]
  rfl

theorem permitted_zero (runawayLimit : Option Nat) : permitted runawayLimit 0 = 0 := by
  cases runawayLimit with
  | none => rfl
  | some limit => exact Nat.zero_min limit

/-- The statement at which the guard steps in is counted beyond the limit. -/
theorem permitted_of_any {runawayLimit : Option Nat} {executed : Nat}
    (stops : runawayLimit.any (· < executed + 1) = true) :
    permitted runawayLimit (executed + 1) = permitted runawayLimit executed := by
  cases runawayLimit with
  | none => cases stops
  | some limit =>
    rw [Option.any_some, decide_eq_true_eq] at stops
    unfold permitted
    rw [Option.elim_some, Option.elim_some]
    omega

theorem permitted_of_not_any {runawayLimit : Option Nat} {executed : Nat}
    (goesOn : ¬ runawayLimit.any (· < executed + 1) = true) :
    permitted runawayLimit (executed + 1) = permitted runawayLimit executed + 1 := by
  cases runawayLimit with
  | none => rfl
  | some limit =>
    rw [Option.any_some, decide_eq_true_eq] at goesOn
    unfold permitted
    rw [Option.elim_some, Option.elim_some]
    omega

/-- The loop goes on in a function that is active beyond `exitDepth`. -/
structure Looping (environment : Environment) (exitDepth : Nat) (past : List Note)
    (machine : Machine) : Prop where
  sound : machine.Sound environment
  deeper : exitDepth < machine.depth
  replayed : Replayed environment past machine

end Machine

/-- Wherever a statement is reached, the counters are those that a replay gives. -/
def Note.Replayed (environment : Environment) (past : List Note) : Note → Prop
  | .reached machine => Machine.Replayed environment past machine
  | .dispatched _ _ _ | .entered _ | .started _ | .raised _ _ | .reported _ => True

/-- Whatever the executor does where a function may be run, the counters are those of a replay. -/
def Executor.Replays (environment : Environment) (execute : Executor) (scribe : Scribe) : Prop :=
  ∀ ⦃function arguments : Nat⦄ ⦃past : List Note⦄ ⦃machine : Machine⦄,
    machine.Sound environment → Machine.Replayed environment past machine →
      Told (Note.Replayed environment) past (scribe function arguments machine)
        (execute function arguments machine)
        fun past _ after => Machine.Replayed environment past after

namespace Machine

variable {environment : Environment} {past : List Note} {machine after : Machine}
  {execute : Executor} {scribe : Scribe}

namespace Looping

variable {exitDepth index : Nat} {statement : Statement} {fault : Fault}

theorem reached (looping : Looping environment exitDepth past machine) :
    Looping environment exitDepth (past ++ [.reached machine]) machine :=
  ⟨looping.sound, looping.deeper, looping.replayed.append trivial rfl rfl⟩

/-- A statement that the guard refuses is charged to nobody. -/
theorem refused (looping : Looping environment exitDepth past machine)
    (refuses : begin environment index statement machine = .error fault after) :
    Replayed environment (past ++ [.raised fault after]) after := by
  rw [begin_eq] at refuses
  split at refuses
  · next stops =>
    cases refuses
    exact looping.replayed.append trivial rfl (permitted_of_any stops)
  · cases refuses

/-- A statement that is executed is charged to the innermost function. -/
theorem dispatched (looping : Looping environment exitDepth past machine)
    (begun : begin environment index statement machine = .ok () after) :
    Looping environment exitDepth (past ++ [.dispatched index statement after]) after := by
  have kept := (keepsCalls_begin environment index statement).ok begun
  have sound := looping.sound.of_keepsCalls kept
  have deeper : exitDepth < after.depth := kept.depth ▸ looping.deeper
  refine ⟨sound, deeper, looping.replayed.append ?_ ?_ ?_⟩
  · exact sound.exists_currentFunction (Nat.zero_lt_of_lt deeper)
  · rw [begin_eq] at begun
    split at begun
    · cases begun
    · cases begun
      change (noted environment.program index statement machine).profile =
        (machine.currentFunction?.map machine.profile.recordStatement).getD machine.profile
      unfold noted
      dsimp only
      cases machine.currentFunction? <;> rfl
  · rw [begin_eq] at begun
    split at begun
    · cases begun
    · next goesOn =>
      cases begun
      exact permitted_of_not_any goesOn

/-- What changes no counter may happen in a loop. -/
theorem keep (looping : Looping environment exitDepth past machine) (quiet : Quiet machine after) :
    Looping environment exitDepth past after :=
  ⟨looping.sound.of_keepsCalls quiet.toKeepsCalls, quiet.toKeepsCalls.depth ▸ looping.deeper,
    looping.replayed.of_eq quiet.profile quiet.executed⟩

/-- The loop goes on where a function was left, unless that is its end. -/
theorem returned (loaded : environment.program.Loaded)
    (looping : Looping environment exitDepth past machine) :
    afterTurn (fun past _ machine => Looping environment exitDepth past machine)
      (fun past _ machine => Replayed environment past machine) past
      (returnFrom exitDepth machine).1 (returnFrom exitDepth machine).2 := by
  obtain ⟨resume, after, left, sound⟩ := looping.sound.leave loaded
  have replayed := looping.replayed.leave
  rw [Action.leaves_of_ok left] at replayed
  unfold returnFrom
  rw [left]
  dsimp only [afterReturn]
  by_cases stops : after.depth ≤ exitDepth
  · rw [if_pos stops]
    exact replayed
  rw [if_neg stops]
  cases resume with
  | none => exact replayed
  | some caller => exact ⟨sound, Nat.not_le.mp stops, replayed⟩

end Looping

/-! ### Runs inside runs -/

theorem replayed_invokeWith (replays : execute.Replays environment scribe)
    (balanced : execute.Balanced environment.program) {function : Nat}
    (sound : machine.Sound environment) (replayed : Replayed environment past machine) :
    Told (Note.Replayed environment) past
      (invokeJournal scribe environment.program function machine)
      (invokeWith execute environment.program function machine)
      fun past _ after => Replayed environment past after ∧ KeepsCalls machine after := by
  have told := @replays function
    ((environment.program.functions[function]?.map Function.parameterCount).getD 0) _ _
      sound replayed
  refine ⟨told.throughout, fun ends =>
    ⟨?_, (invokeWith_restores balanced sound.ready ends).1.calls⟩⟩
  obtain ⟨⟨inner, reached⟩, ran, same⟩ := Option.map_eq_some_iff.mp ends
  have finished := told.ends ran
  cases inner with
  | ok _ =>
    cases same
    exact finished.of_eq rfl rfl
  | error fault =>
    cases same
    obtain ⟨profile, executed⟩ := sameCounters_unwindTo machine.depth reached
    exact finished.of_eq profile executed

/-- A script that only invokes, and changes no counter by itself. -/
theorem replayed_perform (replays : execute.Replays environment scribe)
    (balanced : execute.Balanced environment.program) {α : Type} {script : Native α}
    {start : Machine}
    (keeps : script.KeepsByItself Quiet environment.program machine) (invokes : script.OnlyInvokes)
    (sound : machine.Sound environment) (replayed : Replayed environment past machine)
    (kept : KeepsCalls start machine) :
    Told (Note.Replayed environment) past
      (performJournal execute scribe environment.program script machine)
      (perform execute environment.program script machine)
      fun past _ after => Replayed environment past after ∧ KeepsCalls start after := by
  induction script generalizing past machine with
  | done value => exact .ended ⟨replayed, kept⟩
  | fail fault => exact .noted trivial ⟨replayed.raised fault machine, kept⟩
  | observe next inductionHypothesis =>
    exact inductionHypothesis _ _ keeps (invokes _ _) sound replayed kept
  | change update next inductionHypothesis =>
    have quiet := keeps.1
    exact inductionHypothesis keeps.2 invokes (sound.of_keepsCalls quiet.toKeepsCalls)
      (replayed.of_eq quiet.profile quiet.executed) (trans_of KeepsCalls kept quiet.toKeepsCalls)
  | invoke function next inductionHypothesis =>
    rw [perform_invoke]
    refine (replayed_invokeWith replays balanced sound replayed).bind
      fun {result after} reached => ?_
    exact inductionHypothesis result (keeps result after) (invokes result)
      (sound.of_keepsCalls reached.2) reached.1 (trans_of KeepsCalls kept reached.2)
  | call function arguments next => exact invokes.elim

theorem replayed_callBuiltin
    (quiet : environment.builtins.KeepByThemselves Quiet environment.program)
    (invokes : environment.builtins.Every Native.OnlyInvokes)
    (replays : execute.Replays environment scribe)
    (balanced : execute.Balanced environment.program) {function number arguments : Nat}
    (resolved : resolve environment.program function = .ok (.builtin number))
    (sound : machine.Sound environment) (replayed : Replayed environment past machine) :
    Told (Note.Replayed environment) past
      (callBuiltinJournal execute scribe environment function number arguments machine)
      (callBuiltin execute environment function number arguments machine)
      fun past _ after => Replayed environment past after ∧ KeepsCalls machine after := by
  obtain ⟨found, isFunction, -⟩ := resolve_eq_ok resolved
  obtain ⟨inside, -⟩ := Array.getElem?_eq_some_iff.mp isFunction
  refine told_callBuiltin
    (fun _ fault => .noted trivial ⟨replayed.raised fault machine, refl_of KeepsCalls machine⟩)
    fun offered => .cons trivial ?_
  exact replayed_perform replays balanced (quiet number _ offered _) (invokes number _ offered)
    (sound.of_keepsCalls ⟨rfl, rfl⟩) (replayed.append inside rfl rfl) ⟨rfl, rfl⟩

/-! ### Turns -/

theorem replayed_turn (loaded : environment.program.Loaded)
    (quiet : environment.builtins.KeepByThemselves Quiet environment.program)
    (invokes : environment.builtins.Every Native.OnlyInvokes)
    (replays : execute.Replays environment scribe)
    (balanced : execute.Balanced environment.program) {exitDepth index : Nat}
    (looping : Looping environment exitDepth past machine) :
    Told (Note.Replayed environment) past (turnJournal execute scribe environment index machine)
      (turn execute environment exitDepth index machine)
      (afterTurn (fun past _ machine => Looping environment exitDepth past machine)
        fun past _ machine => Replayed environment past machine) := by
  refine told_turn looping.replayed ?_ ?_ ?_ ?_ ?_
  · exact fun _ => .noted trivial (looping.reached.replayed.raised _ machine)
  · exact fun _ refuses => .noted trivial (looping.reached.refused refuses)
  · exact fun _ _ => trivial
  · intro statement begunOn fault after _ begun failed
    have dispatched := looping.reached.dispatched begun
    have kept := quiet_of_step_eq_error loaded dispatched.sound.size failed
    exact .noted trivial ((dispatched.keep kept).replayed.raised fault after)
  · intro statement begunOn flow after _ begun stepped
    have dispatched := looping.reached.dispatched begun
    rcases quiet_or_entered_of_step loaded dispatched.sound.size stepped with
      kept | ⟨arguments, function, called, first, decoded, isFunction, rfl, rfl⟩
    · have reached := dispatched.keep kept
      rw [pushed_of_keepsCalls kept.toKeepsCalls]
      cases flow with
      | next | jump target => exact .ended reached
      | builtin function number count =>
        have resolved := (step_eq_builtin stepped).2.1
        refine (replayed_callBuiltin quiet invokes replays balanced resolved reached.sound
          reached.replayed).map fun {result last} performed => ?_
        cases result with
        | ok _ =>
          exact ⟨reached.sound.of_keepsCalls performed.2, performed.2.depth ▸ reached.deeper,
            performed.1⟩
        | error fault => exact performed.1
      | leave =>
        obtain ⟨resume, last, left, -⟩ := reached.sound.leave loaded
        have returned := reached.returned loaded
        dsimp only [followJournal, follow]
        rw [left]
        exact .ended returned
    · have sound := looping.sound.of_step loaded begun stepped
      rw [pushed_entered]
      change Told _ _ [.entered function]
        (some (Turn.resume first, begunOn.entered function called)) _
      obtain ⟨inside, -⟩ := Array.getElem?_eq_some_iff.mp isFunction
      refine .noted trivial ⟨sound, ?_, dispatched.replayed.append inside rfl rfl⟩
      rw [depth_entered]
      exact Nat.lt_succ_of_lt dispatched.deeper

/-! ### Whole executions -/

/-- Every execution replays its journal, whatever its budget is. -/
theorem replays_execute (loaded : environment.program.Loaded)
    (quiet : environment.builtins.KeepByThemselves Quiet environment.program)
    (invokes : environment.builtins.Every Native.OnlyInvokes) (budget : Nat) :
    Executor.Replays environment (Machine.execute environment budget)
      (executeJournal environment budget) := by
  have respects : environment.builtins.Respects KeepsCalls environment.program :=
    quiet.respects fun kept => kept.toKeepsCalls
  induction budget with
  | zero => exact fun _ _ _ _ _ _ => ⟨trivial, nofun⟩
  | succ budget inductionHypothesis =>
    intro function arguments past machine sound replayed
    have balanced := execute_balanced loaded respects budget
    refine told_execute (fun _ => .noted trivial (replayed.raised _ machine)) ?_ ?_ ?_
    · intro number resolved
      exact (replayed_callBuiltin quiet invokes inductionHypothesis balanced resolved sound
        replayed).mono id And.left
    · intro fault after locked
      obtain rfl := enter_eq_error loaded sound.size locked
      exact .noted trivial (replayed.raised fault _)
    · intro first after entered
      obtain ⟨found, isFunction, -, rfl⟩ := enter_eq_ok loaded sound.size entered
      obtain ⟨inside, -⟩ := Array.getElem?_eq_some_iff.mp isFunction
      have enteredSound := sound.enter loaded function
      rw [Action.leaves_of_ok entered] at enteredSound
      refine .cons trivial (told_run (fun looping =>
        replayed_turn loaded quiet invokes inductionHypothesis balanced looping) _ ?_)
      refine ⟨enteredSound, ?_, replayed.append inside rfl rfl⟩
      rw [depth_entered]
      exact Nat.lt_succ_self _

end Machine

/-! ### Counters of calls -/

/-- What the functions were charged is what was done: each function has the statements that it
executed as the innermost one and the times that it was called, and in sum these are the statements
that were executed, and the frames that were put on the stack and the builtins that were started. -/
structure Profile.Tells (profile : Profile) (journal : List Note) : Prop where
  statements : ∀ function,
    (profile.get function).statements = journal.countP (Note.isStatementOf function)
  calls : ∀ function, (profile.get function).calls = journal.countP (Note.isCallOf function)
  totalStatements : profile.total Counter.statements = journal.countP Note.isStatement
  totalCalls :
    profile.total Counter.calls = journal.countP Note.isEntry + journal.countP Note.isStart

/-- A replay from zero tells what the journal charges. -/
theorem Profile.tells_replay {size : Nat} {journal : List Note}
    (charged : ∀ note ∈ journal, note.Charged size) :
    ((Profile.create size).replay journal).Tells journal := by
  have sized : (create size).counters.size = size := Array.size_replicate
  obtain ⟨statements, calls⟩ := total_replay sized charged
  have none : ∀ function, (create size).get function = .zero := by
    intro function
    simp [get, create, Array.getD]
  have nothing : ∀ measure : Counter → Nat, measure .zero = 0 →
    (create size).total measure = 0 := by
    intro measure zero
    unfold total create
    rw [Array.toList_replicate]
    exact sum_replicate_zero zero size
  refine ⟨fun function => ?_, fun function => ?_, ?_, ?_⟩
  · rw [get_replay sized charged, none]
    exact Nat.zero_add _
  · rw [get_replay sized charged, none]
    exact Nat.zero_add _
  · rw [statements, nothing _ rfl, Nat.zero_add]
  · rw [calls, nothing _ rfl, Nat.zero_add]

namespace Sample

/-- The small program right after it was loaded. -/
def unused : Machine :=
  .create environment.program environment.configuration

theorem quiet : environment.builtins.KeepByThemselves Machine.Quiet environment.program := by
  refine Builtins.every_register _ (Builtins.keepByThemselves_installClassic
    (Builtins.every_empty _)) fun machine => ?_
  exact (Native.keepsByItself_check _ machine).bind fun _ _ _ _ => trivial

theorem onlyInvokes : environment.builtins.Every Native.OnlyInvokes := by
  refine Builtins.every_register _ (Builtins.every_installClassic _
    (fun _ member => (Builtins.plain_standard member).onlyInvokes) (Builtins.every_empty _)) ?_
  exact (Builtins.plain_referenceArgument 0).onlyInvokes.bind fun _ _ => trivial

end Sample

namespace Machine

variable {image : Array UInt8} {expectation : Image.Expectation} {environment : Environment}
  {machine : Machine}

theorem Replayed.tells {past : List Note} (replayed : Replayed environment past machine) :
    machine.profile.Tells past :=
  replayed.profile ▸ Profile.tells_replay replayed.charged

/-- A call starts with an empty journal. -/
theorem replayed_nil {staged : Machine} {arguments : List Value}
    (inPlace : stageArguments arguments 0 machine = .ok () staged) (idle : machine.depth = 0)
    (zeroed : machine.profile = .create environment.program.functions.size) :
    Replayed environment [] staged.restartCount := by
  have staging : (stageArguments arguments 0).Keeps Quiet := keeps_stageArguments arguments 0
  have quiet := staging.ok inPlace
  have started : staged.restartCount = { staged with executed := 0 } :=
    if_pos (quiet.toKeepsCalls.depth.trans idle)
  rw [started]
  exact ⟨quiet.profile.trans zeroed, List.forall_mem_nil _, (permitted_zero _).symm⟩

/-- The counters of a call are replayed from its journal, unless it is refused. -/
theorem replayed_call (loaded : environment.program.Loaded)
    (quiet : environment.builtins.KeepByThemselves Quiet environment.program)
    (invokes : environment.builtins.Every Native.OnlyInvokes) (sound : machine.Sound environment)
    (idle : machine.depth = 0)
    (zeroed : machine.profile = .create environment.program.functions.size)
    (budget function : Nat) (arguments : List Value) :
    Told (Note.Replayed environment) []
      (callJournal environment budget function arguments machine)
      (call environment budget function arguments machine)
      fun past _ after => Replayed environment past after ∨
        Region.maxParameters < arguments.length ∧ past = [] ∧ after = machine := by
  refine told_callWith (fun past _ after => Replayed environment past after) ?_ ?_ ?_ ?_ ?_
  · exact fun _ many => .inr ⟨many, rfl, rfl⟩
  · exact fun few misplaced => absurd misplaced (sound.stageArguments_ne_error loaded few _ _)
  · intro staged few inPlace
    obtain ⟨executed, started⟩ := restartCount_eq staged
    have kept := (keepsCalls_stageArguments arguments 0).ok inPlace
    have startedSound : staged.restartCount.Sound environment :=
      sound.of_keepsCalls (started ▸ ⟨kept.stack, kept.size⟩)
    exact replays_execute loaded quiet invokes budget startedSound
      (replayed_nil inPlace idle zeroed)
  · exact fun _ replayed => .inl (replayed.of_eq rfl rfl)
  · intro past staged fault after _ replayed
    obtain ⟨profile, executed⟩ := sameCounters_unwindTo staged.restartCount.depth after
    have reported : Replayed environment
        (past ++ [.reported (after.report environment.program fault)])
        after := replayed.append trivial rfl rfl
    exact ⟨trivial, .inl (reported.of_eq profile executed)⟩

/-- The counters conserve the work of a call that starts with counters at zero, wherever it comes to
a statement and when it is over, with a result or with a fault. The number of statements is the one
that the guard counts, up to its limit. A call that is refused executes nothing, and leaves that
number as it was. -/
theorem work_conserved (loads : Image.load image expectation = .ok environment.program)
    (quiet : environment.builtins.KeepByThemselves Quiet environment.program)
    (invokes : environment.builtins.Every Native.OnlyInvokes)
    (reachable : Reachable environment machine) (idle : machine.depth = 0)
    (zeroed : machine.profile = .create environment.program.functions.size)
    (budget function : Nat) (arguments : List Value) :
    (∀ past reached later,
      callJournal environment budget function arguments machine =
        past ++ .reached reached :: later →
        reached.profile.Tells past ∧
          past.countP Note.isStatement =
            permitted environment.configuration.runawayLimit reached.executed) ∧
      ∀ result after,
        call environment budget function arguments machine = some (result, after) →
          after.profile.Tells (callJournal environment budget function arguments machine) ∧
            (arguments.length ≤ Region.maxParameters ∨ machine.executed = 0 →
              (callJournal environment budget function arguments machine).countP Note.isStatement =
                permitted environment.configuration.runawayLimit after.executed) := by
  have loaded := Image.loaded_of_load loads
  have sound := reachable.sound loaded (quiet.respects fun kept => kept.toKeepsCalls)
  have told := replayed_call loaded quiet invokes sound idle zeroed budget function arguments
  constructor
  · intro past reached later opened
    have replayed : Replayed environment past reached := told.throughout.required_of_eq opened
    exact ⟨replayed.tells, replayed.executed⟩
  · intro result after ends
    rcases told.ends ends with replayed | ⟨many, empty, same⟩
    · exact ⟨replayed.tells, fun _ => replayed.executed⟩
    · rw [List.nil_append] at empty
      rw [empty, same]
      refine ⟨zeroed ▸ Profile.tells_replay (List.forall_mem_nil _), ?_⟩
      rintro (few | zero)
      · exact absurd many (Nat.not_lt.mpr few)
      · rw [zero, permitted_zero]
        rfl

theorem work_conserved_sample :
    Image.load (Image.save Sample.program) .none = .ok Sample.environment.program ∧
      Sample.environment.builtins.KeepByThemselves Quiet Sample.environment.program ∧
      Sample.environment.builtins.Every Native.OnlyInvokes ∧
      Reachable Sample.environment Sample.unused ∧ Sample.unused.depth = 0 ∧
      Sample.unused.profile = .create Sample.environment.program.functions.size ∧
      ∃ result after, call Sample.environment 9 1 [] Sample.unused = some (result, after) ∧
        after.profile.total Counter.statements = 5 ∧
        after.profile.Tells (callJournal Sample.environment 9 1 [] Sample.unused) ∧
        (callJournal Sample.environment 9 1 [] Sample.unused).countP Note.isStatement =
          permitted none after.executed := by
  have reachable : Reachable Sample.environment Sample.unused := .created
  obtain ⟨-, conserved⟩ :=
    work_conserved Sample.loaded Sample.quiet Sample.onlyInvokes reachable rfl rfl 9 1 []
  have counted : (call Sample.environment 9 1 [] Sample.unused).map
      (fun outcome => outcome.2.profile.total Counter.statements) = some 5 := by decide +kernel
  obtain ⟨⟨result, after⟩, ends, total⟩ := Option.map_eq_some_iff.mp counted
  obtain ⟨tells, executed⟩ := conserved result after ends
  exact ⟨Sample.loaded, Sample.quiet, Sample.onlyInvokes, reachable, rfl, rfl, result, after, ends,
    total, tells, executed (.inl (Nat.zero_le _))⟩

end Machine

end Gamecode
