/-
This file proves that a reset machine cannot be told from a new one. Resetting gives globals,
strings and entities their state after loading, whatever a host has done before; the limits and the
layout of the records were never changed. What a reset leaves behind are counters, listings, the
console and the last argument count. Nothing that a host does afterwards depends on those.
-/

import Gamecode.Proofs.Calls.History
import Gamecode.Proofs.Calls.Reachable
import Gamecode.Proofs.Paired.Builtins
import Gamecode.Proofs.Storage.Lifecycle

namespace Gamecode

/-! ### What a host may have done before -/

/-- The store that is left when everything but the world is dropped does not depend on what was
done. -/
theorem EntityStore.Built.clear_eq {stride limit reserved : Nat} {store : EntityStore}
    (built : Built stride limit reserved store) : store.clear = create stride limit reserved := by
  have bounded := built.bounded
  have sound := built.sound
  have room : store.stride ≤ store.slots.size := by
    rw [sound.size_eq]
    exact Nat.le_mul_of_pos_left _ sound.count_pos
  unfold clear create
  rw [Nat.min_eq_left room, Nat.min_eq_right sound.count_pos, sound.filter_removed_eq_nil,
    bounded.stride_eq, bounded.limit_eq, bounded.reserved_eq]

namespace Machine

/-- Everything but the active functions may be changed, and the entities by operations of their
store. This is what a host may do to a machine, and what a builtin may do by itself. -/
def Handles (before after : Machine) : Prop :=
  after.stack = before.stack ∧
    ∃ operations, after.entities = before.entities.run operations

instance : IsPreorder Machine Handles where
  refl machine := ⟨rfl, [], rfl⟩
  trans := by
    rintro first second third ⟨stack, earlier, entities⟩ ⟨nextStack, later, nextEntities⟩
    refine ⟨nextStack.trans stack, earlier ++ later, ?_⟩
    rw [nextEntities, entities, EntityStore.run, EntityStore.run, EntityStore.run,
      List.foldl_append]

/-- An operation on the entities that succeeds. -/
theorem handles_of_attempt {machine : Machine} {operation : EntityStore.Operation}
    {entities : EntityStore} (done : machine.entities.attempt operation = .ok entities) :
    machine.Handles { machine with entities } := by
  refine ⟨rfl, [operation], ?_⟩
  show entities = machine.entities.perform operation
  rw [EntityStore.perform, done]

instance : Builtins.Allowed Handles where
  globals _ := ⟨rfl, [], rfl⟩
  temporary _ _ := ⟨rfl, [], rfl⟩
  spawned spawned :=
    handles_of_attempt (EntityStore.attempt_spawn_eq_ok_iff.mpr ⟨_, spawned⟩)
  removed removed := @handles_of_attempt _ (.remove _) _ removed
  printed _ _ := ⟨rfl, [], rfl⟩
  traced _ _ := ⟨rfl, [], rfl⟩

/-- A machine after a history of host operations: calls and runs, resets, and changes of everything
but the active functions. The host may offer other builtins from one call to the next, as long as
they keep to the operations on entities too. -/
inductive Used (program : Program) (configuration : Configuration) : Machine → Prop
  | created : Used program configuration (create program configuration)
  | reset {machine : Machine} (used : Used program configuration machine) :
      Used program configuration (machine.reset program configuration)
  | handled {machine after : Machine} (used : Used program configuration machine)
      (handles : machine.Handles after) : Used program configuration after
  | called {machine after : Machine} {builtins : BuiltinTable} {budget function : Nat}
      {arguments : List Value} {result : Except Report Vector3}
      (used : Used program configuration machine)
      (keep : builtins.KeepByThemselves Handles program)
      (ends : call ⟨program, configuration, builtins⟩ budget function arguments machine =
        some (result, after)) : Used program configuration after
  | invoked {machine after : Machine} {builtins : BuiltinTable} {budget function : Nat}
      {result : Except Fault Unit} (used : Used program configuration machine)
      (keep : builtins.KeepByThemselves Handles program)
      (ends : invoke ⟨program, configuration, builtins⟩ budget function machine =
        some (result, after)) : Used program configuration after

/-! ### What a reset finds -/

/-- The limits are those of the configuration, and the entities were made by operations of their
store. -/
structure Renewable (program : Program) (configuration : Configuration) (machine : Machine) : Prop
    where
  stack : machine.stack.clear = .create configuration.maxDepth configuration.localStackSize
  entities : EntityStore.Built program.entityFields configuration.maxEntities
    configuration.reservedEntities machine.entities

section Renewable

variable {program : Program} {configuration : Configuration} {machine : Machine}

/-- A renewable machine stays renewable. -/
def KeepsRenewable (program : Program) (configuration : Configuration) (before after : Machine) :
    Prop :=
  before.Renewable program configuration → after.Renewable program configuration

instance : IsPreorder Machine (KeepsRenewable program configuration) where
  refl _ := id
  trans _ _ _ first second := second ∘ first

instance : AllowsCalls (KeepsRenewable program configuration) where
  globals _ renewable := ⟨renewable.stack, renewable.entities⟩
  entities written renewable := ⟨renewable.stack, renewable.entities.written written⟩
  stack _ _ _ renewable := ⟨renewable.stack, renewable.entities⟩
  profiled _ _ renewable := ⟨renewable.stack, renewable.entities⟩
  noted _ _ _ _ _ _ renewable := ⟨renewable.stack, renewable.entities⟩

theorem Handles.keepsRenewable {before after : Machine} (handles : before.Handles after) :
    KeepsRenewable program configuration before after := by
  obtain ⟨stack, operations, entities⟩ := handles
  refine fun renewable => ⟨?_, ?_⟩
  · rw [stack]
    exact renewable.stack
  · rw [entities]
    exact renewable.entities.run operations

/-- Builtins that keep to what a host may do keep a machine renewable, whatever they run. -/
theorem respects_keepsRenewable {builtins : BuiltinTable}
    (keep : builtins.KeepByThemselves Handles program) :
    builtins.Respects (KeepsRenewable program configuration) program :=
  fun number builtin offered machine =>
    ((keep number builtin offered machine).mono Handles.keepsRenewable).respects_self

theorem Used.renewable (used : Used program configuration machine) :
    machine.Renewable program configuration := by
  have steps (builtins : BuiltinTable) :
      StepsKeep (KeepsRenewable program configuration) ⟨program, configuration, builtins⟩ :=
    stepsKeep _
  induction used with
  | created => exact ⟨rfl, .created⟩
  | reset _ renewable => exact ⟨renewable.stack, renewable.entities.cleared⟩
  | handled _ handles renewable => exact handles.keepsRenewable renewable
  | called _ keep ends renewable =>
    exact (steps _).call (respects_keepsRenewable keep) ends renewable
  | invoked _ keep ends renewable =>
    exact (steps _).invoke (respects_keepsRenewable keep) ends renewable

end Renewable

/-! ### Machines that cannot be told apart -/

/-- The machines are the same but for the counters, the listings, the console and the argument count
of the builtin that was called last. -/
def Agree (left right : Machine) : Prop :=
  ∃ profile argumentCount traced console,
    right = { left with profile, argumentCount, traced, console }

instance {faithful : Prop} : Synchronous faithful Agree where
  content_eq := by
    rintro left _ ⟨_, _, _, _, rfl⟩
    rfl
  holding := by
    rintro left _ ⟨_, _, _, _, rfl⟩ content
    exact ⟨_, _, _, _, rfl⟩
  within := by
    rintro left _ ⟨_, _, _, _, rfl⟩
    exact ⟨Nat.le_refl _, Nat.le_refl _, Nat.le_refl _⟩
  exact := by
    rintro - left _ ⟨_, _, _, _, rfl⟩
    rfl
  executed_eq := by
    rintro left _ ⟨_, _, _, _, rfl⟩
    rfl
  noting := by
    rintro note noted left _ ⟨_, _, _, _, rfl⟩
    cases noted <;> exact ⟨_, _, _, _, rfl⟩
  restored := by
    rintro left _ before _ ⟨_, _, _, _, rfl⟩ ⟨_, _, _, _, rfl⟩
    exact ⟨_, _, _, _, rfl⟩

instance : Parallel Agree := Synchronous.toParallel True

/-- After a reset the machine is a new one with the same trace switch, but for what is left of
counters, listings, console and argument count. -/
theorem Used.agree {program : Program} {configuration : Configuration} {machine : Machine}
    (used : Used program configuration machine) :
    Agree (machine.reset program configuration)
      { create program configuration with tracing := machine.tracing } := by
  have renewable := used.renewable
  refine ⟨.create program.functions.size, 0, #[], .empty, ?_⟩
  unfold Machine.reset
  rw [renewable.stack, renewable.entities.clear_eq]
  rfl

/-! ### What a host does afterwards -/

/-- What a host asks of an idle machine. Reads, writes, and whatever else is done to globals,
strings and entities, have an answer of a type that the host chooses. -/
inductive Operation (α : Type)
  | call (function : Nat) (arguments : List Value)
  | callNamed (name : String) (arguments : List Value)
  | invoke (function : Nat)
  | access (operate : Globals → StringHeap → EntityStore →
      α × Globals × StringHeap × EntityStore)
  | exportGlobals
  | exportEntity (entity : Int)
  | importGlobals (snapshot : Snapshot)
  | importEntity (entity : Int) (snapshot : Snapshot)
  | reset
  | trace (tracing : Bool)

/-- What the host learns from an operation. -/
inductive Answer (α : Type)
  | returned (result : Except Report Vector3)
  | invoked (result : Except Fault Unit)
  | accessed (value : α)
  | exported (snapshot : Except Fault Snapshot)
  | imported (result : Except Fault Unit)
  | done

/-- Carry out an operation. There is no answer where a run exceeds its budget. -/
def serve {α : Type} (environment : Environment) (budget : Nat) :
    Operation α → Machine → Option (Answer α × Machine)
  | .call function arguments, machine =>
    (call environment budget function arguments machine).map fun (result, after) =>
      (.returned result, after)
  | .callNamed name arguments, machine =>
    (callNamed environment budget name arguments machine).map fun (result, after) =>
      (.returned result, after)
  | .invoke function, machine =>
    (invoke environment budget function machine).map fun (result, after) =>
      (.invoked result, after)
  | .access operate, machine =>
    let (value, globals, strings, entities) :=
      operate machine.globals machine.strings machine.entities
    some (.accessed value, { machine with globals, strings, entities })
  | .exportGlobals, machine =>
    some (.exported (Snapshot.ofGlobals environment.program machine), machine)
  | .exportEntity entity, machine =>
    some (.exported (Snapshot.ofEntity environment.program machine entity), machine)
  | .importGlobals snapshot, machine =>
    ((Snapshot.applyToGlobals environment.program snapshot).outcome machine).map
      fun (result, after) => (.imported result, after)
  | .importEntity entity snapshot, machine =>
    ((Snapshot.applyToEntity environment.program entity snapshot).outcome machine).map
      fun (result, after) => (.imported result, after)
  | .reset, machine =>
    some (.done, machine.reset environment.program environment.configuration)
  | .trace tracing, machine => some (.done, { machine with tracing })

/-- The answers to operations in a row. -/
def serveAll {α : Type} (environment : Environment) (budget : Nat) :
    List (Operation α) → Machine → Option (List (Answer α) × Machine)
  | [], machine => some ([], machine)
  | operation :: rest, machine =>
    (serve environment budget operation machine).bind fun (answer, after) =>
      (serveAll environment budget rest after).map fun (answers, last) => (answer :: answers, last)

end Machine

namespace Snapshot

section Applying

variable {faithful : Prop} {relation : Machine → Machine → Prop} [Machine.Parallel relation]

theorem carries_slotsOf (program : Program) (value : SavedValue) :
    (slotsOf program value).Carries faithful relation := by
  cases value with
  | float bits | vector components | entity number => exact Action.carries_pure _
  | string text =>
    intro left right related
    have same : right.strings = left.strings :=
      congrArg Content.strings (Machine.Parallel.content_eq related)
    unfold Action.outcome slotsOf
    dsimp only
    rw [same]
    exact .same (Machine.Parallel.strings related _)
  | function name =>
    unfold slotsOf
    dsimp only
    split
    · exact Action.carries_pure _
    · split
      · exact Action.carries_pure _
      · exact Action.carries_throw _

theorem carries_slotsFor (program : Program) (name : String) (definition : Definition)
    (value : SavedValue) :
    (slotsFor program name definition value).Carries faithful relation := by
  unfold slotsFor
  split
  · split
    · exact Action.carries_throw _
    · exact carries_slotsOf program value
  · exact Action.carries_throw _

theorem carries_applyToGlobals (program : Program) (snapshot : Snapshot) :
    (applyToGlobals program snapshot).Carries faithful relation := by
  refine Action.carries_forM fun (name, value) => ?_
  unfold applyGlobal
  dsimp only
  split
  · exact (carries_slotsFor _ _ _ _).bind fun _ => Action.carries_changeGlobals _
  · exact Action.carries_throw _

theorem carries_clearFields (entity : Int) :
    (clearFields entity).Carries faithful relation := by
  have ofContent : Machine.OfContent fun machine => machine.entities.stride := fun _ _ => rfl
  intro left right related
  unfold clearFields
  rw [Action.outcome_bind, Action.outcome_bind]
  show Matched faithful relation (Action.outcome (if _ then _ else _) left)
    (Action.outcome (if _ then _ else _) right)
  rw [ofContent.eq related]
  by_cases cleared : entity ≠ 0 ∧ 0 < left.entities.stride
  · rw [if_pos cleared]
    exact ((Action.carries_inspect fun _ _ => rfl).bind fun pointer =>
      Action.carries_changeEntities (EntityStore.unlimited_write pointer _)) related
  · rw [if_neg cleared]
    exact .same related

theorem carries_applyToEntity (program : Program) (entity : Int) (snapshot : Snapshot) :
    (applyToEntity program entity snapshot).Carries faithful relation := by
  refine Action.Carries.bind (Action.carries_inspect fun _ _ => rfl) fun _ => ?_
  refine (carries_clearFields entity).bind fun _ => Action.carries_forM fun (name, value) => ?_
  unfold applyField
  dsimp only
  split
  · refine Action.Carries.bind (carries_slotsFor _ _ _ _) fun slots => ?_
    refine Action.Carries.bind (Action.carries_inspect fun _ _ => rfl) fun pointer => ?_
    exact Action.carries_changeEntities (EntityStore.unlimited_write pointer slots)
  · exact Action.carries_throw _

end Applying

end Snapshot

namespace Machine

section Serving

variable {α : Type} {program : Program} {configuration : Configuration} {builtins : BuiltinTable}
  {left right : Machine}

/-- No answer excuses machines from agreeing. -/
instance : Fallible (Answer α) := ⟨fun _ => False⟩

instance : Fallible (List (Answer α)) := ⟨fun _ => False⟩

/-- What a host asks of machines that agree has the same answer, and leaves machines that agree. -/
theorem matched_serve (carry : builtins.Carry True Agree program) (budget : Nat)
    (operation : Operation α) (agree : left.Agree right) :
    Matched True Agree (serve ⟨program, configuration, builtins⟩ budget operation left)
      (serve ⟨program, configuration, builtins⟩ budget operation right) := by
  have admits : configuration.Admits True configuration := .refl configuration
  have never {P : Prop} : ¬ True → P := fun impossible => absurd trivial impossible
  cases operation with
  | call function arguments =>
    exact (matched_call admits carry budget function arguments agree).map
      (fun reached => ⟨rfl, reached⟩) never
  | callNamed name arguments =>
    exact (matched_callNamed admits carry budget name arguments agree).map
      (fun reached => ⟨rfl, reached⟩) never
  | invoke function =>
    exact (matched_invoke admits carry budget function agree).map
      (fun reached => ⟨rfl, reached⟩) never
  | importGlobals snapshot =>
    exact (Snapshot.carries_applyToGlobals program snapshot agree).map
      (fun reached => ⟨rfl, reached⟩) never
  | importEntity entity snapshot =>
    exact (Snapshot.carries_applyToEntity program entity snapshot agree).map
      (fun reached => ⟨rfl, reached⟩) never
  | exportGlobals | exportEntity entity | access operate | reset | trace tracing =>
    obtain ⟨_, _, _, _, rfl⟩ := agree
    exact .same ⟨_, _, _, _, rfl⟩

theorem matched_serveAll (carry : builtins.Carry True Agree program) (budget : Nat)
    (operations : List (Operation α)) (agree : left.Agree right) :
    Matched True Agree (serveAll ⟨program, configuration, builtins⟩ budget operations left)
      (serveAll ⟨program, configuration, builtins⟩ budget operations right) := by
  have never {P : Prop} : ¬ True → P := fun impossible => absurd trivial impossible
  induction operations generalizing left right with
  | nil => exact .same agree
  | cons operation rest inductionHypothesis =>
    refine (matched_serve carry budget operation agree).bind (fun reached => ?_) never
    exact (inductionHypothesis reached).map (fun last => ⟨rfl, last⟩) never

/-- Whatever a host did to a machine before, once the machine is reset it answers everything that
the host asks afterwards just as a new machine does, which has the same trace switch and offers the
same builtins. A builtin may look at everything but the counters, the listings and the console. -/
theorem reset_answers_like_new {machine : Machine} (used : Used program configuration machine)
    (carry : builtins.Carry True Agree program) (budget : Nat) (operations : List (Operation α)) :
    (serveAll ⟨program, configuration, builtins⟩ budget operations
        (machine.reset program configuration)).map Prod.fst =
      (serveAll ⟨program, configuration, builtins⟩ budget operations
        { create program configuration with tracing := machine.tracing }).map Prod.fst :=
  (matched_serveAll carry budget operations used.agree).map_fst_eq

end Serving

end Machine

/-! ### A builtin that runs functions -/

namespace Sample

theorem handles : environment.builtins.KeepByThemselves Machine.Handles environment.program := by
  refine Builtins.every_register _
    (Builtins.keepByThemselves_installClassic (Builtins.every_empty _)) fun machine => ?_
  exact Native.KeepsByItself.bind (Native.keepsByItself_check _ machine) fun _ _ _ _ => trivial

theorem carry : environment.builtins.Carry True Machine.Agree program := by
  refine Builtins.every_register _ (Builtins.carry_installClassic (Builtins.every_empty _)) ?_
  refine Native.Carries.bind (Native.carries_check fun _ _ => rfl) fun function => ?_
  exact (Native.carries_invoke trivial Native.carries_done).bind fun _ => Native.carries_done ()

/-- What a host may ask: a call, a look at the globals, and an export. -/
def requests : List (Machine.Operation Globals) :=
  [.call 1 [.float 7],
    .access fun globals strings entities => (globals, globals, strings, entities),
    .exportGlobals]

end Sample

namespace Machine

/-- The machine has run two functions before it is reset. -/
theorem reset_answers_like_new_called :
    ∃ machine, Used Sample.program .standard machine ∧
      machine.profile ≠ (create Sample.program .standard).profile ∧
      Sample.environment.builtins.Carry True Agree Sample.program ∧
      (serveAll Sample.environment 9 Sample.requests
          (machine.reset Sample.program .standard)).map Prod.fst =
        (serveAll Sample.environment 9 Sample.requests
          { create Sample.program .standard with tracing := machine.tracing }).map Prod.fst := by
  have counted : (call Sample.environment 9 1 [.float 7] (create Sample.program .standard)).map
      (fun outcome => decide (outcome.2.profile = (create Sample.program .standard).profile)) =
        some false := by decide +kernel
  obtain ⟨⟨result, machine⟩, ends, different⟩ := Option.map_eq_some_iff.mp counted
  have used : Used Sample.program .standard machine :=
    .called .created Sample.handles ends
  exact ⟨machine, used, of_decide_eq_false different, Sample.carry,
    reset_answers_like_new used Sample.carry 9 Sample.requests⟩

end Machine

end Gamecode
