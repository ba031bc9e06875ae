/-
This file gives the rules by which one shows that an action keeps something. An action keeps a
relation if the machine that it leaves, also after a fault, is related to the machine that it found.
Where the relation is a preorder, what two actions keep is kept by both in a row.

All that statements do by themselves is to write, so those that are no calls keep every relation
that allows this. The relation that matters for calls says that the active functions are the same
and that the global segment has as many slots as before.
-/

import Gamecode.Machine.Run
import Mathlib.Order.Defs.Unbundled

namespace Gamecode

namespace Action

variable {α β : Type} {relation : Machine → Machine → Prop}

/-! ### Running actions -/

@[simp] theorem bind_apply (action : Action α) (next : α → Action β) (machine : Machine) :
    (action >>= next) machine =
      match action machine with
      | .ok value after => next value after
      | .error fault after => .error fault after := by
  change EStateM.bind action next machine = _
  unfold EStateM.bind
  cases action machine <;> rfl

/-- Two actions in a row succeed exactly where the second succeeds on what the first left. -/
theorem bind_eq_ok_iff {action : Action α} {next : α → Action β}
    {machine after : Machine} {value : β} :
    (action >>= next) machine = .ok value after ↔
      ∃ result middle, action machine = .ok result middle ∧
        next result middle = .ok value after := by
  rw [Action.bind_apply]
  cases action machine with
  | ok result middle =>
    constructor
    · exact fun ends => ⟨result, middle, rfl, ends⟩
    · rintro ⟨_, _, same, ends⟩
      cases same
      exact ends
  | error fault middle => exact iff_of_false nofun fun ⟨_, _, same, _⟩ => nomatch same

@[simp] theorem pure_apply (value : α) (machine : Machine) :
    (pure value : Action α) machine = .ok value machine := rfl

@[simp] theorem throw_apply (fault : Fault) (machine : Machine) :
    (throw fault : Action α) machine = .error fault machine := rfl

@[simp] theorem get_apply (machine : Machine) :
    (get : Action Machine) machine = .ok machine machine := rfl

/-- An action for each member of a list ends with the first fault. -/
theorem forM_cons_apply (action : β → Action Unit) (head : β) (rest : List β) (machine : Machine) :
    (head :: rest).forM action machine =
      match action head machine with
      | .ok _ after => rest.forM action after
      | .error fault after => .error fault after := by
  refine (bind_apply (action head) (fun _ => rest.forM action) machine).trans ?_
  cases action head machine <;> rfl

/-- Looking at what is already known is no action at all. -/
theorem inspect_of_ok {known : Except Fault α} {value : α} (same : known = .ok value) :
    (inspect fun _ => known) = pure value := by
  funext machine
  simp only [inspect, same, pure_apply]

/-- Looking at a machine gives what is seen there. -/
theorem inspect_apply {look : Machine → Except Fault α} {machine : Machine} {value : α}
    (seen : look machine = .ok value) : inspect look machine = .ok value machine := by
  rw [inspect, seen]

theorem changeEntities_apply {change : EntityStore → Except Fault EntityStore} {machine : Machine}
    {entities : EntityStore} (done : change machine.entities = .ok entities) :
    changeEntities change machine = .ok () { machine with entities } := by
  rw [changeEntities, done]

/-- The machine that an action leaves, with a result or with a fault. -/
def leaves (action : Action α) (machine : Machine) : Machine :=
  match action machine with
  | .ok _ after | .error _ after => after

theorem leaves_of_ok {action : Action α} {machine after : Machine} {value : α}
    (ends : action machine = .ok value after) : action.leaves machine = after := by
  rw [leaves, ends]

theorem leaves_of_error {action : Action α} {machine after : Machine} {fault : Fault}
    (ends : action machine = .error fault after) : action.leaves machine = after := by
  rw [leaves, ends]

/-- What is looked up first changes nothing. -/
theorem leaves_inspect_bind (look : Machine → Except Fault α) (next : α → Action β)
    (machine : Machine) :
    (inspect look >>= next).leaves machine =
      match look machine with
      | .ok value => (next value).leaves machine
      | .error _ => machine := by
  unfold leaves
  rw [bind_apply, inspect]
  cases look machine <;> rfl

/-- Giving a result at the end changes nothing. -/
theorem leaves_bind_pure (action : Action α) (value : β) (machine : Machine) :
    (action >>= fun _ => pure value).leaves machine = action.leaves machine := by
  unfold leaves
  rw [bind_apply]
  cases action machine <;> rfl

/-! ### Keeping a relation -/

/-- The machine that the action leaves is always related to the one that it found. -/
def Keeps (relation : Machine → Machine → Prop) (action : Action α) : Prop :=
  ∀ machine, relation machine (action.leaves machine)

theorem Keeps.ok {action : Action α} (keeps : action.Keeps relation) {machine after : Machine}
    {value : α} (ends : action machine = .ok value after) : relation machine after :=
  leaves_of_ok ends ▸ keeps machine

theorem Keeps.error {action : Action α} (keeps : action.Keeps relation) {machine after : Machine}
    {fault : Fault} (ends : action machine = .error fault after) : relation machine after :=
  leaves_of_error ends ▸ keeps machine

variable [IsPreorder Machine relation]

theorem keeps_pure (value : α) : (pure value : Action α).Keeps relation :=
  fun machine => refl_of relation machine

theorem keeps_throw (fault : Fault) : (throw fault : Action α).Keeps relation :=
  fun machine => refl_of relation machine

theorem keeps_get : (get : Action Machine).Keeps relation :=
  fun machine => refl_of relation machine

/-- Looking at the machine changes nothing. -/
theorem keeps_inspect (look : Machine → Except Fault α) : (inspect look).Keeps relation := by
  intro machine
  unfold leaves inspect
  cases look machine <;> exact refl_of relation machine

/-- Two actions in a row keep what each of them keeps. -/
theorem Keeps.bind {action : Action α} {next : α → Action β} (first : action.Keeps relation)
    (second : ∀ value, (next value).Keeps relation) : (action >>= next).Keeps relation := by
  intro machine
  have kept := first machine
  unfold leaves at kept ⊢
  rw [bind_apply]
  cases ends : action machine with
  | ok value after =>
    rw [ends] at kept
    exact trans_of relation kept (second value after)
  | error fault after =>
    rw [ends] at kept
    exact kept

theorem keeps_forM {members : List α} {action : α → Action Unit}
    (each : ∀ member, (action member).Keeps relation) : (members.forM action).Keeps relation := by
  induction members with
  | nil => exact keeps_pure ()
  | cons head rest inductionHypothesis => exact (each head).bind fun _ => inductionHypothesis

/-! ### Results -/

/-- Every result of the action satisfies the condition. -/
def Gives (condition : α → Prop) (action : Action α) : Prop :=
  ∀ ⦃machine value after⦄, action machine = .ok value after → condition value

theorem gives_pure {condition : α → Prop} {value : α} (holds : condition value) :
    (pure value : Action α).Gives condition := by
  intro machine result after ends
  cases ends
  exact holds

theorem Gives.after {condition : β → Prop} (action : Action α) {next : α → Action β}
    (each : ∀ value, (next value).Gives condition) : (action >>= next).Gives condition := by
  intro machine result after ends
  rw [bind_apply] at ends
  cases first : action machine with
  | error fault left =>
    rw [first] at ends
    cases ends
  | ok value left =>
    rw [first] at ends
    exact each value ends

end Action

/-! ### Writes -/

/-- A relation that allows writes to the globals, of which there are as many afterwards. -/
class Machine.AllowsGlobals (relation : Machine → Machine → Prop) : Prop where
  globals : ∀ {machine : Machine} {globals : Globals}, globals.size = machine.globals.size →
    relation machine { machine with globals }

/-- A relation that allows the writes of statements: those to the globals, and those to the fields
of entities. -/
class Machine.AllowsWrites (relation : Machine → Machine → Prop) : Prop extends
    AllowsGlobals relation where
  entities : ∀ {machine : Machine} {pointer : Int} {values : List Slot} {entities : EntityStore},
    machine.entities.write pointer values = .ok entities →
      relation machine { machine with entities }

namespace Globals

/-- A copy succeeds exactly where both runs stay inside, and writes what the source held. -/
theorem copy_eq_ok_iff {globals after : Globals} {source target width : Nat} :
    globals.copy source target width = .ok after ↔
      globals.Covers source width ∧ globals.Covers target width ∧
        after = ⟨globals.slots.put target (globals.slots.window source width)⟩ := by
  unfold copy
  by_cases inside : globals.Covers source width
  · have length : (globals.slots.window source width).length = width :=
      Cells.length_window_of_le inside
    rw [if_neg (not_not_intro inside), and_iff_right inside]
    by_cases room : globals.Covers target width
    · rw [if_neg (not_not_intro room), write_eq_ok_iff, length]
    · rw [if_pos room]
      exact iff_of_false nofun fun both => room both.1
  · rw [if_pos inside]
    exact iff_of_false nofun fun both => inside both.1

theorem size_copy {globals after : Globals} {source target width : Nat}
    (copied : globals.copy source target width = .ok after) : after.size = globals.size := by
  obtain ⟨-, -, rfl⟩ := copy_eq_ok_iff.mp copied
  exact Cells.size_put _ _ _

theorem size_fill {globals after : Globals} {offset width : Nat} {value : Slot}
    (filled : globals.fill offset width value = .ok after) : after.size = globals.size := by
  unfold fill at filled
  split at filled
  · exact size_write filled
  · cases filled

end Globals

namespace Machine

section Globals

variable {relation : Machine → Machine → Prop} [IsPreorder Machine relation]
  [AllowsGlobals relation]

theorem keeps_changeGlobals {change : Globals → Except Fault Globals}
    (sized : ∀ globals after, change globals = .ok after → after.size = globals.size) :
    (Action.changeGlobals change).Keeps relation := by
  intro machine
  unfold Action.leaves Action.changeGlobals
  cases ends : change machine.globals with
  | ok globals => exact AllowsGlobals.globals (sized _ _ ends)
  | error fault => exact refl_of relation machine

theorem keeps_writeGlobals (offset : Nat) (values : List Slot) :
    (Action.changeGlobals fun globals => globals.write offset values).Keeps relation :=
  keeps_changeGlobals fun _ _ => Globals.size_write

/-- Putting the arguments of the host in place writes to the globals only. -/
theorem keeps_stageArguments (arguments : List Value) (index : Nat) :
    (stageArguments arguments index).Keeps relation := by
  induction arguments generalizing index with
  | nil => exact Action.keeps_pure ()
  | cons first rest inductionHypothesis =>
    exact (keeps_writeGlobals _ _).bind fun _ => inductionHypothesis _

/-! ### Statements that are no calls -/

theorem keeps_placeResult (a : Nat) : (placeResult a).Keeps relation := by
  unfold placeResult
  split
  · exact (Action.keeps_inspect _).bind fun value => keeps_writeGlobals _ _
  · exact Action.keeps_pure _

omit [AllowsGlobals relation] in
theorem keeps_branch (taken : Slot → Bool) (index a : Nat) (delta : UInt16) :
    (branch taken index a delta).Keeps relation := by
  refine (Action.keeps_inspect _).bind fun condition => ?_
  split
  · exact (Action.keeps_inspect _).bind fun _ => Action.keeps_pure _
  · exact Action.keeps_pure _

/-- Most statements other than calls write to the globals only. -/
theorem keeps_step_of_globals {program : Program} {configuration : Configuration} {index : Nat}
    {statement : Statement} {operation : Opcode} (decoded : statement.operation = .ok operation)
    (noCall : ∀ arguments, operation ≠ .call arguments)
    (noPointer : ∀ kind, operation ≠ .storeThrough kind) (noState : operation ≠ .state) :
    (step program configuration index statement).Keeps relation := by
  unfold step
  rw [Action.inspect_of_ok decoded, pure_bind]
  cases operation with
  | done =>
    exact (keeps_changeGlobals fun _ _ => Globals.size_fill).bind fun _ => Action.keeps_pure _
  | leave => exact (keeps_placeResult _).bind fun _ => Action.keeps_pure _
  | store kind =>
    exact (keeps_changeGlobals fun _ _ => Globals.size_copy).bind fun _ => Action.keeps_pure _
  | storeThrough kind => exact absurd rfl (noPointer kind)
  | branchIf => exact keeps_branch _ _ _ _
  | branchUnless => exact keeps_branch _ _ _ _
  | goto => exact (Action.keeps_inspect _).bind fun _ => Action.keeps_pure _
  | call arguments => exact absurd rfl (noCall arguments)
  | state => exact absurd rfl noState
  | _ =>
    refine Action.Keeps.bind (Action.keeps_get.bind fun _ => Action.keeps_pure _) fun values => ?_
    cases values with
    | none => exact Action.keeps_pure _
    | some values =>
      exact (Action.keeps_inspect _).bind fun _ =>
        (keeps_writeGlobals _ _).bind fun _ => Action.keeps_pure _

end Globals

section Writes

variable {relation : Machine → Machine → Prop} [IsPreorder Machine relation]
  [AllowsWrites relation]

theorem keeps_writeEntities (pointer : Int) (values : List Slot) :
    (Action.changeEntities fun entities => entities.write pointer values).Keeps relation := by
  intro machine
  unfold Action.leaves Action.changeEntities
  dsimp only
  cases written : machine.entities.write pointer values with
  | ok entities => exact AllowsWrites.entities written
  | error fault => exact refl_of relation machine

theorem keeps_changeState (program : Program) (interval : Slot) (a b : Nat) :
    (changeState program interval a b).Keeps relation :=
  (Action.keeps_inspect _).bind fun _ => Action.keeps_forM fun _ => keeps_writeEntities _ _

/-- A statement other than a call only writes. -/
theorem keeps_step {program : Program} {configuration : Configuration} {index : Nat}
    {statement : Statement} {operation : Opcode} (decoded : statement.operation = .ok operation)
    (noCall : ∀ arguments, operation ≠ .call arguments) :
    (step program configuration index statement).Keeps relation := by
  cases operation with
  | call arguments => exact absurd rfl (noCall arguments)
  | storeThrough kind =>
    unfold step
    rw [Action.inspect_of_ok decoded, pure_bind]
    exact (Action.keeps_inspect _).bind fun _ => (Action.keeps_inspect _).bind fun _ =>
      (keeps_writeEntities _ _).bind fun _ => Action.keeps_pure _
  | state =>
    unfold step
    rw [Action.inspect_of_ok decoded, pure_bind]
    exact (keeps_changeState _ _ _ _).bind fun _ => Action.keeps_pure _
  | _ => exact keeps_step_of_globals decoded nofun nofun nofun

end Writes

/-! ### Calls that are kept -/

/-- The active functions are the same, and the global segment has as many slots. -/
structure KeepsCalls (before after : Machine) : Prop where
  stack : after.stack = before.stack
  size : after.globals.size = before.globals.size

instance : IsPreorder Machine KeepsCalls where
  refl _ := ⟨rfl, rfl⟩
  trans _ _ _ first second :=
    ⟨second.stack.trans first.stack, second.size.trans first.size⟩

instance : AllowsWrites KeepsCalls where
  globals sized := ⟨rfl, sized⟩
  entities _ := ⟨rfl, rfl⟩

theorem KeepsCalls.depth {before after : Machine} (kept : KeepsCalls before after) :
    after.depth = before.depth :=
  congrArg CallStack.depth kept.stack

theorem keepsCalls_stageArguments (arguments : List Value) (index : Nat) :
    (stageArguments arguments index).Keeps KeepsCalls :=
  keeps_stageArguments arguments index

/-- Counting the statements anew changes nothing else. -/
theorem restartCount_eq (machine : Machine) :
    ∃ executed, machine.restartCount = { machine with executed } := by
  unfold restartCount
  split
  · exact ⟨0, rfl⟩
  · exact ⟨machine.executed, rfl⟩

end Machine

end Gamecode
