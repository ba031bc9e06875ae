/-
This file gives the rules by which one shows that two machines go on alike. The machines hold the
same content, that is, the same globals, strings, records, active functions and statement; what else
they have in common is up to the relation between them. Statements read and write nothing but the
content, so whatever the relation is, a statement that calls no function has the same result in both
machines and leaves machines that are related again.

Where the machines have different limits, one of the two runs may fail where the other one goes on.
Comparing them is then of use only as long as that run does not fail, so a comparison is either
faithful, and faults are the same too, or it says nothing about runs that fail.
-/

import Gamecode.Proofs.Action

namespace Gamecode

/-! ### What a machine holds -/

/-- What statements read and write. The limit of the entities is none of it and stands at zero. -/
structure Content where
  globals : Globals
  strings : StringHeap
  entities : EntityStore
  frames : Array Frame
  saved : Cells
  statement : Option Nat

namespace Machine

def content (machine : Machine) : Content :=
  ⟨machine.globals, machine.strings, { machine.entities with limit := 0 }, machine.stack.frames,
    machine.stack.saved, machine.statement⟩

/-- The machine with another content and its own limits. -/
def holding (machine : Machine) (content : Content) : Machine :=
  { machine with
    globals := content.globals
    strings := content.strings
    entities := { content.entities with limit := machine.entities.limit }
    stack := { machine.stack with frames := content.frames, saved := content.saved }
    statement := content.statement }

/-- What is seen of a machine depends on its content only. -/
def OfContent {α : Type} (look : Machine → α) : Prop :=
  ∀ machine other : Machine, look (machine.holding other.content) = look other

/-- Related machines hold the same content, and they are related again when both are given some
other content. -/
class Parallel (relation : Machine → Machine → Prop) : Prop where
  content_eq : ∀ {left right : Machine}, relation left right → right.content = left.content
  holding : ∀ {left right : Machine}, relation left right → ∀ content : Content,
    relation (left.holding content) (right.holding content)

section Parallel

variable {α : Type} {relation : Machine → Machine → Prop} [Parallel relation]
  {left right : Machine}

theorem OfContent.eq {look : Machine → α} (ofContent : OfContent look)
    (related : relation left right) : look right = look left := by
  have same : right = right.holding left.content :=
    congrArg right.holding (Parallel.content_eq related)
  rw [same, ofContent]

/-- What is changed depends on the content only, and it is part of the content. -/
theorem Parallel.change (related : relation left right) (change : Content → Content) :
    relation (left.holding (change left.content)) (right.holding (change right.content)) := by
  rw [Parallel.content_eq related]
  exact Parallel.holding related _

theorem Parallel.globals (related : relation left right) (globals : Globals) :
    relation { left with globals } { right with globals } :=
  Parallel.change related fun content => { content with globals }

theorem Parallel.strings (related : relation left right) (strings : StringHeap) :
    relation { left with strings } { right with strings } :=
  Parallel.change related fun content => { content with strings }

theorem Parallel.statement (related : relation left right) (statement : Option Nat) :
    relation { left with statement } { right with statement } :=
  Parallel.change related fun content => { content with statement }

theorem Parallel.stack (related : relation left right) (frames : Array Frame) (saved : Cells) :
    relation { left with stack := { left.stack with frames, saved } }
      { right with stack := { right.stack with frames, saved } } :=
  Parallel.change related fun content => { content with frames, saved }

/-- Both stores get the same records, each under its own limit. -/
theorem Parallel.entities (related : relation left right) (entities : EntityStore) :
    relation { left with entities := { entities with limit := left.entities.limit } }
      { right with entities := { entities with limit := right.entities.limit } } :=
  Parallel.change related fun content => { content with entities }

theorem Parallel.frames_eq (related : relation left right) :
    right.stack.frames = left.stack.frames :=
  congrArg Content.frames (Parallel.content_eq related)

theorem Parallel.saved_eq (related : relation left right) : right.stack.saved = left.stack.saved :=
  congrArg Content.saved (Parallel.content_eq related)

theorem Parallel.statement_eq (related : relation left right) :
    right.statement = left.statement :=
  congrArg Content.statement (Parallel.content_eq related)

theorem Parallel.depth_eq (related : relation left right) : right.depth = left.depth :=
  congrArg Array.size (Parallel.frames_eq related)

/-- The stores differ in their limits at most. -/
theorem Parallel.entities_eq (related : relation left right) :
    right.entities = { left.entities with limit := right.entities.limit } :=
  congrArg (fun content => { content.entities with limit := right.entities.limit })
    (Parallel.content_eq related)

end Parallel

end Machine

/-! ### Ends that match -/

/-- Some of the results tell that a run failed. -/
class Fallible (β : Type) where
  Failed : β → Prop

instance {ε α : Type} : Fallible (Except ε α) := ⟨fun result => ∃ fault, result = .error fault⟩

theorem not_failed_ok {ε α : Type} (value : α) :
    ¬ Fallible.Failed (.ok value : Except ε α) := by
  rintro ⟨fault, same⟩
  cases same

/-- Two runs end with the same result in related machines, or neither of them ends. A comparison
that is not faithful says nothing where the first run fails. -/
inductive Matched {β : Type} [Fallible β] (faithful : Prop)
    (relation : Machine → Machine → Prop) :
    Option (β × Machine) → Option (β × Machine) → Prop
  | unfinished : Matched faithful relation none none
  | same {value : β} {left right : Machine} (related : relation left right) :
      Matched faithful relation (some (value, left)) (some (value, right))
  | excused {value : β} {left : Machine} {other : Option (β × Machine)}
      (unfaithful : ¬ faithful) (failed : Fallible.Failed value) :
      Matched faithful relation (some (value, left)) other

namespace Matched

variable {β γ : Type} [Fallible β] [Fallible γ] {faithful : Prop}
  {relation wider : Machine → Machine → Prop} {left right : Option (β × Machine)}

/-- A result that is no failure is the result of both runs. -/
theorem of_not_failed (matched : Matched faithful relation left right) {value : β}
    {after : Machine} (ends : left = some (value, after)) (fine : ¬ Fallible.Failed value) :
    ∃ other, right = some (value, other) ∧ relation after other := by
  cases matched with
  | unfinished => cases ends
  | same related =>
    cases ends
    exact ⟨_, rfl, related⟩
  | excused unfaithful failed =>
    cases ends
    exact absurd failed fine

/-- In a faithful comparison both runs have the same result, if any. -/
theorem map_fst_eq (matched : Matched True relation left right) :
    left.map Prod.fst = right.map Prod.fst := by
  cases matched with
  | unfinished | same related => rfl
  | excused unfaithful failed => exact absurd trivial unfaithful

theorem mono (matched : Matched faithful relation left right)
    (widened : ∀ {left right : Machine}, relation left right → wider left right) :
    Matched faithful wider left right := by
  cases matched with
  | unfinished => exact .unfinished
  | same related => exact .same (widened related)
  | excused unfaithful failed => exact .excused unfaithful failed

/-- What is known of the machine that the first run leaves may be added. -/
theorem and (matched : Matched faithful relation left right) {known : Machine → Prop}
    (each : ∀ {value after}, left = some (value, after) → known after) :
    Matched faithful (fun first second => relation first second ∧ known first) left right := by
  cases matched with
  | unfinished => exact .unfinished
  | same related => exact .same ⟨related, each rfl⟩
  | excused unfaithful failed => exact .excused unfaithful failed

/-- Runs match together with what follows them, if that hands on failures. -/
theorem bind {next other : β × Machine → Option (γ × Machine)}
    (first : Matched faithful relation left right)
    (rest : ∀ {value left right}, relation left right →
      Matched faithful wider (next (value, left)) (other (value, right)))
    (handsOn : ¬ faithful → ∀ value machine, Fallible.Failed value →
      ∃ last after, Fallible.Failed last ∧ next (value, machine) = some (last, after)) :
    Matched faithful wider (left.bind next) (right.bind other) := by
  cases first with
  | unfinished => exact .unfinished
  | same related => exact rest related
  | @excused value machine _ unfaithful failed =>
    obtain ⟨last, after, stillFailed, ends⟩ := handsOn unfaithful value machine failed
    rw [Option.bind_some, ends]
    exact .excused unfaithful stillFailed

/-- What is done at the end of both runs keeps them matched. -/
theorem map {finish other : β × Machine → γ × Machine}
    (first : Matched faithful relation left right)
    (rest : ∀ {value left right}, relation left right →
      (other (value, right)).1 = (finish (value, left)).1 ∧
        wider (finish (value, left)).2 (other (value, right)).2)
    (handsOn : ¬ faithful → ∀ value machine, Fallible.Failed value →
      Fallible.Failed (finish (value, machine)).1) :
    Matched faithful wider (left.map finish) (right.map other) := by
  cases first with
  | unfinished => exact .unfinished
  | @same value left right related =>
    obtain ⟨result, after⟩ := rest related
    have split : other (value, right) =
        ((finish (value, left)).1, (other (value, right)).2) := Prod.ext result rfl
    rw [Option.map_some, Option.map_some, split]
    exact .same after
  | excused unfaithful failed => exact .excused unfaithful (handsOn unfaithful _ _ failed)

end Matched

/-! ### Actions that carry a relation -/

namespace Action

variable {α β : Type} {faithful : Prop} {relation : Machine → Machine → Prop}

/-- An action as a run that always ends. -/
def outcome (action : Action α) (machine : Machine) : Outcome Fault α :=
  match action machine with
  | .ok value after => some (.ok value, after)
  | .error fault after => some (.error fault, after)

/-- An action that keeps something keeps it whatever its outcome is. -/
theorem Keeps.of_outcome {action : Action α} (keeps : action.Keeps relation)
    {machine after : Machine} {result : Except Fault α}
    (ends : action.outcome machine = some (result, after)) : relation machine after := by
  unfold outcome at ends
  split at ends
  · next same =>
    cases ends
    exact keeps.ok same
  · next same =>
    cases ends
    exact keeps.error same

/-- What comes after an action, unless it failed. -/
def andThen (next : α → Machine → Outcome Fault β) : Except Fault α × Machine → Outcome Fault β
  | (.ok value, after) => next value after
  | (.error fault, after) => some (.error fault, after)

theorem outcome_bind (action : Action α) (next : α → Action β) (machine : Machine) :
    (action >>= next).outcome machine =
      (action.outcome machine).bind (andThen fun value => (next value).outcome) := by
  unfold outcome
  rw [bind_apply]
  cases action machine <;> rfl

/-- In related machines the action ends in the same way. -/
def Carries (faithful : Prop) (relation : Machine → Machine → Prop) (action : Action α) : Prop :=
  ∀ ⦃left right : Machine⦄, relation left right →
    Matched faithful relation (action.outcome left) (action.outcome right)

theorem carries_pure (value : α) : (pure value : Action α).Carries faithful relation :=
  fun _ _ related => .same related

theorem carries_throw (fault : Fault) : (throw fault : Action α).Carries faithful relation :=
  fun _ _ related => .same related

/-- A fault is handed on. -/
theorem andThen_failed {next : α → Machine → Outcome Fault β} (result : Except Fault α)
    (machine : Machine) (failed : Fallible.Failed result) :
    ∃ last after, Fallible.Failed last ∧ andThen next (result, machine) = some (last, after) := by
  obtain ⟨fault, rfl⟩ := failed
  exact ⟨.error fault, machine, ⟨fault, rfl⟩, rfl⟩

end Action

/-- Runs match together with what is done after them unless they fail. -/
theorem Matched.andThen {α β : Type} {faithful : Prop} {relation wider : Machine → Machine → Prop}
    {left right : Outcome Fault α} {next other : α → Machine → Outcome Fault β}
    (first : Matched faithful relation left right)
    (narrower : ∀ {left right : Machine}, relation left right → wider left right)
    (rest : ∀ {value left right}, relation left right →
      Matched faithful wider (next value left) (other value right)) :
    Matched faithful wider (left.bind (Action.andThen next))
      (right.bind (Action.andThen other)) := by
  refine first.bind (fun {value _ _} related => ?_) fun _ => Action.andThen_failed
  cases value with
  | ok value => exact rest related
  | error fault => exact .same (narrower related)

namespace Action

variable {α β : Type} {faithful : Prop} {relation : Machine → Machine → Prop}

theorem Carries.bind {action : Action α} {next : α → Action β}
    (first : action.Carries faithful relation)
    (second : ∀ value, (next value).Carries faithful relation) :
    (action >>= next).Carries faithful relation := by
  intro left right related
  rw [outcome_bind, outcome_bind]
  exact (first related).andThen id fun {value _ _} reached => second value reached

theorem carries_forM {members : List α} {action : α → Action Unit}
    (each : ∀ member, (action member).Carries faithful relation) :
    (members.forM action).Carries faithful relation := by
  induction members with
  | nil => exact carries_pure ()
  | cons head rest inductionHypothesis => exact (each head).bind fun _ => inductionHypothesis

/-- The machines that are left are related, also after a fault. -/
theorem Carries.leaves {action : Action α} (carries : action.Carries True relation)
    {left right : Machine} (related : relation left right) :
    relation (action.leaves left) (action.leaves right) := by
  have matched := carries related
  unfold outcome at matched
  unfold Action.leaves
  generalize action left = leftEnd at matched ⊢
  generalize action right = rightEnd at matched ⊢
  cases leftEnd <;> cases rightEnd <;> cases matched <;>
    first | assumption | exact absurd trivial ‹¬ True›

variable [Machine.Parallel relation]

/-- What is seen of the content is the same in both machines. -/
theorem carries_inspect {look : Machine → Except Fault α} (ofContent : Machine.OfContent look) :
    (inspect look).Carries faithful relation := by
  intro left right related
  unfold outcome inspect
  rw [ofContent.eq related]
  cases look left with
  | ok value => exact .same related
  | error fault => exact .same related

/-- What is done next may depend on what is seen of the content. -/
theorem carries_get_bind (look : Machine → α) {next : α → Action β}
    (ofContent : Machine.OfContent look)
    (each : ∀ value, (next value).Carries faithful relation) :
    (get >>= fun machine => next (look machine)).Carries faithful relation := by
  intro left right related
  rw [outcome_bind, outcome_bind]
  show Matched faithful relation ((next (look left)).outcome left)
    ((next (look right)).outcome right)
  rw [ofContent.eq related]
  exact each (look left) related

/-- What is known already is no matter of the machine. -/
theorem carries_known (known : Except Fault α) :
    (inspect fun _ => known).Carries faithful relation :=
  carries_inspect fun _ _ => rfl

theorem carries_changeGlobals (change : Globals → Except Fault Globals) :
    (changeGlobals change).Carries faithful relation := by
  intro left right related
  have same : right.globals = left.globals := congrArg Content.globals
    (Machine.Parallel.content_eq related)
  unfold outcome changeGlobals
  rw [same]
  cases change left.globals with
  | ok globals => exact .same (Machine.Parallel.globals related globals)
  | error fault => exact .same related

end Action

/-! ### Entities under different limits -/

namespace EntityStore

/-- The change neither asks for the limit nor touches it. -/
def Unlimited (change : EntityStore → Except Fault EntityStore) : Prop :=
  ∀ (store : EntityStore) (limit : Nat),
    change { store with limit } = (change store).map fun after => { after with limit }

theorem unlimited_write (pointer : Int) (values : List Slot) :
    Unlimited fun store => store.write pointer values := by
  intro store limit
  have same : { store with limit }.checkPointer pointer values.length =
    store.checkPointer pointer values.length := rfl
  dsimp only [write]
  rw [same]
  cases store.checkPointer pointer values.length <;> rfl

theorem unlimited_remove (entity : Int) : Unlimited fun store => store.remove entity := by
  intro store limit
  have same : { store with limit }.checkEntity entity = store.checkEntity entity := rfl
  dsimp only [remove]
  rw [same]
  cases store.checkEntity entity with
  | error fault => rfl
  | ok number =>
    by_cases world : number = 0
    · subst world
      rfl
    · simp only [Except.map, bind, Except.bind, if_neg world]
      rfl

/-- A change that does not touch the limit leaves it as it was. -/
theorem Unlimited.limit_eq {change : EntityStore → Except Fault EntityStore}
    (unlimited : Unlimited change) {store after : EntityStore} (done : change store = .ok after) :
    after.limit = store.limit := by
  have same : change store = (change store).map fun after => { after with limit := store.limit } :=
    unlimited store store.limit
  rw [done] at same
  have unchanged := congrArg EntityStore.limit (Except.ok.inj same)
  exact unchanged

end EntityStore

theorem Action.carries_changeEntities {faithful : Prop} {relation : Machine → Machine → Prop}
    [Machine.Parallel relation] {change : EntityStore → Except Fault EntityStore}
    (unlimited : EntityStore.Unlimited change) :
    (changeEntities change).Carries faithful relation := by
  intro left right related
  have same := (congrArg change (Machine.Parallel.entities_eq related)).trans
    (unlimited left.entities right.entities.limit)
  unfold outcome changeEntities
  rw [same]
  cases done : change left.entities with
  | error fault => exact .same related
  | ok entities =>
    have limit := unlimited.limit_eq done
    have changed := Machine.Parallel.entities related entities
    rw [← limit] at changed
    exact .same changed

/-! ### Statements that are no calls -/

namespace Machine

variable {faithful : Prop} {relation : Machine → Machine → Prop} [Parallel relation]

theorem carries_stageArguments (arguments : List Value) (index : Nat) :
    (stageArguments arguments index).Carries faithful relation := by
  induction arguments generalizing index with
  | nil => exact Action.carries_pure ()
  | cons first rest inductionHypothesis =>
    exact (Action.carries_changeGlobals _).bind fun _ => inductionHypothesis _

theorem carries_placeResult (a : Nat) : (placeResult a).Carries faithful relation := by
  unfold placeResult
  split
  · exact (Action.carries_inspect fun _ _ => rfl).bind fun _ => Action.carries_changeGlobals _
  · exact Action.carries_pure _

theorem carries_branch (taken : Slot → Bool) (index a : Nat) (delta : UInt16) :
    (branch taken index a delta).Carries faithful relation := by
  refine (Action.carries_inspect fun _ _ => rfl).bind fun condition => ?_
  split
  · exact (Action.carries_known _).bind fun _ => Action.carries_pure _
  · exact Action.carries_pure _

theorem carries_changeState (program : Program) (interval : Slot) (a b : Nat) :
    (changeState program interval a b).Carries faithful relation :=
  (Action.carries_inspect fun _ _ => rfl).bind fun _ => Action.carries_forM fun _ =>
    Action.carries_changeEntities (EntityStore.unlimited_write _ _)

/-- An operation computes the same values from the same content. -/
theorem ofContent_computed? (protectWorld : Bool) (a b : Nat) (operation : Opcode) :
    OfContent fun machine => machine.computed? protectWorld a b operation := by
  intro machine other
  cases operation <;> rfl

/-- A statement other than a call carries every such relation. -/
theorem carries_step {program : Program} {configuration : Configuration} {index : Nat}
    {statement : Statement} {operation : Opcode} (decoded : statement.operation = .ok operation)
    (noCall : ∀ arguments, operation ≠ .call arguments) :
    (step program configuration index statement).Carries faithful relation := by
  unfold step
  rw [Action.inspect_of_ok decoded, pure_bind]
  cases operation with
  | done => exact (Action.carries_changeGlobals _).bind fun _ => Action.carries_pure _
  | leave => exact (carries_placeResult _).bind fun _ => Action.carries_pure _
  | store kind => exact (Action.carries_changeGlobals _).bind fun _ => Action.carries_pure _
  | storeThrough kind =>
    refine (Action.carries_inspect fun _ _ => rfl).bind fun pointer => ?_
    refine (Action.carries_inspect fun _ _ => rfl).bind fun values => ?_
    exact (Action.carries_changeEntities (EntityStore.unlimited_write _ _)).bind fun _ =>
      Action.carries_pure _
  | branchIf => exact carries_branch _ _ _ _
  | branchUnless => exact carries_branch _ _ _ _
  | goto => exact (Action.carries_known _).bind fun _ => Action.carries_pure _
  | call arguments => exact absurd rfl (noCall arguments)
  | state => exact (carries_changeState _ _ _ _).bind fun _ => Action.carries_pure _
  | _ =>
    refine Action.Carries.bind
      (Action.carries_get_bind _ (ofContent_computed? _ _ _ _) Action.carries_pure) fun values => ?_
    cases values with
    | none => exact Action.carries_pure _
    | some values =>
      exact (Action.carries_known _).bind fun _ =>
        (Action.carries_changeGlobals _).bind fun _ => Action.carries_pure _

/-! ### Leaving functions -/

/-- Leaving a function is a matter of the content. -/
theorem carries_leave : leave.Carries faithful relation := by
  intro left right related
  unfold Action.outcome leave CallStack.pop
  rw [Parallel.frames_eq related, Parallel.saved_eq related]
  cases left.stack.frames.back? with
  | none => exact .same related
  | some frame =>
    have popped := Parallel.stack related left.stack.frames.pop
      (left.stack.saved.take frame.savedAt)
    have same : right.globals = left.globals :=
      congrArg Content.globals (Parallel.content_eq related)
    dsimp only [Option.map_some]
    rw [same]
    cases left.globals.write frame.windowStart
        (left.stack.saved.extract frame.savedAt left.stack.saved.size).toList with
    | ok globals => exact .same (Parallel.globals popped globals)
    | error fault => exact .same (Parallel.globals popped left.globals)

/-- Leaving one function more begins with leaving one, whether or not its window can be restored. -/
theorem snd_leaveMany_succ (count : Nat) (machine : Machine) :
    (leaveMany (count + 1) machine).2 = (leaveMany count (leave.leaves machine)).2 := by
  unfold Action.leaves
  rw [leaveMany]
  cases leave machine <;> rfl

theorem related_leaveMany (count : Nat) {left right : Machine} (related : relation left right) :
    relation (leaveMany count left).2 (leaveMany count right).2 := by
  induction count generalizing left right with
  | zero => exact related
  | succ count inductionHypothesis =>
    rw [snd_leaveMany_succ, snd_leaveMany_succ]
    exact inductionHypothesis (Action.Carries.leaves carries_leave related)

/-- Unwinding to the same depth leaves related machines. -/
theorem related_unwindTo (depth : Nat) {left right : Machine} (related : relation left right) :
    relation (left.unwindTo depth).2 (right.unwindTo depth).2 := by
  have unwound := related_leaveMany (left.depth - depth) related
  unfold unwindTo
  rw [Parallel.depth_eq related]
  dsimp only
  rw [Parallel.depth_eq unwound]
  split
  · exact Parallel.stack unwound #[] #[]
  · exact unwound

end Machine

end Gamecode
