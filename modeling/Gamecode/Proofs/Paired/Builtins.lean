/-
This file says which builtins go on alike in two machines. A script does if each of its steps does:
what it looks at has to be the same in both machines, and what it changes has to leave them related.
The standard builtins look at the content and at the number of their arguments only, so they go on
alike whatever the relation is. Creating an entity is the one step that a limit can refuse.
-/

import Gamecode.Proofs.Native
import Gamecode.Proofs.Paired.Runs

namespace Gamecode

open Machine

/-- Two scripts in a row are carried out one after the other. -/
theorem Machine.perform_bind {α β : Type} (execute : Executor) (program : Program)
    (script : Native α) (next : α → Native β) (machine : Machine) :
    perform execute program (script >>= next) machine =
      (perform execute program script machine).bind
        (Action.andThen fun value => perform execute program (next value)) := by
  change perform execute program (Native.bind script next) machine = _
  induction script generalizing machine with
  | done value | fail fault => rfl
  | observe look inductionHypothesis => exact inductionHypothesis _ _ machine
  | change update rest inductionHypothesis => exact inductionHypothesis (update machine)
  | invoke function rest inductionHypothesis =>
    unfold Native.bind perform
    rcases invokeWith execute program function machine with _ | ⟨result, after⟩
    · rfl
    · exact inductionHypothesis result after
  | call function arguments rest inductionHypothesis =>
    unfold Native.bind perform
    rcases callWith execute program function arguments machine with _ | ⟨result, after⟩
    · rfl
    · exact inductionHypothesis result after

/-! ### Steps of scripts -/

namespace Native

variable {α β : Type} {faithful : Prop} {relation : Machine → Machine → Prop} {program : Program}

theorem carries_done (value : α) : (done value).Carries faithful relation program :=
  fun _ _ _ _ _ related => .same related

theorem carries_fail (fault : Fault) :
    (fail fault : Native α).Carries faithful relation program :=
  fun _ _ _ _ _ related => .same related

theorem Carries.bind {script : Native α} {next : α → Native β}
    (first : script.Carries faithful relation program)
    (second : ∀ value, (next value).Carries faithful relation program) :
    (script >>= next).Carries faithful relation program := by
  intro leftExecute rightExecute carries left right related
  rw [perform_bind, perform_bind]
  exact (first carries related).andThen id fun {value _ _} reached => second value carries reached

theorem carries_ofExcept (known : Except Fault α) :
    (ofExcept known).Carries faithful relation program := by
  cases known with
  | ok value => exact carries_done value
  | error fault => exact carries_fail fault

/-- What is looked up has to be the same in both machines. -/
theorem carries_ask {look : Program → Machine → α}
    (same : ∀ {left right}, relation left right → look program right = look program left) :
    (ask look).Carries faithful relation program := by
  intro leftExecute rightExecute carries left right related
  show Matched faithful relation (some (Except.ok (look program left), left))
    (some (Except.ok (look program right), right))
  rw [same related]
  exact .same related

/-- What is changed has to leave related machines. -/
theorem carries_modify {update : Machine → Machine}
    (kept : ∀ {left right}, relation left right → relation (update left) (update right)) :
    (modify update).Carries faithful relation program :=
  fun _ _ _ _ _ related => .same (kept related)

/-- In a faithful comparison a script may run functions, and go on whatever their results are. -/
theorem carries_invoke [Synchronous faithful relation] (isFaithful : faithful) {function : Nat}
    {next : Except Fault Unit → Native α}
    (each : ∀ result, (next result).Carries faithful relation program) :
    (invoke function next).Carries faithful relation program := by
  intro leftExecute rightExecute carries left right related
  rw [perform_invoke, perform_invoke]
  refine (matched_invokeWith carries program function related).bind
    (fun {result _ _} reached => each result carries reached) ?_
  exact fun unfaithful => absurd isFaithful unfaithful

theorem carries_call [Synchronous faithful relation] (isFaithful : faithful) {function : Nat}
    {arguments : List Value} {next : Except Report Vector3 → Native α}
    (each : ∀ result, (next result).Carries faithful relation program) :
    (call function arguments next).Carries faithful relation program := by
  intro leftExecute rightExecute carries left right related
  rw [perform_call, perform_call]
  refine (matched_callWith id (fun started _ => related_restartCount faithful started) carries
    program function arguments related).bind
      (fun {result _ _} reached => each result carries reached) ?_
  exact fun unfaithful => absurd isFaithful unfaithful

/-! ### Changes of the content -/

section Content

variable [Parallel relation]

theorem carries_setGlobals (globals : Globals) :
    (setGlobals globals).Carries faithful relation program :=
  carries_modify fun related => Parallel.globals related globals

theorem carries_setStrings (strings : StringHeap) :
    (setStrings strings).Carries faithful relation program :=
  carries_modify fun related => Parallel.strings related strings

/-- Both stores are changed in the same way, each under its own limit. -/
theorem carries_changeEntities {change : EntityStore → Except Fault EntityStore}
    (unlimited : EntityStore.Unlimited change) :
    (check (fun _ machine => change machine.entities) >>= setEntities).Carries faithful relation
      program := by
  have form (execute : Executor) (machine : Machine) :
      perform execute program (check (fun _ machine => change machine.entities) >>= setEntities)
        machine = (Action.changeEntities change).outcome machine := by
    rw [perform_bind]
    show (perform execute program (ofExcept (change machine.entities)) machine).bind _ = _
    unfold Action.outcome Action.changeEntities
    cases change machine.entities <;> rfl
  intro leftExecute rightExecute carries left right related
  rw [form, form]
  exact Action.carries_changeEntities unlimited related

theorem carries_look {look : Program → Machine → α} (ofContent : OfContent (look program)) :
    (ask look).Carries faithful relation program :=
  carries_ask fun related => ofContent.eq related

theorem carries_check {look : Program → Machine → Except Fault α}
    (ofContent : OfContent (look program)) :
    (check look).Carries faithful relation program := by
  intro leftExecute rightExecute carries left right related
  show Matched faithful relation
    (perform leftExecute program (ofExcept (look program left)) left)
    (perform rightExecute program (ofExcept (look program right)) right)
  rw [ofContent.eq related]
  exact carries_ofExcept _ carries related

theorem carries_returnReference (reference : Int) :
    (returnReference reference).Carries faithful relation program :=
  (carries_check fun _ _ => rfl).bind carries_setGlobals

theorem carries_returnText (text : String) :
    (returnText text).Carries faithful relation program :=
  (carries_look fun _ _ => rfl).bind fun (reference, strings) =>
    (carries_setStrings strings).bind fun _ =>
      (carries_returnReference reference).bind fun _ => carries_done reference

theorem carries_textArgument (index : Nat) :
    (textArgument index).Carries faithful relation program :=
  (carries_check fun _ _ => rfl).bind fun _ => carries_check fun _ _ => rfl

end Content

end Native

/-! ### The standard builtins -/

namespace Builtins

open Native

variable {faithful : Prop} {relation : Machine → Machine → Prop} {program : Program}

section Content

variable [Parallel relation]

theorem carries_joinTexts (index count : Nat) :
    (joinTexts index count).Carries faithful relation program := by
  induction count generalizing index with
  | zero => exact carries_done ""
  | succ count inductionHypothesis =>
    exact (carries_textArgument index).bind fun text =>
      (inductionHypothesis (index + 1)).bind fun rest => carries_done (text ++ rest)

theorem carries_argumentText : argumentText.Carries faithful (Exact relation) program :=
  (carries_ask fun both => both.2).bind fun count => carries_joinTexts 0 count

theorem ofContent_describeEntity (entity : Int) :
    OfContent fun machine => describeEntity program machine entity := fun _ _ => rfl

end Content

variable [Synchronous faithful relation]

theorem carries_print (text : String) :
    (Native.print text).Carries faithful relation program :=
  carries_modify fun related => Synchronous.noting faithful (.printed text) related

/-- Where an entity is created under a limit, the same one is created under a larger limit. -/
theorem spawn_of_limit_le {store after : EntityStore} {entity : Int} {limit : Nat}
    (larger : store.limit ≤ limit) (spawned : store.spawn = .ok (entity, after)) :
    { store with limit }.spawn = .ok (entity, { after with limit }) ∧
      after.limit = store.limit := by
  have sameFree : { store with limit }.firstFree? = store.firstFree? := rfl
  unfold EntityStore.spawn at spawned ⊢
  rw [sameFree]
  cases free : store.firstFree? with
  | some number =>
    rw [free] at spawned
    cases spawned
    exact ⟨rfl, rfl⟩
  | none =>
    rw [free] at spawned
    dsimp only at spawned ⊢
    split at spawned
    · cases spawned
    · next room =>
      cases spawned
      exact ⟨if_neg fun full => room (Nat.le_trans larger full), rfl⟩

/-- Creating an entity is refused only by a limit. -/
theorem carries_spawn : spawn.Carries faithful relation program := by
  have form (execute : Executor) (machine : Machine) :
      perform execute program spawn machine =
        match machine.entities.spawn with
        | .ok (entity, entities) =>
          perform execute program (returnReference entity) { machine with entities }
        | .error fault => some (.error fault, machine) := by
    unfold spawn
    rw [perform_bind]
    show (perform execute program (ofExcept machine.entities.spawn) machine).bind _ = _
    cases machine.entities.spawn <;> rfl
  intro leftExecute rightExecute carries left right related
  have store := Parallel.entities_eq related
  rw [form, form]
  cases spawned : left.entities.spawn with
  | ok created =>
    obtain ⟨entity, entities⟩ := created
    have larger : left.entities.limit ≤ right.entities.limit :=
      (Synchronous.within faithful related).records
    obtain ⟨spawnedToo, limit⟩ := spawn_of_limit_le larger spawned
    rw [← store] at spawnedToo
    rw [spawnedToo]
    have changed := Parallel.entities related entities
    rw [← limit] at changed
    exact carries_returnReference entity carries changed
  | error fault =>
    by_cases isFaithful : faithful
    · have limit : right.entities.limit = left.entities.limit :=
        congrArg Limits.records (Synchronous.exact isFaithful related)
      rw [store, limit, spawned]
      exact .same related
    · exact .excused isFaithful ⟨fault, rfl⟩

omit [Synchronous faithful relation] in
theorem unlimited_removeSelf (entity? : Option Int) :
    EntityStore.Unlimited fun store =>
      .ok (match entity? with
        | some entity =>
          if 0 < entity then (store.remove entity).toOption.getD store else store
        | none => store) := by
  intro store limit
  cases entity? with
  | none => rfl
  | some entity =>
    dsimp only
    split
    · have removed := EntityStore.unlimited_remove entity store limit
      dsimp only at removed
      rw [removed]
      cases store.remove entity <;> rfl
    · rfl

omit [Synchronous faithful relation] in
/-- Removing `self`, if it can be removed, is a change of the entities. -/
theorem carries_removeSelf [Parallel relation] :
    (ask (fun program machine =>
      match selfEntity? program machine with
      | some entity =>
        if 0 < entity then (machine.entities.remove entity).toOption.getD machine.entities
        else machine.entities
      | none => machine.entities) >>= setEntities).Carries faithful relation program := by
  have ofContent : OfContent (selfEntity? program) := fun _ _ => rfl
  intro leftExecute rightExecute carries left right related
  have same := ofContent.eq related
  have changed : Matched faithful relation _ _ :=
    Action.carries_changeEntities (unlimited_removeSelf (selfEntity? program left)) related
  unfold Action.outcome Action.changeEntities at changed
  rw [perform_bind, perform_bind]
  show Matched faithful relation (some (Except.ok (), { left with entities := _ }))
    (some (Except.ok (), { right with entities := _ }))
  dsimp only
  rw [same]
  exact changed

theorem carries_announce (heading : String) :
    (announce heading).Carries faithful (Exact relation) program := by
  refine Carries.bind carries_argumentText fun message => ?_
  refine Carries.bind (carries_look fun _ _ => rfl) fun function => ?_
  refine Carries.bind (carries_look fun _ _ => rfl) fun fields => ?_
  exact (carries_print _).bind fun _ => carries_done _

theorem carries_standard {builtin : Builtin} (member : builtin ∈ standard) :
    builtin.script.Carries faithful (Exact relation) program := by
  simp only [standard, List.mem_cons, List.not_mem_nil, or_false] at member
  rcases member with rfl | rfl | rfl | rfl | rfl | rfl | rfl | rfl | rfl | rfl | rfl | rfl | rfl |
    rfl
  · exact (carries_announce _).bind fun _ => carries_fail _
  · refine Carries.bind (carries_announce _) fun parts => ?_
    obtain ⟨function, message⟩ := parts
    dsimp only
    rw [← LawfulMonad.bind_assoc]
    exact carries_removeSelf.bind fun _ => carries_fail _
  · exact carries_spawn
  · exact (carries_check fun _ _ => rfl).bind fun entity =>
      carries_changeEntities (EntityStore.unlimited_remove entity)
  · exact carries_argumentText.bind carries_print
  · exact (carries_check fun _ _ => rfl).bind fun _ =>
      (carries_returnText _).bind fun _ => carries_done ()
  · exact (carries_check fun _ _ => rfl).bind fun _ =>
      (carries_returnText _).bind fun _ => carries_done ()
  · exact carries_modify fun related => Synchronous.noting faithful (.tracing true) related
  · exact carries_modify fun related => Synchronous.noting faithful (.tracing false) related
  · exact (carries_check fun _ _ => rfl).bind fun entity =>
      (carries_check (ofContent_describeEntity entity)).bind carries_print
  · exact (carries_check fun _ _ => rfl).bind fun _ =>
      (carries_look fun _ _ => rfl).bind fun _ => carries_returnReference _
  · exact (carries_check fun _ _ => rfl).bind fun _ =>
      (carries_returnText _).bind fun _ => carries_done ()
  · exact (carries_textArgument 0).bind fun _ =>
      (carries_check fun _ _ => rfl).bind carries_setGlobals
  · exact carries_argumentText.bind fun _ => (carries_returnText _).bind fun _ => carries_done ()

/-- The standard builtins that a program declares may be added to any table. -/
theorem carry_install {declaring : Program} {table : BuiltinTable}
    (others : table.Carry faithful relation program) :
    (install declaring table).Carry faithful relation program :=
  every_install _ (fun _ => carries_standard) others

theorem carry_installClassic {table : BuiltinTable}
    (others : table.Carry faithful relation program) :
    (installClassic table).Carry faithful relation program :=
  every_installClassic _ (fun _ => carries_standard) others

end Builtins

end Gamecode
