/-
This file says what it is worth to protect the world. The protection only refuses pointers into the
record of the world that a program asks for. It does not look at writes: one through a number that
happens to be such a pointer, or a state change of an entity that is the world, is made as if there
were no protection. A run in which no statement aims at the world leaves its record alone.
-/

import Gamecode.Proofs.Calls.History
import Gamecode.Proofs.Calls.Reachable
import Gamecode.Proofs.Storage.Footprint
import Gamecode.Proofs.Storage.Pointers

namespace Gamecode

/-! ### Writes that aim at the world -/

/-- The pointers through which a statement writes to entities. -/
def Statement.pointers (program : Program) (interval : Slot) (machine : Machine)
    (statement : Statement) : List Int :=
  match statement.operation with
  | .ok (.storeThrough _) => (machine.reference statement.b.toNat).toOption.toList
  | .ok .state =>
    ((machine.stateWrites program interval statement.a.toNat statement.b.toNat).toOption.getD
      []).map Prod.fst
  | _ => []

/-- A pointer leads into the record of the world. -/
def EntityStore.InWorld (store : EntityStore) (pointer : Int) : Prop :=
  0 ≤ pointer ∧ pointer < store.stride

instance (store : EntityStore) (pointer : Int) : Decidable (store.InWorld pointer) :=
  inferInstanceAs (Decidable (_ ∧ _))

/-- A statement writes through a pointer into the record of the world. -/
def Statement.AimsAtWorld (environment : Environment) (machine : Machine) (statement : Statement) :
    Prop :=
  ∃ pointer ∈
      statement.pointers environment.program environment.configuration.stateInterval machine,
    machine.entities.InWorld pointer

instance (environment : Environment) (machine : Machine) (statement : Statement) :
    Decidable (statement.AimsAtWorld environment machine) :=
  inferInstanceAs (Decidable (∃ pointer ∈ statement.pointers _ _ _, _))

/-- A statement is executed that aims at the world. -/
def Event.AimsAtWorld (environment : Environment) : Event → Prop
  | .executed _ statement machine => statement.AimsAtWorld environment machine
  | .counted | .arguments _ | .restarted => False

instance (environment : Environment) (event : Event) :
    Decidable (event.AimsAtWorld environment) :=
  match event with
  | .executed _ statement machine =>
    inferInstanceAs (Decidable (statement.AimsAtWorld environment machine))
  | .counted | .arguments _ | .restarted => inferInstanceAs (Decidable False)

namespace Machine

/-! ### Changes that keep the world -/

/-- The entities still hold one record after the other, and the record of the world is the same. -/
def KeepsWorld (before after : Machine) : Prop :=
  before.entities.Sound →
    after.entities.Sound ∧ after.entities.record 0 = before.entities.record 0

variable {machine : Machine} {entities : EntityStore} {entity : Int}

theorem keepsWorld_of_eq {after : Machine} (same : after.entities = machine.entities) :
    machine.KeepsWorld after := by
  unfold KeepsWorld
  rw [same]
  exact fun sound => ⟨sound, rfl⟩

instance : IsPreorder Machine KeepsWorld where
  refl _ := keepsWorld_of_eq rfl
  trans _ _ _ first second sound :=
    have ⟨middleSound, middleSame⟩ := first sound
    have ⟨lastSound, lastSame⟩ := second middleSound
    ⟨lastSound, lastSame.trans middleSame⟩

instance : AllowsFrames KeepsWorld where
  globals _ := keepsWorld_of_eq rfl
  stack _ _ _ := keepsWorld_of_eq rfl
  profiled _ _ := keepsWorld_of_eq rfl

/-- An entity that is handed out is not the world. -/
theorem keepsWorld_of_spawn (done : machine.entities.spawn = .ok (entity, entities)) :
    machine.KeepsWorld { machine with entities } := by
  intro sound
  refine ⟨sound.spawn done, ?_⟩
  have positive := sound.count_pos
  rcases EntityStore.spawn_cases done with ⟨number, found, rfl, rfl⟩ | ⟨-, -, rfl, rfl⟩
  · exact (EntityStore.agreesExcept_recycle machine.entities number false 0
      (Nat.ne_of_lt (sound.firstFree_bounds found).1) positive).1
  · exact (sound.agreesExcept_growTo (Nat.le_max_left _ _) 0 (by omega) positive).1

/-- The world cannot be removed. -/
theorem keepsWorld_of_remove (done : machine.entities.remove entity = .ok entities) :
    machine.KeepsWorld { machine with entities } := by
  intro sound
  refine ⟨sound.remove done, ?_⟩
  obtain ⟨number, -, positive, -, rfl⟩ := EntityStore.remove_eq_ok_iff.mp done
  exact (EntityStore.agreesExcept_recycle machine.entities number true 0 (Nat.ne_of_lt positive)
    sound.count_pos).1

instance : Builtins.Allowed KeepsWorld where
  temporary _ _ := keepsWorld_of_eq rfl
  spawned := keepsWorld_of_spawn
  removed := keepsWorld_of_remove
  printed _ _ := keepsWorld_of_eq rfl
  traced _ _ := keepsWorld_of_eq rfl

/-- A write that does not start in the record of the world does not reach it. -/
theorem keepsWorld_of_write {pointer : Int} {values : List Slot}
    (apart : ¬ machine.entities.InWorld pointer)
    (written : machine.entities.write pointer values = .ok entities) :
    machine.KeepsWorld { machine with entities } := by
  obtain ⟨checked, rfl⟩ := EntityStore.write_eq_ok written
  have natural := (EntityStore.eq_toNat_of_checkPointer checked).2
  have behind : machine.entities.stride ≤ pointer.toNat := by
    unfold EntityStore.InWorld at apart
    omega
  intro sound
  refine ⟨sound.of_size (Cells.size_put _ _ _), ?_⟩
  have same := @Cells.window_put_other machine.entities.slots pointer.toNat
    (0 * machine.entities.stride) machine.entities.stride values (by omega)
  exact (EntityStore.record_of_slots sound.count_pos _).trans
    ((congrArg Except.ok same).trans (EntityStore.record_natCast sound.count_pos).symm)

theorem keepsWorld_writeEntities {pointer : Int} (values : List Slot)
    (apart : ¬ machine.entities.InWorld pointer) :
    machine.KeepsWorld
      ((Action.changeEntities fun entities => entities.write pointer values).leaves machine) := by
  unfold Action.leaves Action.changeEntities
  dsimp only
  cases written : machine.entities.write pointer values with
  | error fault => exact keepsWorld_of_eq rfl
  | ok entities => exact keepsWorld_of_write apart written

/-- Writes of which none starts in the record of the world do not reach it. -/
theorem keepsWorld_forM_write {writes : List (Int × Slot)}
    (apart : ∀ pointer ∈ writes.map Prod.fst, ¬ machine.entities.InWorld pointer) :
    machine.KeepsWorld ((writes.forM fun (pointer, value) =>
      Action.changeEntities fun entities => entities.write pointer [value]).leaves machine) := by
  induction writes generalizing machine with
  | nil => exact keepsWorld_of_eq rfl
  | cons first rest inductionHypothesis =>
    obtain ⟨pointer, value⟩ := first
    rw [List.map_cons, List.forall_mem_cons] at apart
    unfold Action.leaves
    rw [Action.forM_cons_apply]
    dsimp only [Action.changeEntities]
    cases written : machine.entities.write pointer [value] with
    | error fault => exact keepsWorld_of_eq rfl
    | ok entities =>
      have same : entities.stride = machine.entities.stride := by
        obtain ⟨-, rfl⟩ := EntityStore.write_eq_ok written
        rfl
      refine trans_of KeepsWorld (keepsWorld_of_write apart.1 written) (inductionHypothesis ?_)
      intro other member
      have passed := apart.2 other member
      unfold EntityStore.InWorld at passed ⊢
      rwa [same]

/-! ### Statements -/

variable {environment : Environment} {index : Nat} {statement : Statement}

theorem keepsWorld_changeState {program : Program} {interval : Slot} {a b : Nat}
    (apart : ∀ writes, machine.stateWrites program interval a b = .ok writes →
      ∀ pointer ∈ writes.map Prod.fst, ¬ machine.entities.InWorld pointer) :
    machine.KeepsWorld ((changeState program interval a b).leaves machine) := by
  rw [changeState, Action.leaves_inspect_bind]
  cases found : machine.stateWrites program interval a b with
  | error fault => exact keepsWorld_of_eq rfl
  | ok writes => exact keepsWorld_forM_write (apart writes found)

theorem keepsWorld_step_of_storeThrough {kind : Storable}
    (decoded : statement.operation = .ok (.storeThrough kind))
    (apart : ∀ pointer, machine.reference statement.b.toNat = .ok pointer →
      ¬ machine.entities.InWorld pointer) :
    machine.KeepsWorld ((step environment.program environment.configuration index statement).leaves
      machine) := by
  unfold step
  rw [Action.inspect_of_ok decoded, pure_bind]
  dsimp only
  rw [Action.leaves_inspect_bind]
  cases read : machine.reference statement.b.toNat with
  | error fault => exact keepsWorld_of_eq rfl
  | ok pointer =>
    dsimp only
    rw [Action.leaves_inspect_bind]
    cases machine.globals.slice statement.a.toNat kind.width with
    | error fault => exact keepsWorld_of_eq rfl
    | ok values =>
      dsimp only
      rw [Action.leaves_bind_pure]
      exact keepsWorld_writeEntities values (apart pointer read)

/-- A statement that does not aim at the world leaves its record alone. -/
theorem keepsWorld_step (misses : ¬ statement.AimsAtWorld environment machine) :
    machine.KeepsWorld ((step environment.program environment.configuration index statement).leaves
      machine) := by
  have apart : ∀ pointer ∈ statement.pointers environment.program
      environment.configuration.stateInterval machine, ¬ machine.entities.InWorld pointer :=
    fun pointer member inside => misses ⟨pointer, member, inside⟩
  unfold Statement.pointers at apart
  cases decoded : statement.operation with
  | error fault =>
    unfold step
    rw [Action.leaves_inspect_bind, decoded]
    exact keepsWorld_of_eq rfl
  | ok operation =>
    rw [decoded] at apart
    cases operation with
    | storeThrough kind =>
      refine keepsWorld_step_of_storeThrough decoded fun pointer read => apart pointer ?_
      dsimp only
      rw [read]
      exact List.mem_cons_self
    | state =>
      unfold step
      rw [Action.inspect_of_ok decoded, pure_bind]
      dsimp only at apart ⊢
      rw [Action.leaves_bind_pure]
      refine keepsWorld_changeState fun writes found => ?_
      rw [found] at apart
      exact apart
    | call arguments =>
      unfold step
      rw [Action.inspect_of_ok decoded, pure_bind]
      exact keeps_callFunction environment.program _ _ machine
    | _ => exact keeps_step_of_globals decoded nofun nofun nofun machine

/-- A statement that stores through a pointer into the record of the world does so, protected or
not. -/
theorem overwrites_of_storeThrough {kind : Storable} {pointer : Int} {values : List Slot}
    {flow : Flow} {after : Machine} (sound : machine.entities.Sound)
    (decoded : statement.operation = .ok (.storeThrough kind))
    (read : machine.reference statement.b.toNat = .ok pointer)
    (fetched : machine.globals.slice statement.a.toNat kind.width = .ok values)
    (inside : machine.entities.InWorld pointer)
    (done : step environment.program environment.configuration index statement machine =
      .ok flow after) :
    EntityStore.Overwrites 0 pointer.toNat values machine.entities after.entities := by
  unfold step at done
  rw [Action.inspect_of_ok decoded, pure_bind] at done
  dsimp only at done
  rw [Action.bind_apply, Action.inspect_apply read] at done
  dsimp only at done
  rw [Action.bind_apply, Action.inspect_apply fetched] at done
  dsimp only at done
  rw [Action.bind_apply, Action.changeEntities] at done
  cases written : machine.entities.write pointer values with
  | error fault =>
    rw [written] at done
    cases done
  | ok entities =>
    rw [written] at done
    cases done
    obtain ⟨checked, rfl⟩ := EntityStore.write_eq_ok written
    have narrow : values.length ≤ 3 := by
      rw [Globals.length_of_slice fetched]
      cases kind <;> decide
    obtain ⟨-, -, together⟩ :=
      EntityStore.checkPointer_eq_ok (lt_of_reference read) (by omega) checked
    obtain ⟨natural, below⟩ := inside
    have offset : pointer.toNat % machine.entities.stride = pointer.toNat :=
      Nat.mod_eq_of_lt (by omega)
    rw [offset] at together
    have leads : machine.entities.PointsInto pointer values.length 0 pointer.toNat :=
      ⟨sound.count_pos, together (by omega), by omega⟩
    exact leads.overwrites sound

/-! ### The protection -/

variable {program : Program} {configuration : Configuration}

/-- Asking for a pointer is the only operation that the protection concerns. -/
theorem step_of_address (decoded : statement.operation = .ok .address) :
    step program configuration index statement machine =
      match machine.fieldAddress configuration.protectWorld statement.a.toNat statement.b.toNat with
      | .error fault => .error fault machine
      | .ok values =>
        ((Action.changeGlobals fun globals => globals.write statement.c.toNat values) >>= fun _ =>
          pure Flow.next) machine := by
  unfold step
  rw [Action.inspect_of_ok decoded, pure_bind]
  dsimp only
  rw [Action.bind_apply, Action.bind_apply, Action.get_apply]
  dsimp only [Action.pure_apply, computed?]
  rw [Action.bind_apply, Action.inspect]
  cases machine.fieldAddress configuration.protectWorld statement.a.toNat statement.b.toNat <;> rfl

theorem fieldAddress_of_ne {a : Nat} (other : machine.reference a ≠ .ok 0) (protectWorld : Bool)
    (b : Nat) : machine.fieldAddress protectWorld a b = machine.fieldAddress false a b := by
  unfold fieldAddress
  cases read : machine.reference a with
  | error fault => rfl
  | ok entity =>
    have nonzero : ¬ entity = 0 := fun zero => other (zero ▸ read)
    dsimp only [bind, Except.bind]
    rw [decide_eq_false nonzero, Bool.false_and, Bool.false_and]

theorem step_unprotected
    (other : ¬ (statement.operation = .ok .address ∧ machine.reference statement.a.toNat = .ok 0)) :
    step program configuration index statement machine =
      step program { configuration with protectWorld := false } index statement machine := by
  cases decoded : statement.operation with
  | error fault =>
    unfold step
    rw [Action.bind_apply, Action.bind_apply, Action.inspect, decoded]
  | ok operation =>
    cases operation with
    | address =>
      rw [step_of_address decoded, step_of_address decoded,
        fieldAddress_of_ne (fun world => other ⟨decoded, world⟩)]
    | _ =>
      unfold step
      rw [Action.inspect_of_ok decoded]
      rfl

/-- Asking for a pointer into the protected world fails. -/
theorem step_protected (protects : configuration.protectWorld = true)
    (decoded : statement.operation = .ok .address)
    (world : machine.reference statement.a.toNat = .ok 0) :
    step program configuration index statement machine = .error .worldAssignment machine := by
  rw [step_of_address decoded, fieldAddress, world, protects]
  rfl

/-! ### Runs -/

/-- The world keeps its record if no statement of a history aims at it. -/
def LeavesWorld (environment : Environment) (history : List Event)
    (before after : Machine) : Prop :=
  (∀ event ∈ history, ¬ event.AimsAtWorld environment) → before.KeepsWorld after

theorem follows_leavesWorld
    (builtins : environment.builtins.KeepByThemselves KeepsWorld environment.program) :
    Follows (LeavesWorld environment) environment where
  nothing machine _ := refl_of KeepsWorld machine
  append first second misses := by
    rw [List.forall_mem_append] at misses
    exact trans_of KeepsWorld (first misses.1) (second misses.2)
  begin index statement machine _ := by
    obtain ⟨profile, traced, left⟩ := leaves_begin environment index statement machine
    rw [left]
    exact keepsWorld_of_eq rfl
  step _ _ _ misses := keepsWorld_step (misses _ List.mem_cons_self)
  enter function machine _ := keeps_enter environment.program function machine
  leave machine _ := keeps_leave machine
  stage arguments index machine _ := keeps_stageArguments arguments index machine
  cleared _ _ := keepsWorld_of_eq rfl
  restated _ _ _ := keepsWorld_of_eq rfl
  arguments _ _ _ _ _ := keepsWorld_of_eq rfl
  restarted _ _ := keepsWorld_of_eq rfl
  builtins number builtin offered machine :=
    (builtins number builtin offered machine).mono fun kept _ => kept

/-- What the protection of the world comes to. A program that asks for a pointer into the record of
the world is refused; every other statement does what it would do without protection, and stores
through a pointer into the record that the program found somewhere. What leaves the record alone are
statements that do not aim at it, and runs of such statements. -/
structure GuardsWorld (environment : Environment) : Prop where
  refused : ∀ index statement machine, Statement.operation statement = .ok .address →
    machine.reference statement.a.toNat = .ok 0 →
      step environment.program environment.configuration index statement machine =
        .error .worldAssignment machine
  otherwise : ∀ index statement machine,
    ¬ (Statement.operation statement = .ok .address ∧ machine.reference statement.a.toNat = .ok 0) →
      step environment.program environment.configuration index statement machine =
        step environment.program { environment.configuration with protectWorld := false } index
          statement machine
  stored : ∀ index statement machine kind pointer values flow after, machine.entities.Sound →
    Statement.operation statement = .ok (.storeThrough kind) →
    machine.reference statement.b.toNat = .ok pointer →
    machine.globals.slice statement.a.toNat kind.width = .ok values →
    machine.entities.InWorld pointer →
    step environment.program environment.configuration index statement machine = .ok flow after →
      EntityStore.Overwrites 0 pointer.toNat values machine.entities after.entities
  missed : ∀ index statement machine, machine.entities.Sound →
    ¬ Statement.AimsAtWorld environment machine statement →
      ((step environment.program environment.configuration index statement).leaves
        machine).entities.record 0 = machine.entities.record 0
  invoked : ∀ budget function machine result after, machine.entities.Sound →
    (∀ event ∈ historyOfInvoke environment budget function machine,
      ¬ event.AimsAtWorld environment) →
    invoke environment budget function machine = some (result, after) →
      after.entities.record 0 = machine.entities.record 0
  called : ∀ budget function arguments machine result after, machine.entities.Sound →
    (∀ event ∈ historyOfCall environment budget function arguments machine,
      ¬ event.AimsAtWorld environment) →
    call environment budget function arguments machine = some (result, after) →
      after.entities.record 0 = machine.entities.record 0

/-- Where the world is protected and no builtin changes it by itself, its record is safe from all
statements but those that aim at it. -/
theorem world_safe_unless_aimed_at (protects : environment.configuration.protectWorld = true)
    (builtins : environment.builtins.KeepByThemselves KeepsWorld environment.program) :
    GuardsWorld environment where
  refused _ _ _ decoded world := step_protected protects decoded world
  otherwise _ _ _ other := step_unprotected other
  stored _ _ _ _ _ _ _ _ sound decoded read fetched inside done :=
    overwrites_of_storeThrough sound decoded read fetched inside done
  missed _ _ _ sound misses := (keepsWorld_step misses sound).2
  invoked _ _ _ _ _ sound misses ends :=
    ((follows_leavesWorld builtins).invoke ends misses sound).2
  called _ _ _ _ _ _ sound misses ends :=
    ((follows_leavesWorld builtins).call ends misses sound).2

end Machine

/-! ### Two stores -/

namespace Sample

/-- Function 1 stores through a pointer to the first field of entity 1, function 2 through a slot
that nothing was ever assigned to. -/
def storing : Program :=
  { header :=
      { version := 6
        checksum := 0
        statements := ⟨60, 5⟩
        globalDefinitions := ⟨100, 0⟩
        fieldDefinitions := ⟨100, 0⟩
        functions := ⟨100, 3⟩
        strings := ⟨208, 1⟩
        globals := ⟨209, 31⟩
        entityFields := 2 }
    statements := #[⟨0, 0, 0, 0⟩, ⟨37, 28, 29, 0⟩, ⟨0, 0, 0, 0⟩, ⟨37, 28, 30, 0⟩, ⟨0, 0, 0, 0⟩]
    globalDefinitions := #[]
    fieldDefinitions := #[]
    functions := #[⟨0, 0, 0, 0, 0, 0, [], false⟩, function 1 28 0 [], function 3 28 0 []]
    strings := #[0]
    globals := Array.replicate 28 0 ++ #[5, 2, 0]
    entityFields := 2 }

/-- The world is protected, and the standard builtins are offered. -/
def guarded : Environment :=
  ⟨storing, { Configuration.standard with protectWorld := true }, Builtins.installClassic .empty⟩

/-- The machine after an entity was spawned. -/
def spawned : Machine :=
  let machine := Machine.create storing guarded.configuration
  { machine with entities := machine.entities.run [.spawn] }

theorem keepsWorld :
    guarded.builtins.KeepByThemselves Machine.KeepsWorld guarded.program :=
  Builtins.keepByThemselves_installClassic (Builtins.every_empty _)

end Sample

namespace Machine

/-- Function 1 stores into entity 1 and leaves the world alone. -/
theorem world_safe_unless_aimed_at_spawned :
    Sample.guarded.configuration.protectWorld = true ∧
      Sample.guarded.builtins.KeepByThemselves KeepsWorld Sample.guarded.program ∧
      ∃ result after, call Sample.guarded 9 1 [] Sample.spawned = some (result, after) ∧
        after.entities.slots = #[0, 0, 5, 0] ∧
        after.entities.record 0 = Sample.spawned.entities.record 0 := by
  have sound : Sample.spawned.entities.Sound := (EntityStore.Built.created.run _).sound
  have misses : ∀ event ∈ historyOfCall Sample.guarded 9 1 [] Sample.spawned,
      ¬ event.AimsAtWorld Sample.guarded := by decide +kernel
  have stores : (call Sample.guarded 9 1 [] Sample.spawned).map (fun outcome =>
      outcome.2.entities.slots) = some #[0, 0, 5, 0] := by decide +kernel
  obtain ⟨⟨result, after⟩, ends, slots⟩ := Option.map_eq_some_iff.mp stores
  have guards : GuardsWorld Sample.guarded := world_safe_unless_aimed_at rfl Sample.keepsWorld
  exact ⟨rfl, Sample.keepsWorld, result, after, ends, slots,
    guards.called 9 1 [] Sample.spawned result after sound misses ends⟩

/-- Function 2 stores into the protected world, and its call succeeds. -/
theorem protected_world_overwritten :
    Image.load (Image.save Sample.storing) .none = .ok Sample.storing ∧
      Sample.guarded.configuration.protectWorld = true ∧
      Sample.spawned.entities.slots = #[0, 0, 0, 0] ∧
      (call Sample.guarded 9 2 [] Sample.spawned).map (fun outcome =>
        (outcome.1.toOption, outcome.2.entities.slots)) =
          some (some .zero, #[5, 0, 0, 0]) := by
  refine ⟨Except.eq_ok_of_toOption ?_, rfl, by decide +kernel, by decide +kernel⟩
  simp only [Image.load, Image.readHeader, Image.readTables, Image.records, Image.lumpBytes,
    Array.toList_extract, List.extract_eq_take_drop]
  decide +kernel

end Machine

end Gamecode
