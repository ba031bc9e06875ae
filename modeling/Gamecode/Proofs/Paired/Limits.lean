/-
This file proves that larger limits never change a run that succeeds. The limits on frames, saved
slots, entities and statements are asked at different places, but each of them only decides whether
the run is given up. So a run that was not given up goes on alike under larger limits, up to its
end.
-/

import Gamecode.Proofs.Calls.Reachable
import Gamecode.Proofs.Paired.Builtins

namespace Gamecode

/-! ### Tables of standard builtins -/

/-- Every builtin of the table is a standard one, whatever its number. -/
def BuiltinTable.AllStandard (table : BuiltinTable) : Prop :=
  table.Every fun script => ∃ builtin ∈ Builtins.standard, builtin.script = script

/-- What all standard builtins have, the builtins of such a table have. -/
theorem BuiltinTable.AllStandard.every {table : BuiltinTable} {property : Native Unit → Prop}
    (standard : table.AllStandard)
    (each : ∀ builtin ∈ Builtins.standard, property builtin.script) : table.Every property := by
  intro number builtin offered
  obtain ⟨original, member, same⟩ := standard number builtin offered
  rw [← same]
  exact each original member

theorem Builtins.allStandard_empty : BuiltinTable.empty.AllStandard :=
  every_empty _

theorem Builtins.allStandard_install {declaring : Program} {table : BuiltinTable}
    (others : table.AllStandard) : (install declaring table).AllStandard :=
  every_install _ (fun builtin member => ⟨builtin, member, rfl⟩) others

theorem Builtins.allStandard_installClassic {table : BuiltinTable} (others : table.AllStandard) :
    (installClassic table).AllStandard :=
  every_installClassic _ (fun builtin member => ⟨builtin, member, rfl⟩) others

/-! ### Larger limits -/

/-- The second configuration is the first one with limits that are no smaller. Without a bound on
statements there may be any number of them. -/
structure Configuration.Widens (narrow wide : Configuration) : Prop where
  maxDepth : narrow.maxDepth ≤ wide.maxDepth
  localStackSize : narrow.localStackSize ≤ wide.localStackSize
  maxEntities : narrow.maxEntities ≤ wide.maxEntities
  runawayLimit : ∀ limit, wide.runawayLimit = some limit →
    ∃ fewer, narrow.runawayLimit = some fewer ∧ fewer ≤ limit
  temporaryStrings : wide.temporaryStrings = narrow.temporaryStrings
  reservedEntities : wide.reservedEntities = narrow.reservedEntities
  stateInterval : wide.stateInterval = narrow.stateInterval
  protectWorld : wide.protectWorld = narrow.protectWorld

theorem Configuration.Widens.admits {narrow wide : Configuration} (widens : narrow.Widens wide) :
    narrow.Admits False wide where
  interval_eq := widens.stateInterval
  protect_eq := widens.protectWorld
  guard executed refused := by
    obtain ⟨limit, same, exceeded⟩ := (Option.any_eq_true _ _).mp refused
    obtain ⟨fewer, bound, le⟩ := widens.runawayLimit limit same
    rw [decide_eq_true_eq] at exceeded
    rw [bound, Option.any_some, decide_eq_true_eq]
    exact Nat.lt_of_le_of_lt le exceeded
  exact := False.elim

namespace Machine

/-- The machine as it is under the limits of a configuration. -/
def under (configuration : Configuration) (machine : Machine) : Machine :=
  { machine with
    stack := { machine.stack with
      depthLimit := configuration.maxDepth
      savedLimit := configuration.localStackSize }
    entities := { machine.entities with limit := max configuration.maxEntities 1 } }

/-- One machine under two configurations. -/
def UnderBoth (narrow wide : Configuration) (left right : Machine) : Prop :=
  left.under narrow = left ∧ right = left.under wide

theorem underBoth (narrow wide : Configuration) (machine : Machine) :
    UnderBoth narrow wide (machine.under narrow) (machine.under wide) := ⟨rfl, rfl⟩

/-- The limits are the only difference, and nothing but comparing with them depends on it. -/
theorem synchronous_underBoth {narrow wide : Configuration} (widens : narrow.Widens wide) :
    Synchronous False (UnderBoth narrow wide) where
  content_eq := by
    rintro left _ ⟨-, rfl⟩
    rfl
  holding := by
    rintro left _ ⟨limited, rfl⟩ content
    exact ⟨congrArg (fun machine => machine.holding content) limited, rfl⟩
  within := by
    rintro left _ ⟨limited, rfl⟩
    have records : max narrow.maxEntities 1 ≤ max wide.maxEntities 1 := by
      have le := widens.maxEntities
      omega
    rw [← limited]
    exact ⟨widens.maxDepth, widens.localStackSize, records⟩
  exact := False.elim
  executed_eq := by
    rintro left _ ⟨-, rfl⟩
    rfl
  noting := by
    rintro note noted left _ ⟨limited, rfl⟩
    have stillLimited := congrArg note limited
    cases noted <;> exact ⟨stillLimited, rfl⟩
  restored := by
    rintro left _ before _ ⟨limited, rfl⟩ ⟨-, rfl⟩
    exact ⟨congrArg (fun machine => { machine with argumentCount := before.argumentCount }) limited,
      rfl⟩

/-! ### Runs that succeed -/

variable {program : Program} {narrow wide : Configuration} {builtins : BuiltinTable}
  {machine : Machine}

theorem carry_of_allStandard (standard : builtins.AllStandard) (widens : narrow.Widens wide) :
    builtins.Carry False (UnderBoth narrow wide) program := by
  have := synchronous_underBoth widens
  exact standard.every fun _ member => Builtins.carries_standard member

/-- Larger limits never change a call that succeeds. In a machine that is under the larger limits,
and is otherwise the same, it succeeds too, with the same result, and it leaves the same machine but
for the limits: the same globals, strings, entities, console and counters. -/
theorem succeeds_under_wider_limits (standard : builtins.AllStandard) (widens : narrow.Widens wide)
    (budget : Nat) (machine : Machine) :
    (∀ function arguments value after,
      call ⟨program, narrow, builtins⟩ budget function arguments (machine.under narrow) =
          some (.ok value, after) →
        call ⟨program, wide, builtins⟩ budget function arguments (machine.under wide) =
          some (.ok value, after.under wide)) ∧
      (∀ name arguments value after,
        callNamed ⟨program, narrow, builtins⟩ budget name arguments (machine.under narrow) =
            some (.ok value, after) →
          callNamed ⟨program, wide, builtins⟩ budget name arguments (machine.under wide) =
            some (.ok value, after.under wide)) ∧
      ∀ function after,
        invoke ⟨program, narrow, builtins⟩ budget function (machine.under narrow) =
            some (.ok (), after) →
          invoke ⟨program, wide, builtins⟩ budget function (machine.under wide) =
            some (.ok (), after.under wide) := by
  have := synchronous_underBoth widens
  have admits := widens.admits
  have carry : builtins.Carry False (UnderBoth narrow wide) program :=
    carry_of_allStandard standard widens
  have related := underBoth narrow wide machine
  refine ⟨fun function arguments value after succeeds => ?_,
    fun name arguments value after succeeds => ?_, fun function after succeeds => ?_⟩
  · obtain ⟨other, same, both⟩ :=
      (matched_call admits carry budget function arguments related).of_not_failed succeeds
        (not_failed_ok value)
    rw [same, both.2]
  · obtain ⟨other, same, both⟩ :=
      (matched_callNamed admits carry budget name arguments related).of_not_failed succeeds
        (not_failed_ok value)
    rw [same, both.2]
  · obtain ⟨other, same, both⟩ :=
      (matched_invoke admits carry budget function related).of_not_failed succeeds
        (not_failed_ok ())
    rw [same, both.2]

end Machine

/-! ### A program at its limits -/

namespace Sample

/-- Function 1 calls function 3, and that creates an entity. -/
def breeding : Program :=
  { header :=
      { version := 6
        checksum := 0
        statements := ⟨60, 5⟩
        globalDefinitions := ⟨100, 0⟩
        fieldDefinitions := ⟨100, 0⟩
        functions := ⟨100, 4⟩
        strings := ⟨244, 1⟩
        globals := ⟨245, 31⟩
        entityFields := 1 }
    statements := #[⟨0, 0, 0, 0⟩, ⟨51, 28, 0, 0⟩, ⟨0, 0, 0, 0⟩, ⟨51, 29, 0, 0⟩, ⟨0, 0, 0, 0⟩]
    globalDefinitions := #[]
    fieldDefinitions := #[]
    functions := #[⟨0, 0, 0, 0, 0, 0, [], false⟩, function 1 30 1 [], function (-14) 0 0 [],
      function 3 30 1 []]
    strings := #[0]
    globals := Array.replicate 28 0 ++ #[3, 2, 0]
    entityFields := 1 }

/-- Two functions at a time, a saved slot for each, one entity besides the world, and four
statements. -/
def tight : Configuration :=
  { Configuration.standard with
    maxDepth := 2
    localStackSize := 2
    runawayLimit := some 4
    maxEntities := 2 }

def classic : BuiltinTable :=
  Builtins.installClassic .empty

end Sample

namespace Machine

theorem succeeds_under_wider_limits_breeding :
    Sample.classic.AllStandard ∧ Sample.tight.Widens .standard ∧
      ∃ value after,
        call ⟨Sample.breeding, Sample.tight, Sample.classic⟩ 9 1 []
            ((create Sample.breeding Sample.tight).under Sample.tight) = some (.ok value, after) ∧
          after.entities.count = 2 ∧
          call ⟨Sample.breeding, .standard, Sample.classic⟩ 9 1 []
              ((create Sample.breeding Sample.tight).under .standard) =
            some (.ok value, after.under .standard) := by
  have standard : Sample.classic.AllStandard :=
    Builtins.allStandard_installClassic Builtins.allStandard_empty
  have widens : Sample.tight.Widens .standard :=
    ⟨by decide, by decide, by decide, nofun, rfl, rfl, rfl, rfl⟩
  have runs : (call ⟨Sample.breeding, Sample.tight, Sample.classic⟩ 9 1 []
      ((create Sample.breeding Sample.tight).under Sample.tight)).map (fun outcome =>
        (outcome.1.toOption, outcome.2.entities.count)) = some (some .zero, 2) := by
    decide +kernel
  obtain ⟨⟨result, after⟩, ends, seen⟩ := Option.map_eq_some_iff.mp runs
  obtain ⟨returned, count⟩ := Prod.mk.inj seen
  cases result with
  | error report => cases returned
  | ok value =>
    obtain ⟨called, -, -⟩ := succeeds_under_wider_limits standard widens 9
      (create Sample.breeding Sample.tight)
    exact ⟨standard, widens, value, after, ends, count, called 1 [] value after ends⟩

end Machine

end Gamecode
