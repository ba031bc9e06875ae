/-
This file says which builtins respect a relation between machines. What such a builtin changes by
itself keeps the relation, provided that every function which it runs on the way keeps it as well.
The standard builtins do little by themselves, so a relation that allows this little is respected by
every table that is made of them. One such relation is that the active functions and the number of
global slots are the same: the only way for a builtin to the active functions is to run one.
-/

import Gamecode.Builtin.Standard
import Gamecode.Proofs.Action

namespace Gamecode

namespace Native

variable {α β : Type} {relation : Machine → Machine → Prop} {program : Program}

/-! ### Scripts that respect a relation -/

/-- Whatever the script changes by itself keeps the relation, and where the script ends with a
result the result is as wanted. The functions that it runs may do anything that keeps the relation.
-/
def Respects (relation : Machine → Machine → Prop) (program : Program) :
    Native α → (wanted : α → Machine → Prop) → Machine → Prop
  | .done value, wanted, machine => wanted value machine
  | .fail _, _, _ => True
  | .observe next, wanted, machine =>
    Respects relation program (next program machine) wanted machine
  | .change update next, wanted, machine =>
    relation machine (update machine) ∧ Respects relation program next wanted (update machine)
  | .invoke _ next, wanted, machine =>
    ∀ result after, relation machine after →
      Respects relation program (next result) wanted after
  | .call _ _ next, wanted, machine =>
    ∀ result after, relation machine after →
      Respects relation program (next result) wanted after

/-- Whatever the script changes by itself keeps the relation, whatever is done by the functions that
it runs. -/
def KeepsByItself (relation : Machine → Machine → Prop) (program : Program) :
    Native α → Machine → Prop
  | .done _, _ => True
  | .fail _, _ => True
  | .observe next, machine => KeepsByItself relation program (next program machine) machine
  | .change update next, machine =>
    relation machine (update machine) ∧ KeepsByItself relation program next (update machine)
  | .invoke _ next, _ => ∀ result after, KeepsByItself relation program (next result) after
  | .call _ _ next, _ => ∀ result after, KeepsByItself relation program (next result) after

/-- One script after the other respects what both of them respect. -/
theorem Respects.bind {script : Native α} {next : α → Native β} {wanted : β → Machine → Prop}
    {machine : Machine}
    (respects : script.Respects relation program
      (fun value after => (next value).Respects relation program wanted after) machine) :
    (script >>= next).Respects relation program wanted machine := by
  change (Native.bind script next).Respects relation program wanted machine
  induction script generalizing machine with
  | done value => exact respects
  | fail fault => exact trivial
  | observe look inductionHypothesis => exact inductionHypothesis _ _ respects
  | change update rest inductionHypothesis =>
    exact ⟨respects.1, inductionHypothesis respects.2⟩
  | invoke function rest inductionHypothesis =>
    exact fun result after kept => inductionHypothesis result (respects result after kept)
  | call function arguments rest inductionHypothesis =>
    exact fun result after kept => inductionHypothesis result (respects result after kept)

/-- Such scripts may follow each other. -/
theorem KeepsByItself.bind {script : Native α} {next : α → Native β} {machine : Machine}
    (first : script.KeepsByItself relation program machine)
    (second : ∀ value after, (next value).KeepsByItself relation program after) :
    (script >>= next).KeepsByItself relation program machine := by
  change (Native.bind script next).KeepsByItself relation program machine
  induction script generalizing machine with
  | done value => exact second value machine
  | fail fault => exact trivial
  | observe look inductionHypothesis => exact inductionHypothesis _ _ first
  | change update rest inductionHypothesis => exact ⟨first.1, inductionHypothesis first.2⟩
  | invoke function rest inductionHypothesis =>
    exact fun result after => inductionHypothesis result (first result after)
  | call function arguments rest inductionHypothesis =>
    exact fun result after => inductionHypothesis result (first result after)

/-- A script keeps by itself every wider relation. -/
theorem KeepsByItself.mono {wide : Machine → Machine → Prop} {script : Native α} {machine : Machine}
    (keeps : script.KeepsByItself relation program machine)
    (wider : ∀ {before after}, relation before after → wide before after) :
    script.KeepsByItself wide program machine := by
  induction script generalizing machine with
  | done value | fail fault => exact trivial
  | observe look inductionHypothesis => exact inductionHypothesis _ _ keeps
  | change update rest inductionHypothesis => exact ⟨wider keeps.1, inductionHypothesis keeps.2⟩
  | invoke function rest inductionHypothesis =>
    exact fun result after => inductionHypothesis result (keeps result after)
  | call function arguments rest inductionHypothesis =>
    exact fun result after => inductionHypothesis result (keeps result after)

theorem keepsByItself_check (look : Program → Machine → Except Fault α) (machine : Machine) :
    (check look).KeepsByItself relation program machine := by
  change (ofExcept (look program machine)).KeepsByItself relation program machine
  cases look program machine with
  | ok value | error fault => exact trivial

/-- What a script keeps by itself may be added to what it respects. -/
theorem KeepsByItself.respects {narrow wide : Machine → Machine → Prop} {script : Native α}
    {wanted : α → Machine → Prop} {machine : Machine}
    (keeps : script.KeepsByItself relation program machine)
    (respects : script.Respects narrow program wanted machine)
    (both : ∀ {before after}, narrow before after → relation before after → wide before after)
    (narrower : ∀ {before after}, wide before after → narrow before after) :
    script.Respects wide program wanted machine := by
  induction script generalizing machine with
  | done value => exact respects
  | fail fault => exact trivial
  | observe look inductionHypothesis => exact inductionHypothesis _ _ keeps respects
  | change update rest inductionHypothesis =>
    exact ⟨both respects.1 keeps.1, inductionHypothesis keeps.2 respects.2⟩
  | invoke function rest inductionHypothesis =>
    exact fun result after kept =>
      inductionHypothesis result (keeps result after) (respects result after (narrower kept))
  | call function arguments rest inductionHypothesis =>
    exact fun result after kept =>
      inductionHypothesis result (keeps result after) (respects result after (narrower kept))

/-- What a script keeps by itself it respects, whatever the functions do that it runs. -/
theorem KeepsByItself.respects_self {script : Native α} {machine : Machine}
    (keeps : script.KeepsByItself relation program machine) :
    script.Respects relation program (fun _ _ => True) machine := by
  induction script generalizing machine with
  | done value | fail fault => exact trivial
  | observe look inductionHypothesis => exact inductionHypothesis _ _ keeps
  | change update rest inductionHypothesis => exact ⟨keeps.1, inductionHypothesis keeps.2⟩
  | invoke function rest inductionHypothesis =>
    exact fun result after _ => inductionHypothesis result (keeps result after)
  | call function arguments rest inductionHypothesis =>
    exact fun result after _ => inductionHypothesis result (keeps result after)

theorem respects_ask {look : Program → Machine → α} {wanted : α → Machine → Prop}
    {machine : Machine} (found : wanted (look program machine) machine) :
    (ask look).Respects relation program wanted machine := found

/-- A look-up changes nothing, and goes on only if it finds something. -/
theorem respects_check {look : Program → Machine → Except Fault α} {wanted : α → Machine → Prop}
    {machine : Machine}
    (found : ∀ value, look program machine = .ok value → wanted value machine) :
    (check look).Respects relation program wanted machine := by
  change (ofExcept (look program machine)).Respects relation program wanted machine
  cases looked : look program machine with
  | ok value => exact found value looked
  | error fault => exact trivial

theorem respects_modify {update : Machine → Machine} {wanted : Unit → Machine → Prop}
    {machine : Machine} (kept : relation machine (update machine))
    (reached : wanted () (update machine)) :
    (modify update).Respects relation program wanted machine := ⟨kept, reached⟩

end Native

/-- Every builtin of the table has the property. -/
def BuiltinTable.Every (property : Native Unit → Prop) (table : BuiltinTable) : Prop :=
  ∀ number builtin, table.get? number = some builtin → property builtin.script

/-- Every builtin of the table respects the relation, wherever it is called. -/
def BuiltinTable.Respects (relation : Machine → Machine → Prop) (program : Program)
    (table : BuiltinTable) : Prop :=
  ∀ number builtin, table.get? number = some builtin →
    ∀ machine, builtin.script.Respects relation program (fun _ _ => True) machine

/-- Whatever the builtins of the table change by themselves keeps the relation. -/
def BuiltinTable.KeepByThemselves (relation : Machine → Machine → Prop) (program : Program)
    (table : BuiltinTable) : Prop :=
  table.Every fun script => ∀ machine, script.KeepsByItself relation program machine

/-- What builtins keep by themselves they respect, and any wider relation as well. -/
theorem BuiltinTable.KeepByThemselves.respects {relation wide : Machine → Machine → Prop}
    {program : Program} {table : BuiltinTable} (keep : table.KeepByThemselves relation program)
    (wider : ∀ {before after}, relation before after → wide before after) :
    table.Respects wide program :=
  fun number builtin offered machine =>
    ((keep number builtin offered machine).mono wider).respects_self

/-! ### Carrying out a script -/

/-- A script that respects a relation keeps it, if the functions that it runs keep it. -/
theorem Machine.perform_respects {α : Type} {relation : Machine → Machine → Prop}
    [IsPreorder Machine relation] {execute : Executor} {program : Program} {start : Machine}
    (invoked : ∀ {function before result after}, relation start before →
      invokeWith execute program function before = some (result, after) → relation before after)
    (called : ∀ {function arguments before result after}, relation start before →
      callWith execute program function arguments before = some (result, after) →
        relation before after)
    {script : Native α} {wanted : α → Machine → Prop} {before after : Machine}
    {result : Except Fault α} (reached : relation start before)
    (respects : script.Respects relation program wanted before)
    (ends : perform execute program script before = some (result, after)) :
    relation start after ∧ ∀ value, result = .ok value → wanted value after := by
  induction script generalizing before with
  | done value =>
    cases ends
    exact ⟨reached, fun _ same => by cases same; exact respects⟩
  | fail fault =>
    cases ends
    exact ⟨reached, nofun⟩
  | observe next inductionHypothesis => exact inductionHypothesis _ _ reached respects ends
  | change update next inductionHypothesis =>
    exact inductionHypothesis (trans_of relation reached respects.1) respects.2 ends
  | invoke function next inductionHypothesis =>
    unfold perform at ends
    split at ends
    · cases ends
    · next inner middle ran =>
      have kept := invoked reached ran
      exact inductionHypothesis inner (trans_of relation reached kept)
        (respects inner middle kept) ends
  | call function arguments next inductionHypothesis =>
    unfold perform at ends
    split at ends
    · cases ends
    · next inner middle ran =>
      have kept := called reached ran
      exact inductionHypothesis inner (trans_of relation reached kept)
        (respects inner middle kept) ends

namespace Machine

variable {α β : Type} {program : Program} {machine : Machine}

/-- A script that looks something up goes on with what it finds. -/
theorem perform_check_bind {execute : Executor}
    {look : Program → Machine → Except Fault α} {value : α}
    (found : look program machine = .ok value) (next : α → Native β) :
    perform execute program (Native.check look >>= next) machine =
      perform execute program (next value) machine := by
  show perform execute program
    (Native.bind (Native.ofExcept (look program machine)) next) machine = _
  rw [found]
  rfl

end Machine

/-! ### The standard builtins -/

/-- A relation that allows what the standard builtins do by themselves: they write to the globals,
make temporary strings, create and remove entities, print, and switch tracing on and off. -/
class Builtins.Allowed (relation : Machine → Machine → Prop) : Prop extends
    Machine.AllowsGlobals relation where
  temporary : ∀ (machine : Machine) (text : List UInt8),
    relation machine { machine with strings := (machine.strings.addTemporary text).2 }
  spawned : ∀ {machine : Machine} {entity : Int} {entities : EntityStore},
    machine.entities.spawn = .ok (entity, entities) → relation machine { machine with entities }
  removed : ∀ {machine : Machine} {entity : Int} {entities : EntityStore},
    machine.entities.remove entity = .ok entities → relation machine { machine with entities }
  printed : ∀ (machine : Machine) (text : String), relation machine (machine.print text)
  traced : ∀ (machine : Machine) (tracing : Bool), relation machine { machine with tracing }

instance : Builtins.Allowed Machine.KeepsCalls where
  temporary _ _ := ⟨rfl, rfl⟩
  spawned _ := ⟨rfl, rfl⟩
  removed _ := ⟨rfl, rfl⟩
  printed _ _ := ⟨rfl, rfl⟩
  traced _ _ := ⟨rfl, rfl⟩

namespace Builtins

open Native

variable {program : Program} {machine : Machine} {relation : Machine → Machine → Prop}

theorem respects_textArgument {index : Nat} {wanted : String → Machine → Prop}
    (found : ∀ text, wanted text machine) :
    (textArgument index).Respects relation program wanted machine :=
  Respects.bind (respects_check fun _ _ => respects_check fun text _ => found text)

theorem respects_joinTexts {index count : Nat} {wanted : String → Machine → Prop}
    (found : ∀ text, wanted text machine) :
    (joinTexts index count).Respects relation program wanted machine := by
  induction count generalizing index wanted with
  | zero => exact found ""
  | succ count inductionHypothesis =>
    refine Respects.bind (respects_textArgument fun text => Respects.bind ?_)
    exact inductionHypothesis fun rest => found (text ++ rest)

theorem respects_argumentText {wanted : String → Machine → Prop}
    (found : ∀ text, wanted text machine) :
    argumentText.Respects relation program wanted machine :=
  Respects.bind (respects_ask (respects_joinTexts found))

section Standard

variable [Allowed relation]

/-- A builtin may replace the globals by a segment of the same size. -/
theorem respects_setGlobals {look : Program → Machine → Except Fault Globals}
    {wanted : Unit → Machine → Prop}
    (sized : ∀ globals, look program machine = .ok globals → globals.size = machine.globals.size)
    (reached : ∀ globals, wanted () { machine with globals }) :
    (check look >>= setGlobals).Respects relation program wanted machine := by
  refine Respects.bind (respects_check fun globals found => ?_)
  exact respects_modify (Machine.AllowsGlobals.globals (sized globals found)) (reached globals)

theorem respects_returnReference (reference : Int) :
    (returnReference reference).Respects relation program (fun _ _ => True) machine :=
  respects_setGlobals (fun _ => Globals.size_set) fun _ => trivial

theorem respects_returnText (text : String) :
    (returnText text).Respects relation program (fun _ _ => True) machine := by
  refine Respects.bind (respects_ask (Respects.bind
    (respects_modify (Allowed.temporary machine (Text.encode text)) ?_)))
  exact Respects.bind (respects_setGlobals (fun _ => Globals.size_set) fun _ => trivial)

/-- A builtin may print a message, whatever follows it. -/
theorem respects_announce {heading : String} {wanted : String × String → Machine → Prop}
    (found : ∀ parts text, wanted parts (machine.print text)) :
    (announce heading).Respects relation program wanted machine := by
  refine Respects.bind (respects_argumentText fun message => ?_)
  refine Respects.bind (respects_ask (Respects.bind (respects_ask (Respects.bind ?_))))
  exact respects_modify (Allowed.printed machine _) (found _ _)

variable [IsPreorder Machine relation]

/-- Removing `self` is allowed also where there is nothing to remove. -/
theorem respects_removeSelf (entity? : Option Int) :
    relation machine
      { machine with
        entities :=
          match entity? with
          | some entity =>
            if 0 < entity then (machine.entities.remove entity).toOption.getD machine.entities
            else machine.entities
          | none => machine.entities } := by
  cases entity? with
  | none => exact refl_of relation machine
  | some entity =>
    dsimp only
    by_cases positive : 0 < entity
    · rw [if_pos positive]
      cases removed : machine.entities.remove entity with
      | ok entities => exact Allowed.removed removed
      | error fault => exact refl_of relation machine
    · rw [if_neg positive]
      exact refl_of relation machine

/-- The standard builtins respect every relation that allows what they do. -/
theorem respects_standard {builtin : Builtin} (member : builtin ∈ standard) :
    builtin.script.Respects relation program (fun _ _ => True) machine := by
  simp only [standard, List.mem_cons, List.not_mem_nil, or_false] at member
  rcases member with rfl | rfl | rfl | rfl | rfl | rfl | rfl | rfl | rfl | rfl | rfl | rfl | rfl |
    rfl
  · exact Respects.bind (respects_announce fun _ _ => trivial)
  · refine Respects.bind (respects_announce fun _ _ => Respects.bind (respects_ask ?_))
    exact Respects.bind (respects_modify (respects_removeSelf _) trivial)
  · refine Respects.bind (respects_check fun _ spawned => Respects.bind ?_)
    exact respects_modify (Allowed.spawned spawned) (respects_returnReference _)
  · refine Respects.bind (respects_check fun _ _ =>
      Respects.bind (respects_check fun _ removed => ?_))
    exact respects_modify (Allowed.removed removed) trivial
  · exact Respects.bind (respects_argumentText fun _ =>
      respects_modify (Allowed.printed _ _) trivial)
  · exact Respects.bind (respects_check fun _ _ => Respects.bind (respects_returnText _))
  · exact Respects.bind (respects_check fun _ _ => Respects.bind (respects_returnText _))
  · exact respects_modify (Allowed.traced _ _) trivial
  · exact respects_modify (Allowed.traced _ _) trivial
  · refine Respects.bind (respects_check fun _ _ => Respects.bind (respects_check fun _ _ => ?_))
    exact respects_modify (Allowed.printed _ _) trivial
  · refine Respects.bind (respects_check fun _ _ => Respects.bind (respects_ask ?_))
    exact respects_returnReference _
  · exact Respects.bind (respects_check fun _ _ => Respects.bind (respects_returnText _))
  · refine Respects.bind (respects_textArgument fun _ => ?_)
    exact respects_setGlobals (fun _ => Globals.size_set) fun _ => trivial
  · exact Respects.bind (respects_argumentText fun _ => Respects.bind (respects_returnText _))

end Standard

/-! ### Tables of builtins -/

section Every

variable (property : Native Unit → Prop)

theorem every_empty : BuiltinTable.empty.Every property :=
  fun _ _ found => nomatch found

/-- A builtin with the property may be registered in a table of such builtins. -/
theorem every_register {table : BuiltinTable} {builtin : Builtin} (others : table.Every property)
    (this : property builtin.script) : (table.register builtin).Every property := by
  intro number other found
  by_cases same : number = builtin.number
  · rw [same, BuiltinTable.get?_register_self] at found
    cases found
    exact this
  · rw [BuiltinTable.get?_register_other table same] at found
    exact others number other found

theorem every_registerAll {builtins : List Builtin} {table : BuiltinTable}
    (others : table.Every property) (each : ∀ builtin ∈ builtins, property builtin.script) :
    (registerAll builtins table).Every property := by
  induction builtins generalizing table with
  | nil => exact others
  | cons first rest inductionHypothesis =>
    refine inductionHypothesis (every_register property others (each first List.mem_cons_self)) ?_
    exact fun builtin member => each builtin (List.mem_cons_of_mem first member)

/-- What the standard builtins have in common is kept when those that a program declares are added.
-/
theorem every_install (standardOnes : ∀ builtin ∈ standard, property builtin.script)
    {declaring : Program} {table : BuiltinTable} (others : table.Every property) :
    (install declaring table).Every property := by
  refine every_registerAll property others fun builtin member => ?_
  obtain ⟨original, standardOne, renumbered⟩ := List.mem_filterMap.mp member
  have holds := standardOnes original standardOne
  split at renumbered
  · cases renumbered
    exact holds
  · cases renumbered

theorem every_installClassic (standardOnes : ∀ builtin ∈ standard, property builtin.script)
    {table : BuiltinTable} (others : table.Every property) :
    (installClassic table).Every property :=
  every_registerAll property others standardOnes

end Every

theorem respects_empty : BuiltinTable.empty.Respects relation program :=
  every_empty fun script => ∀ machine, script.Respects relation program (fun _ _ => True) machine

/-- A builtin that respects a relation may be registered in a table that does. -/
theorem respects_register {table : BuiltinTable} {builtin : Builtin}
    (others : table.Respects relation program)
    (this : ∀ machine, builtin.script.Respects relation program (fun _ _ => True) machine) :
    (table.register builtin).Respects relation program :=
  every_register
    (fun script => ∀ machine, script.Respects relation program (fun _ _ => True) machine)
    others this

variable [Allowed relation] [IsPreorder Machine relation]

/-- The standard builtins that a program declares may be added to any table. -/
theorem respects_install {declaring : Program} {table : BuiltinTable}
    (others : table.Respects relation program) :
    (install declaring table).Respects relation program :=
  every_install
    (fun script => ∀ machine, script.Respects relation program (fun _ _ => True) machine)
    (fun _ member _ => respects_standard member) others

theorem respects_installClassic {table : BuiltinTable}
    (others : table.Respects relation program) :
    (installClassic table).Respects relation program :=
  every_installClassic
    (fun script => ∀ machine, script.Respects relation program (fun _ _ => True) machine)
    (fun _ member _ => respects_standard member) others

end Builtins

end Gamecode
