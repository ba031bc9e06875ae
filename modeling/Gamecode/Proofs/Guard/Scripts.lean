/-
This file says which builtins leave the counting of statements to the machine. Such a builtin runs
other functions only as parts of the call that is going on, and hands on their faults. The guard
does not see what a builtin does by itself, so it cannot stop builtins that invoke each other for
ever: that a builtin comes to its end is a property of its own. The standard builtins have both
properties, as they run no function at all.
-/

import Gamecode.Proofs.Guard.Faults
import Gamecode.Proofs.Native

namespace Gamecode

namespace Native

variable {α β : Type}

/-! ### Scripts that relay faults -/

/-- A change that leaves the number of executed statements alone. The number is the machine's own: a
builtin cannot get at it, unless it resets the machine in the middle of a call. -/
def KeepsCount (update : Machine → Machine) : Prop :=
  ∀ machine, (update machine).executed = machine.executed

/-- The script runs nothing any more and ends with the fault. -/
def FailsWith (fault : Fault) : Native α → Prop
  | .done _ => False
  | .fail other => other = fault
  | .observe next => ∀ program machine, FailsWith fault (next program machine)
  | .change update next => KeepsCount update ∧ FailsWith fault next
  | .invoke _ _ => False
  | .call _ _ _ => False

/-- The script starts no call of its own, and where a function that it invokes fails it ends with
the same fault. Its own faults are not those of the guard. -/
def Relays : Native α → Prop
  | .done _ => True
  | .fail fault => fault.Ordinary
  | .observe next => ∀ program machine, Relays (next program machine)
  | .change update next => KeepsCount update ∧ Relays next
  | .invoke _ next => Relays (next (.ok ())) ∧ ∀ fault, FailsWith fault (next (.error fault))
  | .call _ _ _ => False

/-- The script runs nothing any more and ends with the fault, whatever it does to the machine. -/
def HandsOn (fault : Fault) : Native α → Prop
  | .done _ => False
  | .fail other => other = fault
  | .observe next => ∀ program machine, HandsOn fault (next program machine)
  | .change _ next => HandsOn fault next
  | .invoke _ _ => False
  | .call _ _ _ => False

/-- The script starts no call of its own, and where a function that it invokes fails it ends with
the same fault. Which faults are its own, and what it does to the machine, is left open. -/
def Propagates : Native α → Prop
  | .done _ => True
  | .fail _ => True
  | .observe next => ∀ program machine, Propagates (next program machine)
  | .change _ next => Propagates next
  | .invoke _ next => Propagates (next (.ok ())) ∧ ∀ fault, HandsOn fault (next (.error fault))
  | .call _ _ _ => False

theorem FailsWith.handsOn {fault : Fault} {script : Native α} (fails : script.FailsWith fault) :
    script.HandsOn fault := by
  induction script with
  | done | fail => exact fails
  | observe next inductionHypothesis =>
    exact fun program machine => inductionHypothesis program machine (fails program machine)
  | change update next inductionHypothesis => exact inductionHypothesis fails.2
  | invoke | call => exact fails

/-- A script that relays faults leaves the count alone and keeps to ordinary faults besides. -/
theorem Relays.propagates {script : Native α} (relays : script.Relays) : script.Propagates := by
  induction script with
  | done | fail => exact trivial
  | observe next inductionHypothesis =>
    exact fun program machine => inductionHypothesis program machine (relays program machine)
  | change update next inductionHypothesis => exact inductionHypothesis relays.2
  | invoke function next inductionHypothesis =>
    exact ⟨inductionHypothesis (.ok ()) relays.1, fun fault => (relays.2 fault).handsOn⟩
  | call => exact relays

/-- The script runs no function, and relays trivially. -/
def Plain : Native α → Prop
  | .done _ => True
  | .fail fault => fault.Ordinary
  | .observe next => ∀ program machine, Plain (next program machine)
  | .change update next => KeepsCount update ∧ Plain next
  | .invoke _ _ => False
  | .call _ _ _ => False

/-- The script comes to its end from the machine, whatever the functions with statements that it
invokes do, as long as they end: there is no endless chain of builtins that invoke one another. -/
inductive Settles (program : Program) (table : BuiltinTable) : Native Unit → Machine → Prop
  | done {machine : Machine} : Settles program table (.done ()) machine
  | fail {machine : Machine} (fault : Fault) : Settles program table (.fail fault) machine
  | observe {machine : Machine} {next : Program → Machine → Native Unit}
      (rest : Settles program table (next program machine) machine) :
      Settles program table (.observe next) machine
  | change {machine : Machine} {update : Machine → Machine} {next : Native Unit}
      (rest : Settles program table next (update machine)) :
      Settles program table (.change update next) machine
  | invoke {machine : Machine} {function : Nat} {next : Except Fault Unit → Native Unit}
      (nested : ∀ number builtin, Machine.resolve program function = .ok (.builtin number) →
        table.get? number = some builtin →
          Settles program table builtin.script
            { machine with
              profile := machine.profile.recordCall function
              argumentCount :=
                (program.functions[function]?.map Function.parameterCount).getD 0 })
      (rest : ∀ after, Settles program table (next (.ok ())) after) :
      Settles program table (.invoke function next) machine

/-! ### Scripts without functions -/

namespace Plain

theorem relays {script : Native α} (plain : script.Plain) : script.Relays := by
  induction script with
  | done value => exact trivial
  | fail fault => exact plain
  | observe next inductionHypothesis =>
    exact fun program machine => inductionHypothesis program machine (plain program machine)
  | change update next inductionHypothesis => exact ⟨plain.1, inductionHypothesis plain.2⟩
  | invoke function next | call function arguments next => exact plain.elim

theorem settles {script : Native Unit} (plain : script.Plain) (program : Program)
    (table : BuiltinTable) (machine : Machine) : script.Settles program table machine := by
  induction script generalizing machine with
  | done value => exact .done
  | fail fault => exact .fail fault
  | observe next inductionHypothesis =>
    exact .observe (inductionHypothesis program machine (plain program machine) machine)
  | change update next inductionHypothesis => exact .change (inductionHypothesis plain.2 _)
  | invoke function next | call function arguments next => exact plain.elim

theorem bind {script : Native α} {next : α → Native β} (first : script.Plain)
    (second : ∀ value, (next value).Plain) : (script >>= next).Plain := by
  change (Native.bind script next).Plain
  induction script with
  | done value => exact second value
  | fail fault => exact first
  | observe look inductionHypothesis =>
    exact fun program machine => inductionHypothesis program machine (first program machine)
  | change update rest inductionHypothesis => exact ⟨first.1, inductionHypothesis first.2⟩
  | invoke function rest | call function arguments rest => exact first.elim

end Plain

theorem plain_ask (look : Program → Machine → α) : (ask look).Plain :=
  fun _ _ => trivial

theorem plain_check {look : Program → Machine → Except Fault α}
    (orderly : ∀ program machine, Orderly (look program machine)) : (check look).Plain := by
  intro program machine
  show (ofExcept (look program machine)).Plain
  have looked := orderly program machine
  cases found : look program machine with
  | ok value => exact trivial
  | error fault =>
    rw [found] at looked
    exact looked

theorem plain_modify {update : Machine → Machine} (keeps : KeepsCount update) :
    (modify update).Plain :=
  ⟨keeps, trivial⟩

end Native

/-! ### The standard builtins -/

namespace Builtins

open Native

theorem plain_setGlobals {look : Program → Machine → Except Fault Globals}
    (orderly : ∀ program machine, Orderly (look program machine)) :
    (check look >>= setGlobals).Plain :=
  (plain_check orderly).bind fun _ => plain_modify fun _ => rfl

theorem plain_referenceArgument (index : Nat) : (referenceArgument index).Plain :=
  plain_check fun _ machine => machine.globals.orderly_getSigned _

theorem plain_textArgument (index : Nat) : (textArgument index).Plain :=
  (plain_referenceArgument index).bind fun reference =>
    plain_check fun _ machine => machine.strings.orderly_getText reference

theorem plain_joinTexts (index count : Nat) : (joinTexts index count).Plain := by
  induction count generalizing index with
  | zero => exact trivial
  | succ count inductionHypothesis =>
    exact (plain_textArgument index).bind fun _ => (inductionHypothesis _).bind fun _ => trivial

theorem plain_argumentText : argumentText.Plain :=
  (plain_ask _).bind fun count => plain_joinTexts 0 count

theorem plain_returnReference (reference : Int) : (returnReference reference).Plain :=
  plain_setGlobals fun _ machine => machine.globals.orderly_set _ _

theorem plain_returnText (text : String) : (returnText text).Plain :=
  (plain_ask _).bind fun _ => (plain_modify fun _ => rfl).bind fun _ =>
    (plain_returnReference _).bind fun _ => trivial

theorem plain_announce (heading : String) : (announce heading).Plain :=
  plain_argumentText.bind fun _ => (plain_ask _).bind fun _ => (plain_ask _).bind fun _ =>
    (plain_modify fun _ => rfl).bind fun _ => trivial

theorem orderly_valueOf (program : Program) (strings : StringHeap) (type : ValueType)
    (slots : List Slot) : Orderly (Snapshot.valueOf program strings type slots) := by
  unfold Snapshot.valueOf
  cases type with
  | string => exact (strings.orderly_getText _).map _
  | _ => exact trivial

theorem orderly_addField (program : Program) (machine : Machine) (entity : Int)
    (snapshot : Snapshot) (definition : Definition) :
    Orderly (Snapshot.addField program machine entity snapshot definition) := by
  unfold Snapshot.addField
  split
  · exact trivial
  · refine .ite trivial ((EntityStore.orderly_address _ _ _ _).bind fun _ => ?_)
    exact (EntityStore.orderly_read _ _ _).bind fun _ =>
      (orderly_valueOf _ _ _ _).bind fun _ => trivial

theorem orderly_describeEntity (program : Program) (machine : Machine) (entity : Int) :
    Orderly (describeEntity program machine entity) := by
  have snapshot : Orderly (Snapshot.ofEntity program machine entity) :=
    (EntityStore.orderly_checkEntity _ _).bind fun _ =>
      Orderly.foldlM (fun _ _ => orderly_addField _ _ _ _ _) _ _
  exact snapshot.bind fun _ => trivial

/-- No standard builtin runs a function. -/
theorem plain_standard {builtin : Builtin} (member : builtin ∈ standard) :
    builtin.script.Plain := by
  simp only [standard, List.mem_cons, List.not_mem_nil, or_false] at member
  rcases member with rfl | rfl | rfl | rfl | rfl | rfl | rfl | rfl | rfl | rfl | rfl | rfl | rfl |
    rfl
  · exact (plain_announce _).bind fun _ => trivial
  · exact (plain_announce _).bind fun _ => (plain_ask _).bind fun _ =>
      (plain_modify fun _ => rfl).bind fun _ => trivial
  · exact (plain_check fun _ machine => machine.entities.orderly_spawn).bind fun _ =>
      (plain_modify fun _ => rfl).bind fun _ => plain_returnReference _
  · exact (plain_referenceArgument 0).bind fun _ =>
      (plain_check fun _ machine => machine.entities.orderly_remove _).bind fun _ =>
        plain_modify fun _ => rfl
  · exact plain_argumentText.bind fun _ => plain_modify fun _ => rfl
  · exact (plain_check fun _ machine => machine.globals.orderly_get _).bind fun _ =>
      (plain_returnText _).bind fun _ => trivial
  · exact (plain_check fun _ machine => machine.globals.orderly_getVector _).bind fun _ =>
      (plain_returnText _).bind fun _ => trivial
  · exact plain_modify fun _ => rfl
  · exact plain_modify fun _ => rfl
  · exact (plain_referenceArgument 0).bind fun _ =>
      (plain_check fun program machine => orderly_describeEntity program machine _).bind fun _ =>
        plain_modify fun _ => rfl
  · exact (plain_referenceArgument 0).bind fun _ => (plain_ask _).bind fun _ =>
      plain_returnReference _
  · exact (plain_referenceArgument 0).bind fun _ => (plain_returnText _).bind fun _ => trivial
  · exact (plain_textArgument 0).bind fun _ =>
      plain_setGlobals fun _ machine => machine.globals.orderly_set _ _
  · exact plain_argumentText.bind fun _ => (plain_returnText _).bind fun _ => trivial

end Builtins

end Gamecode
