/-
This file shows that only the guard reports runaway programs. Nothing that a statement looks up,
checks or writes fails with the fault of the guard, and neither do entering and leaving functions or
putting arguments in place.
-/

import Gamecode.Proofs.Calls.Statement
import Gamecode.Snapshot

namespace Gamecode

/-- Any fault but the one that the guard reports. -/
def Fault.Ordinary : Fault → Prop
  | .runaway _ => False
  | _ => True

theorem Fault.Ordinary.ne_runaway {fault : Fault} (ordinary : fault.Ordinary) (limit : Nat) :
    fault ≠ .runaway limit := by
  rintro rfl
  exact ordinary

/-- If it fails, then with an ordinary fault. -/
def Orderly {α : Type} : Except Fault α → Prop
  | .ok _ => True
  | .error fault => fault.Ordinary

namespace Orderly

variable {α β : Type}

theorem bind {first : Except Fault α} {next : α → Except Fault β} (orderly : Orderly first)
    (rest : ∀ value, Orderly (next value)) : Orderly (first >>= next) := by
  cases first with
  | ok value => exact rest value
  | error fault => exact orderly

theorem map {computation : Except Fault α} (change : α → β) (orderly : Orderly computation) :
    Orderly (change <$> computation) := by
  cases computation with
  | ok value => exact trivial
  | error fault => exact orderly

/-- A choice between two results or faults. -/
theorem ite {condition : Prop} [Decidable condition] {first second : Except Fault α}
    (yes : Orderly first) (no : Orderly second) :
    Orderly (if condition then first else second) := by
  split
  · exact yes
  · exact no

theorem foldlM {step : β → α → Except Fault β} (each : ∀ state member, Orderly (step state member))
    (state : β) (members : List α) : Orderly (members.foldlM step state) := by
  induction members generalizing state with
  | nil => exact trivial
  | cons head rest inductionHypothesis =>
    rw [List.foldlM_cons]
    exact (each state head).bind inductionHypothesis

end Orderly

/-! ### Storage -/

namespace Globals

variable (globals : Globals)

theorem orderly_slice (offset width : Nat) : Orderly (globals.slice offset width) :=
  .ite trivial trivial

theorem orderly_write (offset : Nat) (values : List Slot) : Orderly (globals.write offset values) :=
  .ite trivial trivial

theorem orderly_fill (offset width : Nat) (value : Slot) :
    Orderly (globals.fill offset width value) :=
  .ite (orderly_write _ _ _) trivial

theorem orderly_copy (source target width : Nat) : Orderly (globals.copy source target width) :=
  .ite trivial (.ite trivial (orderly_write _ _ _))

theorem orderly_get (offset : Nat) : Orderly (globals.get offset) := by
  unfold get
  split <;> exact trivial

theorem orderly_set (offset : Nat) (value : Slot) : Orderly (globals.set offset value) :=
  .ite trivial trivial

theorem orderly_getSigned (offset : Nat) : Orderly (globals.getSigned offset) :=
  (globals.orderly_get offset).map _

theorem orderly_getVector (offset : Nat) : Orderly (globals.getVector offset) :=
  .ite trivial trivial

theorem orderly_readPadded (offset : Nat) : Orderly (globals.readPadded offset) :=
  (globals.orderly_get offset).bind fun _ => trivial

end Globals

namespace EntityStore

variable (store : EntityStore)

theorem orderly_checkEntity (entity : Int) : Orderly (store.checkEntity entity) :=
  .ite trivial trivial

theorem orderly_address (entity field : Int) (width : Nat) :
    Orderly (store.address entity field width) :=
  (store.orderly_checkEntity entity).bind fun _ =>
    Orderly.bind (.ite trivial trivial) fun _ => trivial

theorem orderly_checkPointer (pointer : Int) (width : Nat) :
    Orderly (store.checkPointer pointer width) :=
  .ite trivial (.ite trivial trivial)

theorem orderly_read (pointer : Int) (width : Nat) : Orderly (store.read pointer width) :=
  (store.orderly_checkPointer pointer width).bind fun _ => trivial

theorem orderly_write (pointer : Int) (values : List Slot) : Orderly (store.write pointer values) :=
  (store.orderly_checkPointer pointer values.length).bind fun _ => trivial

theorem orderly_spawn : Orderly store.spawn := by
  unfold spawn
  split
  · exact trivial
  · exact .ite trivial trivial

theorem orderly_remove (entity : Int) : Orderly (store.remove entity) := by
  refine (store.orderly_checkEntity entity).bind fun number => ?_
  dsimp only
  split <;> exact trivial

end EntityStore

namespace StringHeap

variable (heap : StringHeap)

theorem orderly_get (reference : Int) : Orderly (heap.get reference) := by
  unfold get
  refine .ite ?_ (.ite trivial trivial)
  dsimp only
  split <;> exact trivial

theorem orderly_getText (reference : Int) : Orderly (heap.getText reference) :=
  (heap.orderly_get reference).map _

theorem orderly_equal (left right : Int) : Orderly (heap.equal left right) :=
  .ite trivial (.ite trivial ((heap.orderly_get left).bind fun _ =>
    (heap.orderly_get right).bind fun _ => trivial))

theorem orderly_isNull (reference : Int) : Orderly (heap.isNull reference) :=
  .ite trivial ((heap.orderly_get reference).map _)

end StringHeap

namespace CallStack

variable (stack : CallStack)

theorem orderly_checkDepth : Orderly stack.checkDepth :=
  .ite trivial trivial

theorem orderly_save (window : List Slot) : Orderly (stack.save window) :=
  .ite trivial trivial

theorem orderly_push (frame : Frame) : Orderly (stack.push frame) :=
  stack.orderly_checkDepth.bind fun _ => trivial

end CallStack

theorem Statement.orderly_operation (statement : Statement) : Orderly statement.operation := by
  unfold operation
  split <;> exact trivial

theorem Statement.orderly_branchTarget (index : Nat) (delta : UInt16) :
    Orderly (branchTarget index delta) :=
  .ite trivial trivial

/-! ### What statements look up -/

namespace Machine

variable (machine : Machine)

theorem orderly_onFloats (a b : Nat) (operation : Slot → Slot → Slot) :
    Orderly (machine.onFloats a b operation) :=
  (Globals.orderly_get _ _).bind fun _ => (Globals.orderly_get _ _).bind fun _ => trivial

theorem orderly_onVectors (a b : Nat) (operation : Vector3 → Vector3 → List Slot) :
    Orderly (machine.onVectors a b operation) :=
  (Globals.orderly_getVector _ _).bind fun _ =>
    (Globals.orderly_getVector _ _).bind fun _ => trivial

theorem orderly_areEqual (a b : Nat) (kind : Comparand) : Orderly (machine.areEqual a b kind) := by
  cases kind with
  | float =>
    exact (Globals.orderly_get _ _).bind fun _ => (Globals.orderly_get _ _).bind fun _ => trivial
  | vector =>
    exact (Globals.orderly_getVector _ _).bind fun _ =>
      (Globals.orderly_getVector _ _).bind fun _ => trivial
  | string =>
    exact (Globals.orderly_getSigned _ _).bind fun left =>
      (Globals.orderly_getSigned _ _).bind fun right => machine.strings.orderly_equal left right
  | entity | function =>
    exact (Globals.orderly_getSigned _ _).bind fun _ =>
      (Globals.orderly_getSigned _ _).bind fun _ => trivial

theorem orderly_isNothing (a : Nat) (kind : Comparand) : Orderly (machine.isNothing a kind) := by
  cases kind with
  | float => exact (Globals.orderly_get _ _).map _
  | vector => exact (Globals.orderly_getVector _ _).map _
  | string =>
    exact (Globals.orderly_getSigned _ _).bind fun reference =>
      machine.strings.orderly_isNull reference
  | entity | function => exact (Globals.orderly_getSigned _ _).bind fun _ => trivial

theorem orderly_conjunction (a b : Nat) : Orderly (machine.conjunction a b) := by
  refine (Globals.orderly_get _ _).bind fun left => ?_
  exact .ite trivial ((Globals.orderly_get _ _).bind fun _ => trivial)

theorem orderly_disjunction (a b : Nat) : Orderly (machine.disjunction a b) := by
  refine (Globals.orderly_get _ _).bind fun left => ?_
  exact .ite trivial ((Globals.orderly_get _ _).bind fun _ => trivial)

theorem orderly_loaded (a b width : Nat) : Orderly (machine.loaded a b width) :=
  (Globals.orderly_getSigned _ _).bind fun _ => (Globals.orderly_getSigned _ _).bind fun _ =>
    (EntityStore.orderly_address _ _ _ _).bind fun _ => EntityStore.orderly_read _ _ _

theorem orderly_fieldAddress (protectWorld : Bool) (a b : Nat) :
    Orderly (fieldAddress protectWorld machine a b) := by
  refine (Globals.orderly_getSigned _ _).bind fun entity => ?_
  dsimp only
  exact .ite trivial ((Globals.orderly_getSigned _ _).bind fun _ =>
    (EntityStore.orderly_address _ _ _ _).bind fun _ => trivial)

theorem orderly_computed {protectWorld : Bool} {a b : Nat} {operation : Opcode}
    {values : Except Fault (List Slot)}
    (computed : machine.computed? protectWorld a b operation = some values) : Orderly values := by
  cases operation with
  | multiply | divide | add | subtract | atMost | atLeast | less | greater | bitConjunction
  | bitDisjunction =>
    cases computed
    exact machine.orderly_onFloats _ _ _
  | dot | addVectors | subtractVectors =>
    cases computed
    exact machine.orderly_onVectors _ _ _
  | scaleRight =>
    cases computed
    exact (Globals.orderly_get _ _).bind fun _ => (Globals.orderly_getVector _ _).bind fun _ =>
      trivial
  | scaleLeft =>
    cases computed
    exact (Globals.orderly_getVector _ _).bind fun _ => (Globals.orderly_get _ _).bind fun _ =>
      trivial
  | equal kind | different kind =>
    cases computed
    exact (machine.orderly_areEqual _ _ _).bind fun _ => trivial
  | load kind =>
    cases computed
    exact machine.orderly_loaded _ _ _
  | address =>
    cases computed
    exact machine.orderly_fieldAddress _ _ _
  | negation kind =>
    cases computed
    exact (machine.orderly_isNothing _ _).bind fun _ => trivial
  | conjunction =>
    cases computed
    exact (machine.orderly_conjunction _ _).bind fun _ => trivial
  | disjunction =>
    cases computed
    exact (machine.orderly_disjunction _ _).bind fun _ => trivial
  | done | store _ | storeThrough _ | leave | branchIf | branchUnless | call _ | state | goto =>
    cases computed

theorem orderly_stateWrites (program : Program) (interval : Slot) (a b : Nat) :
    Orderly (stateWrites program interval a b machine) := by
  have global (name : String) : Orderly (boundGlobal program name) := by
    unfold boundGlobal
    split <;> exact trivial
  have field (name : String) : Orderly (boundField program name) := by
    unfold boundField
    split <;> exact trivial
  have bindings : Orderly (stateBindings program) :=
    (global _).bind fun _ => (global _).bind fun _ => (field _).bind fun _ =>
      (field _).bind fun _ => (field _).bind fun _ => trivial
  refine bindings.bind fun _ => (Globals.orderly_getSigned _ _).bind fun _ => ?_
  refine (EntityStore.orderly_address _ _ _ _).bind fun _ => ?_
  refine (EntityStore.orderly_address _ _ _ _).bind fun _ => ?_
  refine (EntityStore.orderly_address _ _ _ _).bind fun _ => ?_
  exact (Globals.orderly_get _ _).bind fun _ => (Globals.orderly_get _ _).bind fun _ =>
    (Globals.orderly_get _ _).bind fun _ => trivial

theorem orderly_resolve (program : Program) (function : Nat) :
    Orderly (resolve program function) := by
  unfold resolve
  refine .ite trivial ?_
  split <;> exact trivial

end Machine

/-! ### Actions -/

/-- If the action fails, then with an ordinary fault. -/
def Action.Orderly {α : Type} (action : Action α) : Prop :=
  ∀ ⦃machine after fault⦄, action machine = .error fault after → fault.Ordinary

namespace Action

variable {α β : Type}

theorem orderly_pure (value : α) : (pure value : Action α).Orderly :=
  fun _ _ _ ends => nomatch ends

theorem orderly_throw {fault : Fault} (ordinary : fault.Ordinary) :
    (throw fault : Action α).Orderly := by
  intro machine after other ends
  cases ends
  exact ordinary

theorem orderly_get : (get : Action Machine).Orderly :=
  fun _ _ _ ends => nomatch ends

theorem orderly_inspect {look : Machine → Except Fault α}
    (orderly : ∀ machine, Gamecode.Orderly (look machine)) : (inspect look).Orderly := by
  intro machine after fault ends
  have looked := orderly machine
  unfold inspect at ends
  cases found : look machine with
  | ok value =>
    rw [found] at ends
    cases ends
  | error other =>
    rw [found] at ends looked
    cases ends
    exact looked

theorem orderly_changeGlobals {change : Globals → Except Fault Globals}
    (orderly : ∀ globals, Gamecode.Orderly (change globals)) : (changeGlobals change).Orderly := by
  intro machine after fault ends
  have changed := orderly machine.globals
  unfold changeGlobals at ends
  split at ends
  · cases ends
  · next other failed =>
    rw [failed] at changed
    cases ends
    exact changed

theorem orderly_changeEntities {change : EntityStore → Except Fault EntityStore}
    (orderly : ∀ entities, Gamecode.Orderly (change entities)) :
    (changeEntities change).Orderly := by
  intro machine after fault ends
  have changed := orderly machine.entities
  unfold changeEntities at ends
  split at ends
  · cases ends
  · next other failed =>
    rw [failed] at changed
    cases ends
    exact changed

theorem Orderly.bind {action : Action α} {next : α → Action β} (first : action.Orderly)
    (rest : ∀ value, (next value).Orderly) : (action >>= next).Orderly := by
  intro machine after fault ends
  rw [bind_apply] at ends
  cases acted : action machine with
  | ok value reached =>
    rw [acted] at ends
    exact rest value ends
  | error other reached =>
    rw [acted] at ends
    cases ends
    exact first acted

theorem orderly_forM {members : List α} {action : α → Action Unit}
    (each : ∀ member, (action member).Orderly) : (members.forM action).Orderly := by
  induction members with
  | nil => exact orderly_pure ()
  | cons head rest inductionHypothesis => exact (each head).bind fun _ => inductionHypothesis

end Action

namespace Machine

open Gamecode.Action

/-! ### Entering and leaving -/

theorem orderly_packArguments (widths : List UInt8) (block target : Nat) :
    (packArguments widths block target).Orderly := by
  induction widths generalizing block target with
  | nil => exact orderly_pure ()
  | cons width rest inductionHypothesis =>
    exact (orderly_changeGlobals fun globals => globals.orderly_copy _ _ _).bind fun _ =>
      inductionHypothesis _ _

theorem orderly_saveWindow (start size : Nat) : (saveWindow start size).Orderly := by
  intro machine after fault ends
  have sliced := machine.globals.orderly_slice start size
  unfold saveWindow at ends
  split at ends
  · next other missing =>
    rw [missing] at sliced
    cases ends
    exact sliced
  · next window found =>
    have saved := machine.stack.orderly_save window
    split at ends
    · next other full =>
      rw [full] at saved
      cases ends
      exact saved
    · cases ends

theorem orderly_pushFrame (frame : Frame) : (pushFrame frame).Orderly := by
  intro machine after fault ends
  have pushed := machine.stack.orderly_push frame
  unfold pushFrame at ends
  split at ends
  · next other full =>
    rw [full] at pushed
    cases ends
    exact pushed
  · cases ends

theorem orderly_countCall (function : Nat) : (countCall function).Orderly :=
  fun _ _ _ ends => nomatch ends

theorem orderly_enter (program : Program) (function : Nat) : (enter program function).Orderly := by
  unfold enter
  refine (orderly_inspect fun machine => machine.stack.orderly_checkDepth).bind fun _ => ?_
  dsimp only
  split
  · split
    · refine (orderly_saveWindow _ _).bind fun _ => (orderly_packArguments _ _ _).bind fun _ => ?_
      refine orderly_get.bind fun _ => (orderly_pushFrame _).bind fun _ => ?_
      exact (orderly_countCall function).bind fun _ => orderly_pure _
    · exact orderly_throw trivial
  · exact orderly_throw trivial

theorem orderly_leave : leave.Orderly := by
  intro machine after fault ends
  unfold leave at ends
  split at ends
  · cases ends
  · next frame window stack popped =>
    have restored := machine.globals.orderly_write frame.windowStart window
    dsimp only at ends
    split at ends
    · cases ends
    · next other refused =>
      rw [refused] at restored
      cases ends
      exact restored

theorem orderly_stageArguments (arguments : List Value) (index : Nat) :
    (stageArguments arguments index).Orderly := by
  induction arguments generalizing index with
  | nil => exact orderly_pure ()
  | cons first rest inductionHypothesis =>
    exact (orderly_changeGlobals fun globals => globals.orderly_write _ _).bind fun _ =>
      inductionHypothesis _

/-! ### Statements -/

theorem orderly_callFunction (program : Program) (a arguments : Nat) :
    (callFunction program a arguments).Orderly := by
  unfold callFunction
  refine (orderly_inspect fun machine => machine.globals.orderly_getSigned a).bind
    fun reference => ?_
  dsimp only
  split
  · exact orderly_throw trivial
  refine (orderly_inspect fun _ => orderly_resolve program _).bind fun body => ?_
  cases body with
  | builtin number => exact orderly_pure _
  | statements first => exact (orderly_enter program _).bind fun _ => orderly_pure _

theorem orderly_placeResult (a : Nat) : (placeResult a).Orderly := by
  unfold placeResult
  split
  · exact (orderly_inspect fun machine => machine.globals.orderly_readPadded a).bind fun _ =>
      orderly_changeGlobals fun globals => globals.orderly_write _ _
  · exact orderly_pure _

theorem orderly_branch (taken : Slot → Bool) (index a : Nat) (delta : UInt16) :
    (branch taken index a delta).Orderly := by
  refine (orderly_inspect fun machine => machine.globals.orderly_get a).bind fun _ => ?_
  split
  · exact (orderly_inspect fun _ => Statement.orderly_branchTarget index delta).bind fun _ =>
      orderly_pure _
  · exact orderly_pure _

theorem orderly_changeState (program : Program) (interval : Slot) (a b : Nat) :
    (changeState program interval a b).Orderly :=
  (orderly_inspect fun machine => machine.orderly_stateWrites _ _ _ _).bind fun _ =>
    orderly_forM fun _ => orderly_changeEntities fun entities => entities.orderly_write _ _

/-- What is computed is known from the machine alone; putting it into place is checked. -/
theorem orderly_placeComputed {compute : Machine → Option (Except Fault (List Slot))}
    (orderly : ∀ machine values, compute machine = some values → Gamecode.Orderly values)
    (c : Nat) :
    Action.Orderly (do
      match ← get >>= fun machine => pure (compute machine) with
      | some values =>
        let values ← inspect fun _ => values
        changeGlobals fun globals => globals.write c values
        return Flow.next
      | none => return Flow.next) := by
  intro machine after fault ends
  rw [bind_apply, bind_apply, get_apply] at ends
  dsimp only [pure_apply] at ends
  cases computed : compute machine with
  | none =>
    rw [computed] at ends
    cases ends
  | some values =>
    rw [computed] at ends
    refine Action.Orderly.bind (orderly_inspect fun _ => orderly machine values computed)
      (fun _ => Action.Orderly.bind ?_ fun _ => orderly_pure _) ends
    exact orderly_changeGlobals fun globals => globals.orderly_write _ _

/-- No statement fails with the fault of the guard. -/
theorem orderly_step (program : Program) (configuration : Configuration) (index : Nat)
    (statement : Statement) : (step program configuration index statement).Orderly := by
  unfold step
  refine (orderly_inspect fun _ => statement.orderly_operation).bind fun operation => ?_
  cases operation with
  | done =>
    exact (orderly_changeGlobals fun globals => globals.orderly_fill _ _ _).bind fun _ =>
      orderly_pure _
  | leave => exact (orderly_placeResult _).bind fun _ => orderly_pure _
  | store kind =>
    exact (orderly_changeGlobals fun globals => globals.orderly_copy _ _ _).bind fun _ =>
      orderly_pure _
  | storeThrough kind =>
    refine (orderly_inspect fun machine => machine.globals.orderly_getSigned _).bind fun _ => ?_
    refine (orderly_inspect fun machine => machine.globals.orderly_slice _ _).bind fun _ => ?_
    exact (orderly_changeEntities fun entities => entities.orderly_write _ _).bind fun _ =>
      orderly_pure _
  | branchIf => exact orderly_branch _ _ _ _
  | branchUnless => exact orderly_branch _ _ _ _
  | goto =>
    exact (orderly_inspect fun _ => Statement.orderly_branchTarget _ _).bind fun _ => orderly_pure _
  | call arguments => exact orderly_callFunction _ _ _
  | state =>
    exact (orderly_changeState _ _ _ _).bind fun _ => orderly_pure _
  | _ => exact orderly_placeComputed (fun machine _ => machine.orderly_computed) _

end Machine

end Gamecode
