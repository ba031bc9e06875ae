/-
Builtins are functions that the host implements. A builtin is a script: it observes the machine,
changes it, and may run other functions. The machine alone enters and leaves functions, so whatever
a script does to the active functions it does by running one.
-/

import Gamecode.Machine.State
import Gamecode.Value

namespace Gamecode

/-- A script with a result. -/
inductive Native (α : Type) : Type
  | done (value : α)
  | fail (fault : Fault)
  | observe (next : Program → Machine → Native α)
  | change (update : Machine → Machine) (next : Native α)
  /-- Run a function on whatever the parameter blocks hold. -/
  | invoke (function : Nat) (next : Except Fault Unit → Native α)
  /-- Run a function on given arguments, with the return area as its result. -/
  | call (function : Nat) (arguments : List Value) (next : Except Report Vector3 → Native α)

namespace Native

variable {α β : Type}

/-- One script after the other; a fault ends both. -/
def bind : Native α → (α → Native β) → Native β
  | .done value, continuation => continuation value
  | .fail fault, _ => .fail fault
  | .observe next, continuation =>
    .observe fun program machine => bind (next program machine) continuation
  | .change update next, continuation => .change update (bind next continuation)
  | .invoke function next, continuation =>
    .invoke function fun result => bind (next result) continuation
  | .call function arguments next, continuation =>
    .call function arguments fun result => bind (next result) continuation

instance : Monad Native where
  pure := .done
  bind := bind

/-- A script is unchanged by doing nothing after it. -/
theorem bind_done (script : Native α) : bind script .done = script := by
  induction script with
  | done | fail => rfl
  | observe next inductionHypothesis =>
    exact congrArg Native.observe
      (funext fun program => funext fun machine => inductionHypothesis program machine)
  | change update next inductionHypothesis =>
    exact congrArg (Native.change update) inductionHypothesis
  | invoke function next inductionHypothesis =>
    exact congrArg (Native.invoke function) (funext inductionHypothesis)
  | call function arguments next inductionHypothesis =>
    exact congrArg (Native.call function arguments) (funext inductionHypothesis)

/-- Of three scripts in a row, either two may be taken as one. -/
theorem bind_assoc {γ : Type} (script : Native α) (second : α → Native β) (third : β → Native γ) :
    bind (bind script second) third = bind script fun value => bind (second value) third := by
  induction script with
  | done | fail => rfl
  | observe next inductionHypothesis =>
    exact congrArg Native.observe
      (funext fun program => funext fun machine => inductionHypothesis program machine)
  | change update next inductionHypothesis =>
    exact congrArg (Native.change update) inductionHypothesis
  | invoke function next inductionHypothesis =>
    exact congrArg (Native.invoke function) (funext inductionHypothesis)
  | call function arguments next inductionHypothesis =>
    exact congrArg (Native.call function arguments) (funext inductionHypothesis)

instance : LawfulMonad Native :=
  LawfulMonad.mk' Native bind_done (fun _ _ => rfl) bind_assoc

/-! ### Steps of scripts -/

/-- A result that is there already. -/
def ofExcept : Except Fault α → Native α
  | .ok value => .done value
  | .error fault => .fail fault

/-- Look something up. -/
def ask (look : Program → Machine → α) : Native α :=
  .observe fun program machine => .done (look program machine)

/-- Look something up that may be missing. -/
def check (look : Program → Machine → Except Fault α) : Native α :=
  .observe fun program machine => ofExcept (look program machine)

/-- Change the machine. -/
def modify (update : Machine → Machine) : Native Unit :=
  .change update (.done ())

/-- Replace the globals, the strings or the entities. -/
def setGlobals (globals : Globals) : Native Unit :=
  modify fun machine => { machine with globals }

/-- Replace the strings. -/
def setStrings (strings : StringHeap) : Native Unit :=
  modify fun machine => { machine with strings }

/-- Replace the entities. -/
def setEntities (entities : EntityStore) : Native Unit :=
  modify fun machine => { machine with entities }

/-- Print a text on the console. -/
def print (text : String) : Native Unit :=
  modify fun machine => machine.print text

/-- Run a function; what it returned is in the return area. -/
def run (function : Nat) : Native (Except Fault Unit) :=
  .invoke function .done

/-- Run a function on given arguments. -/
def runWith (function : Nat) (arguments : List Value) : Native (Except Report Vector3) :=
  .call function arguments .done

/-! ### Arguments and results -/

/-- How many arguments the builtin was given. -/
def argumentCount : Native Nat :=
  ask fun _ machine => machine.argumentCount

/-- An argument that is a float. -/
def floatArgument (index : Nat) : Native Slot :=
  check fun _ machine => machine.globals.get (Region.parameterOffset index)

/-- An argument that is a vector. -/
def vectorArgument (index : Nat) : Native Vector3 :=
  check fun _ machine => machine.globals.getVector (Region.parameterOffset index)

/-- An entity, a function or a string. -/
def referenceArgument (index : Nat) : Native Int :=
  check fun _ machine => machine.globals.getSigned (Region.parameterOffset index)

/-- The text of an argument that is a string. -/
def textArgument (index : Nat) : Native String := do
  let reference ← referenceArgument index
  check fun _ machine => machine.strings.getText reference

/-- Return a float. -/
def returnFloat (value : Slot) : Native Unit := do
  setGlobals (← check fun _ machine => machine.globals.set Region.returnStart value)

/-- Return a vector. -/
def returnVector (value : Vector3) : Native Unit := do
  setGlobals (← check fun _ machine => machine.globals.setVector Region.returnStart value)

/-- Return an entity, a function or a string. -/
def returnReference (reference : Int) : Native Unit := do
  setGlobals (← check fun _ machine => machine.globals.setSigned Region.returnStart reference)

/-- Return a text as a new temporary string. -/
def returnText (text : String) : Native Int := do
  let (reference, strings) ← ask fun _ machine =>
    machine.strings.addTemporary (Text.encode text)
  setStrings strings
  returnReference reference
  return reference

end Native

/-! ### Tables of builtins -/

/-- A builtin has a number by which programs call it. -/
structure Builtin where
  number : Nat
  name : String
  script : Native Unit

/-- The builtins that a host offers, in the order of their numbers. -/
structure BuiltinTable where
  entries : List Builtin

namespace BuiltinTable

/-- A host that offers nothing. -/
def empty : BuiltinTable := ⟨[]⟩

/-- Put a builtin at its place in a list, instead of one that has the same number. -/
def insert (builtin : Builtin) : List Builtin → List Builtin
  | [] => [builtin]
  | entry :: rest =>
    if builtin.number < entry.number then builtin :: entry :: rest
    else if builtin.number = entry.number then builtin :: rest
    else entry :: insert builtin rest

/-- Offer a builtin, instead of an earlier one of the same number. -/
def register (table : BuiltinTable) (builtin : Builtin) : BuiltinTable :=
  ⟨insert builtin table.entries⟩

/-- The builtin of a number. -/
def get? (table : BuiltinTable) (number : Nat) : Option Builtin :=
  table.entries.find? fun builtin => builtin.number = number

/-- A builtin is found where it was put. -/
theorem find?_insert_self (builtin : Builtin) (entries : List Builtin) :
    (insert builtin entries).find? (fun entry => entry.number = builtin.number) =
      some builtin := by
  induction entries with
  | nil => simp [insert]
  | cons entry rest inductionHypothesis =>
    rw [insert]
    split
    · simp
    · split
      · simp
      · next different =>
        rw [List.find?_cons_of_neg (by simpa using fun same => different (Eq.symm same)),
          inductionHypothesis]

/-- Putting a builtin at its place hides no other number. -/
theorem find?_insert_other {builtin : Builtin} {number : Nat} (different : number ≠ builtin.number)
    (entries : List Builtin) :
    (insert builtin entries).find? (fun entry => entry.number = number) =
      entries.find? (fun entry => entry.number = number) := by
  have passed : (builtin.number = number) = False := eq_false (Ne.symm different)
  induction entries with
  | nil => simp [insert, passed]
  | cons entry rest inductionHypothesis =>
    rw [insert]
    split
    · simp [passed]
    · split
      · next same => simp [passed, ← same]
      · simp only [List.find?_cons, inductionHypothesis]

/-- A builtin that was registered is found under its number. -/
theorem get?_register_self (table : BuiltinTable) (builtin : Builtin) :
    (table.register builtin).get? builtin.number = some builtin :=
  find?_insert_self builtin table.entries

/-- Registering a builtin leaves every other number as it was. -/
theorem get?_register_other (table : BuiltinTable) {builtin : Builtin} {number : Nat}
    (different : number ≠ builtin.number) :
    (table.register builtin).get? number = table.get? number :=
  find?_insert_other different table.entries

/-- How many builtins are offered. -/
def size (table : BuiltinTable) : Nat :=
  table.entries.length

/-- The number that a program gives the builtin of a name. -/
def declaredNumber (program : Program) (name : String) : Except Fault Nat :=
  let missing : Fault := .notFound ("builtin " ++ name)
  match program.findFunction? name with
  | none => .error missing
  | some function =>
    match program.functions[function]?.map Function.body with
    | some (.builtin number) => .ok number
    | _ => .error missing

end BuiltinTable

end Gamecode
