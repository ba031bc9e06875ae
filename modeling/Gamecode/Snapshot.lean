/-
Snapshots hold values by name, so they outlive a change of the program as long as the names and
types they mention still exist. Strings and functions are held as texts. A snapshot of globals holds
the persistent ones; a snapshot of an entity holds its fields that are not zero.
-/

import Gamecode.Machine.State

namespace Gamecode

/-! ### Saved values -/

/-- A value without references: strings and functions are saved by what they are called. -/
inductive SavedValue
  | float (bits : Slot)
  | vector (components : Vector3)
  | string (text : String)
  | entity (number : Int)
  | function (name : String)
deriving Repr, DecidableEq

namespace SavedValue

/-- The type of the definitions that the value can be given to. -/
def type : SavedValue → ValueType
  | float _ => .float
  | vector _ => .vector
  | string _ => .string
  | entity _ => .entity
  | function _ => .function

/-- Whether the value says nothing, so that the snapshot of an entity leaves it out. -/
def isZero : SavedValue → Bool
  | float bits => bits.isZero
  | vector components => components.isZero
  | string text | function text => text.isEmpty
  | entity number => number = 0

/-- Whether values of a type can be saved. -/
def isSaveable : ValueType → Bool
  | .float | .vector | .string | .entity | .function => true
  | _ => false

end SavedValue

/-! ### Snapshots -/

/-- Values by name, in the order of the names. -/
structure Snapshot where
  entries : List (String × SavedValue)
deriving Repr, DecidableEq

namespace Snapshot

/-- No values. -/
def empty : Snapshot := ⟨[]⟩

/-- Put a value at its place, instead of one that has the same name. -/
def insertSorted (name : String) (value : SavedValue) :
    List (String × SavedValue) → List (String × SavedValue)
  | [] => [(name, value)]
  | entry :: rest =>
    if name < entry.1 then (name, value) :: entry :: rest
    else if name = entry.1 then (name, value) :: rest
    else entry :: insertSorted name value rest

/-- A value is found under its name. -/
theorem lookup_insertSorted_self (name : String) (value : SavedValue)
    (entries : List (String × SavedValue)) :
    (insertSorted name value entries).lookup name = some value := by
  induction entries with
  | nil => simp [insertSorted]
  | cons entry rest inductionHypothesis =>
    rw [insertSorted]
    split
    · simp
    · split
      · simp
      · next different =>
        rw [List.lookup_cons, beq_false_of_ne different]
        exact inductionHypothesis

/-- A value hides no other name. -/
theorem lookup_insertSorted_other {name other : String} (different : other ≠ name)
    (value : SavedValue) (entries : List (String × SavedValue)) :
    (insertSorted name value entries).lookup other = entries.lookup other := by
  have passed := beq_false_of_ne different
  induction entries with
  | nil => simp [insertSorted, List.lookup_cons, passed]
  | cons entry rest inductionHypothesis =>
    rw [insertSorted]
    split
    · rw [List.lookup_cons, passed]
    · split
      · next same => rw [List.lookup_cons, List.lookup_cons, ← same, passed]
      · rw [List.lookup_cons, List.lookup_cons, inductionHypothesis]

/-- Save a value under a name, instead of an earlier one. -/
def insert (snapshot : Snapshot) (name : String) (value : SavedValue) : Snapshot :=
  ⟨insertSorted name value snapshot.entries⟩

/-- The snapshot of a list of values; of two with one name the later one counts. -/
def ofList (entries : List (String × SavedValue)) : Snapshot :=
  entries.foldl (fun snapshot entry => snapshot.insert entry.1 entry.2) empty

/-! ### Taking snapshots -/

/-- The value that slots hold for a type. -/
def valueOf (program : Program) (strings : StringHeap) (type : ValueType) (slots : List Slot) :
    Except Fault SavedValue :=
  let first := slots.getD 0 0
  match type with
  | .float => .ok (.float first)
  | .vector => .ok (.vector ⟨first, slots.getD 1 0, slots.getD 2 0⟩)
  | .string => SavedValue.string <$> strings.getText (Slot.signed first)
  | .entity => .ok (.entity (Slot.signed first))
  | .function => .ok (.function (program.functionName first.toNat))
  | other => .error (.snapshot (.unsaveableType other))

/-- The name and type of a definition that has a name and a type that can be saved. -/
def nameAndType? (program : Program) (definition : Definition) : Option (String × ValueType) := do
  let type ← definition.type?.filter SavedValue.isSaveable
  let name := program.nameText definition.name
  if name = "" then none else some (name, type)

/-- Add the value of one persistent global. -/
def addGlobal (program : Program) (machine : Machine) (snapshot : Snapshot)
    (definition : Definition) : Except Fault Snapshot :=
  match nameAndType? program definition with
  | none => .ok snapshot
  | some (name, type) => do
    let slots ← machine.globals.slice definition.start type.width
    let value ← valueOf program machine.strings type slots
    return snapshot.insert name value

/-- The persistent globals. -/
def ofGlobals (program : Program) (machine : Machine) : Except Fault Snapshot :=
  (program.globalDefinitions.toList.filter Definition.isPersistent).foldlM
    (addGlobal program machine) empty

/-- Compilers name the components of a vector after it, with one of three endings. -/
def isComponent (name : String) : Bool :=
  name.endsWith "_x" || name.endsWith "_y" || name.endsWith "_z"

/-- Add the value of one field of an entity, unless it is zero. -/
def addField (program : Program) (machine : Machine) (entity : Int) (snapshot : Snapshot)
    (definition : Definition) : Except Fault Snapshot :=
  match nameAndType? program definition with
  | none => .ok snapshot
  | some (name, type) =>
    if isComponent name then .ok snapshot
    else do
      let pointer ← machine.entities.address entity definition.start type.width
      let slots ← machine.entities.read pointer type.width
      let value ← valueOf program machine.strings type slots
      return if value.isZero then snapshot else snapshot.insert name value

/-- The fields of an entity that are not zero. -/
def ofEntity (program : Program) (machine : Machine) (entity : Int) : Except Fault Snapshot := do
  let _ ← machine.entities.checkEntity entity
  program.fieldDefinitions.toList.foldlM (addField program machine entity) empty

/-! ### Applying snapshots -/

/-- The slots of a saved value; a text becomes a permanent string. -/
def slotsOf (program : Program) : SavedValue → Action (List Slot)
  | .float bits => return [bits]
  | .vector components => return components.toList
  | .string text => fun machine =>
    let (reference, strings) := machine.strings.intern (Text.encode text)
    .ok [Slot.ofSigned reference] { machine with strings }
  | .entity number => return [Slot.ofSigned number]
  | .function name => do
    if name = "" then return [0]
    match program.findFunction? name with
    | some function => return [UInt32.ofNat function]
    | none => throw (.snapshot (.unknownFunction name))

/-- The slots of a saved value for a definition, which must have the type of the value. -/
def slotsFor (program : Program) (name : String) (definition : Definition) (value : SavedValue) :
    Action (List Slot) := do
  let some type := definition.type?.filter SavedValue.isSaveable
    | throw (.snapshot (.notSaveable name))
  if value.type ≠ type then throw (.snapshot (.typeMismatch name type value.type))
  slotsOf program value

/-- Give a persistent global its saved value. -/
def applyGlobal (program : Program) (name : String) (value : SavedValue) : Action Unit := do
  let some definition := (program.findGlobal? name).filter Definition.isPersistent
    | throw (.snapshot (.notPersistent name))
  let slots ← slotsFor program name definition value
  Action.changeGlobals fun globals => globals.write definition.start slots

/-- Give the persistent globals their saved values, up to the first value that cannot be given. -/
def applyToGlobals (program : Program) (snapshot : Snapshot) : Action Unit :=
  snapshot.entries.forM fun (name, value) => applyGlobal program name value

/-- Give a field of an entity its saved value. -/
def applyField (program : Program) (entity : Int) (name : String) (value : SavedValue) :
    Action Unit := do
  let some definition := program.findField? name | throw (.snapshot (.unknownField name))
  let slots ← slotsFor program name definition value
  let pointer ← Action.inspect fun machine =>
    machine.entities.address entity definition.start slots.length
  Action.changeEntities fun entities => entities.write pointer slots

/-- Zero the record of an entity other than the world. -/
def clearFields (entity : Int) : Action Unit := do
  let stride := (← get).entities.stride
  if entity ≠ 0 ∧ 0 < stride then
    let pointer ← Action.inspect fun machine => machine.entities.address entity 0 stride
    Action.changeEntities fun entities => entities.write pointer (List.replicate stride 0)

/-- Give the fields of an entity their saved values; fields without one become zero. -/
def applyToEntity (program : Program) (entity : Int) (snapshot : Snapshot) : Action Unit := do
  let _ ← Action.inspect fun machine => machine.entities.checkEntity entity
  clearFields entity
  snapshot.entries.forM fun (name, value) => applyField program entity name value

end Snapshot

end Gamecode
