/-
This file puts the steps that make a program in a row. Each of them is made of a few that are
simpler: texts, new slots, a new function, the end of a function. So whatever the steps are, the
windows are arranged at every point, as long as there are not too many slots.
-/

import Gamecode.Proofs.Assembly.Steps

namespace Gamecode.Assembler

variable {assembler : Assembler} {name : String} {index slot : Nat}

/-! ### Operations -/

/-- The widths of the parameters of one function, for which there is room in its record. -/
abbrev Widths := { widths : List UInt8 // widths.length ≤ Region.maxParameters }

/-- One step in making a program. -/
inductive Operation
  | setChecksum (checksum : UInt16)
  | string (text : String)
  | global (name : String) (type : ValueType) (persistent : Bool)
  | setGlobal (offset : UInt16) (value : Slot)
  | floatConstant (value : Slot)
  | vectorConstant (value : Vector3)
  | stringConstant (text : String)
  | integerConstant (number : Int)
  | field (name : String) (type : ValueType)
  | beginFunction (name : String) (widths : Widths)
  | endFunction
  | builtin (name : String) (number : Nat) (widths : Widths)
  | localSlots (width : Nat)
  | emitRaw (statement : Statement)
  | emit (operation : Opcode) (a b c : UInt16)
  | emitBranch (operation : Opcode) (condition delta : UInt16)
  | emitGoto (delta : UInt16)
  | patchBranch (branch target : Nat)

/-- What the assembler is after a step. -/
def perform (assembler : Assembler) : Operation → Assembler
  | .setChecksum checksum => assembler.setChecksum checksum
  | .string text => (assembler.string text).2
  | .global name type persistent => (assembler.global name type persistent).2
  | .setGlobal offset value => assembler.setGlobal offset value
  | .floatConstant value => (assembler.floatConstant value).2
  | .vectorConstant value => (assembler.vectorConstant value).2
  | .stringConstant text => (assembler.stringConstant text).2
  | .integerConstant number => (assembler.integerConstant number).2
  | .field name type => (assembler.field name type).2
  | .beginFunction name widths => (assembler.beginFunction name widths.1).2
  | .endFunction => assembler.endFunction
  | .builtin name number widths => (assembler.builtin name number widths.1).2
  | .localSlots width => (assembler.localSlots width).2
  | .emitRaw statement => (assembler.emitRaw statement).2
  | .emit operation a b c => (assembler.emit operation a b c).2
  | .emitBranch operation condition delta => (assembler.emitBranch operation condition delta).2
  | .emitGoto delta => (assembler.emitGoto delta).2
  | .patchBranch branch target => assembler.patchBranch branch target

/-- What the empty assembler becomes by a sequence of steps. -/
def run (history : List Operation) : Assembler :=
  history.foldl perform empty

theorem run_append_cons (before : List Operation) (operation : Operation) (rest : List Operation) :
    run (before ++ operation :: rest) = run (before ++ [operation] ++ rest) := by
  rw [List.append_assoc, List.singleton_append]

theorem run_append_singleton (before : List Operation) (operation : Operation) :
    run (before ++ [operation]) = (run before).perform operation := by
  rw [run, List.foldl_append]
  rfl

/-! ### Constants -/

@[simp] theorem size_constant (assembler : Assembler) (values : List Slot) :
    (assembler.constant values).2.globals.size = assembler.globals.size + values.length :=
  (Cells.size_put _ _ _).trans (size_allocate assembler values.length)

@[simp] theorem current_constant (assembler : Assembler) (values : List Slot) :
    (assembler.constant values).2.current = assembler.current :=
  current_allocate assembler values.length

theorem advances_constant (assembler : Assembler) (values : List Slot) :
    assembler.Advances (assembler.constant values).2 :=
  (assembler.advances_allocate values.length).trans (advances_place _ _ _)

/-- A slot is numbered by a word of 16 bits. -/
theorem toNat_offset (few : index < slotLimit) : (UInt16.ofNat index).toNat = index := by
  rw [UInt16.toNat_ofNat']
  exact Nat.mod_eq_of_lt few

/-! ### Fields -/

/-- A field adds slots to the entities and one global of its own. -/
theorem field_eq (assembler : Assembler) (name : String) (type : ValueType) :
    ∃ named : Assembler, assembler.Advances named ∧ named.globals = assembler.globals ∧
      named.current = assembler.current ∧
      assembler.field name type =
        let declared := named.constant [(UInt16.ofNat assembler.entityFields).toUInt32]
        (⟨UInt16.ofNat assembler.entityFields, declared.1⟩,
          declared.2.define name (tagOf .field false) declared.1) := by
  let offset := UInt16.ofNat assembler.entityFields
  let named := (assembler.string name).2
  let declared : Assembler :=
    { named with
      entityFields := named.entityFields + type.width
      fieldDefinitions :=
        named.fieldDefinitions.push ⟨tagOf type false, offset, (assembler.string name).1⟩ }
  have changed : named.Advances declared := advances_of_eq rfl rfl (.inl rfl)
  exact ⟨declared, (assembler.advances_string name).trans changed, globals_string assembler name,
    current_string assembler name, rfl⟩

theorem advances_field (assembler : Assembler) (name : String) (type : ValueType) :
    assembler.Advances (assembler.field name type).2 := by
  obtain ⟨named, advances, -, -, same⟩ := assembler.field_eq name type
  rw [same]
  exact (advances.trans (named.advances_constant _)).trans (advances_define _ _ _ _)

/-! ### Functions -/

@[simp] theorem size_functionGlobal (assembler : Assembler) (name : String) :
    (assembler.functionGlobal name).2.globals.size = assembler.globals.size + 1 :=
  (congrArg Array.size (globals_define _ _ _ _)).trans (size_constant _ _)

@[simp] theorem current_functionGlobal (assembler : Assembler) (name : String) :
    (assembler.functionGlobal name).2.current = assembler.current :=
  (current_define _ _ _ _).trans (current_constant _ _)

theorem functions_functionGlobal_of_none (closed : assembler.current = none) (name : String) :
    (assembler.functionGlobal name).2.functions = assembler.functions :=
  (functions_define _ _ _ _).trans (functions_allocate_of_none closed 1)

theorem advances_functionGlobal (assembler : Assembler) (name : String) :
    assembler.Advances (assembler.functionGlobal name).2 :=
  (assembler.advances_constant _).trans (advances_define _ _ _ _)

/-- The global that holds the number of a function belongs to no function, for none is open when it
is declared. -/
theorem Arranged.not_owns_functionGlobal (arranged : assembler.Arranged) (index : Nat)
    (closed : assembler.current = none)
    (few : (assembler.functionGlobal name).2.globals.size ≤ slotLimit) :
    (assembler.functionGlobal name).1.toNat = assembler.globals.size ∧
      ¬ (assembler.functionGlobal name).2.Owns index (assembler.functionGlobal name).1.toNat := by
  rw [size_functionGlobal] at few
  have number : (assembler.functionGlobal name).1.toNat = assembler.globals.size := toNat_offset few
  refine ⟨number, fun owns => ?_⟩
  rw [Owns, functions_functionGlobal_of_none closed, number] at owns
  exact Nat.lt_irrefl _ (arranged.lt_size owns)

/-- Open a new function of this number, and take the slots of its parameters. -/
def opened (assembler : Assembler) (index : Nat) (function : Function) : Assembler :=
  (allocate { assembler with
    functions := assembler.functions.push function
    current := some index } function.parameterSlots).2

@[simp] theorem size_opened (assembler : Assembler) (index : Nat) (function : Function) :
    (assembler.opened index function).globals.size =
      assembler.globals.size + function.parameterSlots :=
  size_allocate _ _

theorem functions_opened (assembler : Assembler) (function : Function) :
    (assembler.opened assembler.functions.size function).functions =
      assembler.functions.push
        (function.stretched (assembler.globals.size + function.parameterSlots)) := by
  refine Array.ext_getElem? fun index => ?_
  rw [opened, getElem?_functions_allocate]
  dsimp only
  rw [Array.getElem?_push, Array.getElem?_push]
  by_cases isNew : index = assembler.functions.size
  · simp only [isNew, if_true, Option.map_some]
  · simp only [isNew, Ne.symm isNew, if_false, Option.some.injEq, Option.map_id']

/-- The window of a function that was just opened holds its parameters and nothing else. -/
theorem placed_opened {function : Function} (window : function.window =
      UInt32.ofNat assembler.globals.size) (region : Region.size ≤ assembler.globals.size)
    (few : assembler.globals.size + function.parameterSlots ≤ slotLimit) :
    let size := assembler.globals.size + function.parameterSlots
    (function.stretched size).windowBase = assembler.globals.size ∧
      (function.stretched size).Placed size ∧
      (function.stretched size).windowBase + (function.stretched size).windowLength = size := by
  unfold slotLimit at few
  have base : function.windowBase = assembler.globals.size := by
    rw [Function.windowBase, Function.windowStart, window, Image.signed_ofNat (by omega),
      Int.toNat_natCast]
  have positive : 0 < function.windowBase := base ▸ Nat.lt_of_lt_of_le (by decide) region
  have length := @Function.windowLength_stretched function
    (assembler.globals.size + function.parameterSlots) positive
    (Nat.le_trans (Nat.le_of_eq base) (Nat.le_add_right _ _)) (by omega)
  rw [base, Nat.add_sub_cancel_left] at length
  have ends := congrArg (assembler.globals.size + ·) length
  refine ⟨base, ⟨?_, ?_, ?_⟩, ?_⟩
  · exact Nat.le_trans region (Nat.le_of_eq base.symm)
  · rw [Function.windowBase_stretched, base]
    exact Nat.le_of_eq ends
  · rw [Function.parameterSlots_stretched]
    exact Nat.le_of_eq length.symm
  · rw [Function.windowBase_stretched, base]
    exact ends

theorem advances_opened {function : Function}
    (window : function.window = UInt32.ofNat assembler.globals.size) :
    assembler.Advances (assembler.opened assembler.functions.size function) := by
  refine advances_push (functions_opened assembler function) ?_ ?_ ?_
  · rw [size_opened]
    exact Nat.le_add_right _ _
  · intro arranged few
    rw [size_opened] at few ⊢
    obtain ⟨base, placed, -⟩ := placed_opened window arranged.region_le few
    exact .inr ⟨Nat.le_of_eq base.symm, placed⟩
  · intro arranged few
    rw [size_opened] at few ⊢
    obtain ⟨-, placed, ends⟩ := placed_opened window arranged.region_le few
    exact .inr ⟨current_allocate _ _, placed, ends⟩

/-- A function is opened behind the global that holds its number. -/
theorem beginFunction_eq (assembler : Assembler) (name : String) (widths : List UInt8) :
    ∃ (named : Assembler) (function : Function), assembler.Advances named ∧ named.current = none ∧
      named.globals = assembler.globals ∧ named.functions = assembler.functions ∧
      function.widths = widths ∧
      function.window = UInt32.ofNat (named.functionGlobal name).2.globals.size ∧
      assembler.beginFunction name widths =
        (⟨assembler.functions.size, (named.functionGlobal name).1⟩,
          (named.functionGlobal name).2.opened assembler.functions.size function) := by
  refine ⟨((assembler.endFunction.string name).2.string sourceFile).2, _, ?_, ?_, ?_, ?_, rfl, rfl,
    rfl⟩
  · exact (assembler.advances_endFunction.trans (advances_string _ _)).trans (advances_string _ _)
  · rw [current_string, current_string]
    rfl
  · rw [globals_string, globals_string]
    rfl
  · rw [functions_string, functions_string]
    rfl

/-- A function of the host is declared behind the global that holds its number. -/
theorem builtin_eq (assembler : Assembler) (name : String) (number : Nat) (widths : List UInt8) :
    ∃ (named : Assembler) (function : Function), assembler.Advances named ∧ named.current = none ∧
      named.globals = assembler.globals ∧ named.functions = assembler.functions ∧
      function.widths = widths ∧ function.Windowless ∧
      assembler.builtin name number widths =
        (⟨assembler.functions.size, (named.functionGlobal name).1⟩,
          { (named.functionGlobal name).2 with
            functions := (named.functionGlobal name).2.functions.push function }) := by
  refine ⟨(assembler.endFunction.string name).2, _, ?_, ?_, ?_, ?_, rfl, ⟨rfl, rfl⟩, rfl⟩
  · exact assembler.advances_endFunction.trans (advances_string _ _)
  · rw [current_string]
    rfl
  · rw [globals_string]
    rfl
  · rw [functions_string]
    rfl

theorem advances_beginFunction (assembler : Assembler) (name : String) (widths : List UInt8) :
    assembler.Advances (assembler.beginFunction name widths).2 := by
  obtain ⟨named, function, advances, closed, -, functions, -, window, same⟩ :=
    assembler.beginFunction_eq name widths
  rw [same, ← functions, ← functions_functionGlobal_of_none closed name]
  exact (advances.trans (named.advances_functionGlobal name)).trans (advances_opened window)

theorem advances_builtin (assembler : Assembler) (name : String) (number : Nat)
    (widths : List UInt8) : assembler.Advances (assembler.builtin name number widths).2 := by
  obtain ⟨named, function, advances, closed, -, -, -, windowless, same⟩ :=
    assembler.builtin_eq name number widths
  rw [same]
  refine (advances.trans (named.advances_functionGlobal name)).trans
    (advances_push rfl (Nat.le_refl _) ?_ ?_)
  · exact fun _ _ => .inl windowless
  · exact fun _ _ => .inl ((current_functionGlobal named name).trans closed)

/-! ### Runs -/

/-- Whatever the step is, the windows stay arranged. -/
theorem advances_perform (assembler : Assembler) (operation : Operation) :
    assembler.Advances (assembler.perform operation) := by
  cases operation with
  | string text => exact advances_string _ _
  | global name type persistent => exact (advances_allocate _ _).trans (advances_define _ _ _ _)
  | setGlobal offset value => exact advances_place _ _ _
  | floatConstant value => exact advances_constant _ _
  | vectorConstant value => exact advances_constant _ _
  | stringConstant text => exact (advances_string _ _).trans (advances_constant _ _)
  | integerConstant number => exact advances_constant _ _
  | field name type => exact advances_field _ _ _
  | beginFunction name widths => exact advances_beginFunction _ _ _
  | endFunction => exact advances_endFunction _
  | builtin name number widths => exact advances_builtin _ _ _ _
  | localSlots width => exact advances_allocate _ _
  | setChecksum | emitRaw | emit | emitBranch | emitGoto | patchBranch =>
    exact advances_of_eq rfl rfl (.inl rfl)

theorem advances_run (before rest : List Operation) :
    (run before).Advances (run (before ++ rest)) := by
  induction rest generalizing before with
  | nil =>
    rw [List.append_nil]
    exact advances_of_eq rfl rfl (.inl rfl)
  | cons operation rest inductionHypothesis =>
    have first := (run before).advances_perform operation
    rw [← run_append_singleton] at first
    rw [run_append_cons]
    exact first.trans (inductionHypothesis (before ++ [operation]))

theorem arranged_empty : empty.Arranged where
  region_le := Nat.le_of_eq Array.size_replicate.symm
  shape := by
    intro index function found
    obtain rfl := List.mem_singleton.mp (Array.mem_toList_iff.mpr (Array.mem_of_getElem? found))
    exact .inl ⟨rfl, rfl⟩
  apart := by
    rintro first second slot ⟨function, found, contains⟩ -
    obtain rfl := List.mem_singleton.mp (Array.mem_toList_iff.mpr (Array.mem_of_getElem? found))
    exact absurd contains (Function.Windowless.not_contains ⟨rfl, rfl⟩)
  current := nofun

/-- The windows are arranged after every sequence of steps. -/
theorem arranged_run {history : List Operation} (few : (run history).globals.size ≤ slotLimit) :
    (run history).Arranged :=
  (advances_run [] history).arranged arranged_empty few

/-- Around one step of a run: the windows were arranged before it, and what belonged to a function
or to none after it still does in the end. -/
theorem around_step {before rest : List Operation} {operation : Operation}
    (few : (run (before ++ operation :: rest)).globals.size ≤ slotLimit) :
    (run before).Arranged ∧ ((run before).perform operation).globals.size ≤ slotLimit ∧
      ((run before).perform operation).globals.size ≤
        (run (before ++ operation :: rest)).globals.size ∧
      ((run before).perform operation).Extends (run (before ++ operation :: rest)) := by
  rw [run_append_cons] at few ⊢
  have first := (run before).advances_perform operation
  have behind := advances_run (before ++ [operation]) rest
  rw [run_append_singleton] at behind
  have fewThen := Nat.le_trans behind.size_le few
  have arranged := arranged_run (Nat.le_trans first.size_le fewThen)
  exact ⟨arranged, fewThen, behind.size_le, behind.extend (first.arranged arranged fewThen) few⟩

/-- The steps are those from which every assembler is made. -/
theorem made_run (history : List Operation) : (run history).Made := by
  suffices ∀ before : Assembler, before.Made → (history.foldl perform before).Made from
    this empty .empty
  induction history with
  | nil => exact fun _ made => made
  | cons operation rest inductionHypothesis =>
    refine fun before made => inductionHypothesis _ ?_
    cases operation with
    | setChecksum checksum => exact .setChecksum made _
    | string text => exact .string made _
    | global name type persistent => exact .global made _ _ _
    | setGlobal offset value => exact .setGlobal made _ _
    | floatConstant value => exact .floatConstant made _
    | vectorConstant value => exact .vectorConstant made _
    | stringConstant text => exact .stringConstant made _
    | integerConstant number => exact .integerConstant made _
    | field name type => exact .field made _ _
    | beginFunction name widths => exact .beginFunction made _ widths.2
    | endFunction => exact .endFunction made
    | builtin name number widths => exact .builtin made _ _ widths.2
    | localSlots width => exact .localSlots made _
    | emitRaw statement => exact .emitRaw made _
    | emit operation a b c => exact .emit made _ _ _ _
    | emitBranch operation condition delta => exact .emitBranch made _ _ _
    | emitGoto delta => exact .emitGoto made _
    | patchBranch branch target => exact .patchBranch made _ _

end Gamecode.Assembler
