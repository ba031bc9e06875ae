/-
This file is about the windows of a program in the making, at every point of every sequence of
steps. They are apart from each other, each lies where the program may have it and has room for the
parameters, and the global that holds the number of a function is in none of them. What the
assembler gives as the place of a parameter is where entering the function puts the argument.
-/

import Gamecode.Proofs.Assembly.Operations
import Gamecode.Proofs.Calls.Convention

namespace Gamecode

/-! ### Where arguments go -/

theorem totalWidth_append (earlier later : List UInt8) :
    totalWidth (earlier ++ later) = totalWidth earlier + totalWidth later := by
  induction earlier with
  | nil => exact (Nat.zero_add _).symm
  | cons width rest inductionHypothesis =>
    rw [List.cons_append, totalWidth, totalWidth, inductionHypothesis, Nat.add_assoc]

theorem totalWidth_le (widths : List UInt8) : totalWidth widths ≤ 255 * widths.length := by
  induction widths with
  | nil => exact Nat.le_refl 0
  | cons width rest inductionHypothesis =>
    have narrow := width.toNat_lt
    rw [totalWidth, List.length_cons]
    omega

/-- The list around one of its members. -/
theorem eq_take_append {α : Type} {members : List α} {place : Nat} {member : α}
    (found : members[place]? = some member) :
    members = members.take place ++ member :: members.drop (place + 1) := by
  obtain ⟨inside, same⟩ := List.getElem?_eq_some_iff.mp found
  rw [← same, ← List.drop_eq_getElem_cons inside, List.take_append_drop]

/-- A parameter ends before the parameters do. -/
theorem totalWidth_take_add_le {widths : List UInt8} {place : Nat} {width : UInt8}
    (found : widths[place]? = some width) :
    totalWidth (widths.take place) + width.toNat ≤ totalWidth widths := by
  have parts := congrArg totalWidth (eq_take_append found)
  rw [totalWidth_append, totalWidth] at parts
  omega

/-- The copy of one argument, when a function is entered, goes to the slots from this one on. The
earlier arguments are copied before, and the later ones behind it. -/
def Function.PlacesArgument (function : Function) (place slot : Nat) : Prop :=
  ∃ width, function.widths[place]? = some width ∧
    Machine.packArguments function.widths 0 function.windowBase = (do
      Machine.packArguments (function.widths.take place) 0 function.windowBase
      Action.changeGlobals fun globals =>
        globals.copy (Region.parameterOffset place) slot width.toNat
      Machine.packArguments (function.widths.drop (place + 1)) (place + 1) (slot + width.toNat))

namespace Machine

theorem packArguments_append (earlier later : List UInt8) (block target : Nat) :
    packArguments (earlier ++ later) block target = (do
      packArguments earlier block target
      packArguments later (block + earlier.length) (target + totalWidth earlier)) := by
  induction earlier generalizing block target with
  | nil => rfl
  | cons width rest inductionHypothesis =>
    rw [List.cons_append, packArguments, packArguments, inductionHypothesis, bind_assoc,
      List.length_cons, totalWidth, Nat.add_assoc block, Nat.add_comm 1, Nat.add_assoc target]

theorem placesArgument {function : Function} {place : Nat} {width : UInt8}
    (found : function.widths[place]? = some width) :
    function.PlacesArgument place
      (function.windowBase + totalWidth (function.widths.take place)) := by
  refine ⟨width, found, ?_⟩
  obtain ⟨inside, -⟩ := List.getElem?_eq_some_iff.mp found
  have length : (function.widths.take place).length = place :=
    List.length_take_of_le (Nat.le_of_lt inside)
  have parts := packArguments_append (function.widths.take place)
    (width :: function.widths.drop (place + 1)) 0 function.windowBase
  rw [← eq_take_append found, Nat.zero_add, length] at parts
  exact parts

/-- Arguments that were packed had room where they went. -/
theorem packed_of_packArguments {widths : List UInt8} {block target : Nat} {machine after : Machine}
    (packs : packArguments widths block target machine = .ok () after) :
    (totalWidth widths = 0 ∨ target + totalWidth widths ≤ machine.globals.size) ∧
      after.globals.slots = machine.globals.slots.packed widths block target := by
  induction widths generalizing block target machine with
  | nil =>
    cases packs
    exact ⟨.inl rfl, rfl⟩
  | cons width rest inductionHypothesis =>
    obtain ⟨_, middle, changes, packs⟩ := Action.bind_eq_ok_iff.mp packs
    obtain ⟨room, slots⟩ := inductionHypothesis packs
    unfold Action.changeGlobals at changes
    split at changes
    · next globals copied =>
      cases changes
      obtain ⟨-, inside, rfl⟩ := Globals.copy_eq_ok_iff.mp copied
      have size := Cells.size_put machine.globals.slots target
        (machine.globals.slots.window (Region.parameterOffset block) width.toNat)
      refine ⟨.inr ?_, slots⟩
      unfold Globals.Covers at inside
      unfold Globals.size at room inside ⊢
      rw [size] at room
      rw [totalWidth]
      omega
    · cases changes

theorem globals_of_saveWindow {start size position : Nat} {machine after : Machine}
    (saves : saveWindow start size machine = .ok position after) :
    after.globals = machine.globals := by
  unfold saveWindow at saves
  split at saves
  · cases saves
  · split at saves
    · cases saves
    · cases saves
      rfl

theorem globals_of_pushFrame {frame : Frame} {machine after : Machine}
    (pushes : pushFrame frame machine = .ok () after) : after.globals = machine.globals := by
  unfold pushFrame at pushes
  split at pushes
  · cases pushes
  · cases pushes
    rfl

/-- Whatever function is entered, its arguments were packed into its window, and nothing else was
written to the globals. -/
theorem packed_of_enter {program : Program} {function first : Nat} {machine after : Machine}
    (enters : enter program function machine = .ok first after) :
    ∃ found, program.functions[function]? = some found ∧
      (totalWidth found.widths = 0 ∨
        found.windowBase + totalWidth found.widths ≤ machine.globals.size) ∧
      after.globals.slots = machine.globals.slots.packed found.widths 0 found.windowBase := by
  obtain ⟨_, same, checked, looked⟩ := Action.bind_eq_ok_iff.mp enters
  unfold Action.inspect at checked
  split at checked
  · cases checked
    cases isFunction : program.functions[function]? with
    | none =>
      rw [isFunction] at looked
      cases looked
    | some found =>
      rw [isFunction] at looked
      dsimp only at looked
      cases body : found.body with
      | builtin number =>
        rw [body] at looked
        cases looked
      | statements start =>
        rw [body] at looked
        obtain ⟨_, stacked, saves, packed⟩ := Action.bind_eq_ok_iff.mp looked
        obtain ⟨_, packed, packs, pushed⟩ := Action.bind_eq_ok_iff.mp packed
        rw [Action.bind_apply, Action.get_apply] at pushed
        obtain ⟨_, pushed, pushes, counted⟩ := Action.bind_eq_ok_iff.mp pushed
        have counts : after.globals = pushed.globals := by
          obtain ⟨-, rfl⟩ := EStateM.Result.ok.inj counted
          rfl
        obtain ⟨room, slots⟩ := packed_of_packArguments packs
        rw [globals_of_saveWindow saves] at room slots
        rw [← globals_of_pushFrame pushes, ← counts] at slots
        exact ⟨found, rfl, room, slots⟩
  · cases checked

/-- The first slot of every argument goes to the place of its parameter, however wide the parameters
are. -/
theorem exists_passed {program : Program} {function first place : Nat} {found : Function}
    {width : UInt8} {machine after : Machine}
    (enters : enter program function machine = .ok first after)
    (isFunction : program.functions[function]? = some found)
    (reserved : Region.size ≤ found.windowBase)
    (few : found.widths.length ≤ Region.maxParameters)
    (isParameter : found.widths[place]? = some width) (positive : 0 < width.toNat) :
    ∃ value, machine.globals.slots[Region.parameterOffset place]? = some value ∧
      after.globals.slots[found.windowBase + totalWidth (found.widths.take place)]? =
        some value := by
  obtain ⟨other, same, room, slots⟩ := packed_of_enter enters
  obtain rfl := Option.some.inj (isFunction.symm.trans same)
  have before := totalWidth_take_add_le isParameter
  have fits : found.windowBase + totalWidth found.widths ≤ machine.globals.size := by omega
  obtain ⟨inside, -⟩ := List.getElem?_eq_some_iff.mp isParameter
  have block := Region.parameterOffset_add_le (Nat.lt_of_lt_of_le inside few)
  have present : Region.parameterOffset place < machine.globals.slots.size := by
    unfold Region.blockWidth at block
    unfold Globals.size at fits
    omega
  have copied := Cells.getElem?_packed_of_lt (by rwa [Nat.zero_add]) reserved fits isParameter
    positive (by decide)
  rw [Nat.zero_add, Nat.add_zero, Nat.add_zero] at copied
  have held := Array.getElem?_eq_getElem present
  rw [slots]
  exact ⟨_, held, copied.trans held⟩

end Machine

namespace Assembler

variable {assembler : Assembler} {name : String} {widths : Widths}

/-! ### Functions that were declared -/

/-- The function that a step declares. -/
def Operation.symbol? (assembler : Assembler) : Operation → Option FunctionSymbol
  | .beginFunction name widths => some (assembler.beginFunction name widths.1).1
  | .builtin name number widths => some (assembler.builtin name number widths.1).1
  | _ => none

/-- One of the steps declared a function under this symbol. -/
def Declares (history : List Operation) (symbol : FunctionSymbol) : Prop :=
  ∃ before operation rest, history = before ++ operation :: rest ∧
    operation.symbol? (run before) = some symbol

/-- One of the steps opened a function with parameters of these widths under this symbol. -/
def Opens (history : List Operation) (symbol : FunctionSymbol) (widths : Widths) : Prop :=
  ∃ before name rest, history = before ++ .beginFunction name widths :: rest ∧
    ((run before).beginFunction name widths.1).1 = symbol

/-- What holds of the functions and windows once these steps were made. -/
structure LaidOut (history : List Operation) : Prop where
  /-- No slot lies in two windows. -/
  apart : ∀ {first second slot : Nat}, (run history).Owns first slot →
    (run history).Owns second slot → first = second
  /-- A function has no slots, or its window is where it may be and has room for the parameters. -/
  shape : ∀ {index : Nat} {function : Function}, (run history).functions[index]? = some function →
    function.Windowless ∨ function.Placed (run history).globals.size
  /-- A function that a step opened has such a window. -/
  opened : ∀ {symbol : FunctionSymbol} {widths : Widths}, Opens history symbol widths →
    ∃ function, (run history).functions[symbol.index]? = some function ∧
      function.widths = widths ∧ function.Placed (run history).globals.size
  /-- The global that holds the number of a function lies in no window. -/
  number : ∀ {symbol : FunctionSymbol}, Declares history symbol →
    symbol.global.toNat < (run history).globals.size ∧
      ∀ index, ¬ (run history).Owns index symbol.global.toNat
  /-- A parameter is where entering the function copies the argument to. Only a parameter without
  slots, behind the last slot that has a number, has no place. -/
  parameter : ∀ {index place : Nat} {function : Function} {width : UInt8},
    (run history).functions[index]? = some function → function.widths[place]? = some width →
      0 < width.toNat ∨ (run history).globals.size < slotLimit →
        function.PlacesArgument place ((run history).parameter index place).toNat
  /-- A function that is entered finds its arguments there. -/
  passed : ∀ {symbol : FunctionSymbol} {widths : Widths} {place first : Nat} {width : UInt8}
    {machine entered : Machine}, Opens history symbol widths → widths.1[place]? = some width →
      0 < width.toNat →
      Machine.enter (run history).assemble symbol.index machine = .ok first entered →
        ∃ value, machine.globals.slots[Region.parameterOffset place]? = some value ∧
          entered.globals.slots[((run history).parameter symbol.index place).toNat]? = some value

/-- A function that was just opened has its window. -/
theorem Arranged.exists_beginFunction (arranged : assembler.Arranged)
    (few : (assembler.beginFunction name widths.1).2.globals.size ≤ slotLimit) :
    ∃ function, (assembler.beginFunction name widths.1).2.functions[
        (assembler.beginFunction name widths.1).1.index]? = some function ∧
      function.widths = widths ∧
      function.Placed (assembler.beginFunction name widths.1).2.globals.size := by
  obtain ⟨named, function, advances, closed, -, functions, sameWidths, window, same⟩ :=
    assembler.beginFunction_eq name widths.1
  rw [same] at few ⊢
  have region := Nat.le_trans arranged.region_le
    (advances.trans (named.advances_functionGlobal name)).size_le
  rw [← functions, ← functions_functionGlobal_of_none closed name]
  dsimp only at few ⊢
  rw [size_opened] at few ⊢
  obtain ⟨-, placed, -⟩ := placed_opened window region few
  refine ⟨function.stretched _, ?_, sameWidths, placed⟩
  rw [functions_opened, Array.getElem?_push_size]

/-- The global that holds the number of a function belongs to no function. -/
theorem Arranged.not_owns_symbol (arranged : assembler.Arranged) {operation : Operation}
    {symbol : FunctionSymbol} (few : (assembler.perform operation).globals.size ≤ slotLimit)
    (declares : operation.symbol? assembler = some symbol) :
    symbol.global.toNat < (assembler.perform operation).globals.size ∧
      ∀ index, ¬ (assembler.perform operation).Owns index symbol.global.toNat := by
  suffices ∃ (named : Assembler) (name : String), assembler.Advances named ∧
      named.current = none ∧ symbol.global = (named.functionGlobal name).1 ∧
      (named.functionGlobal name).2.Advances (assembler.perform operation) by
    obtain ⟨named, name, advances, closed, global, behind⟩ := this
    have fewThen := Nat.le_trans behind.size_le few
    have fewBefore := Nat.le_trans (named.advances_functionGlobal name).size_le fewThen
    have namedArranged := advances.arranged arranged fewBefore
    have declared := (named.advances_functionGlobal name).arranged namedArranged fewThen
    have size := size_functionGlobal named name
    obtain ⟨slot, -⟩ := namedArranged.not_owns_functionGlobal 0 closed fewThen
    have old : symbol.global.toNat < (named.functionGlobal name).2.globals.size := by
      rw [global, slot, size]
      exact Nat.lt_succ_self _
    refine ⟨Nat.lt_of_lt_of_le old behind.size_le, fun index => ?_⟩
    rw [(behind.extend declared few).owns_iff old, global]
    exact (namedArranged.not_owns_functionGlobal index closed fewThen).2
  cases operation with
  | beginFunction name widths =>
    obtain rfl := Option.some.inj declares
    obtain ⟨named, function, advances, closed, -, functions, -, window, same⟩ :=
      assembler.beginFunction_eq name widths.1
    refine ⟨named, name, advances, closed, congrArg (fun both => both.1.global) same, ?_⟩
    rw [perform, same, ← functions, ← functions_functionGlobal_of_none closed name]
    exact advances_opened window
  | builtin name number widths =>
    obtain rfl := Option.some.inj declares
    obtain ⟨named, function, advances, closed, -, -, -, windowless, same⟩ :=
      assembler.builtin_eq name number widths.1
    refine ⟨named, name, advances, closed, congrArg (fun both => both.1.global) same, ?_⟩
    rw [perform, same]
    exact advances_push rfl (Nat.le_refl _) (fun _ _ => .inl windowless)
      fun _ _ => .inl ((current_functionGlobal named name).trans closed)
  | _ => cases declares

/-! ### Every point of every sequence -/

/-- The function that a step opened is still there, and its window has only grown. -/
theorem Opens.exists_placed {history : List Operation} {symbol : FunctionSymbol}
    (opens : Opens history symbol widths) (few : (run history).globals.size ≤ slotLimit) :
    ∃ function, (run history).functions[symbol.index]? = some function ∧
      function.widths = widths ∧ function.Placed (run history).globals.size := by
  obtain ⟨before, name, rest, rfl, rfl⟩ := opens
  obtain ⟨arranged, fewThen, -, extend⟩ := around_step few
  obtain ⟨function, found, sameWidths, placed⟩ := arranged.exists_beginFunction fewThen
  obtain ⟨locals, last⟩ := extend.kept found
  refine ⟨_, last, sameWidths, ?_⟩
  rcases (arranged_run few).shape last with windowless | still
  · -- The window starts where it did, so it is not the one of a function without slots.
    have base : function.windowBase = 0 := windowless.windowBase_eq
    exact absurd (base ▸ placed.reserved) (by decide)
  · exact still

/-- What the assembler gives as the place of a parameter did not overflow its word. -/
theorem toNat_parameter {index place : Nat} {function : Function} {width : UInt8}
    (few : assembler.globals.size ≤ slotLimit) (sound : assembler.Sound)
    (shape : function.Windowless ∨ function.Placed assembler.globals.size)
    (isFunction : assembler.functions[index]? = some function)
    (found : function.widths[place]? = some width)
    (numbered : 0 < width.toNat ∨ assembler.globals.size < slotLimit) :
    (assembler.parameter index place).toNat =
      function.windowBase + totalWidth (function.widths.take place) := by
  have before := totalWidth_take_add_le found
  have start : function.window.toNat = function.windowBase ∧
      function.windowBase + totalWidth (function.widths.take place) < slotLimit := by
    rcases shape with windowless | ⟨reserved, inside, parameters⟩
    · have total := totalWidth_le function.widths
      have eight := sound.parameterCount_le function (Array.mem_of_getElem? isFunction)
      rw [windowless.windowBase_eq, windowless.window_eq]
      refine ⟨rfl, ?_⟩
      unfold slotLimit
      omega
    · have base : 0 < function.windowBase := Nat.lt_of_lt_of_le (by decide) reserved
      unfold Function.parameterSlots at parameters
      exact ⟨Function.toNat_window base, by omega⟩
  rw [parameter, isFunction]
  dsimp only
  rw [start.1]
  exact toNat_offset start.2

/-- At every point of every sequence of steps that takes no more slots than there are numbers for,
the windows are laid out: they are apart, behind the reserved slots, inside the globals and wide
enough for the parameters, no number of a function lies in one of them, and every parameter is where
the argument is put. -/
theorem windows_laid_out {history earlier : List Operation}
    (few : (run history).globals.size ≤ slotLimit) (reached : earlier <+: history) :
    LaidOut earlier := by
  obtain ⟨later, rfl⟩ := reached
  have fewThen := Nat.le_trans (advances_run earlier later).size_le few
  have arranged := arranged_run fewThen
  have sound := (made_run earlier).sound
  refine ⟨arranged.apart, arranged.shape, fun opens => opens.exists_placed fewThen, ?_, ?_, ?_⟩
  · rintro symbol ⟨before, operation, rest, rfl, declares⟩
    obtain ⟨first, fewBehind, size, extend⟩ := around_step fewThen
    obtain ⟨inside, unowned⟩ := first.not_owns_symbol fewBehind declares
    exact ⟨Nat.lt_of_lt_of_le inside size,
      fun index owns => unowned index ((extend.owns_iff inside).mp owns)⟩
  · intro index place function width isFunction found numbered
    rw [toNat_parameter fewThen sound (arranged.shape isFunction) isFunction found numbered]
    exact Machine.placesArgument found
  · intro symbol widths place first width machine entered opens found positive enters
    obtain ⟨function, isFunction, same, placed⟩ := opens.exists_placed fewThen
    rw [← same] at found
    rw [toNat_parameter fewThen sound (.inr placed) isFunction found (.inl positive)]
    have eight := sound.parameterCount_le function (Array.mem_of_getElem? isFunction)
    exact Machine.exists_passed enters isFunction placed.reserved eight found positive

/-- A function of the host, and two functions of which the first one is still open when the second
one begins. -/
def twoFunctions : List Operation :=
  [.builtin "announce" 1 ⟨[1], by decide⟩, .beginFunction "first" ⟨[1, 3], by decide⟩,
    .localSlots 2, .floatConstant 0, .beginFunction "second" ⟨[2], by decide⟩]

/-- Both functions have their windows, and so has the first one before the second one begins. -/
theorem windows_laid_out_twice :
    (run twoFunctions).globals.size ≤ slotLimit ∧ twoFunctions.take 4 <+: twoFunctions ∧
      LaidOut twoFunctions ∧ LaidOut (twoFunctions.take 4) := by
  have few : (run twoFunctions).globals.size ≤ slotLimit := by decide +kernel
  have reached : twoFunctions.take 4 <+: twoFunctions := List.take_prefix 4 twoFunctions
  exact ⟨few, reached, windows_laid_out few List.prefix_rfl, windows_laid_out few reached⟩

/-- The parameters of the first function are in slots 30 and 31, those of the second one in slot 38.
-/
example :
    ((run twoFunctions).parameter 2 0, (run twoFunctions).parameter 2 1,
      (run twoFunctions).parameter 3 0) = (30, 31, 38) := by
  decide +kernel

end Assembler

end Gamecode
