/-
This file says what entering and leaving a function do. A program that was read from an image keeps
its parameter blocks and its windows inside the global segment, so once there is room for one more
frame and for the saved window, a function is entered: its window is saved, its arguments are packed
into the window, and its frame is put on top. Leaving it puts the frame and the window back. Where
there is no room, nothing happens.
-/

import Gamecode.Proofs.Action
import Gamecode.Proofs.Loaded

namespace Gamecode

/-! ### Windows -/

namespace Function

/-- The first slot of the local window, as a place in the global segment. -/
def windowBase (function : Function) : Nat :=
  function.windowStart.toNat

/-- The number of slots in the local window. -/
def windowLength (function : Function) : Nat :=
  function.windowSize.toNat

theorem Fits.window_le_size {program : Program} {function : Function} {first : Nat}
    (fits : function.Fits program first) :
    function.windowBase + function.windowLength ≤ program.globals.size := by
  have startNonneg := fits.windowStart_nonneg
  have sizeNonneg := fits.windowSize_nonneg
  have bound := fits.window_le
  unfold windowBase windowLength
  omega

theorem Fits.parameterSlots_le_length {program : Program} {function : Function} {first : Nat}
    (fits : function.Fits program first) : function.parameterSlots ≤ function.windowLength := by
  have sizeNonneg := fits.windowSize_nonneg
  have room := fits.parameterSlots_le
  unfold windowLength
  omega

end Function

/-! ### Packing -/

/-- The cells after the parameter blocks from `block` on were copied to consecutive slots. -/
def Cells.packed : List UInt8 → (block target : Nat) → Cells → Cells
  | [], _, _, cells => cells
  | width :: rest, block, target, cells =>
    packed rest (block + 1) (target + width.toNat)
      (cells.put target (cells.window (Region.parameterOffset block) width.toNat))

@[simp] theorem Cells.size_packed (widths : List UInt8) (block target : Nat) (cells : Cells) :
    (cells.packed widths block target).size = cells.size := by
  induction widths generalizing block target cells with
  | nil => rfl
  | cons width rest inductionHypothesis => rw [packed, inductionHypothesis, size_put]

namespace Machine

/-- Arguments that fit their window are packed without a fault. -/
theorem packArguments_eq_ok {widths : List UInt8} {block target : Nat} {machine : Machine}
    (few : block + widths.length ≤ Region.maxParameters)
    (small : ∀ width ∈ widths, width.toNat ≤ 3) (region : Region.size ≤ machine.globals.size)
    (room : target + totalWidth widths ≤ machine.globals.size) :
    packArguments widths block target machine =
      .ok () { machine with globals := ⟨machine.globals.slots.packed widths block target⟩ } := by
  induction widths generalizing block target machine with
  | nil => rfl
  | cons width rest inductionHypothesis =>
    rw [List.length_cons] at few
    rw [totalWidth] at room
    have block_lt : block < Region.maxParameters := by omega
    have widthSmall := small width List.mem_cons_self
    have blockInside := Region.parameterOffset_add_le block_lt
    have sourceInside : machine.globals.Covers (Region.parameterOffset block) width.toNat := by
      unfold Region.blockWidth at blockInside
      unfold Globals.Covers
      omega
    have targetInside : machine.globals.Covers target width.toNat := by
      unfold Globals.Covers
      omega
    have sameSize : (machine.globals.slots.put target
        (machine.globals.slots.window (Region.parameterOffset block) width.toNat)).size =
          machine.globals.size := Cells.size_put _ _ _
    unfold packArguments
    have copied := Globals.copy_eq_ok_iff.mpr ⟨sourceInside, targetInside, rfl⟩
    rw [Action.bind_apply, Action.changeGlobals, copied]
    refine inductionHypothesis ?_ ?_ ?_ ?_
    · omega
    · exact fun other member => small other (List.mem_cons_of_mem _ member)
    · exact Nat.le_trans region (Nat.le_of_eq sameSize.symm)
    · unfold Globals.size at *
      rw [sameSize, Nat.add_assoc]
      exact room

end Machine

/-! ### Entering -/

/-- The stack after a function was entered: its frame is on top, and what its window held lies
behind the other saved windows. -/
def CallStack.entered (stack : CallStack) (frame : Frame) (window : List Slot) : CallStack :=
  { stack with
    frames := stack.frames.push frame
    saved := stack.saved ++ window.toArray }

namespace Machine

/-- The frame of a function that is entered now. -/
def frameFor (machine : Machine) (function : Nat) (found : Function) : Frame :=
  ⟨function, machine.statement, found.windowBase, found.windowLength, machine.stack.saved.size⟩

/-- What the window of a function holds. -/
def windowOf (machine : Machine) (found : Function) : List Slot :=
  machine.globals.slots.window found.windowBase found.windowLength

/-- The machine after a function was entered. -/
def entered (machine : Machine) (function : Nat) (found : Function) : Machine :=
  { machine with
    globals := ⟨machine.globals.slots.packed found.widths 0 found.windowBase⟩
    stack := machine.stack.entered (machine.frameFor function found) (machine.windowOf found)
    profile := machine.profile.recordCall function }

theorem length_windowOf {machine : Machine} {found : Function}
    (inside : found.windowBase + found.windowLength ≤ machine.globals.size) :
    (machine.windowOf found).length = found.windowLength :=
  Cells.length_window_of_le inside

theorem saveWindow_eq {machine : Machine} {found : Function}
    (inside : found.windowBase + found.windowLength ≤ machine.globals.size) :
    saveWindow found.windowBase found.windowLength machine =
      if machine.stack.savedLimit < machine.stack.saved.size + found.windowLength then
        .error (.localStackOverflow (machine.stack.saved.size + found.windowLength)
          machine.stack.savedLimit) machine
      else .ok machine.stack.saved.size
        { machine with
          stack := { machine.stack with
            saved := machine.stack.saved ++ (machine.windowOf found).toArray } } := by
  have read : machine.globals.slice found.windowBase found.windowLength =
      .ok (machine.windowOf found) := if_pos inside
  unfold saveWindow
  rw [read]
  dsimp only
  unfold CallStack.save
  rw [length_windowOf inside]
  by_cases full : machine.stack.savedLimit < machine.stack.saved.size + found.windowLength
  · rw [if_pos full, if_pos full]
  · rw [if_neg full, if_neg full]

theorem pushFrame_eq_ok {frame : Frame} {machine : Machine}
    (free : machine.depth < machine.stack.depthLimit) :
    pushFrame frame machine =
      .ok () { machine with
        stack := { machine.stack with frames := machine.stack.frames.push frame } } := by
  unfold pushFrame
  rw [CallStack.push_eq_ok_iff.mpr ⟨free, rfl⟩]

/-- A function with statements is entered where there is room for its frame and its window. Where
there is not, the fault names the room that is missing and the machine is left as it was. -/
theorem enter_eq {program : Program} (loaded : program.Loaded) {machine : Machine}
    (size : machine.globals.size = program.globals.size) {function first : Nat} {found : Function}
    (isFunction : program.functions[function]? = some found)
    (body : found.body = .statements first) :
    enter program function machine =
      if machine.stack.depthLimit ≤ machine.depth then
        .error (.stackOverflow machine.stack.depthLimit) machine
      else if machine.stack.savedLimit < machine.stack.saved.size + found.windowLength then
        .error (.localStackOverflow (machine.stack.saved.size + found.windowLength)
          machine.stack.savedLimit) machine
      else .ok first (machine.entered function found) := by
  have fits := loaded.fits isFunction body
  have inside : found.windowBase + found.windowLength ≤ machine.globals.size :=
    size ▸ fits.window_le_size
  unfold enter
  rw [Action.bind_apply]
  by_cases full : machine.stack.depthLimit ≤ machine.depth
  · have refused : machine.stack.checkDepth = .error (.stackOverflow machine.stack.depthLimit) :=
      if_pos full
    rw [if_pos full, Action.inspect, refused]
  · have allowed : machine.stack.checkDepth = .ok () := if_neg full
    rw [if_neg full, Action.inspect, allowed]
    dsimp only
    rw [isFunction]
    dsimp only
    rw [body]
    dsimp only
    change (saveWindow found.windowBase found.windowLength >>= _) machine = _
    rw [Action.bind_apply, saveWindow_eq inside]
    by_cases crowded :
        machine.stack.savedLimit < machine.stack.saved.size + found.windowLength
    · rw [if_pos crowded, if_pos crowded]
    · rw [if_neg crowded, if_neg crowded]
      dsimp only
      rw [Action.bind_apply, packArguments_eq_ok]
      · dsimp only
        rw [Action.bind_apply, Action.get_apply]
        dsimp only
        rw [Action.bind_apply, pushFrame_eq_ok]
        · rfl
        · exact Nat.not_le.mp full
      · rw [Nat.zero_add]
        exact loaded.parameterCount_le isFunction
      · exact loaded.width_le isFunction
      · exact size ▸ loaded.region_le
      · have room := fits.parameterSlots_le_length
        exact Nat.le_trans (Nat.add_le_add_left room _) inside

/-- A function is entered, or nothing happens. -/
theorem enter_cases {program : Program} (loaded : program.Loaded) {machine : Machine}
    (size : machine.globals.size = program.globals.size) {function first : Nat} {found : Function}
    (isFunction : program.functions[function]? = some found)
    (body : found.body = .statements first) :
    (∃ fault, enter program function machine = .error fault machine) ∨
      enter program function machine = .ok first (machine.entered function found) := by
  rw [enter_eq loaded size isFunction body]
  by_cases full : machine.stack.depthLimit ≤ machine.depth
  · rw [if_pos full]
    exact .inl ⟨_, rfl⟩
  rw [if_neg full]
  by_cases crowded : machine.stack.savedLimit < machine.stack.saved.size + found.windowLength
  · rw [if_pos crowded]
    exact .inl ⟨_, rfl⟩
  · rw [if_neg crowded]
    exact .inr rfl

/-- A number that stands for no function with statements is never entered. -/
theorem enter_of_no_statements {program : Program} {machine : Machine} {function : Nat}
    (missing : ∀ found first, program.functions[function]? = some found →
      found.body ≠ .statements first) :
    ∃ fault, enter program function machine = .error fault machine := by
  unfold enter
  rw [Action.bind_apply, Action.inspect]
  cases machine.stack.checkDepth with
  | error fault => exact ⟨fault, rfl⟩
  | ok _ =>
    dsimp only
    cases isFunction : program.functions[function]? with
    | none => exact ⟨_, rfl⟩
    | some found =>
      dsimp only
      cases body : found.body with
      | builtin number => exact ⟨_, rfl⟩
      | statements first => exact absurd body (missing found first isFunction)

/-- What is entered is a function with statements, and it is entered as the program declares it. -/
theorem enter_eq_ok {program : Program} (loaded : program.Loaded) {machine after : Machine}
    (size : machine.globals.size = program.globals.size) {function first : Nat}
    (entered : enter program function machine = .ok first after) :
    ∃ found, program.functions[function]? = some found ∧ found.body = .statements first ∧
      after = machine.entered function found := by
  by_cases hasStatements : ∃ found start,
      program.functions[function]? = some found ∧ found.body = .statements start
  · obtain ⟨found, start, isFunction, body⟩ := hasStatements
    rcases enter_cases loaded size isFunction body with ⟨fault, refused⟩ | succeeded
    · rw [refused] at entered
      cases entered
    · rw [succeeded] at entered
      cases entered
      exact ⟨found, isFunction, body, rfl⟩
  · obtain ⟨fault, refused⟩ : ∃ fault, enter program function machine = .error fault machine :=
      enter_of_no_statements fun found start isFunction body =>
        hasStatements ⟨found, start, isFunction, body⟩
    rw [refused] at entered
    cases entered

/-- A function that is not entered leaves everything as it was. -/
theorem enter_eq_error {program : Program} (loaded : program.Loaded) {machine after : Machine}
    (size : machine.globals.size = program.globals.size) {function : Nat} {fault : Fault}
    (refused : enter program function machine = .error fault after) : after = machine := by
  by_cases hasStatements : ∃ found start,
      program.functions[function]? = some found ∧ found.body = .statements start
  · obtain ⟨found, start, isFunction, body⟩ := hasStatements
    rcases enter_cases loaded size isFunction body with ⟨other, unchanged⟩ | succeeded
    · rw [unchanged] at refused
      cases refused
      rfl
    · rw [succeeded] at refused
      cases refused
  · obtain ⟨other, unchanged⟩ : ∃ fault, enter program function machine = .error fault machine :=
      enter_of_no_statements fun found start isFunction body =>
        hasStatements ⟨found, start, isFunction, body⟩
    rw [unchanged] at refused
    cases refused
    rfl

end Machine

end Gamecode
