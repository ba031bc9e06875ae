/-
This file is about what a function finds when it is entered and what its caller finds when it
returns. The parameter blocks lie below every window that starts behind the reserved region, so no
argument is overwritten before it was copied. The return area lies there as well, so putting a
window back never disturbs what the function returned, even if that was read from the window itself.
-/

import Gamecode.Proofs.Calls.Reachable

namespace Gamecode

/-! ### Packed arguments -/

namespace Cells

/-- Packing leaves all slots alone that are no parameter. -/
theorem getElem?_packed_other {widths : List UInt8} {block target index : Nat} {cells : Cells}
    (outside : index < target ∨ target + totalWidth widths ≤ index) :
    (cells.packed widths block target)[index]? = cells[index]? := by
  induction widths generalizing block target cells with
  | nil => rfl
  | cons width rest inductionHypothesis =>
    rw [totalWidth] at outside
    have read : (cells.window (Region.parameterOffset block) width.toNat).length ≤
        width.toNat := by
      rw [length_window]
      omega
    rw [packed, inductionHypothesis (by omega), getElem?_put_other _ _ _ _ (by omega)]

/-- Each of the slots of a parameter that come from its own block holds what the slot at the same
place of the block held before. -/
theorem getElem?_packed_of_lt {widths : List UInt8} {block target place offset : Nat}
    {width : UInt8} {cells : Cells} (few : block + widths.length ≤ Region.maxParameters)
    (region : Region.size ≤ target) (room : target + totalWidth widths ≤ cells.size)
    (found : widths[place]? = some width) (inside : offset < width.toNat)
    (own : offset < Region.blockWidth) :
    (cells.packed widths block target)[target + totalWidth (widths.take place) + offset]? =
      cells[Region.parameterOffset (block + place) + offset]? := by
  induction widths generalizing block target place cells with
  | nil => cases found
  | cons head rest inductionHypothesis =>
    rw [List.length_cons] at few
    rw [totalWidth] at room
    have block_lt : block < Region.maxParameters := by omega
    have blockInside := Region.parameterOffset_add_le block_lt
    have length := length_window cells (Region.parameterOffset block) head.toNat
    rw [packed]
    cases place with
    | zero =>
      -- The first parameter lies below everything that is packed after it.
      cases found
      have below : target + offset < target + width.toNat := by omega
      have inWindow :
          offset < (cells.window (Region.parameterOffset block) width.toNat).length := by
        omega
      have windowInside : target + (cells.window (Region.parameterOffset block)
          width.toNat).length ≤ cells.size := by omega
      simp only [List.take_zero, totalWidth, Nat.add_zero]
      rw [getElem?_packed_other (.inl below), getElem?_put_self _ _ _ _ inWindow windowInside,
        getElem?_window _ _ _ _ inside]
    | succ place =>
      -- The later blocks lie below the slots to which the first one was copied.
      rw [List.getElem?_cons_succ] at found
      have place_lt := (List.getElem?_eq_some_iff.mp found).1
      have later : block + (place + 1) < Region.maxParameters := by omega
      have laterInside := Region.parameterOffset_add_le later
      have below : Region.parameterOffset (block + (place + 1)) + offset < target := by omega
      rw [List.take_succ_cons, totalWidth, ← Nat.add_assoc target]
      refine Eq.trans (inductionHypothesis ?_ ?_ ?_ found) ?_
      · omega
      · omega
      · rw [size_put]
        omega
      · rw [Nat.add_assoc block, Nat.add_comm 1 place, getElem?_put_other _ _ _ _ (.inl below)]

/-- Each slot of a parameter holds what the slot at the same place of its block held before. -/
theorem getElem?_packed_self {widths : List UInt8} {block target place offset : Nat}
    {width : UInt8} {cells : Cells} (few : block + widths.length ≤ Region.maxParameters)
    (small : ∀ width ∈ widths, width.toNat ≤ Region.blockWidth)
    (region : Region.size ≤ target) (room : target + totalWidth widths ≤ cells.size)
    (found : widths[place]? = some width) (inside : offset < width.toNat) :
    (cells.packed widths block target)[target + totalWidth (widths.take place) + offset]? =
      cells[Region.parameterOffset (block + place) + offset]? :=
  getElem?_packed_of_lt few region room found inside
    (Nat.lt_of_lt_of_le inside (small width (List.mem_of_getElem? found)))

end Cells

/-! ### Vectors in the segment -/

namespace Globals

theorem getOrZero_eq (globals : Globals) (offset : Nat) :
    globals.getOrZero offset = globals.slots[offset]?.getD 0 :=
  Array.getD_eq_getD_getElem?

theorem getVector_eq_ok {globals : Globals} {offset : Nat} (inside : globals.Covers offset 3) :
    globals.getVector offset = .ok ⟨globals.getOrZero offset, globals.getOrZero (offset + 1),
      globals.getOrZero (offset + 2)⟩ :=
  if_pos inside

/-- A vector that was written is read back. -/
theorem getVector_write {globals after : Globals} {offset : Nat} {value : Vector3}
    (written : globals.write offset value.toList = .ok after) :
    after.getVector offset = .ok value := by
  have inside : globals.Covers offset 3 := (write_eq_ok_iff.mp written).1
  have slot : ∀ index, index < 3 →
      after.getOrZero (offset + index) = value.toList[index]?.getD 0 := by
    intro index small
    rw [getOrZero_eq, getElem?_write_self written small]
  have first := slot 0 (by decide)
  rw [Nat.add_zero] at first
  unfold Covers at inside
  rw [← size_write written] at inside
  rw [getVector_eq_ok inside, first, slot 1 (by decide), slot 2 (by decide)]
  rfl

/-- What is written behind a vector leaves it alone. -/
theorem getVector_put {globals : Globals} {offset start : Nat} {values : List Slot}
    (inside : globals.Covers offset 3) (behind : offset + 3 ≤ start) :
    (Globals.mk (globals.slots.put start values)).getVector offset = globals.getVector offset := by
  have size : (Globals.mk (globals.slots.put start values)).size = globals.size :=
    Cells.size_put _ _ _
  have covered : (Globals.mk (globals.slots.put start values)).Covers offset 3 :=
    Nat.le_trans inside (Nat.le_of_eq size.symm)
  have slot : ∀ index, index < 3 →
      (Globals.mk (globals.slots.put start values)).getOrZero (offset + index) =
        globals.getOrZero (offset + index) := by
    intro index small
    have below : offset + index < start := by omega
    rw [getOrZero_eq, getOrZero_eq, Cells.getElem?_put_other _ _ _ _ (.inl below)]
  have first := slot 0 (by decide)
  rw [Nat.add_zero] at first
  rw [getVector_eq_ok covered, getVector_eq_ok inside, first, slot 1 (by decide),
    slot 2 (by decide)]

theorem covers_returnStart {globals : Globals} (region : Region.size ≤ globals.size) :
    globals.Covers Region.returnStart 3 :=
  Nat.le_trans (by decide) region

/-- There is always room for a result. -/
theorem exists_write_returnStart {globals : Globals} (region : Region.size ≤ globals.size)
    (value : Vector3) : ∃ after, globals.write Region.returnStart value.toList = .ok after :=
  ⟨_, write_eq_ok_iff.mpr ⟨covers_returnStart region, rfl⟩⟩

/-- Three slots are read as they are wherever the first of them exists. -/
theorem readPadded_eq_ok {globals : Globals} {offset : Nat} (inside : offset < globals.size) :
    globals.readPadded offset = .ok ⟨globals.getOrZero offset, globals.getOrZero (offset + 1),
      globals.getOrZero (offset + 2)⟩ := by
  have found : globals.slots[offset]? = some globals.slots[offset] :=
    Array.getElem?_eq_getElem inside
  unfold readPadded get
  rw [getOrZero_eq globals offset, found]
  rfl

theorem readPadded_eq_error {globals : Globals} {offset : Nat} (outside : globals.size ≤ offset) :
    globals.readPadded offset = .error (globals.outOfRange offset) := by
  unfold readPadded get
  rw [Array.getElem?_eq_none outside]
  rfl

end Globals

/-! ### Statements that end a function -/

/-- The statement ends the function that executes it. Its operand is read, so unless it is zero it
has to be in the segment. -/
def Statement.Returns (program : Program) (statement : Statement) : Prop :=
  statement.operation = .ok .done ∨
    statement.operation = .ok .leave ∧ statement.a.toNat < program.globals.size

namespace Machine

/-- What a statement that ends a function returns: the three slots at its operand, which are zero
past the end of the segment, and without an operand what is in the return area already. -/
def resultOf (machine : Machine) (statement : Statement) : Vector3 :=
  match statement.operation with
  | .ok .leave =>
    let a := statement.a.toNat
    if a = 0 then machine.returned
    else ⟨machine.globals.getOrZero a, machine.globals.getOrZero (a + 1),
      machine.globals.getOrZero (a + 2)⟩
  | _ => .zero

variable {environment : Environment} {execute : Executor} {machine : Machine}

/-- The return area is what the host sees as the result. -/
theorem getVector_returned (region : Region.size ≤ machine.globals.size) :
    machine.globals.getVector Region.returnStart = .ok machine.returned := by
  have inside : Region.returnStart < machine.globals.size := Nat.lt_of_lt_of_le (by decide) region
  unfold returned
  rw [Globals.getVector_eq_ok (Globals.covers_returnStart region),
    Globals.readPadded_eq_ok inside]

/-- What is put into the return area is returned, and where there is nothing to put, the area is. -/
theorem placeResult_eq_ok (region : Region.size ≤ machine.globals.size) {statement : Statement}
    (decoded : statement.operation = .ok .leave)
    (inside : statement.a.toNat < machine.globals.size) :
    ∃ placed, placeResult statement.a.toNat machine = .ok () placed ∧
      placed.globals.getVector Region.returnStart = .ok (machine.resultOf statement) := by
  have result : machine.resultOf statement = if statement.a.toNat = 0 then machine.returned
      else ⟨machine.globals.getOrZero statement.a.toNat,
        machine.globals.getOrZero (statement.a.toNat + 1),
        machine.globals.getOrZero (statement.a.toNat + 2)⟩ := by
    unfold resultOf
    rw [decoded]
  rw [result]
  unfold placeResult
  by_cases absent : statement.a.toNat = 0
  · rw [if_pos absent, if_neg (not_not_intro absent)]
    exact ⟨machine, rfl, getVector_returned region⟩
  · rw [if_neg absent, if_pos absent, Action.bind_apply, Action.inspect,
      Globals.readPadded_eq_ok inside]
    dsimp only
    generalize Vector3.mk _ _ _ = value
    obtain ⟨globals, written⟩ := Globals.exists_write_returnStart region value
    rw [Action.changeGlobals, written]
    exact ⟨_, rfl, Globals.getVector_write written⟩

/-- A statement that ends a function puts its result into the return area. -/
theorem step_of_returns {program : Program} (loaded : program.Loaded)
    (size : machine.globals.size = program.globals.size) {statement : Statement}
    (returns : statement.Returns program) (configuration : Configuration) (index : Nat) :
    ∃ placed, step program configuration index statement machine = .ok .leave placed ∧
      placed.globals.getVector Region.returnStart = .ok (machine.resultOf statement) := by
  have region : Region.size ≤ machine.globals.size := size ▸ loaded.region_le
  rcases returns with decoded | ⟨decoded, inside⟩
  · obtain ⟨globals, written⟩ := Globals.exists_write_returnStart region .zero
    have filled : machine.globals.fill Region.returnStart 3 0 = .ok globals := by
      unfold Globals.fill
      rw [if_pos (Globals.covers_returnStart region)]
      exact written
    have result : machine.resultOf statement = .zero := by
      unfold resultOf
      rw [decoded]
    unfold step
    rw [Action.inspect_of_ok decoded, pure_bind]
    dsimp only
    rw [Action.bind_apply, Action.changeGlobals, filled, result]
    exact ⟨_, rfl, Globals.getVector_write written⟩
  · obtain ⟨placed, put, result⟩ := placeResult_eq_ok region decoded (size ▸ inside)
    unfold step
    rw [Action.inspect_of_ok decoded, pure_bind]
    dsimp only
    rw [Action.bind_apply, put]
    exact ⟨placed, rfl, result⟩

/-- An operand outside the segment cannot be returned. -/
theorem step_of_outside {program : Program} {statement : Statement}
    (region : Region.size ≤ machine.globals.size)
    (decoded : statement.operation = .ok .leave)
    (outside : machine.globals.size ≤ statement.a.toNat) (configuration : Configuration)
    (index : Nat) :
    step program configuration index statement machine =
      .error (.globalOutOfRange statement.a.toNat machine.globals.size) machine := by
  have present : statement.a.toNat ≠ 0 :=
    Nat.ne_of_gt (Nat.lt_of_lt_of_le (by decide) (Nat.le_trans region outside))
  have refused : placeResult statement.a.toNat machine =
      .error (.globalOutOfRange statement.a.toNat machine.globals.size) machine := by
    unfold placeResult
    rw [if_pos present, Action.bind_apply, Action.inspect, Globals.readPadded_eq_error outside]
    rfl
  unfold step
  rw [Action.inspect_of_ok decoded, pure_bind]
  dsimp only
  rw [Action.bind_apply, refused]

/-- No other statement ends a function. -/
theorem returns_of_step {program : Program} {configuration : Configuration} {index : Nat}
    {statement : Statement} {after : Machine} (loaded : program.Loaded)
    (size : machine.globals.size = program.globals.size)
    (ends : step program configuration index statement machine = .ok .leave after) :
    statement.Returns program := by
  obtain ⟨operation, decoded, isDone | isLeave⟩ := follows_of_step ends
  · exact .inl (isDone ▸ decoded)
  · rw [isLeave] at decoded
    refine .inr ⟨decoded, Decidable.byContradiction fun outside => ?_⟩
    have past : machine.globals.size ≤ statement.a.toNat := size ▸ Nat.not_lt.mp outside
    rw [step_of_outside (size ▸ loaded.region_le) decoded past] at ends
    cases ends

/-! ### Turns that end a function -/

theorem keepsCalls_step_of_returns {program : Program} {statement : Statement}
    (returns : statement.Returns program) (configuration : Configuration) (index : Nat) :
    (step program configuration index statement).Keeps KeepsCalls := by
  rcases returns with decoded | ⟨decoded, -⟩
  · exact keeps_step decoded nofun
  · exact keeps_step decoded nofun

theorem globals_of_begin {index : Nat} {statement : Statement} {noted : Machine}
    (begun : begin environment index statement machine = .ok () noted) :
    noted.globals = machine.globals := by
  obtain ⟨profile, traced, left⟩ := leaves_begin environment index statement machine
  rw [Action.leaves_of_ok begun] at left
  rw [left]

theorem resultOf_congr {machine other : Machine} (same : other.globals = machine.globals)
    (statement : Statement) : other.resultOf statement = machine.resultOf statement := by
  unfold resultOf returned
  rw [same]

/-- The result is still there after the window was put back, because the window lies behind it. -/
theorem turn_of_returns (loaded : environment.program.Loaded) {exitDepth index : Nat}
    {statement : Statement} {noted : Machine} {caller : CallStack} {frame : Frame}
    {window : List Slot} (size : machine.globals.size = environment.program.globals.size)
    (same : machine.stack = caller.entered frame window)
    (admits : caller.Admits machine.globals.size frame window)
    (reserved : Region.size ≤ frame.windowStart)
    (found : environment.program.statements[index]? = some statement)
    (begun : begin environment index statement machine = .ok () noted)
    (returns : statement.Returns environment.program) :
    ∃ after, turn execute environment exitDepth index machine =
        some (afterReturn exitDepth caller.depth frame.returnTo, after) ∧
      after.stack = caller ∧ after.returned = machine.resultOf statement ∧
        after.globals.getVector Region.returnStart = .ok (machine.resultOf statement) := by
  have notedKept : KeepsCalls machine noted := (keepsCalls_begin _ _ _).ok begun
  have notedSize := notedKept.size.trans size
  obtain ⟨placed, stepped, result⟩ :=
    step_of_returns loaded notedSize returns environment.configuration index
  have placedKept : KeepsCalls machine placed :=
    trans_of KeepsCalls notedKept ((keepsCalls_step_of_returns returns _ _).ok stepped)
  have region : Region.size ≤ placed.globals.size := by
    rw [placedKept.size, size]
    exact loaded.region_le
  have behind : Region.returnStart + 3 ≤ frame.windowStart := Nat.le_trans (by decide) reserved
  have read : (placed.backIn caller frame.windowStart window).globals.getVector
      Region.returnStart = .ok (machine.resultOf statement) := by
    unfold backIn
    rw [Globals.getVector_put (Globals.covers_returnStart region) behind, result,
      resultOf_congr (globals_of_begin begun)]
  have sized := size_backIn placed caller frame.windowStart window
  have seen := getVector_returned (sized.symm ▸ region)
  refine ⟨placed.backIn caller frame.windowStart window, ?_, rfl, ?_, read⟩
  · rw [turn_of_begun found begun, stepped]
    dsimp only [follow]
    rw [returnFrom_entered (placedKept.stack.trans same) (placedKept.size ▸ admits)]
  · exact Except.ok.inj (seen.symm.trans read)

/-- A return of something outside the segment is a fault instead. -/
theorem turn_of_outside {exitDepth index : Nat} {statement : Statement} {noted : Machine}
    (region : Region.size ≤ machine.globals.size)
    (found : environment.program.statements[index]? = some statement)
    (begun : begin environment index statement machine = .ok () noted)
    (decoded : statement.operation = .ok .leave)
    (outside : machine.globals.size ≤ statement.a.toNat) :
    turn execute environment exitDepth index machine =
      some (.stop (.error (.globalOutOfRange statement.a.toNat machine.globals.size)), noted) := by
  have same := globals_of_begin begun
  rw [← same] at region outside
  have refused := @step_of_outside noted environment.program statement region decoded outside
    environment.configuration index
  rw [turn_of_begun found begun, refused, same]

/-- Where a run ends well, a function was left, and it was not entered from a statement of the run.
-/
theorem leave_of_turn {exitDepth index : Nat} {after : Machine}
    (turned : turn execute environment exitDepth index machine = some (.stop (.ok ()), after)) :
    ∃ statement placed, environment.program.statements[index]? = some statement ∧
      advance environment index statement machine = .ok .leave placed ∧
        returnFrom exitDepth placed = (.stop (.ok ()), after) := by
  generalize same : Turn.stop (.ok ()) = outcome at turned
  cases turned_of_turn turned with
  | builtin _ _ _ =>
    rename_i result _ _ _
    cases result <;> cases same
  | leave found advanced returned => exact ⟨_, _, found, advanced, same ▸ returned⟩
  | _ => cases same

theorem begin_of_advance {index : Nat} {statement : Statement} {flow : Flow} {after : Machine}
    (advanced : advance environment index statement machine = .ok flow after) :
    ∃ noted, begin environment index statement machine = .ok () noted ∧
      step environment.program environment.configuration index statement noted =
        .ok flow after := by
  unfold advance at advanced
  rw [Action.bind_apply] at advanced
  cases begun : begin environment index statement machine with
  | error fault noted =>
    rw [begun] at advanced
    cases advanced
  | ok _ noted =>
    rw [begun] at advanced
    exact ⟨noted, rfl, advanced⟩

/-! ### What a run returns -/

/-- A function that is entered comes back to its first frame, at a statement that ends it with this
result. -/
def Yields (environment : Environment) (function : Nat) (machine : Machine) (value : Vector3) :
    Prop :=
  ∃ budget first entered index reached statement,
    enter environment.program function machine = .ok first entered ∧
      Turns (Machine.execute environment budget) environment machine.depth first entered index
        reached ∧
      reached.stack = entered.stack ∧
      environment.program.statements[index]? = some statement ∧
      statement.Returns environment.program ∧ value = reached.resultOf statement

/-- The loop of a function with statements runs behind its entry. -/
theorem run_of_execute {budget function arguments first : Nat} {found : Function} {last : Machine}
    (isFunction : environment.program.functions[function]? = some found)
    (body : found.body = .statements first)
    (ends : Machine.execute environment budget function arguments machine = some (.ok (), last)) :
    ∃ fewer start entered, enter environment.program function machine = .ok start entered ∧
      run (Machine.execute environment fewer) environment machine.depth (fewer + 1) start entered =
        some (.ok (), last) := by
  cases budget with
  | zero => cases ends
  | succ budget =>
    unfold Machine.execute at ends
    split at ends
    · cases ends
    · next number resolved =>
      rw [body_of_resolve isFunction resolved] at body
      cases body
    · split at ends
      · cases ends
      · next start entered enters => exact ⟨budget, start, entered, enters, ends⟩

/-- The run of a function ends well only where the function itself returns. -/
theorem yields_of_execute (loaded : environment.program.Loaded)
    (respects : environment.builtins.Respects KeepsCalls environment.program) {budget : Nat}
    {function arguments first : Nat} {found : Function} {last : Machine}
    (size : machine.globals.size = environment.program.globals.size)
    (isFunction : environment.program.functions[function]? = some found)
    (body : found.body = .statements first) (reserved : Region.size ≤ found.windowBase)
    (ends : Machine.execute environment budget function arguments machine = some (.ok (), last)) :
    Yields environment function machine last.returned := by
  obtain ⟨fewer, start, entered, enters, ran⟩ := run_of_execute isFunction body ends
  have inside : found.windowBase + found.windowLength ≤ machine.globals.size :=
    size ▸ (loaded.fits isFunction body).window_le_size
  obtain ⟨other, isOther, -, rfl⟩ := enter_eq_ok loaded size enters
  obtain rfl : found = other := Option.some.inj (isFunction.symm.trans isOther)
  obtain ⟨index, reached, turns, turned⟩ := exists_run_iff_arrives.mp ⟨_, ran⟩
  have balanced := execute_balanced loaded respects fewer
  have admits := admits_frameFor function inside
  have atop : reached.Over environment.program.globals.size _ :=
    over_of_turns loaded respects balanced (size ▸ admits) (size ▸ over_entered) turns
  obtain ⟨statement, placed, isStatement, advanced, returned⟩ := leave_of_turn turned
  obtain ⟨noted, begun, stepped⟩ := begin_of_advance advanced
  have notedKept : KeepsCalls reached noted := (keepsCalls_begin _ _ _).ok begun
  have returns := returns_of_step loaded (notedKept.size.trans atop.size) stepped
  have kept : KeepsCalls reached placed :=
    trans_of KeepsCalls notedKept ((keepsCalls_step_of_returns returns _ _).ok stepped)
  have same : reached.stack = (machine.entered function found).stack := by
    rcases (atop.of_keepsCalls kept).own_or_called with own | ⟨next, after, goesOn, -⟩
    · exact kept.stack.symm.trans own
    · -- A function that was called from there would have gone on.
      cases goesOn.symm.trans returned
  have reachedSize : reached.globals.size = machine.globals.size := atop.size.trans size.symm
  obtain ⟨after, again, -, result, -⟩ := turn_of_returns loaded atop.size same
    (reachedSize ▸ admits) reserved isStatement begun returns
  rw [turned] at again
  obtain ⟨-, rfl⟩ := Prod.mk.inj (Option.some.inj again)
  refine ⟨fewer, start, _, index, reached, statement, enters, turns, same, isStatement, returns,
    result⟩

/-! ### The calling convention -/

/-- A statement that calls a function with statements goes on in that function, if it can be
entered. What returns from it then goes on behind the call. -/
theorem turn_of_callee {exitDepth index function : Nat} {statement : Statement} {noted : Machine}
    (found : environment.program.statements[index]? = some statement)
    (begun : begin environment index statement machine = .ok () noted)
    (called : callee? environment.program statement noted = some function)
    (inside : exitDepth < machine.depth) :
    turn execute environment exitDepth index machine =
        (match enter environment.program function noted with
        | .ok first entered => some (.resume first, entered)
        | .error fault after => some (.stop (.error fault), after)) ∧
      afterReturn exitDepth noted.depth noted.statement = .resume (index + 1) := by
  constructor
  · rw [turn_of_begun found begun, step_of_callee called, enterAndJump, Action.bind_apply]
    cases enter environment.program function noted with
    | ok first entered => rfl
    | error fault after => rfl
  · have kept : KeepsCalls machine noted := (keepsCalls_begin _ _ _).ok begun
    rw [statement_of_begin begun]
    exact afterReturn_call (kept.depth.symm ▸ inside)

end Machine

/-- The arguments are in the window, one behind the other by their widths, and nothing else changed.
-/
structure Function.ArgumentsPacked (function : Function) (before after : Machine) : Prop where
  parameter : ∀ {place offset : Nat} {width : UInt8}, function.widths[place]? = some width →
    offset < width.toNat → ∃ value,
      before.globals.slots[Region.parameterOffset place + offset]? = some value ∧
        after.globals.slots[function.windowBase + totalWidth (function.widths.take place) +
          offset]? = some value
  other : ∀ {slot : Nat},
    slot < function.windowBase ∨ function.windowBase + function.parameterSlots ≤ slot →
      after.globals.slots[slot]? = before.globals.slots[slot]?

namespace Machine

/-- Wherever the function that was entered comes to a statement that ends it, its caller goes on
with its own frames and with the result in the return area. Only a return of something outside the
segment is a fault. -/
structure HandsBack (environment : Environment) (caller entered : Machine) : Prop where
  result : ∀ {execute : Executor} {exitDepth index : Nat} {statement : Statement}
    {reached noted : Machine}, Reachable environment reached → reached.stack = entered.stack →
    environment.program.statements[index]? = some statement →
    begin environment index statement reached = .ok () noted →
    statement.Returns environment.program → ∃ after,
      turn execute environment exitDepth index reached =
          some (afterReturn exitDepth caller.depth caller.statement, after) ∧
        after.stack = caller.stack ∧ after.returned = reached.resultOf statement ∧
          after.globals.getVector Region.returnStart = .ok (reached.resultOf statement)
  outside : ∀ {execute : Executor} {exitDepth index : Nat} {statement : Statement}
    {reached noted : Machine}, Reachable environment reached → reached.stack = entered.stack →
    environment.program.statements[index]? = some statement →
    begin environment index statement reached = .ok () noted →
    statement.operation = .ok .leave → reached.globals.size ≤ statement.a.toNat →
      turn execute environment exitDepth index reached =
        some (.stop (.error (.globalOutOfRange statement.a.toNat reached.globals.size)), noted)

variable {image : Array UInt8} {expectation : Image.Expectation} {environment : Environment}
  {machine : Machine} {function first : Nat} {found : Function}

theorem argumentsPacked_entered (loaded : environment.program.Loaded)
    (size : machine.globals.size = environment.program.globals.size)
    (isFunction : environment.program.functions[function]? = some found)
    (body : found.body = .statements first) (reserved : Region.size ≤ found.windowBase) :
    found.ArgumentsPacked machine (machine.entered function found) where
  parameter := by
    intro place offset width isParameter inside
    have fits := loaded.fits isFunction body
    have count := loaded.parameterCount_le isFunction
    have small := loaded.width_le isFunction
    have place_lt : place < Region.maxParameters :=
      Nat.lt_of_lt_of_le (List.getElem?_eq_some_iff.mp isParameter).1 count
    have width_le := small width (List.mem_of_getElem? isParameter)
    have present : Region.parameterOffset place + offset < machine.globals.size := by
      have blockInside := Region.parameterOffset_add_le place_lt
      have region := loaded.region_le
      unfold Region.blockWidth at blockInside
      omega
    have room : found.windowBase + totalWidth found.widths ≤ machine.globals.size := by
      rw [size]
      exact Nat.le_trans (Nat.add_le_add_left fits.parameterSlots_le_length _)
        fits.window_le_size
    have copied := Cells.getElem?_packed_self (by rwa [Nat.zero_add]) small reserved room
      isParameter inside
    rw [Nat.zero_add] at copied
    have held := Array.getElem?_eq_getElem present
    exact ⟨_, held, copied.trans held⟩
  other := fun outside => Cells.getElem?_packed_other outside

theorem handsBack_entered (loaded : environment.program.Loaded)
    (respects : environment.builtins.Respects KeepsCalls environment.program)
    (size : machine.globals.size = environment.program.globals.size)
    (isFunction : environment.program.functions[function]? = some found)
    (body : found.body = .statements first) (reserved : Region.size ≤ found.windowBase) :
    HandsBack environment machine (machine.entered function found) where
  result := by
    intro execute exitDepth index statement reached noted reachable same isStatement begun returns
    have reachedSize := (reachable.sound loaded respects).size
    have inside : found.windowBase + found.windowLength ≤ machine.globals.size :=
      size ▸ (loaded.fits isFunction body).window_le_size
    have admits := admits_frameFor function inside
    rw [size, ← reachedSize] at admits
    exact turn_of_returns loaded reachedSize same admits reserved isStatement begun returns
  outside := by
    intro execute exitDepth index statement reached noted reachable _ isStatement begun
    have region : Region.size ≤ reached.globals.size :=
      (reachable.sound loaded respects).size ▸ loaded.region_le
    exact turn_of_outside region isStatement begun

/-- A function whose window lies behind the reserved slots, however it is entered, finds its
arguments in the window and everything else unchanged, and its caller finds the result in the return
area: the statement behind the call, and the host where it called or ran the function. -/
theorem calling_convention (loads : Image.load image expectation = .ok environment.program)
    (respects : environment.builtins.Respects KeepsCalls environment.program)
    (reachable : Reachable environment machine)
    (isFunction : environment.program.functions[function]? = some found)
    (body : found.body = .statements first) (reserved : Region.size ≤ found.windowBase) :
    (∀ start entered, enter environment.program function machine = .ok start entered →
      start = first ∧ found.ArgumentsPacked machine entered ∧
        HandsBack environment machine entered) ∧
      (∀ budget exitDepth index statement noted,
        environment.program.statements[index]? = some statement →
        begin environment index statement machine = .ok () noted →
        callee? environment.program statement noted = some function →
        exitDepth < machine.depth →
          turn (execute environment budget) environment exitDepth index machine =
              (match enter environment.program function noted with
              | .ok start entered => some (.resume start, entered)
              | .error fault after => some (.stop (.error fault), after)) ∧
            afterReturn exitDepth noted.depth noted.statement = .resume (index + 1)) ∧
      (∀ budget arguments value final,
        call environment budget function arguments machine = some (.ok value, final) →
          ∃ staged, stageArguments arguments 0 machine = .ok () staged ∧
            Yields environment function staged.restartCount value) ∧
      ∀ budget final, invoke environment budget function machine = some (.ok (), final) →
        Yields environment function machine final.returned := by
  have loaded := Image.loaded_of_load loads
  have sound := reachable.sound loaded respects
  refine ⟨?_, ?_, ?_, ?_⟩
  · intro start entered enters
    rcases enter_cases loaded sound.size isFunction body with ⟨fault, refused⟩ | succeeded
    · rw [refused] at enters
      cases enters
    · rw [succeeded] at enters
      cases enters
      exact ⟨rfl, argumentsPacked_entered loaded sound.size isFunction body reserved,
        handsBack_entered loaded respects sound.size isFunction body reserved⟩
  · intro budget exitDepth index statement noted isStatement begun called inside
    exact turn_of_callee isStatement begun called inside
  · intro budget arguments value final ends
    unfold call callWith at ends
    split at ends
    · cases ends
    split at ends
    · cases ends
    next staged placed =>
    obtain ⟨⟨result, last⟩, ran, same⟩ := Option.map_eq_some_iff.mp ends
    cases result with
    | error fault => cases same
    | ok _ =>
      cases same
      obtain ⟨executed, counted⟩ := restartCount_eq staged
      have size : staged.restartCount.globals.size = environment.program.globals.size := by
        rw [counted]
        exact ((keepsCalls_stageArguments _ _).ok placed).size.trans sound.size
      exact ⟨staged, placed,
        yields_of_execute loaded respects size isFunction body reserved ran⟩
  · intro budget final ends
    obtain ⟨⟨result, last⟩, ran, same⟩ := Option.map_eq_some_iff.mp ends
    cases result with
    | error fault => cases same
    | ok _ =>
      cases same
      have yields : Yields environment function machine last.returned :=
        yields_of_execute loaded respects sound.size isFunction body reserved ran
      exact yields

theorem calling_convention_inside :
    Image.load (Image.save Sample.program) .none = .ok Sample.environment.program ∧
      Sample.environment.builtins.Respects KeepsCalls Sample.environment.program ∧
      Reachable Sample.environment Sample.inside ∧
      (∃ found, Sample.environment.program.functions[1]? = some found ∧
        found.body = .statements 1 ∧ Region.size ≤ found.windowBase ∧
        ∃ entered, enter Sample.environment.program 1 Sample.inside = .ok 1 entered ∧
          found.ArgumentsPacked Sample.inside entered ∧
          HandsBack Sample.environment Sample.inside entered) ∧
      ∃ final, call Sample.environment 9 1 [.float 5] Sample.inside = some (.ok ⟨5, 0, 0⟩, final) ∧
        ∃ staged, stageArguments [.float 5] 0 Sample.inside = .ok () staged ∧
          Yields Sample.environment 1 staged.restartCount ⟨5, 0, 0⟩ := by
  have reachable : Reachable Sample.environment Sample.inside := .entered .created 1
  have reserved : Region.size ≤ (Sample.function 1 28 2 [1]).windowBase := by decide
  obtain ⟨entering, -, calling, -⟩ := calling_convention Sample.loaded Sample.respects reachable
    Sample.isFunction Sample.body reserved
  refine ⟨Sample.loaded, Sample.respects, reachable,
    ⟨_, Sample.isFunction, Sample.body, reserved, _, Sample.enter_inside, ?_⟩, ?_⟩
  · exact (entering 1 _ Sample.enter_inside).2
  · have returns : (call Sample.environment 9 1 [.float 5] Sample.inside).map
        (fun outcome => outcome.1.toOption) = some (some ⟨5, 0, 0⟩) := by decide +kernel
    obtain ⟨⟨result, final⟩, ends, same⟩ := Option.map_eq_some_iff.mp returns
    obtain rfl := Except.eq_ok_of_toOption same
    obtain ⟨staged, placed, yields⟩ := calling 9 _ _ final ends
    exact ⟨final, ends, staged, placed, yields⟩

end Machine

end Gamecode
