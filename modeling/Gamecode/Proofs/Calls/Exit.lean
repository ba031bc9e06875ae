/-
This file says how functions are left. A stack lies above another one if it was made from it by
entering functions. Each of them can be left without a fault, the last one first, and leaving all of
them gives the lower stack back, together with the window of the one that was entered first.
-/

import Gamecode.Proofs.Calls.Entry

namespace Gamecode

namespace CallStack

/-! ### Stacks above others -/

/-- A frame and a window are put on a stack in such a way that they can be taken off again, and the
window fits into a segment of `size` slots. -/
structure Admits (size : Nat) (stack : CallStack) (frame : Frame) (window : List Slot) : Prop where
  savedAt : frame.savedAt = stack.saved.size
  fits : frame.windowStart + window.length ≤ size

/-- A stack that was made from a lower one by entering functions from statements. -/
inductive Above (size : Nat) (base : CallStack) : CallStack → Prop
  | base : Above size base base
  | entered {stack : CallStack} {frame : Frame} {window : List Slot} (above : Above size base stack)
      (admits : stack.Admits size frame window) (caller : frame.returnTo.isSome) :
      Above size base (stack.entered frame window)

theorem depth_entered (stack : CallStack) (frame : Frame) (window : List Slot) :
    (stack.entered frame window).depth = stack.depth + 1 :=
  Array.size_push _

theorem size_saved_entered (stack : CallStack) (frame : Frame) (window : List Slot) :
    (stack.entered frame window).saved.size = stack.saved.size + window.length := by
  unfold entered
  rw [Array.size_append]
  rfl

theorem Above.depth_le {size : Nat} {base stack : CallStack} (above : Above size base stack) :
    base.depth ≤ stack.depth := by
  induction above with
  | base => exact Nat.le_refl _
  | entered _ _ _ inductionHypothesis =>
    rw [depth_entered]
    exact Nat.le_succ_of_le inductionHypothesis

theorem frames_prefix_entered (stack : CallStack) (frame : Frame) (window : List Slot) :
    stack.frames.toList <+: (stack.entered frame window).frames.toList := by
  unfold entered
  rw [Array.toList_push]
  exact List.prefix_append _ _

theorem saved_prefix_entered (stack : CallStack) (frame : Frame) (window : List Slot) :
    stack.saved.toList <+: (stack.entered frame window).saved.toList := by
  unfold entered
  rw [Array.toList_append]
  exact List.prefix_append _ _

/-- The frames of the lower stack stay below all others. -/
theorem Above.frames {size : Nat} {base stack : CallStack} (above : Above size base stack) :
    base.frames.toList <+: stack.frames.toList := by
  induction above with
  | base => exact List.prefix_rfl
  | entered _ _ _ inductionHypothesis =>
    exact inductionHypothesis.trans (frames_prefix_entered _ _ _)

/-- What was saved for the frames of the lower stack stays below everything else. -/
theorem Above.saved {size : Nat} {base stack : CallStack} (above : Above size base stack) :
    base.saved.toList <+: stack.saved.toList := by
  induction above with
  | base => exact List.prefix_rfl
  | entered _ _ _ inductionHypothesis =>
    exact inductionHypothesis.trans (saved_prefix_entered _ _ _)

end CallStack

namespace Machine

/-! ### Leaving one function -/

/-- The machine after a function was left: the stack is the one of the caller, and the window holds
what was saved. -/
def backIn (machine : Machine) (stack : CallStack) (start : Nat) (window : List Slot) : Machine :=
  { machine with
    stack
    globals := ⟨machine.globals.slots.put start window⟩ }

theorem size_backIn (machine : Machine) (stack : CallStack) (start : Nat) (window : List Slot) :
    (machine.backIn stack start window).globals.size = machine.globals.size :=
  Cells.size_put _ _ _

/-- Leaving the function that was entered last puts its window back. -/
theorem leave_eq_ok {machine : Machine} {caller : CallStack} {frame : Frame} {window : List Slot}
    (entered : machine.stack = caller.entered frame window)
    (admits : caller.Admits machine.globals.size frame window) :
    leave machine = .ok frame.returnTo (machine.backIn caller frame.windowStart window) := by
  unfold leave
  rw [entered, CallStack.entered, CallStack.pop_push_save admits.savedAt]
  dsimp only
  rw [Globals.write_eq_ok_iff.mpr ⟨admits.fits, rfl⟩]
  rfl

/-- Leaving a function, also where its window cannot be put back, takes its frame off the stack and
changes nothing else but the saved slots and the globals. -/
theorem leaves_leave (machine : Machine) :
    ∃ globals saved, leave.leaves machine =
      { machine with
        globals
        stack := { machine.stack with frames := machine.stack.frames.pop, saved } } := by
  unfold Action.leaves leave
  cases popped : machine.stack.pop with
  | none =>
    have empty : machine.stack.frames = #[] :=
      Array.back?_eq_none_iff.mp (Option.map_eq_none_iff.mp popped)
    refine ⟨machine.globals, machine.stack.saved, ?_⟩
    rw [empty, Array.pop_empty, ← empty]
  | some popping =>
    obtain ⟨innermost, -, rfl⟩ := Option.map_eq_some_iff.mp popped
    dsimp only
    generalize Globals.write _ _ _ = written
    cases written with
    | ok globals => exact ⟨globals, _, rfl⟩
    | error fault => exact ⟨machine.globals, _, rfl⟩

/-! ### Leaving many functions -/

/-- All functions above a lower stack are left without a fault, and further ones after them. -/
theorem leaveMany_above {size : Nat} {base stack : CallStack}
    (above : CallStack.Above size base stack) {machine : Machine} (same : machine.stack = stack)
    (sized : machine.globals.size = size) :
    ∃ after : Machine, after.stack = base ∧ after.globals.size = size ∧
      ∀ more, leaveMany (stack.depth - base.depth + more) machine = leaveMany more after := by
  induction above generalizing machine with
  | base =>
    refine ⟨machine, same, sized, fun more => ?_⟩
    rw [Nat.sub_self, Nat.zero_add]
  | @entered stack frame window above admits _ inductionHypothesis =>
    have left := leave_eq_ok same (sized ▸ admits)
    obtain ⟨after, stackSame, sizeSame, unwound⟩ :=
      @inductionHypothesis (machine.backIn stack frame.windowStart window) rfl
        ((size_backIn _ _ _ _).trans sized)
    refine ⟨after, stackSame, sizeSame, fun more => ?_⟩
    have count : (stack.entered frame window).depth - base.depth + more =
        stack.depth - base.depth + more + 1 := by
      have lower := above.depth_le
      rw [CallStack.depth_entered]
      omega
    rw [count, leaveMany, left]
    exact unwound more

end Machine

end Gamecode
