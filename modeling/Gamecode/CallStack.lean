/-
The active functions. A function keeps its locals at a fixed place in the global segment, its
window, so what the window held is saved when the function is entered and put back when it is left.
The saved windows lie one behind the other in a stack of their own.
-/

import Gamecode.Cells
import Gamecode.Fault

namespace Gamecode

/-- One active function. -/
structure Frame where
  function : Nat
  /-- The statement that was being executed when the function was entered; a host enters with none.
  -/
  returnTo : Option Nat
  /-- The window of the function in the global segment. -/
  windowStart : Nat
  windowSize : Nat
  /-- Where the saved window starts in the stack of saved slots. -/
  savedAt : Nat
deriving Repr, DecidableEq

/-- The active functions and their saved windows, each with a limit. -/
structure CallStack where
  /-- The innermost frame comes last. -/
  frames : Array Frame
  saved : Cells
  depthLimit : Nat
  savedLimit : Nat
deriving Repr, DecidableEq

namespace CallStack

/-- No function is active. -/
def create (depthLimit savedLimit : Nat) : CallStack :=
  ⟨#[], #[], depthLimit, savedLimit⟩

/-- How many functions are active. -/
def depth (stack : CallStack) : Nat :=
  stack.frames.size

/-- The frame of the function that was entered last. -/
def innermost? (stack : CallStack) : Option Frame :=
  stack.frames.back?

/-- Fails if one more frame would be one too many. -/
def checkDepth (stack : CallStack) : Except Fault Unit :=
  if stack.depthLimit ≤ stack.depth then .error (.stackOverflow stack.depthLimit) else .ok ()

/-- Save a window, and tell where. -/
def save (stack : CallStack) (window : List Slot) : Except Fault (Nat × CallStack) :=
  let position := stack.saved.size
  let needed := position + window.length
  if stack.savedLimit < needed then .error (.localStackOverflow needed stack.savedLimit)
  else .ok (position, { stack with saved := stack.saved ++ window.toArray })

/-- Put a frame on top of the others, unless that would be one too many. -/
def push (stack : CallStack) (frame : Frame) : Except Fault CallStack := do
  stack.checkDepth
  return { stack with frames := stack.frames.push frame }

/-- Take off the innermost frame together with what was saved for it. -/
def pop (stack : CallStack) : Option ((Frame × List Slot) × CallStack) :=
  stack.frames.back?.map fun frame =>
    ((frame, (stack.saved.extract frame.savedAt stack.saved.size).toList),
      { stack with
        frames := stack.frames.pop
        saved := stack.saved.take frame.savedAt })

/-- Drop all frames and everything saved for them. -/
def clear (stack : CallStack) : CallStack :=
  { stack with frames := #[], saved := #[] }

/-! ### Pushing and popping -/

/-- A push succeeds exactly below the limit, and puts the frame on top. -/
theorem push_eq_ok_iff {stack after : CallStack} {frame : Frame} :
    stack.push frame = .ok after ↔
      stack.depth < stack.depthLimit ∧ after =
        { stack with frames := stack.frames.push frame } := by
  unfold push checkDepth
  by_cases full : stack.depthLimit ≤ stack.depth
  · rw [if_pos full]
    exact iff_of_false nofun fun both => Nat.not_le.mpr both.1 full
  · rw [if_neg full]
    exact ⟨fun pushed => ⟨Nat.not_le.mp full, (Except.ok.inj pushed).symm⟩,
      fun both => congrArg Except.ok both.2.symm⟩

/-- Saving succeeds exactly where the window fits, and puts it behind what was saved before. -/
theorem save_eq_ok_iff {stack after : CallStack} {window : List Slot} {position : Nat} :
    stack.save window = .ok (position, after) ↔
      stack.saved.size + window.length ≤ stack.savedLimit ∧ position = stack.saved.size ∧
        after = { stack with saved := stack.saved ++ window.toArray } := by
  unfold save
  by_cases full : stack.savedLimit < stack.saved.size + window.length
  · rw [if_pos full]
    exact iff_of_false nofun fun all => Nat.not_le.mpr full all.1
  · rw [if_neg full]
    constructor
    · intro saved
      cases saved
      exact ⟨Nat.not_lt.mp full, rfl, rfl⟩
    · rintro ⟨_, rfl, rfl⟩
      rfl

/-- What is saved for a frame comes back with it. -/
theorem pop_push_save {stack : CallStack} {frame : Frame} {window : List Slot}
    (place : frame.savedAt = stack.saved.size) :
    pop { stack with
        frames := stack.frames.push frame
        saved := stack.saved ++ window.toArray } = some ((frame, window), stack) := by
  simp only [pop, Array.back?_push, Option.map_some, Array.pop_push, place]
  simp [Array.extract_append]

end CallStack

end Gamecode
