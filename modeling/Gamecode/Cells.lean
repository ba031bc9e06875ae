/-
Rows of slots. A run of consecutive slots is read as a list and written from a list; a write past
the end of the row is dropped, so callers check bounds first.
-/

import Gamecode.Slot

namespace Gamecode

/-- A row of slots that are addressed by their place. -/
abbrev Cells := Array Slot

namespace Cells

/-- The run of slots from `offset` up to `offset + width`. -/
def window (cells : Cells) (offset width : Nat) : List Slot :=
  (cells.extract offset (offset + width)).toList

/-- Write values at consecutive slots from `offset`. -/
def put (cells : Cells) (offset : Nat) : List Slot → Cells
  | [] => cells
  | value :: rest => put (cells.setIfInBounds offset value) (offset + 1) rest

/-! ### Reading after writing -/

/-- Writing a run keeps the number of slots. -/
@[simp] theorem size_put (cells : Cells) (offset : Nat) (values : List Slot) :
    (cells.put offset values).size = cells.size := by
  induction values generalizing cells offset with
  | nil => rfl
  | cons value rest inductionHypothesis => simp [put, inductionHypothesis]

/-- A slot outside the written run keeps its value. -/
theorem getElem?_put_other (cells : Cells) (offset : Nat) (values : List Slot) (index : Nat)
    (outside : index < offset ∨ offset + values.length ≤ index) :
    (cells.put offset values)[index]? = cells[index]? := by
  induction values generalizing cells offset with
  | nil => rfl
  | cons value rest inductionHypothesis =>
    simp only [List.length_cons] at outside
    rw [put, inductionHypothesis _ _ (by omega), Array.getElem?_setIfInBounds_ne (by omega)]

/-- A slot inside the written run has its new value. -/
theorem getElem?_put_self (cells : Cells) (offset : Nat) (values : List Slot) (index : Nat)
    (inside : index < values.length) (bound : offset + values.length ≤ cells.size) :
    (cells.put offset values)[offset + index]? = values[index]? := by
  induction values generalizing cells offset index with
  | nil => simp at inside
  | cons value rest inductionHypothesis =>
    simp only [List.length_cons] at inside bound
    rw [put]
    cases index with
    | zero =>
      rw [getElem?_put_other _ _ _ _ (by omega), Nat.add_zero,
        Array.getElem?_setIfInBounds_self, if_pos (by omega)]
      rfl
    | succ index =>
      rw [show offset + (index + 1) = offset + 1 + index by omega,
        inductionHypothesis _ _ _ (by omega) (by simp only [Array.size_setIfInBounds]; omega)]
      rfl

/-- A window has as many slots as were asked for. -/
@[simp] theorem length_window (cells : Cells) (offset width : Nat) :
    (cells.window offset width).length = min (offset + width) cells.size - offset := by
  simp only [window, Array.length_toList, Array.size_extract]

/-- A window that lies inside the row is as long as it was asked to be. -/
theorem length_window_of_le {cells : Cells} {offset width : Nat}
    (inside : offset + width ≤ cells.size) : (cells.window offset width).length = width := by
  rw [length_window]
  omega

/-- Each slot of a window is the slot at its place, and zero past the end. -/
theorem getElem?_window (cells : Cells) (offset width index : Nat) (inside : index < width) :
    (cells.window offset width)[index]? = cells[offset + index]? := by
  simp only [window, Array.getElem?_toList, Array.getElem?_extract]
  split
  · rfl
  · rw [Array.getElem?_eq_none (by omega)]

/-- A slot of a window, with zero past the end. -/
theorem getD_window (cells : Cells) (offset width index : Nat) (inside : index < width) :
    (cells.window offset width).getD index 0 = cells.getD (offset + index) 0 := by
  rw [List.getD_eq_getElem?_getD, Array.getD_eq_getD_getElem?, getElem?_window _ _ _ _ inside]

/-- Windows are equal if all their slots are. -/
theorem window_congr {left right : Cells} {offset width : Nat}
    (same : ∀ index < width, left[offset + index]? = right[offset + index]?) :
    left.window offset width = right.window offset width := by
  refine List.ext_getElem? fun index => ?_
  by_cases inside : index < width
  · rw [getElem?_window _ _ _ _ inside, getElem?_window _ _ _ _ inside, same index inside]
  · rw [List.getElem?_eq_none (by rw [length_window]; omega),
      List.getElem?_eq_none (by rw [length_window]; omega)]

/-- A window of one slot holds the slot. -/
theorem window_one {cells : Cells} {offset : Nat} {slot : Slot}
    (found : cells[offset]? = some slot) : cells.window offset 1 = [slot] := by
  have length : (cells.window offset 1).length ≤ 1 := by
    rw [length_window]
    omega
  have first : (cells.window offset 1)[0]? = some slot :=
    (getElem?_window cells offset 1 0 Nat.one_pos).trans found
  match cells.window offset 1, length, first with
  | [_], _, rfl => rfl

/-- A window that a written run does not reach is the same. -/
theorem window_put_other {cells : Cells} {offset start width : Nat} {values : List Slot}
    (apart : start + width ≤ offset ∨ offset + values.length ≤ start) :
    (cells.put offset values).window start width = cells.window start width :=
  window_congr fun index inside => getElem?_put_other _ _ _ _ (by omega)

/-- The window of a written run holds what was written. -/
theorem window_put_self {cells : Cells} {offset width : Nat} {values : List Slot}
    (length : values.length = width) (bound : offset + width ≤ cells.size) :
    (cells.put offset values).window offset width = values := by
  subst length
  refine List.ext_getElem? fun index => ?_
  by_cases inside : index < values.length
  · rw [getElem?_window _ _ _ _ inside, getElem?_put_self _ _ _ _ inside bound]
  · rw [List.getElem?_eq_none (by rw [length_window]; omega), List.getElem?_eq_none (by omega)]

/-- A window that ends inside the slots is the same after more slots were added. -/
theorem window_append {cells more : Cells} {start width : Nat}
    (inside : start + width ≤ cells.size) :
    window (cells ++ more) start width = cells.window start width :=
  window_congr fun _ _ => Array.getElem?_append_left (by omega)

/-- A window of slots that were added is filled with what was added. -/
theorem window_append_replicate {cells : Cells} {start width added : Nat} {slot : Slot}
    (lower : cells.size ≤ start) (upper : start + width ≤ cells.size + added) :
    window (cells ++ Array.replicate added slot) start width = List.replicate width slot := by
  refine List.ext_getElem? fun index => ?_
  by_cases inside : index < width
  · rw [getElem?_window _ _ _ _ inside, Array.getElem?_append_right (by omega),
      Array.getElem?_replicate, if_pos (by omega), List.getElem?_replicate_of_lt inside]
  · rw [List.getElem?_eq_none (by rw [length_window]; omega),
      List.getElem?_eq_none (by rw [List.length_replicate]; omega)]

end Cells

end Gamecode
