/-
Values that a host passes to a program. Only here do slots carry a type; inside the machine the
declaration that names a slot decides how it is read.
-/

import Gamecode.Vector3

namespace Gamecode

/-- A value with its type. -/
inductive Value
  | float (bits : Slot)
  | vector (components : Vector3)
  | string (reference : Int)
  | entity (number : Int)
  | function (number : Int)
  | integer (number : Int)
deriving Repr, DecidableEq

namespace Value

/-- The slots that the value takes. -/
def slots : Value → List Slot
  | float bits => [bits]
  | vector components => components.toList
  | string number | entity number | function number | integer number => [Slot.ofSigned number]

/-- How many slots the value takes. -/
def width (value : Value) : Nat :=
  value.slots.length

/-- No value is wider than a vector. -/
theorem width_le (value : Value) : value.width ≤ 3 := by
  cases value <;> simp [width, slots, Vector3.toList]

/-- The slots of the value, with zeros up to the width of a vector. -/
def padded (value : Value) : Vector3 :=
  match value.slots with
  | [x, y, z] => ⟨x, y, z⟩
  | x :: _ => ⟨x, 0, 0⟩
  | [] => .zero

/-- The value in words. -/
def display : Value → String
  | float bits => Number.plainText bits
  | vector components => components.display
  | string reference => "string#" ++ toString reference
  | entity number => "entity " ++ toString number
  | function number => "function#" ++ toString number
  | integer number => toString number

end Value

end Gamecode
