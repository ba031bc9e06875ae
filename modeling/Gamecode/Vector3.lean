/-
Three slots side by side. They are the components of a vector, and they are also the form in which
the return area is read.
-/

import Gamecode.Slot
import Gamecode.Number.Plain

namespace Gamecode

/-- Three slots in a row. -/
structure Vector3 where
  x : Slot
  y : Slot
  z : Slot
deriving Repr, DecidableEq

namespace Vector3

/-- Three positive zeros. -/
def zero : Vector3 := ⟨0, 0, 0⟩

/-- The slots in their order. -/
def toList (vector : Vector3) : List Slot := [vector.x, vector.y, vector.z]

/-- Change each component by itself. -/
def map (vector : Vector3) (change : Slot → Slot) : Vector3 :=
  ⟨change vector.x, change vector.y, change vector.z⟩

/-- The sum, component by component. -/
def add (left right : Vector3) : Vector3 :=
  ⟨left.x.add right.x, left.y.add right.y, left.z.add right.z⟩

/-- The difference, component by component. -/
def subtract (left right : Vector3) : Vector3 :=
  ⟨left.x.subtract right.x, left.y.subtract right.y, left.z.subtract right.z⟩

/-- The product with a float. -/
def scale (vector : Vector3) (factor : Slot) : Vector3 :=
  vector.map (Slot.multiply · factor)

/-- The vector in the other direction; every sign bit flips. -/
def negate (vector : Vector3) : Vector3 :=
  vector.map Slot.negate

/-- The inner product, summed from the left. -/
def dot (left right : Vector3) : Slot :=
  ((left.x.multiply right.x).add (left.y.multiply right.y)).add (left.z.multiply right.z)

/-- Whether every component is one of the two zeros. -/
def isZero (vector : Vector3) : Bool :=
  vector.x.isZero && vector.y.isZero && vector.z.isZero

/-- Equality of the components as floats. -/
def equals (left right : Vector3) : Bool :=
  left.x.equals right.x && left.y.equals right.y && left.z.equals right.z

/-- The components in columns, between single quotes. -/
def display (vector : Vector3) : String :=
  "'" ++ Number.tabular vector.x ++ " " ++ Number.tabular vector.y ++ " " ++
    Number.tabular vector.z ++ "'"

end Vector3

end Gamecode
