/-
The low globals have a fixed use: slot 0 is unused, slots 1 to 3 hold the result of the last call,
and eight parameter blocks of three slots follow. A program's own globals start after them.
-/

namespace Gamecode.Region

/-- The first slot of the return area. -/
def returnStart : Nat := 1

/-- The first slot of the first parameter block. -/
def parameterStart : Nat := 4

/-- Every parameter block has room for a vector. -/
def blockWidth : Nat := 3

/-- The most parameters that a function may declare, and the most arguments that a host may pass. -/
def maxParameters : Nat := 8

/-- The first slot that belongs to a program. -/
def size : Nat := parameterStart + maxParameters * blockWidth

/-- Offsets are 64-bit words, so the block of an absurd parameter wraps around. -/
def parameterOffset (index : Nat) : Nat :=
  (parameterStart + index * blockWidth) % 0x10000000000000000

/-- There are 28 reserved slots. -/
theorem size_eq : size = 28 := rfl

/-- The parameter blocks lie one behind the other. -/
theorem parameterOffset_of_lt {index : Nat} (bound : index < maxParameters) :
    parameterOffset index = 4 + 3 * index := by
  simp only [parameterOffset, parameterStart, blockWidth, maxParameters] at *
  omega

/-- Every parameter block lies inside the reserved region. -/
theorem parameterOffset_add_le {index : Nat} (bound : index < maxParameters) :
    parameterOffset index + blockWidth ≤ size := by
  rw [parameterOffset_of_lt bound]
  simp only [size, parameterStart, blockWidth, maxParameters] at *
  omega

end Gamecode.Region
