/-
Counters for every function of a program: how often it was entered, and how many statements it
executed while it was the innermost one.
-/

namespace Gamecode

/-- What is counted for one function. -/
structure Counter where
  calls : Nat
  statements : Nat
deriving Repr, DecidableEq

namespace Counter

/-- Nothing was counted. -/
def zero : Counter := ⟨0, 0⟩

/-- Whether nothing was counted. -/
def isIdle (counter : Counter) : Bool :=
  counter.calls = 0 && counter.statements = 0

/-- Whether one counter comes before another in a report: more statements first, then more calls. -/
def isBusier (left right : Counter) : Bool :=
  right.statements < left.statements ||
    (left.statements = right.statements && right.calls < left.calls)

end Counter

/-- A counter for every function, by number. -/
structure Profile where
  counters : Array Counter
deriving Repr, DecidableEq

namespace Profile

/-- A program that has not run. -/
def create (functions : Nat) : Profile :=
  ⟨Array.replicate functions .zero⟩

/-- Functions that do not exist are not counted. -/
def recordCall (profile : Profile) (function : Nat) : Profile :=
  ⟨profile.counters.modify function fun counter => { counter with calls := counter.calls + 1 }⟩

/-- Count a statement for the function that executes it. -/
def recordStatement (profile : Profile) (function : Nat) : Profile :=
  ⟨profile.counters.modify function fun counter =>
    { counter with statements := counter.statements + 1 }⟩

/-- The counter of a function; a function that does not exist has none and never ran. -/
def get (profile : Profile) (function : Nat) : Counter :=
  profile.counters.getD function .zero

/-- A call is counted for the function that was entered. -/
theorem get_recordCall_self {profile : Profile} {function : Nat}
    (inside : function < profile.counters.size) :
    (profile.recordCall function).get function =
      { profile.get function with calls := (profile.get function).calls + 1 } := by
  simp [get, recordCall, Array.getD, Array.getElem_modify, inside]

/-- A statement is counted for the function that executes it. -/
theorem get_recordStatement_self {profile : Profile} {function : Nat}
    (inside : function < profile.counters.size) :
    (profile.recordStatement function).get function =
      { profile.get function with statements := (profile.get function).statements + 1 } := by
  simp [get, recordStatement, Array.getD, Array.getElem_modify, inside]

/-- A call is counted for no other function. -/
theorem get_recordCall_other {profile : Profile} {function other : Nat}
    (different : other ≠ function) :
    (profile.recordCall function).get other = profile.get other := by
  simp [get, recordCall, Array.getD, Array.getElem_modify, different.symm]

/-- A statement is counted for no other function. -/
theorem get_recordStatement_other {profile : Profile} {function other : Nat}
    (different : other ≠ function) :
    (profile.recordStatement function).get other = profile.get other := by
  simp [get, recordStatement, Array.getD, Array.getElem_modify, different.symm]

/-- Count from zero again. -/
def reset (profile : Profile) : Profile :=
  ⟨profile.counters.map fun _ => .zero⟩

/-- The functions that ran, the busiest first; of equally busy ones the lower number comes first. -/
def ranking (profile : Profile) : List (Nat × Counter) :=
  let active := profile.counters.toList.zipIdx.filterMap fun (counter, function) =>
    if counter.isIdle then none else some (function, counter)
  active.mergeSort fun left right => ! right.2.isBusier left.2

/-- The `limit` busiest functions. -/
def busiest (profile : Profile) (limit : Nat) : List (Nat × Counter) :=
  profile.ranking.take limit

end Profile

end Gamecode
