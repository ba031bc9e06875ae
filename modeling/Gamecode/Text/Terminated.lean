/-
Texts inside a table of bytes. A text starts at an offset and ends before the next NUL, or at the
end of the table if there is none.
-/

namespace Gamecode.Text

/-- The bytes from `start` up to the next NUL. -/
def untilNul (table : Array UInt8) (start : Nat) : List UInt8 :=
  go start (table.size - start)
where
  go (position : Nat) : Nat → List UInt8
    | 0 => []
    | rest + 1 =>
      match table[position]? with
      | none => []
      | some byte => if byte = 0 then [] else byte :: go (position + 1) rest

/-- Reading on from a place keeps the bytes before the first zero. -/
theorem untilNul_go_eq (table : Array UInt8) (position rest : Nat) :
    untilNul.go table position rest =
      ((table.toList.drop position).take rest).takeWhile (· ≠ 0) := by
  induction rest generalizing position with
  | zero => simp [untilNul.go]
  | succ rest inductionHypothesis =>
    rw [untilNul.go]
    rcases Nat.lt_or_ge position table.size with inside | outside
    · rw [Array.getElem?_eq_getElem inside, List.drop_eq_getElem_cons (by simpa using inside),
        List.take_succ_cons, List.takeWhile_cons, Array.getElem_toList]
      by_cases terminator : table[position] = 0
      · simp [terminator]
      · simp [terminator, inductionHypothesis]
    · rw [Array.getElem?_eq_none outside, List.drop_eq_nil_of_le (by simpa using outside)]
      simp

/-- A string reaches up to the first zero behind its start. -/
theorem untilNul_eq (table : Array UInt8) (start : Nat) :
    untilNul table start = (table.toList.drop start).takeWhile (· ≠ 0) := by
  rw [untilNul, untilNul_go_eq, List.take_of_length_le (by simp)]

end Gamecode.Text
