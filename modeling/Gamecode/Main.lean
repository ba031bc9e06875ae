/-
The program: the command line on the file system and the standard streams.
-/

import Gamecode.CommandLine.Run
import Gamecode.Text.Lines

namespace Gamecode

/-- The number of a problem of the system, which may be given with its sign turned. -/
def problemNumber (code : UInt32) : Nat :=
  min code.toNat (-code).toNat

/-- What went wrong with a file, in the words of the command line. -/
def describeProblem (problem : IO.Error) : String :=
  let known : Option FileProblem :=
    match problem with
    | .noFileOrDirectory .. => some .missing
    | .inappropriateType _ code _ =>
      if problemNumber code = 20 then some .notDirectory
      else if problemNumber code = 21 then some .isDirectory
      else none
    | .invalidArgument _ code _ => if problemNumber code = 36 then some .tooLong else none
    | _ => none
  (known.map FileProblem.message).getD (toString problem)

/-- A step with the file of a path, whose problems are told in words. -/
def attempt {α : Type} (path : String) (action : IO α) : IO (Except String α) := do
  if let .error problem := Path.ofText path then return .error problem.message
  match ← action.toBaseIO with
  | .ok value => return .ok value
  | .error problem => return .error (describeProblem problem)

instance : Host IO where
  read path := attempt path (IO.FS.readBinFile path)
  write path text := attempt path (IO.FS.writeFile path text)
  nextLine := do
    let line ← (← IO.getStdin).getLine
    return if line = "" then none else (Text.lines line).head?
  print text := do
    let stream ← IO.getStdout
    stream.putStr text
    stream.flush
  warn text := do (← IO.getStderr).putStr text
  log line := do (← IO.getStderr).putStrLn line

end Gamecode

def main (arguments : List String) : IO UInt32 :=
  Gamecode.CommandLine.execute arguments
