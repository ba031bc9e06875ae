/-
Files, as the command line needs them: whole files are read and written, and a path tells which one
is meant.
-/

namespace Gamecode

/-- How whole files are read and written; what goes wrong is told in words. -/
class Files (m : Type → Type) where
  read : (path : String) → m (Except String ByteArray)
  write : (path text : String) → m (Except String Unit)

/-- Why a file cannot be used. -/
inductive FileProblem
  /-- Something on the way to the file does not exist, or the file itself does not. -/
  | missing
  /-- The path leads through a file. -/
  | notDirectory
  /-- A file is wanted and a directory is found. -/
  | isDirectory
  /-- The path or one of its names has too many bytes. -/
  | tooLong
  /-- There is a zero character in the path. -/
  | zeroCharacter
  /-- The bytes of the file are no text. -/
  | notText
deriving Repr, DecidableEq

/-- What is said of a problem. -/
def FileProblem.message : FileProblem → String
  | missing => "No such file or directory (os error 2)"
  | notDirectory => "Not a directory (os error 20)"
  | isDirectory => "Is a directory (os error 21)"
  | tooLong => "File name too long (os error 36)"
  | zeroCharacter => "file name contained an unexpected NUL byte"
  | notText => "stream did not contain valid UTF-8"

namespace Files

/-- Read a file that has to be a text. -/
def readText {m : Type → Type} [Monad m] [Files m] (path : String) :
    m (Except String String) := do
  match ← Files.read path with
  | .error problem => return .error problem
  | .ok bytes =>
    match String.fromUTF8? bytes with
    | some text => return .ok text
    | none => return .error FileProblem.notText.message

end Files

end Gamecode
