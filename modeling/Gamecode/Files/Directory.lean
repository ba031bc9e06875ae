/-
Directories in memory: a working directory and what lies around it. Every place with files beneath
it is a directory, and so are the root with its usual directories, the working directory and all
directories around it, of which nothing else is known. Among the devices there is one that is always
empty and keeps nothing.
-/

import Gamecode.Files.Path

namespace Gamecode

/-- The files of a working directory and of those around it. -/
structure Directory where
  contents : List (Place × ByteArray)

/-- What is found at a place. -/
inductive Entry
  | file (bytes : ByteArray)
  | folder

namespace Directory

/-- The empty device. -/
def nullDevice : Place := ⟨.root, ["null", "dev"]⟩

/-- The directories in every root. -/
def rootFolders : List String :=
  ["bin", "boot", "dev", "etc", "home", "lib", "media", "mnt", "opt", "proc", "root", "run", "sbin",
    "srv", "sys", "tmp", "usr", "var"]

/-- Whether a place is a directory even if there are no files in it. -/
def isKnown (place : Place) : Bool :=
  match place.origin, place.names with
  | _, [] => true
  | .root, [name] => rootFolders.contains name
  | _, _ => false

/-- A working directory with files of given names, and nothing around it but the empty device. -/
def ofFiles (files : List (String × ByteArray)) : Directory :=
  ⟨(nullDevice, .empty) :: files.map fun (name, bytes) =>
    (⟨.around 0, (Path.namesOf name).reverse⟩, bytes)⟩

/-- The files in the working directory with their names. -/
def files (directory : Directory) : List (String × ByteArray) :=
  directory.contents.filterMap fun (place, bytes) =>
    if place.origin = .around 0 then some ("/".intercalate place.names.reverse, bytes) else none

/-! ### Finding a place -/

/-- What is at a place. -/
def entry? (directory : Directory) (place : Place) : Option Entry :=
  match directory.contents.lookup place with
  | some bytes => some (.file bytes)
  | none =>
    if isKnown place || directory.contents.any fun content => content.1.isBelow place then
      some .folder
    else none

/-- Look for what is at a place. -/
def find (directory : Directory) (place : Place) : Except FileProblem (Option Entry) :=
  if place.tooLong then .error .tooLong else .ok (directory.entry? place)

/-- Take one step of a path. A single dot stays where it is, and two dots lead outwards. -/
def enter (directory : Directory) (place : Place) (step : String) : Except FileProblem Place :=
  if step = "." then .ok place
  else if step = ".." then .ok place.parent
  else
    match directory.find (place.child step) with
    | .error problem => .error problem
    | .ok none => .error .missing
    | .ok (some (.file _)) => .error .notDirectory
    | .ok (some .folder) => .ok (place.child step)

/-- The place of the last name of a path; none where the path ends with dots, or has no name, so
that it leads to a directory. All before the last name has to be directories. -/
def goal (directory : Directory) (path : Path) : Except FileProblem (Option Place) :=
  match path.steps.getLast? with
  | none => .ok none
  | some last => do
    let place ← path.steps.dropLast.foldlM directory.enter path.start
    return if last = "." || last = ".." then none else some (place.child last)

/-! ### Reading and writing -/

/-- The bytes of the file to which a path leads. -/
def read (directory : Directory) (path : String) : Except FileProblem ByteArray := do
  let path ← Path.ofText path
  let some place ← directory.goal path | throw .isDirectory
  match ← directory.find place with
  | none => throw .missing
  | some .folder => throw .isDirectory
  | some (.file bytes) => if path.slash then throw .notDirectory else return bytes

/-- Put a file at a place, instead of the one that was there. -/
def put (directory : Directory) (place : Place) (bytes : ByteArray) : Directory :=
  if place = nullDevice then directory
  else ⟨(place, bytes) :: directory.contents.filter fun content => content.1 ≠ place⟩

/-- Write a file anew; it need not exist, and nothing else changes. A slash at the end of the path
is refused before the place is looked at. -/
def write (directory : Directory) (path text : String) : Except FileProblem Directory := do
  let path ← Path.ofText path
  let some place ← directory.goal path | throw .isDirectory
  if path.slash then throw .isDirectory
  match ← directory.find place with
  | some .folder => throw .isDirectory
  | _ => return directory.put place text.toUTF8

end Directory

end Gamecode
