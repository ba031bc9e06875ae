/-
Hosts: what the command line runs on. A host has files, lines of input, two texts that it shows, and
a log. A desk is a host that is held in memory.
-/

import Gamecode.Files.Directory

namespace Gamecode

/-- What a run of the command line needs of its surroundings. -/
class Host (m : Type → Type) extends Files m where
  /-- The next line of the input, without its end; none after the last line. -/
  nextLine : m (Option String)
  /-- Show a result. -/
  print : (text : String) → m Unit
  /-- Show what is no result: problems and tables about a run. -/
  warn : (text : String) → m Unit
  log : (line : String) → m Unit

/-- A host in memory: its files, the lines still to be read, and all that was shown so far. -/
structure Desk where
  directory : Directory
  input : List String
  printed : String
  warned : String
  logged : List String

namespace Desk

/-- A desk on which nothing has happened yet. -/
def prepare (files : List (String × ByteArray)) (input : List String) : Desk :=
  ⟨.ofFiles files, input, "", "", []⟩

instance : Host (StateM Desk) where
  read path := do return ((← get).directory.read path).mapError FileProblem.message
  write path text := do
    match (← get).directory.write path text with
    | .ok directory =>
      modify fun desk => { desk with directory }
      return .ok ()
    | .error problem => return .error problem.message
  nextLine := do
    let desk ← get
    set { desk with input := desk.input.tail }
    return desk.input.head?
  print text := modify fun desk => { desk with printed := desk.printed ++ text }
  warn text := modify fun desk => { desk with warned := desk.warned ++ text }
  log line := modify fun desk => { desk with logged := desk.logged ++ [line] }

end Desk

end Gamecode
