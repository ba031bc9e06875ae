/-
The console that printing builtins write to. It keeps every text exactly as it was printed until the
host takes it. A host without a console writes each text to its log instead, as one line.
-/

import Gamecode.Text.Lines

namespace Gamecode

/-- The console holds what was printed and not taken yet. -/
structure Console where
  contents : String
deriving Repr, DecidableEq

namespace Console

/-- Nothing was printed yet. -/
def empty : Console := ⟨""⟩

/-- Add a text behind all others. -/
def print (console : Console) (text : String) : Console :=
  ⟨console.contents ++ text⟩

/-- What was printed, line by line. -/
def lines (console : Console) : List String :=
  Text.lines console.contents

/-- Everything printed so far, and the emptied console. -/
def take (console : Console) : String × Console :=
  (console.contents, empty)

/-- The line of the log that stands for a printed text. -/
def logLine (text : String) : String :=
  Text.withoutFinalFeeds text

end Console

end Gamecode
