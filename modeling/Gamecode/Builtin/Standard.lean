/-
The builtins that most programs expect. A program gives each of them a number of its own, and there
are classic numbers for hosts that do not go by the program.
-/

import Gamecode.Builtin.Entities
import Gamecode.Builtin.Report
import Gamecode.Builtin.Texts

namespace Gamecode.Builtins

/-- Every standard builtin under its name and classic number. -/
def standard : List Builtin :=
  [⟨10, "error", raiseError⟩,
    ⟨11, "objerror", raiseObjectError⟩,
    ⟨14, "spawn", spawn⟩,
    ⟨15, "remove", removeEntity⟩,
    ⟨25, "dprint", printText⟩,
    ⟨26, "ftos", floatToText⟩,
    ⟨27, "vtos", vectorToText⟩,
    ⟨29, "traceon", setTracing true⟩,
    ⟨30, "traceoff", setTracing false⟩,
    ⟨31, "eprint", printEntity⟩,
    ⟨47, "nextent", nextEntity⟩,
    ⟨65, "etos", entityToText⟩,
    ⟨81, "stof", textToFloat⟩,
    ⟨115, "strcat", concatenate⟩]

/-- The standard builtins that a program declares, under its own numbers. -/
def declared (program : Program) : List Builtin :=
  standard.filterMap fun builtin =>
    match BuiltinTable.declaredNumber program builtin.name with
    | .ok number => some { builtin with number }
    | .error _ => none

/-- Register builtins in order; of two with one number the later one stays. -/
def registerAll (builtins : List Builtin) (table : BuiltinTable) : BuiltinTable :=
  builtins.foldl BuiltinTable.register table

/-- Offer the standard builtins that a program declares. -/
def install (program : Program) (table : BuiltinTable) : BuiltinTable :=
  registerAll (declared program) table

/-- Offer every standard builtin under its classic number. -/
def installClassic (table : BuiltinTable) : BuiltinTable :=
  registerAll standard table

end Gamecode.Builtins
