/-
The limits and switches under which a program runs.
-/

import Gamecode.Slot

namespace Gamecode

/-- How much a program may use, and how it is treated. -/
structure Configuration where
  /-- The most functions that may be active at a time. -/
  maxDepth : Nat
  /-- Room for the saved windows of active functions. -/
  localStackSize : Nat
  /-- The most statements that one call of the host may execute, if there is such a bound. -/
  runawayLimit : Option Nat
  temporaryStrings : Nat
  maxEntities : Nat
  reservedEntities : Nat
  /-- The time after which a state change lets an entity think again. -/
  stateInterval : Slot
  protectWorld : Bool
deriving Repr, DecidableEq

namespace Configuration

/-- The configuration of a host that asks for nothing else; the interval is a tenth. -/
def standard : Configuration :=
  { maxDepth := 32
    localStackSize := 2048
    runawayLimit := none
    temporaryStrings := 16
    maxEntities := 1024
    reservedEntities := 1
    stateInterval := 0x3dcccccd
    protectWorld := false }

end Configuration

end Gamecode
