/-
Builtins that create, remove and enumerate entities.
-/

import Gamecode.Machine.Native

namespace Gamecode.Builtins

/-- Create an entity and return it. -/
def spawn : Native Unit := do
  let (entity, entities) ← Native.check fun _ machine => machine.entities.spawn
  Native.setEntities entities
  Native.returnReference entity

/-- Free the entity that is the argument. -/
def removeEntity : Native Unit := do
  let entity ← Native.referenceArgument 0
  Native.setEntities (← Native.check fun _ machine => machine.entities.remove entity)

/-- Return the next live entity, and the world after the last one. -/
def nextEntity : Native Unit := do
  let entity ← Native.referenceArgument 0
  let next ← Native.ask fun _ machine => machine.entities.nextLive? entity
  Native.returnReference (next.getD 0)

end Gamecode.Builtins
