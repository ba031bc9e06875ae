/-
Configurations as structured texts. A text gives any of the settings, by name or in their order, and
the others keep their standard values. Settings of other names are ignored, but none may be given
twice.
-/

import Gamecode.Configuration
import Gamecode.Json.Document
import Gamecode.Json.Reader

namespace Gamecode.Configuration

open Json

/-- The settings by name, in their order. -/
def document (configuration : Configuration) : Document :=
  let natural (value : Nat) : Document := .integer value
  .object
    [("max_depth", natural configuration.maxDepth),
      ("local_stack_size", natural configuration.localStackSize),
      ("runaway_limit", (configuration.runawayLimit.map natural).getD .null),
      ("temp_strings", natural configuration.temporaryStrings),
      ("max_entities", natural configuration.maxEntities),
      ("reserved_entities", natural configuration.reservedEntities),
      ("state_interval", .float configuration.stateInterval),
      ("protect_world", .bool configuration.protectWorld)]

/-! ### Reading -/

/-- A setting has a name and takes its value from a node. -/
structure Setting where
  name : String
  set? : Configuration → Node → Option Configuration

/-- No limit is written as null. -/
def limit? : Node → Option (Option Nat)
  | .null => some none
  | node => node.natural?.map some

/-- All settings, in their order. -/
def settings : List Setting :=
  [⟨"max_depth", fun configuration node =>
      node.natural?.map fun value => { configuration with maxDepth := value }⟩,
    ⟨"local_stack_size", fun configuration node =>
      node.natural?.map fun value => { configuration with localStackSize := value }⟩,
    ⟨"runaway_limit", fun configuration node =>
      (limit? node).map fun value => { configuration with runawayLimit := value }⟩,
    ⟨"temp_strings", fun configuration node =>
      node.natural?.map fun value => { configuration with temporaryStrings := value }⟩,
    ⟨"max_entities", fun configuration node =>
      node.natural?.map fun value => { configuration with maxEntities := value }⟩,
    ⟨"reserved_entities", fun configuration node =>
      node.natural?.map fun value => { configuration with reservedEntities := value }⟩,
    ⟨"state_interval", fun configuration node =>
      node.slot?.map fun value => { configuration with stateInterval := value }⟩,
    ⟨"protect_world", fun configuration node =>
      node.bool?.map fun value => { configuration with protectWorld := value }⟩]

/-- Settings by name. The names that were given already are refused. -/
def setMembers? (configuration : Configuration) (given : List String) :
    List (Option String × Node) → Option Configuration
  | [] => some configuration
  | (none, _) :: _ => none
  | (some key, node) :: rest =>
    match settings.find? fun setting => setting.name = key with
    | none => setMembers? configuration given rest
    | some setting =>
      if given.contains key then none
      else
        match setting.set? configuration node with
        | none => none
        | some changed => setMembers? changed (key :: given) rest

/-- Settings in their order, from the first one on. -/
def setElements? (configuration : Configuration) :
    List Setting → List Node → Option Configuration
  | _, [] => some configuration
  | [], _ :: _ => none
  | setting :: settings, node :: rest =>
    match setting.set? configuration node with
    | none => none
    | some changed => setElements? changed settings rest

/-- A configuration from a record or from a list of values. -/
def ofNode? : Node → Option Configuration
  | .object members => setMembers? standard [] members
  | .array elements => setElements? standard settings elements
  | _ => none

/-- A configuration from a structured text. -/
def ofText? (text : String) : Option Configuration :=
  (Reader.read? text).bind ofNode?

end Gamecode.Configuration
