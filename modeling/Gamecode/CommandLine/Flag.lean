/-
Flags and operands. Arguments that begin with a hyphen are flags: two hyphens come before the name
of a flag, one before the letters of several. The value of a flag is joined to it, or it is an
argument of its own, which must not begin with a hyphen then. All other arguments are operands, and
so is whatever follows two hyphens that stand alone.
-/

namespace Gamecode.CommandLine

/-- Why arguments are not carried out. -/
inductive Refusal
  | usage
  | help
  | version
deriving Repr, DecidableEq

/-! ### Flags -/

/-- How a flag is used. -/
inductive FlagKind
  /-- Given once at most, without a value. -/
  | switch
  /-- Given any number of times, without a value. -/
  | counter
  /-- Given once at most, with a value. -/
  | setting
  /-- Given any number of times, with a value each time. -/
  | collection
  /-- Answered at once. -/
  | query (answer : Refusal)
deriving Repr, DecidableEq

namespace FlagKind

/-- Whether a flag is given with a value. -/
def takesValue : FlagKind → Bool
  | setting | collection => true
  | switch | counter | query _ => false

/-- Whether a flag may be given more than once. -/
def isRepeatable : FlagKind → Bool
  | counter | collection | query _ => true
  | switch | setting => false

end FlagKind

/-- A flag has a name and may have a letter that stands for it. -/
structure Flag where
  name : String
  letter : Option Char
  kind : FlagKind
  /-- Whether a text can be the value. -/
  accepts : String → Bool

/-- What one level of a command line takes. -/
structure Level where
  flags : List Flag
  /-- Which texts each operand can be. -/
  operands : List (String → Bool)
  /-- The names that end the level and begin the next one. -/
  commands : List String

/-! ### Reading -/

/-- A flag that takes a value waits for it, and its value is checked when the next argument is read.
-/
inductive Waiting
  | nothing
  | awaiting (flag : Flag)
  | unchecked (flag : Flag) (value : String)

/-- What the arguments gave so far. -/
structure Reading where
  /-- Flags by name, with their values; the latest comes last. -/
  given : List (String × String)
  operands : List String
  waiting : Waiting
  /-- Whether two hyphens went before, so that nothing is a flag any more. -/
  literal : Bool

namespace Reading

/-- Nothing was given yet. -/
def start : Reading := ⟨[], [], .nothing, false⟩

/-- Note that a flag was given, with the empty text if it takes no value. -/
def note (reading : Reading) (flag : Flag) (value : String) : Except Refusal Reading :=
  let known := reading.given.any fun entry => entry.1 = flag.name
  if (known && ! flag.kind.isRepeatable) || (flag.kind.takesValue && ! flag.accepts value) then
    .error .usage
  else .ok { reading with given := reading.given ++ [(flag.name, value)] }

/-- Finish the flag that waits. -/
def settle (reading : Reading) : Except Refusal Reading :=
  match reading.waiting with
  | .nothing => .ok reading
  | .awaiting _ => .error .usage
  | .unchecked flag value => { reading with waiting := .nothing }.note flag value

/-- React to a flag, with the value that is joined to it. -/
def takeFlag (reading : Reading) (flag : Flag) (joined : Option String) :
    Except Refusal Reading := do
  if joined.isSome && ! flag.kind.takesValue then throw .usage
  let reading ← reading.settle
  match flag.kind, joined with
  | .query answer, _ => throw answer
  | kind, none =>
    if kind.takesValue then return { reading with waiting := .awaiting flag }
    else reading.note flag ""
  | _, some value => reading.note flag value

/-- Take an argument as the next operand, if the level has one more that it can be. -/
def takeOperand (reading : Reading) (level : Level) (argument : String) :
    Except Refusal Reading := do
  let reading ← reading.settle
  match level.operands[reading.operands.length]? with
  | some accepts =>
    if accepts argument then
      return { reading with operands := reading.operands ++ [argument] }
    else throw .usage
  | none => throw .usage

/-! ### Single arguments -/

/-- A name and what follows the first equality sign. -/
def splitValue (text : List Char) : String × Option String :=
  let name := String.ofList (text.takeWhile (· ≠ '='))
  match text.dropWhile (· ≠ '=') with
  | [] => (name, none)
  | _ :: value => (name, some (String.ofList value))

/-- Take the flag that two hyphens introduce. -/
def takeLong (reading : Reading) (level : Level) (text : List Char) : Except Refusal Reading :=
  let (name, joined) := splitValue text
  match level.flags.find? fun flag => flag.name = name with
  | some flag => reading.takeFlag flag joined
  | none => .error .usage

/-- The value that is joined to a letter; an equality sign between them does not count. -/
def joinedValue : List Char → Option String
  | [] => none
  | '=' :: value => some (String.ofList value)
  | value => some (String.ofList value)

/-- Letters up to the first one whose flag takes a value, which is the rest then. -/
def takeLetters (reading : Reading) (level : Level) : List Char → Except Refusal Reading
  | [] => .ok reading
  | letter :: rest =>
    match level.flags.find? fun flag => flag.letter = some letter with
    | none => .error .usage
    | some flag =>
      if flag.kind.takesValue then reading.takeFlag flag (joinedValue rest)
      else
        match reading.takeFlag flag none with
        | .ok reading => takeLetters reading level rest
        | .error refusal => .error refusal

/-- An argument that begins with no hyphen, or is a hyphen alone: a value or an operand. -/
def takePlain (reading : Reading) (level : Level) (argument : String) :
    Except Refusal Reading :=
  match reading.waiting with
  | .awaiting flag => .ok { reading with waiting := .unchecked flag argument }
  | _ => reading.takeOperand level argument

/-- Take one argument. -/
def take (reading : Reading) (level : Level) (argument : String) : Except Refusal Reading :=
  if reading.literal then reading.takeOperand level argument
  else
    match argument.toList with
    | ['-', '-'] => .ok { reading with literal := true }
    | '-' :: '-' :: text => reading.takeLong level text
    | '-' :: letter :: letters => reading.takeLetters level (letter :: letters)
    | _ => reading.takePlain level argument

/-- Whether an argument begins the next level. -/
def isCommand (reading : Reading) (level : Level) (argument : String) : Bool :=
  let isValue :=
    match reading.waiting with
    | .awaiting _ => true
    | _ => false
  ! reading.literal && ! isValue && level.commands.contains argument

/-- Read the arguments of a level. The result is what they gave, and the command that ends the level
with the arguments behind it, if there is one. -/
def takeAll (level : Level) :
    Reading → List String → Except Refusal (Reading × Option (String × List String))
  | reading, [] => .ok (reading, none)
  | reading, argument :: rest =>
    if reading.isCommand level argument then .ok (reading, some (argument, rest))
    else
      match reading.take level argument with
      | .ok reading => takeAll level reading rest
      | .error refusal => .error refusal

/-! ### Looking up what was given -/

/-- How often a flag was given. -/
def count (reading : Reading) (name : String) : Nat :=
  reading.given.countP fun entry => entry.1 = name

/-- Whether a flag was given at all. -/
def has (reading : Reading) (name : String) : Bool :=
  0 < reading.count name

/-- The values of a flag, in the order in which they were given. -/
def values (reading : Reading) (name : String) : List String :=
  (reading.given.filter fun entry => entry.1 = name).map Prod.snd

/-- The first value of a flag. -/
def value? (reading : Reading) (name : String) : Option String :=
  (reading.values name).head?

end Reading

end Gamecode.CommandLine
