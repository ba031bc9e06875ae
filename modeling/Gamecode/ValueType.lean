/-
The types that a program declares for its globals and fields. A slot carries no type while a program
runs; the declared type says how tools and snapshots read it.
-/

namespace Gamecode

/-- The types that definitions declare. -/
inductive ValueType
  | void
  | string
  | float
  | vector
  | entity
  | field
  | function
  | pointer
  | integer
  | unsigned
  | longInteger
  | longUnsigned
  | double
deriving Repr, DecidableEq

namespace ValueType

/-- Every type, in the order of the tags. -/
def all : List ValueType :=
  [void, string, float, vector, entity, field, function, pointer, integer, unsigned, longInteger,
    longUnsigned, double]

/-- The number that stands for a type in a definition. -/
def tag : ValueType → Nat
  | void => 0
  | string => 1
  | float => 2
  | vector => 3
  | entity => 4
  | field => 5
  | function => 6
  | pointer => 7
  | integer => 8
  | unsigned => 9
  | longInteger => 10
  | longUnsigned => 11
  | double => 12

/-- The type of a tag, if the tag is known. -/
def ofTag? (tag : Nat) : Option ValueType :=
  all[tag]?

/-- Every type is found by its tag. -/
theorem ofTag?_tag (type : ValueType) : ofTag? type.tag = some type := by
  cases type <;> rfl

/-- A tag belongs to one type at most. -/
theorem ofTag?_eq_some_iff {tag : Nat} {type : ValueType} :
    ofTag? tag = some type ↔ type.tag = tag := by
  constructor
  · intro found
    match tag with
    | 0 | 1 | 2 | 3 | 4 | 5 | 6 | 7 | 8 | 9 | 10 | 11 | 12 => cases found; rfl
    | beyond + 13 => simp [ofTag?, all] at found
  · rintro rfl
    exact ofTag?_tag type

/-- How many slots a value of the type takes. -/
def width : ValueType → Nat
  | vector => 3
  | longInteger | longUnsigned | double => 2
  | _ => 1

/-- Every type takes a slot. -/
theorem width_pos (type : ValueType) : 0 < type.width := by
  cases type <;> decide

/-- No type takes more slots than a vector. -/
theorem width_le (type : ValueType) : type.width ≤ 3 := by
  cases type <;> decide

/-- The name that program sources use. -/
def name : ValueType → String
  | void => "void"
  | string => "string"
  | float => "float"
  | vector => "vector"
  | entity => "entity"
  | field => "field"
  | function => "function"
  | pointer => "pointer"
  | integer => "int"
  | unsigned => "uint"
  | longInteger => "int64"
  | longUnsigned => "uint64"
  | double => "double"

/-- The name that structured texts use. -/
def key : ValueType → String
  | integer => "integer"
  | unsigned => "uinteger"
  | type => type.name

end ValueType

end Gamecode
