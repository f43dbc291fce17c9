import Std.Data.TreeSet
import ValueGrammar.Binary64.Order
import ValueGrammar.Descriptor

/-! Sets of descriptors that keep the order in which their members first came
in. Primitive kinds are looked up by a flag each, literals and data types in a
search tree each, and named types among the members. -/
namespace ValueGrammar

structure TypeSet where
  /-- The members, in the order in which they came in. -/
  types : Array Descriptor := #[]
  hasString : Bool := false
  hasNumber : Bool := false
  hasLength : Bool := false
  stringLiterals : Std.TreeSet String := {}
  numericLiterals : Std.TreeSet Binary64 := {}
  dataTypes : Std.TreeSet String := {}

namespace TypeSet

/-- The set without members. -/
def empty : TypeSet := {}

/-- Whether the set has the member. -/
def contains (set : TypeSet) : Descriptor → Bool
  | .string => set.hasString
  | .number => set.hasNumber
  | .length => set.hasLength
  | .stringLiteral literal => set.stringLiterals.contains literal
  | .numericLiteral literal => set.numericLiterals.contains literal
  | .dataType name => set.dataTypes.contains name
  | .named name generics => set.types.contains (.named name generics)

/-- Notes that the descriptor is a member now. -/
def remember (set : TypeSet) : Descriptor → TypeSet
  | .string => { set with hasString := true }
  | .number => { set with hasNumber := true }
  | .length => { set with hasLength := true }
  | .stringLiteral literal => { set with stringLiterals := set.stringLiterals.insert literal }
  | .numericLiteral literal => { set with numericLiterals := set.numericLiterals.insert literal }
  | .dataType name => { set with dataTypes := set.dataTypes.insert name }
  | .named .. => set

/-- Adds the descriptor at the end unless it is a member already, and tells
whether it was added. -/
def insert (set : TypeSet) (type : Descriptor) : Bool × TypeSet :=
  if set.contains type then (false, set)
  else (true, { set.remember type with types := set.types.push type })

/-- The set with one more member. -/
def add (set : TypeSet) (type : Descriptor) : TypeSet := (set.insert type).2

/-- The set with these members too, in their order. -/
def extend (set : TypeSet) (types : List Descriptor) : TypeSet := types.foldl add set

/-- The set of these members, each where it comes first. -/
def ofList (types : List Descriptor) : TypeSet := empty.extend types

/-- The members in order. -/
def toList (set : TypeSet) : List Descriptor := set.types.toList

/-- The members of the first set, and then those that only the second one has. -/
def merge (left right : TypeSet) : TypeSet := left.extend right.toList

/-- The number of members. -/
def size (set : TypeSet) : Nat := set.types.size

def isEmpty (set : TypeSet) : Bool := set.types.isEmpty

end TypeSet
end ValueGrammar
