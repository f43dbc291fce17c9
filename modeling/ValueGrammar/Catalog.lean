import ValueGrammar.Descriptor

/-! The catalog of basic data types and their primitive kinds. It is built from
the names of all data types and the names of those with a syntax of their own,
which are composite and stay out of it. -/
namespace ValueGrammar

/-- The basic data types in the order of the names they were built from, each
once. -/
structure Catalog where
  entries : List (String × Primitive)
deriving DecidableEq, Repr

namespace Catalog

/-- Data types that every catalog is asked to hold. -/
def extraNames : List String := ["hex-color"]

/-- The data types that are known without any table. -/
def builtinNames : List String := ["number", "integer", "length"]

/-- The kind of a name. Numbers and lengths are primitive even if they have a
syntax; other names with a syntax have no kind, and the rest are text. -/
def classify (syntaxes : List String) (name : String) : Option Primitive :=
  if name = "number" ∨ name = "integer" then some .number
  else if name = "length" then some .length
  else if syntaxes.contains name then none
  else some .string

/-- The primitive kind of a name in the catalog. -/
def get? (catalog : Catalog) (name : String) : Option Primitive := catalog.entries.lookup name

def contains (catalog : Catalog) (name : String) : Bool := (catalog.get? name).isSome

/-- Adds a name at the end if it has a kind and is not in the catalog yet. -/
def add (syntaxes : List String) (catalog : Catalog) (name : String) : Catalog :=
  match classify syntaxes name with
  | none => catalog
  | some kind => if catalog.contains name then catalog else ⟨catalog.entries ++ [(name, kind)]⟩

/-- The catalog of these types, of which the second list has a syntax. -/
def build (types syntaxes : List String) : Catalog :=
  (types ++ extraNames).foldl (add syntaxes) ⟨[]⟩

/-- The catalog of the types that are known without any table. -/
def builtin : Catalog := build builtinNames []

def size (catalog : Catalog) : Nat := catalog.entries.length

def isEmpty (catalog : Catalog) : Bool := catalog.entries.isEmpty

end Catalog
end ValueGrammar
