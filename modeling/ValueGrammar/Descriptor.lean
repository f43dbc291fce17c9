import ValueGrammar.Json.Literal
import ValueGrammar.Json
import ValueGrammar.Numeral

/-! Descriptors name the kinds of value that a value definition accepts, one
kind each. -/
namespace ValueGrammar
open Text

/-- A parameter of a named type. -/
structure Generic where
  name : String
  default : Option String := none
deriving DecidableEq, Repr

/-- The primitive kind of a basic data type. -/
inductive Primitive where
  | number
  | length
  | string
deriving DecidableEq, Repr

inductive Descriptor where
  /-- Any text. -/
  | string
  /-- Any number. -/
  | number
  /-- Any length. -/
  | length
  /-- One keyword. -/
  | stringLiteral (literal : String)
  /-- One number; numbers are told apart by their bits. -/
  | numericLiteral (literal : Binary64)
  /-- A data type that has a definition of its own. -/
  | dataType (name : String)
  /-- A named type with its parameters. -/
  | named (name : String) (generics : List Generic)
deriving DecidableEq, Repr

/-- The name of a primitive kind. -/
def Primitive.name : Primitive → String
  | number => "Number"
  | length => "Length"
  | string => "String"

/-- The descriptor of every value of a primitive kind. -/
def Primitive.descriptor : Primitive → Descriptor
  | number => .number
  | length => .length
  | string => .string

/-- The parameter with its default behind an equals sign. -/
def Generic.text (generic : Generic) : String :=
  match generic.default with
  | none => generic.name
  | some value => generic.name ++ " = " ++ value

namespace Descriptor

/-- Whether the descriptor stands for a whole primitive kind. -/
def isPrimitive : Descriptor → Bool
  | string | number | length => true
  | _ => false

/-- The descriptor as it is shown: keywords in quotes, data types in angle
brackets. -/
def text : Descriptor → String
  | string => "string"
  | number => "number"
  | length => "length"
  | stringLiteral literal => quote literal
  | numericLiteral literal => Numeral.text literal
  | dataType name => "<" ++ name ++ ">"
  | named name [] => name
  | named name generics =>
    name ++ "<" ++ Json.separated ", " (generics.map Generic.text) ++ ">"

/-- A text as a JSON string. -/
private def jsonText (text : String) : Json := .string (Json.Literal.escape text)

/-- JSON has no numbers that are not finite; those are written as text. -/
def numberJson (x : Binary64) : Json :=
  if x.isFinite then .number (Numeral.fractionalText x) else jsonText (Numeral.text x)

/-- The parameter as a JSON object. -/
def genericJson (generic : Generic) : Json :=
  .object [("name", jsonText generic.name),
    ("default", match generic.default with | none => .null | some value => jsonText value)]

/-- The descriptor as a JSON object, whose first member tells the kind. -/
def json : Descriptor → Json
  | string => .object [("type", .string "String")]
  | number => .object [("type", .string "Number")]
  | length => .object [("type", .string "Length")]
  | stringLiteral literal =>
    .object [("type", .string "StringLiteral"), ("literal", jsonText literal)]
  | numericLiteral literal =>
    .object [("type", .string "NumericLiteral"), ("literal", numberJson literal)]
  | dataType name => .object [("type", .string "DataType"), ("name", jsonText name)]
  | named name generics =>
    .object [("type", .string "Alias"), ("name", jsonText name),
      ("generics", .array (generics.map genericJson))]

end Descriptor
end ValueGrammar
