/-! The combinators that join the terms of a sequence, with their written
forms and their order of binding strength. -/
namespace ValueGrammar

/-- How two adjacent terms relate. -/
inductive Combinator where
  /-- All terms, in order. -/
  | juxtaposition
  /-- All terms, in any order. -/
  | doubleAmpersand
  /-- One or more terms, in any order. -/
  | doubleBar
  /-- Exactly one term. -/
  | singleBar
deriving DecidableEq, Repr, Inhabited

namespace Combinator

/-- Juxtaposition and `&&` ask for every one of their terms. -/
def isMandatory : Combinator → Bool
  | juxtaposition | doubleAmpersand => true
  | doubleBar | singleBar => false

/-- The written form; juxtaposition is written as a space. -/
def text : Combinator → String
  | juxtaposition => " "
  | doubleAmpersand => "&&"
  | doubleBar => "||"
  | singleBar => "|"

/-- The name that an outline and the JSON form use. -/
def name : Combinator → String
  | juxtaposition => "Juxtaposition"
  | doubleAmpersand => "DoubleAmpersand"
  | doubleBar => "DoubleBar"
  | singleBar => "SingleBar"

/-- All combinators, the loosest first: `|`, then `||`, then `&&`, and
juxtaposition binds tightest. -/
def loosestFirst : List Combinator := [singleBar, doubleBar, doubleAmpersand, juxtaposition]

/-- The combinator of a given name. -/
def ofName? (name : String) : Option Combinator :=
  loosestFirst.find? fun combinator => combinator.name == name

end Combinator

end ValueGrammar
