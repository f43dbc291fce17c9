import ValueGrammar.Catalog
import ValueGrammar.Entity.OfTokens
import ValueGrammar.TypeSet

/-! The descriptors that a sequence accepts. A value that no single literal or
data type describes, such as several terms together or a repeated group, is
described as text. -/
namespace ValueGrammar.Typing

/-- Whether a component with this multiplier may be left out, as far as its
neighbours are concerned; a curly range counts if it starts above zero. -/
def isOptional : Multiplier → Bool
  | .asterisk | .questionMark => true
  | .plusSign | .hashMark | .exclamationPoint => false
  | .range min _ => 0 < min

/-- Whether a group with this multiplier writes several values in a row. -/
def isCollapsing : Multiplier → Bool
  | .asterisk | .plusSign | .hashMark | .exclamationPoint => true
  | .questionMark => false
  | .range min max => 1 < min || max = some 1

/-- Whether the first entity is a component that may be left out. -/
def startsOptional : List Entity → Bool
  | [] => false
  | entity :: _ => entity.multiplier?.any isOptional

/-- Whether a component counts on its own, given the entities before it, the
nearest first, and those after it. Next to a combinator that asks for all its
terms it counts only if the term on the other side may be left out; the
combinator after it decides before the one in front of it. -/
def counts (before after : List Entity) : Bool :=
  match after, before with
  | .combinator next :: rest, .combinator previous :: earlier =>
    if next.isMandatory then startsOptional rest
    else if previous.isMandatory then startsOptional earlier
    else true
  | .combinator next :: rest, _ => if next.isMandatory then startsOptional rest else true
  | _, .combinator previous :: earlier =>
    if previous.isMandatory then startsOptional earlier else true
  | _, _ => true

/-- A keyword that is a canonical numeral stands for its number, and every other
one for itself. -/
def keywordType (value : String) : Descriptor :=
  match Numeral.canonical? value with
  | some number => .numericLiteral number
  | none => .stringLiteral value

/-- The name between angle brackets; a text that does not have both is a name
as it is. -/
def dataTypeName (value : String) : String :=
  match value.toList with
  | '<' :: inner => if inner.getLast? = some '>' then String.ofList inner.dropLast else value
  | _ => value

/-- A data type in the catalog has its primitive kind. A reference to a property,
which starts with a quote, is described as text. -/
def dataTypeType (catalog : Catalog) (value : String) : Descriptor :=
  let name := dataTypeName value
  match name.toList with
  | '\x27' :: _ => .string
  | _ =>
    match catalog.get? name with
    | some kind => kind.descriptor
    | none => .dataType name

/-- The descriptor that a combinator adds. -/
def addCombinator (set : TypeSet) : Combinator → TypeSet
  | .juxtaposition | .doubleAmpersand | .doubleBar => set.add .string
  | .singleBar => set

/-- What a group adds before its own members. -/
def addRepetition (set : TypeSet) (multiplier : Option Multiplier) : TypeSet :=
  if multiplier.any isCollapsing then set.add .string else set

mutual

/-- Adds what one entity accepts, given its neighbours on both sides. -/
def addEntity (catalog : Catalog) (before after : List Entity) (set : TypeSet) :
    Entity → TypeSet
  | .keyword value _ => if counts before after then set.add (keywordType value) else set
  | .dataType value _ =>
    if counts before after then set.add (dataTypeType catalog value) else set
  | .group entities multiplier =>
    if counts before after then
      (addRepetition set multiplier).merge (addSequence catalog [] .empty entities)
    else set
  | .combinator kind => addCombinator set kind
  | .function _ => set.add .string

/-- Adds what a sequence accepts, given the entities before it, the nearest
first. -/
def addSequence (catalog : Catalog) (before : List Entity) (set : TypeSet) :
    List Entity → TypeSet
  | [] => set
  | entity :: rest =>
    addSequence catalog (entity :: before) (addEntity catalog before rest set entity) rest

end

/-- The descriptors of a sequence. -/
def typeEntities (catalog : Catalog) (entities : List Entity) : TypeSet :=
  addSequence catalog [] .empty entities

/-- The descriptors of a value definition. -/
def typeSource (catalog : Catalog) (source : String) : Except ParseError TypeSet :=
  (Entity.parse source).map (typeEntities catalog)

/-- The sentence for a value definition that cannot be typed. -/
def errorMessage (error : ParseError) : String := "syntax parsing failed: " ++ error.message

end ValueGrammar.Typing
