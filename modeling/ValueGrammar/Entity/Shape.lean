import ValueGrammar.Entity

/-! The shape of a sequence, checked at every depth: terms and combinators take
turns, the combinators are of one kind, and a term comes last. -/
namespace ValueGrammar.Entity

/-- What is wrong with the shape of a sequence. -/
inductive Malformation where
  /-- A combinator where a term is due, or a term where a combinator is. -/
  | outOfTurn (index : Nat) (entity : Entity)
  | mixed (first other : Combinator)
  /-- The sequence ends with a combinator. -/
  | unfinished
deriving DecidableEq, Repr

/-- The first combinator that is not of the kind of those before it. -/
def mixture? (entities : List Entity) : Option Malformation :=
  match entities.filterMap combinator? with
  | [] => none
  | first :: others => (others.find? (· ≠ first)).map (.mixed first)

def unfinished? (entities : List Entity) : Option Malformation :=
  if entities.getLast?.any isCombinator then some .unfinished else none

mutual

/-- What is wrong inside an entity; only groups have an inside. -/
def inner? : Entity → Option Malformation
  | .group entities _ => malformationFrom? [] entities
  | .keyword .. | .dataType .. | .combinator _ | .function _ => none

/-- The first entity that is out of turn or malformed inside, given the entities
before, the nearest first. The combinators are compared once all are in turn. -/
def malformationFrom? (before : List Entity) : List Entity → Option Malformation
  | [] => (mixture? before.reverse).or (unfinished? before.reverse)
  | entity :: rest =>
    if entity.isCombinator = (before.length % 2 == 1) then
      (inner? entity).or (malformationFrom? (entity :: before) rest)
    else some (.outOfTurn before.length entity)

end

/-- What is wrong with the shape of a sequence, if anything is. -/
def malformation? (entities : List Entity) : Option Malformation := malformationFrom? [] entities

end ValueGrammar.Entity
