import ValueGrammar.Entity
import ValueGrammar.Text.Quoted

/-! The outline of a sequence: one line per entity, in order, and the entities
of a group indented below it. -/
namespace ValueGrammar.Entity
open Text

/-- The multiplier behind a space, if there is one. -/
def multiplierSuffix : Option Multiplier → String
  | none => ""
  | some multiplier => " " ++ multiplier.text

/-- The indentation at a depth: two spaces for each group around. -/
def indentation (depth : Nat) : String := String.ofList (List.replicate (2 * depth) ' ')

/-- What the line of an entity says, after its indentation. -/
def heading : Entity → String
  | keyword value multiplier => "Keyword " ++ quote value ++ multiplierSuffix multiplier
  | dataType value multiplier => "DataType " ++ value ++ multiplierSuffix multiplier
  | group _ multiplier => "Group" ++ multiplierSuffix multiplier
  | combinator kind => kind.name
  | function name => "Function " ++ name ++ "()"

/-- The line of an entity at a depth. -/
def outlineLine (depth : Nat) (entity : Entity) : String := indentation depth ++ heading entity

mutual

/-- The lines of an entity and of everything inside it. -/
def outlineLinesAt (depth : Nat) : Entity → List String
  | group entities multiplier =>
    outlineLine depth (group entities multiplier) :: sequenceLinesAt (depth + 1) entities
  | entity => [outlineLine depth entity]

/-- The lines of a sequence. -/
def sequenceLinesAt (depth : Nat) : List Entity → List String
  | [] => []
  | entity :: rest => outlineLinesAt depth entity ++ sequenceLinesAt depth rest

end

/-- The outline of a whole sequence; every line is ended by a line feed. -/
def outline (entities : List Entity) : String :=
  String.join ((sequenceLinesAt 0 entities).map (· ++ "\n"))

end ValueGrammar.Entity
