import ValueGrammar.Proofs.TypeSet
import ValueGrammar.Typing

/-! The descriptors of a sequence as one flat list. Every entity contributes to
it where it stands, a group all that its own members contribute, and nothing is
left out for having come before. The descriptors of the sequence are the first
occurrences in this list. -/
namespace ValueGrammar.Contributions
open Entity Typing TypeSet

/-- Whether a combinator that asks for all of its terms stands at this place. -/
def mandatoryAt (entities : List Entity) (index : Nat) : Bool :=
  (entities[index]?.bind combinator?).any Combinator.isMandatory

/-- Whether a component that may be left out stands at this place. -/
def optionalAt (entities : List Entity) (index : Nat) : Bool :=
  (entities[index]?.bind multiplier?).any isOptional

/-- Whether the component at this place counts. The combinator behind it is
asked first, and then the one in front of it; a combinator that asks for all of
its terms lets a component count only if the term on its other side is a
component that may be left out. -/
def included (entities : List Entity) (index : Nat) : Bool :=
  if mandatoryAt entities (index + 1) then optionalAt entities (index + 2)
  else if 1 ≤ index ∧ mandatoryAt entities (index - 1) then
    2 ≤ index ∧ optionalAt entities (index - 2)
  else true

mutual

/-- What an entity contributes; a component contributes only if it counts. -/
def contribution (catalog : Catalog) (counted : Bool) : Entity → List Descriptor
  | .keyword value _ => if counted then [keywordType value] else []
  | .dataType value _ => if counted then [dataTypeType catalog value] else []
  | .group entities multiplier =>
    if counted then
      (if multiplier.any isCollapsing then [.string] else []) ++
        contributionsFrom catalog entities 0 entities
    else []
  | .combinator .singleBar => []
  | .combinator _ => [.string]
  | .function _ => [.string]

/-- What the entities of a sequence contribute from this place on. -/
def contributionsFrom (catalog : Catalog) (whole : List Entity) (index : Nat) :
    List Entity → List Descriptor
  | [] => []
  | entity :: rest =>
    contribution catalog (included whole index) entity ++
      contributionsFrom catalog whole (index + 1) rest

end

/-- What a sequence contributes. -/
def contributions (catalog : Catalog) (entities : List Entity) : List Descriptor :=
  contributionsFrom catalog entities 0 entities

/-- Numbers are the same when their bit patterns are; all other descriptors are
compared as they stand. -/
def identical : Descriptor → Descriptor → Bool
  | .numericLiteral x, .numericLiteral y => x.toBits == y.toBits
  | left, right => left == right

private theorem not_mandatory (entities : List Entity)
    (other : ∀ kind rest, entities = combinator kind :: rest → False) :
    mandatoryAt entities 0 = false := by
  cases entities with
  | nil => rfl
  | cons entity rest =>
    cases entity with
    | combinator kind => exact (other kind rest rfl).elim
    | keyword | dataType | group | function => rfl

private theorem starts_optional (entities : List Entity) :
    startsOptional entities = optionalAt entities 0 := by
  cases entities <;> rfl

/-- The two neighbours decide, the one behind first. -/
theorem counts_eq (before after : List Entity) :
    counts before after =
      if mandatoryAt after 0 then optionalAt after 1
      else if mandatoryAt before 0 then optionalAt before 1
      else true := by
  unfold counts
  split
  · simp only [starts_optional]
    rfl
  · rename_i other
    rw [not_mandatory before other]
    simp only [starts_optional]
    rfl
  · rename_i other
    rw [not_mandatory after other]
    simp only [starts_optional]
    rfl
  · rename_i other
    rw [not_mandatory after, not_mandatory before]
    · rfl
    · assumption
    · assumption

private theorem place_after (before : List Entity) (entity : Entity) (after : List Entity)
    (index : Nat) :
    (before.reverse ++ entity :: after)[before.length + (index + 1)]? = after[index]? := by
  rw [List.getElem?_append_right (by rw [List.length_reverse]; omega), List.length_reverse,
    Nat.add_sub_cancel_left, List.getElem?_cons_succ]

private theorem place_before (before rest : List Entity) (index : Nat)
    (inside : index < before.length) :
    (before.reverse ++ rest)[before.length - (index + 1)]? = before[index]? := by
  rw [List.getElem?_append_left (by rw [List.length_reverse]; omega),
    List.getElem?_reverse (by omega)]
  congr 1
  omega

/-- An entity counts by its neighbours exactly if it does by its place. -/
theorem counts_included (before : List Entity) (entity : Entity) (after : List Entity) :
    counts before after = included (before.reverse ++ entity :: after) before.length := by
  have next : mandatoryAt (before.reverse ++ entity :: after) (before.length + 1) =
      mandatoryAt after 0 := by
    rw [mandatoryAt, place_after, mandatoryAt]
  have afterNext : optionalAt (before.reverse ++ entity :: after) (before.length + 2) =
      optionalAt after 1 := by
    rw [optionalAt, place_after before entity after 1, optionalAt]
  rw [counts_eq, included, next, afterNext]
  match before with
  | [] => rfl
  | [previous] =>
    have known := place_before [previous] (entity :: after) 0 (by simp)
    have first : mandatoryAt ([previous].reverse ++ entity :: after) ([previous].length - 1) =
        mandatoryAt [previous] 0 := by
      rw [mandatoryAt, known, mandatoryAt]
    rw [first]
    simp [optionalAt]
  | previous :: earlier :: before =>
    have known := place_before (previous :: earlier :: before) (entity :: after)
    have first : mandatoryAt ((previous :: earlier :: before).reverse ++ entity :: after)
        ((previous :: earlier :: before).length - 1) =
        mandatoryAt (previous :: earlier :: before) 0 := by
      rw [mandatoryAt, known 0 (by simp), mandatoryAt]
    have second : optionalAt ((previous :: earlier :: before).reverse ++ entity :: after)
        ((previous :: earlier :: before).length - 2) =
        optionalAt (previous :: earlier :: before) 1 := by
      rw [optionalAt, known 1 (by simp), optionalAt]
    rw [first, second]
    simp

theorem holds_repetition {set : TypeSet} {types : List Descriptor} (holds : Holds set types)
    (multiplier : Option Multiplier) :
    Holds (addRepetition set multiplier)
      (types ++ if multiplier.any isCollapsing then [.string] else []) := by
  rw [addRepetition]
  split
  · exact holds_add holds .string
  · rw [List.append_nil]
    exact holds

theorem holds_combinator {set : TypeSet} {types : List Descriptor} (holds : Holds set types)
    (catalog : Catalog) (counted : Bool) (kind : Combinator) :
    Holds (addCombinator set kind) (types ++ contribution catalog counted (combinator kind)) := by
  cases kind with
  | juxtaposition | doubleAmpersand | doubleBar =>
    simpa only [addCombinator, contribution] using holds_add holds .string
  | singleBar => simpa only [addCombinator, contribution, List.append_nil] using holds

mutual

/-- Typing an entity gives the set what the entity contributes. -/
theorem holds_entity (catalog : Catalog) (entity : Entity) (before after : List Entity)
    {set : TypeSet} {types : List Descriptor} (holds : Holds set types) :
    Holds (addEntity catalog before after set entity)
      (types ++ contribution catalog (counts before after) entity) := by
  match entity with
  | .keyword value multiplier =>
    rw [addEntity, contribution]
    split
    · exact holds_add holds (keywordType value)
    · rw [List.append_nil]
      exact holds
  | .dataType value multiplier =>
    rw [addEntity, contribution]
    split
    · exact holds_add holds (dataTypeType catalog value)
    · rw [List.append_nil]
      exact holds
  | .group entities multiplier =>
    rw [addEntity, contribution]
    split
    · have members := holds_sequence catalog entities [] holds_empty
      rw [← List.append_assoc]
      exact holds_merge (holds_repetition holds multiplier) members
    · rw [List.append_nil]
      exact holds
  | .combinator kind =>
    rw [addEntity]
    exact holds_combinator holds catalog _ kind
  | .function name =>
    rw [addEntity, contribution]
    exact holds_add holds .string

/-- Typing what is left of a sequence gives the set what its entities contribute. -/
theorem holds_sequence (catalog : Catalog) (entities before : List Entity)
    {set : TypeSet} {types : List Descriptor} (holds : Holds set types) :
    Holds (addSequence catalog before set entities)
      (types ++ contributionsFrom catalog (before.reverse ++ entities) before.length entities) := by
  match entities with
  | [] =>
    rw [addSequence, contributionsFrom, List.append_nil]
    exact holds
  | entity :: rest =>
    have first := holds_entity catalog entity before rest holds
    have others := holds_sequence catalog rest (entity :: before) first
    rw [addSequence, contributionsFrom, ← counts_included, ← List.append_assoc]
    simpa using others

end

/-- The set of a sequence has been given its contributions in order. -/
theorem holds_contributions (catalog : Catalog) (entities : List Entity) :
    Holds (typeEntities catalog entities) (contributions catalog entities) := by
  simpa [typeEntities, contributions] using holds_sequence catalog entities [] holds_empty

theorem identical_iff (left right : Descriptor) :
    identical left right = true ↔ left = right := by
  unfold identical
  split
  · rw [beq_iff_eq, Descriptor.numericLiteral.injEq]
    exact ⟨Binary64.toBits_injective, congrArg Binary64.toBits⟩
  · exact beq_iff_eq

/-- A sequence has the descriptors that its entities contribute, each where it
comes first. The sets of its groups, and the order in which they are merged,
leave no trace. -/
theorem types_are_first_contributions (catalog : Catalog) (entities : List Entity) :
    (typeEntities catalog entities).toList =
      (contributions catalog entities).eraseDupsBy identical := by
  have same : identical = fun left right => left == right := by
    funext left right
    rw [Bool.eq_iff_iff, identical_iff, beq_iff_eq]
  rw [same]
  exact (holds_contributions catalog entities).listed

end ValueGrammar.Contributions
