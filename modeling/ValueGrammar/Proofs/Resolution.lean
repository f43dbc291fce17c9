import Mathlib.Data.List.Basic
import ValueGrammar.Proofs.Contributions

/-! Data types can be resolved late. The descriptors found with a small catalog
become those of a larger one when every data type that the larger one knows is
put into its primitive kind, and what is then listed twice is listed once. -/
namespace ValueGrammar.Resolution
open Entity Typing Contributions FirstOccurrences

variable {small large : Catalog}

/-- The second catalog knows every name that the first one does, and as the same
kind. -/
def Extends (small large : Catalog) : Prop :=
  ∀ name, small.contains name = true → large.get? name = small.get? name

/-- A data type that is in the catalog becomes its primitive kind; every other
descriptor stays as it is. -/
def resolve (catalog : Catalog) : Descriptor → Descriptor
  | .dataType name =>
    match catalog.get? name with
    | some kind => kind.descriptor
    | none => .dataType name
  | type => type

/-- Entries behind those of a catalog change nothing about its names. -/
theorem extends_append (catalog : Catalog) (more : List (String × Primitive)) :
    Extends catalog ⟨catalog.entries ++ more⟩ := by
  intro name known
  obtain ⟨kind, found⟩ := Option.isSome_iff_exists.mp known
  rw [found]
  simp only [Catalog.get?] at found ⊢
  rw [List.lookup_append, found]
  rfl

theorem resolve_kind (catalog : Catalog) (kind : Primitive) :
    resolve catalog kind.descriptor = kind.descriptor := by
  cases kind <;> rfl

/-- A keyword stands for itself with every catalog. -/
theorem resolve_keyword (catalog : Catalog) (value : String) :
    resolve catalog (keywordType value) = keywordType value := by
  unfold keywordType
  split <;> rfl

/-- What a catalog leaves open about a data type a larger one can say later. A
reference to a property is text before either of them is asked. -/
theorem resolve_data_type (extended : Extends small large) (value : String) :
    resolve large (dataTypeType small value) = dataTypeType large value := by
  unfold dataTypeType
  dsimp only
  split
  · rfl
  · cases known : small.get? (dataTypeName value) with
    | none => rfl
    | some kind =>
      have contained : small.contains (dataTypeName value) = true := by
        rw [Catalog.contains, known]
        rfl
      rw [extended _ contained, known]
      exact resolve_kind large kind

mutual

/-- An entity contributes with the larger catalog what it does with the smaller
one, resolved. -/
theorem contribution_resolved (extended : Extends small large) (counted : Bool) (entity : Entity) :
    contribution large counted entity =
      (contribution small counted entity).map (resolve large) := by
  match entity with
  | .keyword value multiplier =>
    rw [contribution, contribution]
    split
    · rw [List.map_singleton, resolve_keyword]
    · rfl
  | .dataType value multiplier =>
    rw [contribution, contribution]
    split
    · rw [List.map_singleton, resolve_data_type extended]
    · rfl
  | .group entities multiplier =>
    have members := contributions_from_resolved extended entities 0 entities
    have repetition : (if multiplier.any isCollapsing then [Descriptor.string] else []).map
        (resolve large) = if multiplier.any isCollapsing then [.string] else [] := by
      split <;> rfl
    rw [contribution, contribution]
    split
    · rw [List.map_append, repetition, members]
    · rfl
  | .combinator kind => cases kind <;> rfl
  | .function name => rfl

theorem contributions_from_resolved (extended : Extends small large) (whole : List Entity)
    (index : Nat) (entities : List Entity) :
    contributionsFrom large whole index entities =
      (contributionsFrom small whole index entities).map (resolve large) := by
  match entities with
  | [] => rfl
  | entity :: rest =>
    rw [contributionsFrom, contributionsFrom, List.map_append,
      contribution_resolved extended, contributions_from_resolved extended]

end

/-- A sequence has with the larger catalog the descriptors that it has with the
smaller one, each resolved and listed where it comes first. -/
theorem types_are_resolved_late (extended : Extends small large) (entities : List Entity) :
    (typeEntities large entities).toList =
      (((typeEntities small entities).toList).map (resolve large)).eraseDups := by
  rw [(holds_contributions small entities).listed, erase_dups_map,
    (holds_contributions large entities).listed]
  exact congrArg List.eraseDups (contributions_from_resolved extended entities 0 entities)

/-- The angle comes first, so that text does once it is known to be text; the time
in the group is text that is listed by then. -/
theorem angle_and_time_become_text :
    ∃ large : Catalog, large = ⟨Catalog.builtin.entries ++ [("angle", .string), ("time", .string)]⟩ ∧
      ∃ entities, parse "<angle> | <number> | [ <time> | <'a'> | <a> ]?" = .ok entities ∧
        Extends .builtin large ∧
        (typeEntities .builtin entities).toList =
          [.dataType "angle", .number, .dataType "time", .string, .dataType "a"] ∧
        (typeEntities large entities).toList = [.string, .number, .dataType "a"] ∧
        (typeEntities large entities).toList =
          (((typeEntities .builtin entities).toList).map (resolve large)).eraseDups := by
  have parsed : parse "<angle> | <number> | [ <time> | <'a'> | <a> ]?" = .ok
      [dataType "<angle>" none, combinator .singleBar, dataType "<number>" none,
        combinator .singleBar, group [dataType "<time>" none, combinator .singleBar,
          dataType "<'a'>" none, combinator .singleBar, dataType "<a>" none]
          (some .questionMark)] := by
    decide +kernel
  have extended := extends_append .builtin [("angle", .string), ("time", .string)]
  refine ⟨_, rfl, _, parsed, extended, ?_, ?_, types_are_resolved_late extended _⟩
  · decide +kernel
  · decide +kernel

end ValueGrammar.Resolution
