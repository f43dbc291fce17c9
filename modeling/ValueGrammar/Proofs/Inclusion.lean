import Mathlib.Data.List.Basic
import ValueGrammar.Proofs.Contributions

/-! Which terms of a sequence count that one combinator joins. The places of the terms
and of the combinators alternate, so the neighbours of a term decide by their order
alone: the term behind it, or the one in front of the last term. -/
namespace ValueGrammar.Inclusion
open Entity Typing Contributions

variable {joint : Combinator} {terms entities : List Entity} {index : Nat}

/-- The terms in order, with the combinator between each two. -/
def joined (joint : Combinator) (terms : List Entity) : List Entity :=
  terms.intersperse (combinator joint)

/-- Whether the entity at this place counts, given all that stands around it. -/
def countsAt (entities : List Entity) (index : Nat) : Bool :=
  counts (entities.take index).reverse (entities.drop (index + 1))

/-- The entity is a component that may be left out; a function is none. -/
inductive Optional : Entity → Prop where
  | keyword {value : String} {multiplier : Multiplier} (optional : isOptional multiplier = true) :
    Optional (keyword value (some multiplier))
  | dataType {value : String} {multiplier : Multiplier} (optional : isOptional multiplier = true) :
    Optional (dataType value (some multiplier))
  | group {entities : List Entity} {multiplier : Multiplier}
    (optional : isOptional multiplier = true) : Optional (group entities (some multiplier))

theorem optional_iff (entity : Entity) :
    entity.multiplier?.any isOptional = true ↔ Optional entity := by
  have carried : entity.multiplier?.any isOptional = true ↔
      ∃ multiplier, entity.multiplier? = some multiplier ∧ isOptional multiplier = true := by
    cases entity.multiplier? <;> simp
  rw [carried]
  constructor
  · rintro ⟨multiplier, carries, optional⟩
    cases entity with
    | keyword value _ =>
      cases carries
      exact .keyword optional
    | dataType value _ =>
      cases carries
      exact .dataType optional
    | group members _ =>
      cases carries
      exact .group optional
    | combinator | function => cases carries
  · intro optional
    cases optional with
    | keyword optional | dataType optional | group optional => exact ⟨_, rfl, optional⟩

theorem counts_at_included (inside : index < entities.length) :
    countsAt entities index = included entities index := by
  have counted := counts_included (entities.take index).reverse entities[index]
    (entities.drop (index + 1))
  rw [List.reverse_reverse, List.length_reverse, List.length_take_of_le (Nat.le_of_lt inside),
    List.getElem_cons_drop, List.take_append_drop] at counted
  exact counted

/-! ### Places -/

theorem term_placed (joint : Combinator) (terms : List Entity) (index : Nat) :
    (joined joint terms)[2 * index]? = terms[index]? := List.getElem?_intersperse_two_mul

theorem term_inside (inside : index < terms.length) : 2 * index < (joined joint terms).length := by
  rw [joined, List.length_intersperse]
  omega

theorem optional_term (inside : index < terms.length) :
    optionalAt (joined joint terms) (2 * index) = true ↔ Optional terms[index] := by
  rw [optionalAt, term_placed, List.getElem?_eq_getElem inside]
  exact optional_iff _

/-- The combinator stands behind every term but the last. -/
theorem mandatory_joint (joint : Combinator) (terms : List Entity) (index : Nat) :
    mandatoryAt (joined joint terms) (2 * index + 1) =
      (decide (index + 1 < terms.length) && joint.isMandatory) := by
  by_cases inside : index + 1 < terms.length
  · rw [mandatoryAt, joined, List.getElem?_intersperse_two_mul_add_one inside]
    simp [inside, combinator?]
  · have outside : (joined joint terms).length ≤ 2 * index + 1 := by
      rw [joined, List.length_intersperse]
      omega
    rw [mandatoryAt, List.getElem?_eq_none outside]
    simp [inside]

/-! ### Terms -/

/-- A term that another one follows counts by that one. -/
theorem followed_counts (mandatory : joint.isMandatory = true) (inside : index + 1 < terms.length) :
    countsAt (joined joint terms) (2 * index) = optionalAt (joined joint terms) (2 * (index + 1)) := by
  rw [counts_at_included (term_inside (Nat.lt_of_succ_lt inside)), included, mandatory_joint]
  simp only [inside, mandatory, decide_true, Bool.and_self, if_true]
  rfl

/-- The last of several terms counts by the one in front of it. -/
theorem last_counts (mandatory : joint.isMandatory = true) (last : index + 2 = terms.length) :
    countsAt (joined joint terms) (2 * (index + 1)) = optionalAt (joined joint terms) (2 * index) := by
  have ended : ¬ index + 1 + 1 < terms.length := by omega
  have inside : index + 1 < terms.length := by omega
  have front : 2 * (index + 1) - 1 = 2 * index + 1 := by omega
  have other : 2 * (index + 1) - 2 = 2 * index := by omega
  have spaced : 1 ≤ 2 * (index + 1) ∧ 2 ≤ 2 * (index + 1) := by omega
  rw [counts_at_included (term_inside inside), included, front, other]
  simp [mandatory_joint, ended, inside, mandatory, spaced]

/-- Where the combinator does not ask for all of its terms, or there is none, every term
counts. -/
theorem free_counts (free : joint.isMandatory = false ∨ terms.length = 1)
    (inside : index < terms.length) : countsAt (joined joint terms) (2 * index) = true := by
  have none : ∀ place, mandatoryAt (joined joint terms) (2 * place + 1) = false := by
    intro place
    rw [mandatory_joint]
    rcases free with free | single
    · rw [free, Bool.and_false]
    · have outside : ¬ place + 1 < terms.length := by omega
      simp [outside]
  rw [counts_at_included (term_inside inside), included, none]
  cases index with
  | zero => rfl
  | succ before =>
    have front : 2 * (before + 1) - 1 = 2 * before + 1 := by omega
    rw [front, none]
    simp

/-- How the terms count that a combinator joins. -/
structure Positional (joint : Combinator) (terms : List Entity) : Prop where
  /-- Every other place is that of a term. -/
  placed : ∀ index, (joined joint terms)[2 * index]? = terms[index]?
  /-- An alternative counts whatever stands beside it, and so does a term by itself. -/
  free : joint = .singleBar ∨ joint = .doubleBar ∨ terms.length = 1 →
    ∀ index < terms.length, countsAt (joined joint terms) (2 * index) = true
  /-- A term counts if the one behind it may be left out. -/
  followed : joint = .juxtaposition ∨ joint = .doubleAmpersand →
    ∀ (index : Nat) (inside : index + 1 < terms.length),
      countsAt (joined joint terms) (2 * index) = true ↔ Optional terms[index + 1]
  /-- The last term counts if the one in front of it may be left out. -/
  last : joint = .juxtaposition ∨ joint = .doubleAmpersand →
    ∀ (index : Nat) (last : index + 2 = terms.length),
      countsAt (joined joint terms) (2 * (index + 1)) = true ↔ Optional terms[index]
  /-- A term counts where all of the others may be left out. -/
  alone : joint = .juxtaposition ∨ joint = .doubleAmpersand →
    ∀ index < terms.length,
      (∀ (other : Nat) (inside : other < terms.length), other ≠ index → Optional terms[other]) →
        countsAt (joined joint terms) (2 * index) = true

/-- In a sequence that one combinator joins, each term counts by one neighbour alone if all
of the terms are asked for, and without any condition otherwise. -/
theorem terms_count_by_neighbours (joint : Combinator) (terms : List Entity) :
    Positional joint terms := by
  have mandatory : joint = .juxtaposition ∨ joint = .doubleAmpersand → joint.isMandatory = true := by
    rintro (rfl | rfl) <;> rfl
  have followed : joint = .juxtaposition ∨ joint = .doubleAmpersand →
      ∀ (index : Nat) (inside : index + 1 < terms.length),
        countsAt (joined joint terms) (2 * index) = true ↔ Optional terms[index + 1] := by
    intro joins index inside
    rw [followed_counts (mandatory joins) inside]
    exact optional_term inside
  have last : joint = .juxtaposition ∨ joint = .doubleAmpersand →
      ∀ (index : Nat) (last : index + 2 = terms.length),
        countsAt (joined joint terms) (2 * (index + 1)) = true ↔ Optional terms[index] := by
    intro joins index last
    rw [last_counts (mandatory joins) last]
    exact optional_term (by omega)
  refine ⟨term_placed joint terms, ?_, followed, last, ?_⟩
  · intro joins index inside
    apply free_counts _ inside
    rcases joins with rfl | rfl | single
    · exact .inl rfl
    · exact .inl rfl
    · exact .inr single
  · intro joins index inside others
    by_cases more : index + 1 < terms.length
    · apply (followed joins index more).mpr
      exact others (index + 1) more (Nat.succ_ne_self index)
    · cases index with
      | zero => exact free_counts (.inr (by omega)) inside
      | succ before =>
        apply (last joins before (by omega)).mpr
        exact others before (by omega) (Nat.ne_of_lt (Nat.lt_succ_self before))

/-- A function is no component, and so no term counts for standing next to one. -/
theorem terms_beside_function_count :
    ∃ terms : List Entity,
      terms = [keyword "a" none, keyword "b" (some .questionMark), function "f",
        keyword "c" (some .asterisk)] ∧
      Entity.parse "a b? f() c*" = .ok (joined .juxtaposition terms) ∧
      countsAt (joined .juxtaposition terms) 0 = true ∧
      countsAt (joined .juxtaposition terms) 2 = false ∧
      countsAt (joined .juxtaposition terms) 4 = true ∧
      countsAt (joined .juxtaposition terms) 6 = false ∧
      countsAt (joined .singleBar terms) 6 = true := by
  refine ⟨_, rfl, ?_⟩
  have positional := terms_count_by_neighbours .juxtaposition [keyword "a" none,
    keyword "b" (some .questionMark), function "f", keyword "c" (some .asterisk)]
  have followed := positional.followed (.inl rfl)
  have last := positional.last (.inl rfl)
  have free := (terms_count_by_neighbours .singleBar [keyword "a" none,
    keyword "b" (some .questionMark), function "f", keyword "c" (some .asterisk)]).free (.inl rfl)
  refine ⟨by decide +kernel, ?_, ?_, ?_, ?_, free 3 (by decide)⟩
  · exact (followed 0 (by decide)).mpr (.keyword rfl)
  · rw [← Bool.not_eq_true, followed 1 (by decide)]
    intro optional
    cases optional
  · exact (followed 2 (by decide)).mpr (.keyword rfl)
  · rw [← Bool.not_eq_true, last 2 rfl]
    intro optional
    cases optional

end ValueGrammar.Inclusion
