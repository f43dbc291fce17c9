import Mathlib.Computability.Language
import ValueGrammar.Entity

/-! What a value definition means: the language of the values that it generates.
A value is a row of atoms, and every combinator and every multiplier is an
operation on languages. -/
namespace ValueGrammar.Meaning
open Entity
open scoped Computability

/-- The parts of a value that a definition does not look into. -/
inductive Atom where
  | keyword (text : String)
  /-- A value of a data type, by the text of the reference to it. -/
  | reference (text : String)
  /-- A call of a function with any arguments. -/
  | call (name : String)
deriving DecidableEq, Repr

/-- A comma stands between the rounds of a list. -/
def comma : Language Atom := {[.keyword ","]}

/-- The rounds that a multiplier asks for. -/
def rounds (language : Language Atom) : Multiplier → Language Atom
  | .asterisk => language∗
  | .plusSign => language * language∗
  | .questionMark => 1 + language
  | .hashMark => language * (comma * language)∗
  | .exclamationPoint => {value | value ∈ language ∧ value ≠ []}
  | .range min max =>
    {value | ∃ count, min.toNat ≤ count ∧ (∀ most ∈ max, count ≤ most.toNat) ∧
      value ∈ language ^ count}

/-- Without a multiplier there is one round. -/
def repeated (language : Language Atom) (multiplier : Option Multiplier) : Language Atom :=
  multiplier.elim language (rounds language)

/-- The values that a combinator makes of those of its terms: all terms in
order, all in any order, some in any order, or one. -/
def combined : Combinator → List (Language Atom) → Language Atom
  | .juxtaposition, terms => terms.prod
  | .doubleAmpersand, terms =>
    {value | ∃ order : List (Language Atom), order.Perm terms ∧ value ∈ order.prod}
  | .doubleBar, terms =>
    {value | ∃ chosen : List (Language Atom), chosen ≠ [] ∧ chosen.Subperm terms ∧
      value ∈ chosen.prod}
  | .singleBar, terms => {value | ∃ term ∈ terms, value ∈ term}

/-- One term alone has its own values, whatever could have joined it to others. -/
theorem combined_singleton (kind : Combinator) (term : Language Atom) :
    combined kind [term] = term := by
  ext value
  cases kind with
  | juxtaposition => rw [combined, List.prod_singleton]
  | singleBar =>
    constructor
    · rintro ⟨other, member, generated⟩
      rwa [List.mem_singleton.mp member] at generated
    · intro generated
      exact ⟨term, List.mem_singleton.mpr rfl, generated⟩
  | doubleAmpersand =>
    constructor
    · rintro ⟨order, same, generated⟩
      rwa [List.perm_singleton.mp same, List.prod_singleton] at generated
    · intro generated
      exact ⟨[term], List.Perm.refl _, by rwa [List.prod_singleton]⟩
  | doubleBar =>
    constructor
    · rintro ⟨chosen, filled, ⟨part, same, among⟩, generated⟩
      rcases List.sublist_singleton.mp among with rfl | rfl
      · exact absurd (List.nil_perm.mp same) filled
      · rwa [List.perm_singleton.mp same.symm, List.prod_singleton] at generated
    · intro generated
      exact ⟨[term], List.cons_ne_nil _ _, List.Subperm.refl _, by rwa [List.prod_singleton]⟩

/-- The combinator of a sequence that has one kind; a term by itself may be taken
for a row of one. -/
def joint (entities : List Entity) : Combinator :=
  (entities.findSome? combinator?).getD .juxtaposition

mutual

/-- The values of a term. -/
def termLanguage : Entity → Language Atom
  | .keyword value multiplier => repeated {[.keyword value]} multiplier
  | .dataType value multiplier => repeated {[.reference value]} multiplier
  | .group entities multiplier =>
    repeated (combined (joint entities) (termLanguages entities)) multiplier
  | .function name => {[.call name]}
  | .combinator _ => 0

/-- The values of each term of a sequence, in order. -/
def termLanguages : List Entity → List (Language Atom)
  | [] => []
  | .combinator _ :: rest => termLanguages rest
  | term :: rest => termLanguage term :: termLanguages rest

end

/-- The values of a sequence that has one kind of combinator at every depth. -/
def language (entities : List Entity) : Language Atom :=
  combined (joint entities) (termLanguages entities)

end ValueGrammar.Meaning
