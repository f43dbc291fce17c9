import Mathlib.Data.List.Nodup
import ValueGrammar.Proofs.Contributions
import ValueGrammar.Proofs.Numerals
import ValueGrammar.Proofs.Quoting

/-! The descriptors of a sequence are shown by different texts. Sets tell numbers
apart by their bits, of which several can be shown alike; but a sequence only
has the numbers that its keywords denote, and those are read back from what they
are shown as. -/
namespace ValueGrammar.Printing
open Entity Typing TypeSet Contributions Descriptor Numerals Quoting

variable {catalog : Catalog} {entities : List Entity} {type other : Descriptor}

/-- A descriptor that a sequence can have: a number is the one that its text
denotes, and no type is named. -/
def Typed : Descriptor → Prop
  | .numericLiteral x => Numeral.canonical? (Numeral.text x) = some x
  | .named .. => False
  | .string | .number | .length | .stringLiteral _ | .dataType _ => True

theorem keyword_typed (value : String) : Typed (keywordType value) := by
  unfold keywordType
  split
  · rename_i canonical
    rw [Typed, canonical_text canonical]
    exact canonical
  · trivial

theorem data_type_typed (catalog : Catalog) (value : String) :
    Typed (dataTypeType catalog value) := by
  unfold dataTypeType
  dsimp only
  split
  · trivial
  · split
    · rename_i kind known
      cases kind <;> trivial
    · trivial

mutual

/-- Whatever an entity contributes is typed. -/
theorem contribution_typed (catalog : Catalog) (counted : Bool) (entity : Entity) :
    ∀ type ∈ contribution catalog counted entity, Typed type := by
  match entity with
  | .keyword value multiplier =>
    rw [contribution]
    split
    · exact List.forall_mem_singleton.mpr (keyword_typed value)
    · exact List.forall_mem_nil _
  | .dataType value multiplier =>
    rw [contribution]
    split
    · exact List.forall_mem_singleton.mpr (data_type_typed catalog value)
    · exact List.forall_mem_nil _
  | .group members multiplier =>
    rw [contribution]
    split
    · refine List.forall_mem_append.mpr ⟨?_, contributions_typed catalog members 0 members⟩
      split
      · exact List.forall_mem_singleton.mpr trivial
      · exact List.forall_mem_nil _
    · exact List.forall_mem_nil _
  | .combinator kind =>
    cases kind with
    | singleBar => exact List.forall_mem_nil _
    | juxtaposition | doubleAmpersand | doubleBar => exact List.forall_mem_singleton.mpr trivial
  | .function name => exact List.forall_mem_singleton.mpr trivial

/-- Whatever the entities of a sequence contribute is typed. -/
theorem contributions_typed (catalog : Catalog) (whole : List Entity) (index : Nat)
    (entities : List Entity) :
    ∀ type ∈ contributionsFrom catalog whole index entities, Typed type := by
  match entities with
  | [] => exact List.forall_mem_nil _
  | entity :: rest =>
    rw [contributionsFrom]
    exact List.forall_mem_append.mpr ⟨contribution_typed catalog _ entity,
      contributions_typed catalog whole (index + 1) rest⟩

end

/-- Every descriptor of a sequence is typed. -/
theorem types_typed (member : type ∈ (typeEntities catalog entities).toList) : Typed type := by
  rw [holds_mem (holds_contributions catalog entities)] at member
  exact contributions_typed catalog entities 0 entities type member

/-- The character that starts the text of a descriptor that is no number. -/
def opening? : Descriptor → Option Char
  | .string => some 's'
  | .number => some 'n'
  | .length => some 'l'
  | .stringLiteral _ => some '"'
  | .dataType _ => some '<'
  | .numericLiteral _ | .named .. => none

theorem text_opens {c : Char} (opens : opening? type = some c) :
    type.text.toList.head? = some c := by
  cases type with
  | string | number | length =>
    cases opens
    rfl
  | stringLiteral literal =>
    cases opens
    rw [text, quote_list]
    rfl
  | dataType name =>
    cases opens
    simp [text]
  | numericLiteral | named => cases opens

/-- What is not a number is told apart by the first character, and by what
stands between the quotes or the brackets. -/
theorem opened_injective {c c' : Char} (opens : opening? type = some c)
    (opens' : opening? other = some c') (same : type.text = other.text) : type = other := by
  have first := text_opens opens
  rw [same, text_opens opens'] at first
  cases first
  cases type <;> cases opens <;> cases other <;> cases opens'
  · rfl
  · rfl
  · rfl
  · exact congrArg stringLiteral (quote_injective same)
  · exact congrArg Descriptor.dataType (by simpa [text] using same)

/-- No number is shown as a descriptor of another kind is. -/
theorem numeral_apart {c : Char} (opens : opening? type = some c) (x : Binary64) :
    Numeral.text x ≠ type.text := by
  intro same
  have numeral := numeral_text x
  rw [same] at numeral
  cases type with
  | string | number | length => exact absurd numeral (by decide)
  | stringLiteral literal =>
    rw [text, quote_list, numeral_cons] at numeral
    exact absurd numeral.1 (by decide)
  | dataType name =>
    have bracket := numeral '<' (by simp [text])
    exact absurd bracket (by decide)
  | numericLiteral | named => cases opens

/-- Typed descriptors that are shown alike are the same. -/
theorem text_injective (typed : Typed type) (typed' : Typed other)
    (same : type.text = other.text) : type = other := by
  have opened : ∀ type, Typed type → (∃ x, type = .numericLiteral x) ∨
      ∃ c, opening? type = some c := by
    intro type typed
    cases type with
    | numericLiteral x => exact .inl ⟨x, rfl⟩
    | named => exact typed.elim
    | string | number | length | stringLiteral | dataType => exact .inr ⟨_, rfl⟩
  rcases opened type typed with ⟨x, rfl⟩ | ⟨c, opens⟩ <;>
    rcases opened other typed' with ⟨y, rfl⟩ | ⟨c', opens'⟩
  · rw [Typed] at typed typed'
    rw [text, text] at same
    rw [same, typed'] at typed
    rw [Option.some.inj typed]
  · exact absurd same (numeral_apart opens' x)
  · exact absurd same.symm (numeral_apart opens y)
  · exact opened_injective opens opens' same

/-- Numbers that are both zero, or both none, are shown alike. -/
theorem zeros_and_nans_alike {x y : Binary64} (alike : x.isZero ∧ y.isZero ∨ x.isNaN ∧ y.isNaN) :
    Numeral.text x = Numeral.text y := by
  rcases alike with ⟨zero, zero'⟩ | ⟨none, none'⟩
  · have finite : ∀ z : Binary64, z.isZero → z.isNaN = false ∧ z.isInfinite = false := by
      intro z zero
      simp only [Binary64.isZero, decide_eq_true_eq] at zero
      rw [Binary64.isNaN, Binary64.isInfinite, zero]
      decide
    simp [Numeral.text, finite, zero, zero']
  · simp [Numeral.text, none, none']

/-- No two descriptors of a sequence are shown alike, whatever the sequence and
the catalog are. So a sequence never has both zeros, nor two kinds of NaN. -/
theorem descriptors_shown_apart (catalog : Catalog) (entities : List Entity) :
    ((typeEntities catalog entities).toList.map Descriptor.text).Nodup ∧
      ∀ x y, numericLiteral x ∈ (typeEntities catalog entities).toList →
        numericLiteral y ∈ (typeEntities catalog entities).toList →
        x.isZero ∧ y.isZero ∨ x.isNaN ∧ y.isNaN → x = y := by
  have injective : ∀ type ∈ (typeEntities catalog entities).toList,
      ∀ other ∈ (typeEntities catalog entities).toList, type.text = other.text → type = other :=
    fun type member other member' => text_injective (types_typed member) (types_typed member')
  constructor
  · have apart : (typeEntities catalog entities).toList.Nodup := by
      rw [(holds_contributions catalog entities).listed]
      exact FirstOccurrences.erase_dups_nodup _
    exact List.Nodup.map_on injective apart
  · intro x y member member' alike
    exact numericLiteral.inj (injective _ member _ member' (zeros_and_nans_alike alike))

/-- Three keywords that could be taken for zero, of which one is a number. -/
def zeros : List Entity :=
  [.keyword "-0" none, .combinator .singleBar, .keyword "0" none, .combinator .singleBar,
    .keyword "0.0" none]

theorem one_zero_is_listed :
    ((typeEntities .builtin zeros).toList.map Descriptor.text).Nodup ∧
      numericLiteral (.zero false) ∈ (typeEntities .builtin zeros).toList ∧
      numericLiteral (.ofBits 0) ∈ (typeEntities .builtin zeros).toList ∧
      Binary64.zero false = .ofBits 0 := by
  have listed : numericLiteral (.zero false) ∈ (typeEntities .builtin zeros).toList := by
    decide +kernel
  have listed' : numericLiteral (.ofBits 0) ∈ (typeEntities .builtin zeros).toList := by
    decide +kernel
  obtain ⟨apart, alike⟩ := descriptors_shown_apart .builtin zeros
  exact ⟨apart, listed, listed', alike _ _ listed listed' (.inl ⟨by decide, by decide⟩)⟩

/-- Keywords that look like a number, a primitive kind or a data type are shown
in quotes, and of two that denote zero only one is a number. -/
example : (typeEntities .builtin [.keyword "0" none, .combinator .singleBar,
      .keyword "-0" none, .combinator .singleBar, .keyword "number" none,
      .combinator .singleBar, .dataType "<number>" none, .combinator .singleBar,
      .keyword "<a>" none, .combinator .singleBar, .dataType "a" none]).toList.map
        Descriptor.text =
    ["0", "\"-0\"", "\"number\"", "number", "\"<a>\"", "<a>"] := by
  decide +kernel

end ValueGrammar.Printing
