import ValueGrammar.Proofs.Multiplier
import ValueGrammar.Proofs.Nesting

/-! Canonical sequences. Every sequence in them, at any depth, has one kind of
combinator, and every text in them can be written so that it is read back. -/
namespace ValueGrammar.Canonical
open Entity Text Nesting

variable {inner : List Char} {term : Entity} {entities : List Entity}

/-- A multiplier, if there is one, is in order. -/
def Repeated (multiplier : Option Multiplier) : Prop := ∀ m ∈ multiplier, m.InOrder

/-- What stands between the angle brackets of a data type: a reference that
starts with a quote, or else a text without a range and without white space at
its two ends. -/
def Reference (inner : List Char) : Prop :=
  (∀ c ∈ inner, c ≠ '<' ∧ c ≠ '>') ∧
    (inner.head? = some '\x27' ∨ '[' ∉ inner ∧
      (∀ c, inner.head? = some c → isWhiteSpace c = false) ∧
      ∀ c, inner.getLast? = some c → isWhiteSpace c = false)

mutual

/-- A term of a canonical sequence. -/
inductive CanonicalTerm : Entity → Prop where
  | keyword {value : String} {multiplier : Option Multiplier}
    (unquoted : '\x27' ∉ value.toList) (repeated : Repeated multiplier) :
    CanonicalTerm (.keyword value multiplier)
  | dataType {inner : List Char} {multiplier : Option Multiplier}
    (reference : Reference inner) (repeated : Repeated multiplier) :
    CanonicalTerm (.dataType (String.ofList ('<' :: inner ++ ['>'])) multiplier)
  | group {entities : List Entity} {multiplier : Option Multiplier}
    (body : CanonicalSequence entities) (repeated : Repeated multiplier) :
    CanonicalTerm (.group entities multiplier)
  | function {name : String} (named : Piece.isName name.toList = true) :
    CanonicalTerm (.function name)

/-- A sequence that is empty, or that has terms with a single kind of combinator
between each two. -/
inductive CanonicalSequence : List Entity → Prop where
  | empty : CanonicalSequence []
  | terms {entities : List Entity} (joint : Combinator) (joined : Joined joint entities) :
    CanonicalSequence entities

inductive Joined : Combinator → List Entity → Prop where
  | last {joint : Combinator} {term : Entity} (canonical : CanonicalTerm term) :
    Joined joint [term]
  | more {joint : Combinator} {term : Entity} {rest : List Entity}
    (canonical : CanonicalTerm term) (others : Joined joint rest) :
    Joined joint (term :: combinator joint :: rest)

end

theorem canonical_plain (canonical : CanonicalTerm term) : term.isCombinator = false := by
  cases canonical <;> rfl

theorem joined_uniform {joint : Combinator} {entities : List Entity} :
    Joined joint entities → Uniform joint entities
  | .last canonical => .last (canonical_plain canonical)
  | .more canonical others => .more (canonical_plain canonical) (joined_uniform others)

/-- Nesting leaves a canonical sequence as it is. -/
theorem nest_canonical (canonical : CanonicalSequence entities) : nest entities = entities := by
  cases canonical with
  | empty => rfl
  | terms joint joined => exact nest_uniform (joined_uniform joined)

private theorem trim_kept (first : ∀ c, inner.head? = some c → isWhiteSpace c = false)
    (last : ∀ c, inner.getLast? = some c → isWhiteSpace c = false) : trim inner = inner := by
  have front : inner.dropWhile isWhiteSpace = inner := by
    cases inner with
    | nil => rfl
    | cons c inner => exact List.dropWhile_cons_of_neg (by simp [first c rfl])
  have back : inner.reverse.dropWhile isWhiteSpace = inner.reverse := by
    rw [← List.head?_reverse] at last
    generalize inner.reverse = text at last ⊢
    cases text with
    | nil => rfl
    | cons c text => exact List.dropWhile_cons_of_neg (by simp [last c rfl])
  rw [trim, front, trimEnd, back, List.reverse_reverse]

/-- The text of a canonical data type is read as it stands. -/
theorem reference_text (reference : Reference inner) :
    dataTypeText (String.ofList ('<' :: inner ++ ['>'])) =
      String.ofList ('<' :: inner ++ ['>']) := by
  have stripped : ((String.ofList ('<' :: inner ++ ['>'])).toList.drop 1).dropLast = inner := by
    simp
  unfold dataTypeText
  simp only [stripped]
  obtain ⟨_, quoted | ⟨unranged, first, last⟩⟩ := reference
  · obtain ⟨rest, rfl⟩ := List.head?_eq_some_iff.mp quoted
    rfl
  · have whole : inner.takeWhile (· != '[') = inner := by
      rw [List.takeWhile_eq_self_iff]
      intro c member
      rw [bne_iff_ne]
      rintro rfl
      exact unranged member
    rw [whole, trim_kept first last]
    split <;> rfl

end ValueGrammar.Canonical
