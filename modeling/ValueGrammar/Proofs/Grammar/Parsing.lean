import ValueGrammar.Proofs.Grammar.Soundness
import ValueGrammar.Proofs.Grammar.Unambiguous

/-! Parsing decides the grammar. A text is a value definition exactly when its
tokens have a derivation, the derivation is then unique, and the parsed sequence
is the one that it denotes. -/
namespace ValueGrammar.Grammar
open Entity

/-- A source parses exactly when all of its tokens are derivable, as the
sequence that its only derivation denotes. -/
theorem parse_iff_derivation (source : String) :
    (∀ entities, parse source = .ok entities ↔ ∃ derivation : Sequence,
      derivation.tokens = Token.lex source ∧ derivation.entities = entities) ∧
    Subsingleton { derivation : Sequence // derivation.tokens = Token.lex source } := by
  constructor
  · intro entities
    exact of_tokens_iff (Token.lex source) entities
  · constructor
    rintro ⟨first, whole⟩ ⟨second, whole'⟩
    exact Subtype.ext (tokens_injective first second (whole.trans whole'.symm))

end ValueGrammar.Grammar
