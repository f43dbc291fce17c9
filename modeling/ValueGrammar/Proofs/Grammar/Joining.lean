import ValueGrammar.Proofs.Grammar.Soundness
import ValueGrammar.Proofs.Spelling

/-! Joining two sources with a bar. The tokens of the whole are those of the two
sources with the bar between them, and the items of the whole are the items of
the two, whatever either of them is nested into by itself. -/
namespace ValueGrammar.Grammar
open Entity Lexing Spelling

/-- A list of tokens that ends in a stray stretch is not read to its end. -/
theorem parsed_settled (parsed : ofTokens tokens = .ok entities) : Settled tokens := by
  intro last ends stray
  obtain ⟨front, rfl⟩ := List.getLast?_eq_some_iff.mp ends
  unfold ofTokens at parsed
  rw [run_append] at parsed
  cases ran : Reading.run {} front with
  | error error =>
    rw [ran] at parsed
    cases parsed
  | ok reading =>
    rw [ran] at parsed
    obtain ⟨current, outer, call⟩ := reading
    cases call with
    | none => simp [Except.bind, Reading.run, Reading.step, Reading.read, stray] at parsed
    | some call =>
      simp [Except.bind, Reading.run, Reading.step, Reading.skip, stray, Reading.finish] at parsed

/-- A bar as a token, at no place in particular. -/
def bar : Token := ⟨.singleBar, "|", ⟨0, 0⟩⟩

/-- Behind a source that ends in no stray stretch, a bar with spaces around it is a
token of its own. -/
theorem lex_bar (settled : Settled (Token.lex left)) (right : String) :
    (Token.lex left ++ bar :: Token.lex right).map spelling =
      (Token.lex (left ++ " | " ++ right)).map spelling := by
  have written : left ++ " | " ++ right = left ++ " " ++ ("|" ++ " " ++ right) := by
    have bars : " | " = " " ++ ("|" ++ " ") := by decide
    rw [bars]
    simp only [String.append_assoc]
  have finished : Settled (Token.lex "|") := sign_settled rfl (by decide)
  rw [written, space_spelling settled, space_spelling finished]
  simp [lex_single_bar, spelling, bar]

/-- A derivation can go on behind a combinator with all of another one. -/
theorem derivations_join (front back : Sequence) (link : Link) (filled : front ≠ .empty)
    (filled' : back ≠ .empty) :
    ∃ whole : Sequence, whole.tokens = front.tokens ++ link.token :: back.tokens ∧
      whole.items = front.items ++ combinator link.combinator :: back.items := by
  cases front with
  | empty => exact absurd rfl filled
  | terms first rest =>
    cases back with
    | empty => exact absurd rfl filled'
    | terms second others =>
      refine ⟨.terms first (rest.append (.next (some link) second others)), ?_, ?_⟩
      · simp [Sequence.tokens, rest_append_tokens, Rest.tokens]
      · simp [Sequence.items, rest_append_items, Rest.items, joining]

private theorem filled_derivation {derivation : Sequence} (filled : derivation.entities ≠ []) :
    derivation ≠ .empty := by
  rintro rfl
  exact filled rfl

private theorem base_is_term (base : Base) : base.entity.isCombinator = false := by
  cases base with
  | word token plain =>
    unfold Base.entity wordEntity
    split <;> rfl
  | group | call => rfl

theorem term_is_no_combinator (term : Term) : term.entity.isCombinator = false := by
  obtain ⟨base, multipliers⟩ := term
  have plain := base_is_term base
  unfold Term.entity
  generalize base.entity = entity at plain ⊢
  cases multipliers with
  | nil => exact plain
  | cons repeated multipliers =>
    cases entity with
    | combinator kind => cases plain
    | keyword | dataType | group | function => rfl

/-- The sequence starts with a term. -/
def StartsTerm (entities : List Entity) : Prop :=
  ∃ first rest, entities = first :: rest ∧ first.isCombinator = false

private theorem derivation_starts {derivation : Sequence} (filled : derivation ≠ .empty) :
    StartsTerm derivation.items := by
  cases derivation with
  | empty => exact absurd rfl filled
  | terms first rest => exact ⟨_, _, rfl, term_is_no_combinator first⟩

/-- Two sources that each write something write one sequence with a bar between
them: the items of both, nested as a whole. -/
theorem parse_bar (parsed : parse left = .ok first) (filled : first ≠ [])
    (parsed' : parse right = .ok second) (filled' : second ≠ []) :
    ∃ items others, nest items = first ∧ nest others = second ∧
      StartsTerm items ∧ StartsTerm others ∧
      parse (left ++ " | " ++ right) = .ok (nest (items ++ combinator .singleBar :: others)) := by
  obtain ⟨front, whole, rfl⟩ := (of_tokens_iff _ _).mp parsed
  obtain ⟨back, whole', rfl⟩ := (of_tokens_iff _ _).mp parsed'
  have nonempty := filled_derivation filled
  have nonempty' := filled_derivation filled'
  refine ⟨front.items, back.items, rfl, rfl, derivation_starts nonempty,
    derivation_starts nonempty', ?_⟩
  apply of_tokens_spelling (lex_bar (parsed_settled parsed) right)
  obtain ⟨joined, tokens, items⟩ :=
    derivations_join front back ⟨bar, .singleBar, rfl⟩ nonempty nonempty'
  refine (of_tokens_iff _ _).mpr ⟨joined, ?_, ?_⟩
  · rw [tokens, whole, whole']
  · rw [Sequence.entities, items]

end ValueGrammar.Grammar
