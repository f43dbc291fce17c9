import ValueGrammar.Proofs.Lexemes
import ValueGrammar.Proofs.Lexing
import ValueGrammar.Proofs.Places

/-! The kinds and texts of tokens, without their places. They decide whether a
source parses and what it means, and those of words with spaces between them are
those of the words. -/
namespace ValueGrammar.Spelling
open Entity Text Lexing Lexemes Places

variable {left right tokens more : List Token} {words others : List String}

def spelling (token : Token) : TokenKind × String := (token.kind, token.text)

theorem shifted_spelling (distance : Nat) (tokens : List Token) :
    (tokens.map (shifted distance)).map spelling = tokens.map spelling := by
  rw [List.map_map]
  rfl

/-- A text is spelled the same wherever it stands. -/
theorem lex_from_spelling (start : Nat) (source : List Char) :
    (lexFrom start [] source).map spelling = (lexFrom 0 [] source).map spelling := by
  rw [lex_shift, shifted_spelling]

/-- The places of two tokens that stand at the same index of their lists. -/
def SameIndex (left right : List Token) (start stop : Span) : Prop :=
  ∃ index : Nat, left[index]?.map Token.span = some start ∧
    right[index]?.map Token.span = some stop

/-- Tokens that are spelled the same are alike but for their places. -/
theorem same_tokens (same : left.map spelling = right.map spelling) :
    List.Forall₂ (SameToken (SameIndex left right)) left right := by
  have length : left.length = right.length := by
    simpa using congrArg List.length same
  refine List.forall₂_iff_get.mpr ⟨length, fun index inside inside' => ?_⟩
  have spelled : spelling left[index] = spelling right[index] := by
    have found := congrArg (·[index]?) same
    simpa [inside, inside'] using found
  obtain ⟨kind, text⟩ := Prod.mk.inj spelled
  exact ⟨kind, text, index, by simp [inside], by simp [inside']⟩

/-- Tokens that are spelled the same write the same sequence. -/
theorem of_tokens_spelling (same : left.map spelling = right.map spelling)
    (parsed : ofTokens left = .ok entities) : ofTokens right = .ok entities := by
  have alike := of_tokens_alike (same_tokens same)
  rw [parsed] at alike
  generalize ofTokens right = outcome at alike ⊢
  cases alike with
  | ok results => rw [results]

/-- A lexeme in front is spelled first. -/
theorem lexeme_spelling (piece : Piece.first c rest = (⟨.lexeme kind, lexeme⟩, after)) :
    (lexFrom 0 [] (c :: rest)).map spelling =
      (kind, String.ofList lexeme) :: (lexFrom 0 [] after).map spelling := by
  rw [lex_lexeme piece, List.map_append, List.map_cons, lex_from_spelling]
  rfl

/-- A lexeme that is finished is spelled by itself, whatever follows it. -/
theorem closed_spelling (closed : Closed kind text) (after : List Char) :
    (lexFrom 0 [] (text ++ after)).map spelling =
      (kind, String.ofList text) :: (lexFrom 0 [] after).map spelling := by
  obtain ⟨c, rest, rfl, piece⟩ := closed
  rw [List.cons_append, lexeme_spelling (piece after)]

/-- Two sources with a space between them are spelled one after the other. -/
theorem space_spelling {left : String} (settled : Settled (Token.lex left)) (right : String) :
    (Token.lex (left ++ " " ++ right)).map spelling =
      (Token.lex left).map spelling ++ (Token.lex right).map spelling := by
  obtain ⟨distance, parts⟩ := lex_space settled right
  rw [parts, List.map_append, lex_from_spelling]
  rfl

/-- Words with spaces between them are spelled one after the other. -/
theorem spaced_spelling (settled : ∀ word ∈ words, Settled (Token.lex word)) :
    (Token.lex (" ".intercalate words)).map spelling =
      (words.flatMap Token.lex).map spelling := by
  induction words with
  | nil => simp [Token.lex, Piece.split, Token.ofPieces, Token.ofStray]
  | cons word words ih =>
    cases words with
    | nil => rw [String.intercalate_singleton, List.flatMap_singleton]
    | cons next words =>
      have others := ih fun other member => settled other (List.mem_cons_of_mem word member)
      rw [String.intercalate_cons_cons, space_spelling (settled word List.mem_cons_self),
        others, List.flatMap_cons (x := word), List.map_append]

/-- A source of one character that a rule accepts. -/
theorem lex_sign (piece : Piece.first c [] = (⟨.lexeme kind, [c]⟩, [])) :
    lexFrom 0 [] [c] = [⟨kind, String.ofList [c], ⟨0, c.utf8Size⟩⟩] := by
  rw [lex_lexeme piece, lex_nil]
  simp [byteLength, Token.ofStray]

theorem sign_settled (piece : Piece.first c [] = (⟨.lexeme kind, [c]⟩, []))
    (known : kind ≠ .unexpected) : Settled (lexFrom 0 [] [c]) := by
  rw [lex_sign piece]
  rintro token ⟨⟩
  exact known

/-- A bar is a lexeme by itself; with another bar behind it it would not be. -/
theorem lex_single_bar : Token.lex "|" = [⟨.singleBar, "|", ⟨0, 1⟩⟩] :=
  lex_sign rfl

/-- The words are spelled as these tokens are, one after the other, and all of
the tokens are accepted by some rule. -/
structure Spells (words : List String) (tokens : List Token) : Prop where
  same : (words.flatMap Token.lex).map spelling = tokens.map spelling
  accepted : ∀ token ∈ tokens, token.kind ≠ .unexpected

theorem spells_nil : Spells [] [] := ⟨rfl, by simp⟩

theorem spells_append (spells : Spells words tokens) (spells' : Spells others more) :
    Spells (words ++ others) (tokens ++ more) := by
  refine ⟨?_, ?_⟩
  · rw [List.flatMap_append, List.map_append, spells.same, spells'.same, List.map_append]
  · intro token member
    rcases List.mem_append.mp member with front | back
    · exact spells.accepted token front
    · exact spells'.accepted token back

private theorem word_settled (spells : Spells words tokens) (word : String)
    (member : word ∈ words) : Settled (Token.lex word) := by
  intro token last stray
  have found : spelling token ∈ (words.flatMap Token.lex).map spelling :=
    List.mem_map_of_mem (List.mem_flatMap.mpr ⟨word, member, List.mem_of_getLast? last⟩)
  rw [spells.same] at found
  obtain ⟨other, among, same⟩ := List.mem_map.mp found
  exact spells.accepted other among ((Prod.mk.inj same).1.trans stray)

/-- Words that are spelled like these tokens still are when they are written
with spaces between them. -/
theorem spells_spaced (spells : Spells words tokens) :
    (Token.lex (" ".intercalate words)).map spelling = tokens.map spelling :=
  (spaced_spelling (word_settled spells)).trans spells.same

end ValueGrammar.Spelling
