import ValueGrammar.Proofs.Spelling
import ValueGrammar.Proofs.Tiling
import ValueGrammar.Typing

/-! Blanks between tokens have no meaning. A source whose tokens are written
anew with other blanks between them has the same tokens, the same tree and the
same descriptors, or the same fault at the same token. -/
namespace ValueGrammar.Layout
open Entity Typing Piece Lexing Rules LongestMatch Tiling Places Spelling

/-- Behind a word, the text goes on with these words and with nothing else but
blanks, at least one in front of each word. -/
inductive Follows : List String → List Char → Prop where
  | blank {gap : List Char} (skips : Skips gap) : Follows [] gap
  | word {gap text : List Char} {word : String} {words : List String} (skips : Skips gap)
    (parted : gap ≠ []) (others : Follows words text) :
    Follows (word :: words) (gap ++ (word.toList ++ text))

/-- The text has these words and nothing else but blanks, at least one between
two words. -/
inductive LaidOut : List String → List Char → Prop where
  | blank {gap : List Char} (skips : Skips gap) : LaidOut [] gap
  | word {gap text : List Char} {word : String} {words : List String} (skips : Skips gap)
    (others : Follows words text) : LaidOut (word :: words) (gap ++ (word.toList ++ text))

variable {kind : TokenKind} {c : Char} {gap rest tail text : List Char} {words : List String}
  {tokens : List Token}

private theorem gap_starts (skips : Skips gap) (parted : gap ≠ []) (tail : List Char) :
    StartsBlank (gap ++ tail) := by
  obtain ⟨c, rest, rfl⟩ := List.exists_cons_of_ne_nil parted
  exact ⟨c, rest ++ tail, rfl, (skipped_iff c).mpr (skips c List.mem_cons_self)⟩

/-- Behind a word the text ends or goes on with a blank. -/
theorem follows_parted (follows : Follows words text) : text = [] ∨ StartsBlank text := by
  cases follows with
  | blank skips =>
    by_cases ends : text = []
    · exact .inl ends
    · have starts := gap_starts skips ends []
      rw [List.append_nil] at starts
      exact .inr starts
  | word skips parted others => exact .inr (gap_starts skips parted _)

/-- A text that a rule accepts is read as it is up to a blank: it is neither cut
short nor made longer. -/
theorem word_first (accepts : Accepts kind (c :: rest)) (parted : tail = [] ∨ StartsBlank tail) :
    first c (rest ++ tail) = (⟨.lexeme kind, c :: rest⟩, tail) := by
  have alone := accepts_alone accepts
  rcases parted with rfl | starts
  · rw [List.append_nil, alone]
  · have ink : isBlank c = false := piece_inked alone (by simp)
    have finished : Finished (first c rest) := by
      rw [alone]
      exact nofun
    rw [first_settled ink finished starts, alone, List.nil_append]

theorem word_spelling (accepts : Accepts kind text) (parted : tail = [] ∨ StartsBlank tail) :
    (lexFrom 0 [] (text ++ tail)).map spelling =
      (kind, String.ofList text) :: (lexFrom 0 [] tail).map spelling := by
  obtain ⟨c, rest, rfl⟩ := List.exists_cons_of_ne_nil (accepts_ne_nil accepts)
  rw [List.cons_append, lexeme_spelling (word_first accepts parted)]

theorem gap_spelling (skips : Skips gap) (text : List Char) :
    (lexFrom 0 [] (gap ++ text)).map spelling = (lexFrom 0 [] text).map spelling := by
  rw [lex_blanks fun c member => (skipped_iff c).mpr (skips c member), lex_from_spelling]

/-- One token and the blanks in front of it. -/
private theorem next_spelling {token : Token} (skips : Skips gap)
    (accepts : Accepts token.kind token.text.toList) (follows : Follows words text) :
    (lexFrom 0 [] (gap ++ (token.text.toList ++ text))).map spelling =
      spelling token :: (lexFrom 0 [] text).map spelling := by
  rw [gap_spelling skips, word_spelling accepts (follows_parted follows), String.ofList_toList]
  rfl

theorem follows_spelling (accepted : ∀ token ∈ tokens, Accepts token.kind token.text.toList)
    (follows : Follows (tokens.map Token.text) text) :
    (lexFrom 0 [] text).map spelling = tokens.map spelling := by
  induction tokens generalizing text with
  | nil =>
    cases follows with
    | blank skips =>
      have blanks := gap_spelling skips []
      rw [List.append_nil, lex_nil] at blanks
      exact blanks
  | cons token tokens ih =>
    obtain ⟨accepts, others⟩ := List.forall_mem_cons.mp accepted
    cases follows with
    | word skips parted behind =>
      rw [next_spelling skips accepts behind, ih others behind, List.map_cons]

/-- Tokens that rules accept are read back from any layout of their texts. -/
theorem laid_spelling (accepted : ∀ token ∈ tokens, Accepts token.kind token.text.toList)
    (laid : LaidOut (tokens.map Token.text) text) :
    (lexFrom 0 [] text).map spelling = tokens.map spelling := by
  cases tokens with
  | nil =>
    cases laid with
    | blank skips => exact follows_spelling accepted (.blank skips)
  | cons token tokens =>
    obtain ⟨accepts, others⟩ := List.forall_mem_cons.mp accepted
    cases laid with
    | word skips behind =>
      rw [next_spelling skips accepts behind, follows_spelling others behind, List.map_cons]

/-- Two sources with the same tokens but for their places have the same tree, or
the same fault at the same token. -/
theorem spelled_alike {source other : String}
    (same : (Token.lex source).map spelling = (Token.lex other).map spelling) :
    SameOutcome (SameIndex (Token.lex source) (Token.lex other)) Eq
      (parse source) (parse other) :=
  of_tokens_alike (same_tokens same)

/-- Blanks between the tokens of a source decide neither what they are nor what
is made of them. -/
theorem layout_is_irrelevant {source other : String}
    (accepted : ∀ token ∈ Token.lex source, token.kind ≠ .unexpected)
    (laid : LaidOut ((Token.lex source).map Token.text) other.toList) :
    (Token.lex other).map spelling = (Token.lex source).map spelling ∧
      SameOutcome (SameIndex (Token.lex source) (Token.lex other)) Eq
        (parse source) (parse other) ∧
      ∀ catalog, SameOutcome (SameIndex (Token.lex source) (Token.lex other)) Eq
        (typeSource catalog source) (typeSource catalog other) := by
  have spelled : (Token.lex other).map spelling = (Token.lex source).map spelling :=
    laid_spelling (fun token member => lexed_accepts member (accepted token member)) laid
  have alike := spelled_alike spelled.symm
  exact ⟨spelled, alike, fun catalog => same_map alike (typeEntities catalog)⟩

/-- The blank inside the data type is its own and stays; those around the other
tokens come and go. Either way the bracket is the one that is not closed. -/
theorem unclosed_group_is_laid_out :
    ∃ source other, source = "a||[<b c>?" ∧ other = "\ta || [\n<b c> ?" ∧
      parse source = .error ⟨.unclosedGroup, ⟨3, 4⟩⟩ ∧
      parse other = .error ⟨.unclosedGroup, ⟨6, 7⟩⟩ ∧
      (∀ token ∈ Token.lex source, token.kind ≠ .unexpected) ∧
      LaidOut ((Token.lex source).map Token.text) other.toList ∧
      (Token.lex other).map spelling = (Token.lex source).map spelling ∧
      SameOutcome (SameIndex (Token.lex source) (Token.lex other)) Eq
        (parse source) (parse other) ∧
      ∀ catalog, SameOutcome (SameIndex (Token.lex source) (Token.lex other)) Eq
        (typeSource catalog source) (typeSource catalog other) := by
  have texts : (Token.lex "a||[<b c>?").map Token.text = ["a", "||", "[", "<b c>", "?"] := by
    decide +kernel
  have accepted : ∀ token ∈ Token.lex "a||[<b c>?", token.kind ≠ .unexpected := by
    decide +kernel
  have blank : ∀ c ∈ skipped, Skips [c] := by
    simp [Skips]
  have next : ∀ c ∈ skipped, ∀ {word words text}, Follows words text →
      Follows (word :: words) (c :: (word.toList ++ text)) :=
    fun c among _ _ _ others => .word (blank c among) (List.cons_ne_nil c []) others
  have laid : LaidOut ((Token.lex "a||[<b c>?").map Token.text) "\ta || [\n<b c> ?".toList := by
    rw [texts]
    refine .word (blank '\t' (by decide)) ?_
    refine next ' ' (by decide) (next ' ' (by decide) ?_)
    exact next '\n' (by decide) (next ' ' (by decide) (.blank (by simp [Skips])))
  refine ⟨_, _, rfl, rfl, ?_, ?_, accepted, laid, layout_is_irrelevant accepted laid⟩
  · decide +kernel
  · decide +kernel

end ValueGrammar.Layout
