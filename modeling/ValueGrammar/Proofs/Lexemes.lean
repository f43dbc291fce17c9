import ValueGrammar.Proofs.Runs
import ValueGrammar.Token.Piece

/-! Texts that are one lexeme whatever follows them. They end in a character
that finishes the rule, so nothing behind it can be a part of the match. -/
namespace ValueGrammar.Lexemes
open Piece Runs

variable {name inner low high : List Char} {c : Char}

/-- The text is a lexeme of this kind in front of any other text. -/
def Closed (kind : TokenKind) (text : List Char) : Prop :=
  ∃ c rest, text = c :: rest ∧
    ∀ after, first c (rest ++ after) = (⟨.lexeme kind, text⟩, after)

/-- A text between single quotes, with none inside, is a quoted keyword. -/
theorem quoted_closed (unquoted : ∀ c ∈ inner, c ≠ '\x27') :
    Closed .quotedKeyword ('\x27' :: inner ++ ['\x27']) := by
  have inside : ∀ c ∈ inner, (c != '\x27') = true := by
    intro c member
    simpa using unquoted c member
  refine ⟨'\x27', inner ++ ['\x27'], rfl, fun after => ?_⟩
  have stops : Stops (· != '\x27') ('\x27' :: after) := stops_cons rfl
  rw [List.append_assoc]
  change quoted (inner ++ '\x27' :: after) = _
  unfold quoted
  simp only [run_taken inside stops, run_dropped inside stops]

/-- A text between angle brackets, with none inside, is a data type. -/
theorem angled_closed (filled : inner ≠ []) (plain : ∀ c ∈ inner, c ≠ '<' ∧ c ≠ '>') :
    Closed .dataType ('<' :: inner ++ ['>']) := by
  have inside : ∀ c ∈ inner, isAngledChar c = true := by
    intro c member
    simpa [isAngledChar] using plain c member
  refine ⟨'<', inner ++ ['>'], rfl, fun after => ?_⟩
  have stops : Stops isAngledChar ('>' :: after) := stops_cons rfl
  rw [List.append_assoc]
  change angled (inner ++ '>' :: after) = _
  unfold angled
  simp only [run_taken inside stops, run_dropped inside stops]
  cases inner with
  | nil => exact absurd rfl filled
  | cons c inner => rfl

/-- Digits between braces are a curly range. -/
theorem count_closed (filled : low ≠ []) (decimal : ∀ c ∈ low, c.isDigit = true) :
    Closed .curlyRange ('\x7b' :: low ++ ['\x7d']) := by
  refine ⟨'\x7b', low ++ ['\x7d'], rfl, fun after => ?_⟩
  have stops : Stops Char.isDigit ('\x7d' :: after) := stops_cons rfl
  rw [List.append_assoc]
  change braced (low ++ '\x7d' :: after) = _
  unfold braced
  simp only [run_taken decimal stops, run_dropped decimal stops]
  cases low with
  | nil => exact absurd rfl filled
  | cons c low => rfl

/-- Digits, a comma and perhaps more digits between braces are a curly range. -/
theorem bounds_closed (filled : low ≠ []) (decimal : ∀ c ∈ low, c.isDigit = true)
    (decimal' : ∀ c ∈ high, c.isDigit = true) :
    Closed .curlyRange ('\x7b' :: low ++ ',' :: high ++ ['\x7d']) := by
  refine ⟨'\x7b', low ++ ',' :: high ++ ['\x7d'], by simp, fun after => ?_⟩
  have stops : Stops Char.isDigit (',' :: (high ++ '\x7d' :: after)) := stops_cons rfl
  have stops' : Stops Char.isDigit ('\x7d' :: after) := stops_cons rfl
  rw [List.append_assoc, List.append_assoc]
  change braced (low ++ ',' :: (high ++ '\x7d' :: after)) = _
  unfold braced
  simp only [run_taken decimal stops, run_dropped decimal stops]
  cases low with
  | nil => exact absurd rfl filled
  | cons c low =>
    simp only [run_taken decimal' stops', run_dropped decimal' stops']

/-- The characters of a name have no meaning of their own. -/
theorem name_char_keyword (named : isNameChar c = true) : isKeywordChar c = true := by
  have blanks : [' ', '\t', '\r', '\n', '\x0c'].all (!isNameChar ·) = true := rfl
  have meant : delimiters.all (!isNameChar ·) = true := rfl
  rw [List.all_eq_true] at blanks meant
  unfold isKeywordChar
  cases blank : isBlank c with
  | true =>
    have other := blanks c (by simpa [isBlank, or_assoc] using blank)
    rw [named] at other
    cases other
  | false =>
    cases delimits : delimiters.contains c with
    | true =>
      have other := meant c (by simpa using delimits)
      rw [named] at other
      cases other
    | false => rfl

/-- A character without a meaning of its own starts a word. -/
theorem first_word (plain : isKeywordChar c = true) (rest : List Char) :
    first c rest = word c rest := by
  have ink : isBlank c = false := by
    simp only [isKeywordChar, Bool.and_eq_true, Bool.not_eq_true'] at plain
    exact plain.1
  unfold first
  simp only [ink, Bool.false_eq_true, if_false]
  split
  all_goals first | rfl | exact absurd plain (by decide)

private theorem name_start_char (starts : isNameStart c = true) : isNameChar c = true := by
  simp only [isNameStart, isNameChar, Char.isAlphanum, Bool.or_eq_true] at starts ⊢
  rcases starts with (letter | line) | hyphen
  · exact .inl (.inl (.inl letter))
  · exact .inl (.inr line)
  · exact .inr hyphen

/-- A name with the parenthesis behind it opens a function. -/
theorem function_closed (named : isName name = true) :
    Closed .functionOpen (name ++ ['(']) := by
  cases name with
  | nil => cases named
  | cons c rest =>
    have chars := named
    simp only [isName, Bool.and_eq_true, List.all_eq_true] at chars
    have plain := name_char_keyword (name_start_char chars.1)
    have inside : ∀ d ∈ rest, isKeywordChar d = true := fun d member =>
      name_char_keyword (chars.2 d member)
    refine ⟨c, rest ++ ['('], rfl, fun after => ?_⟩
    have stops : Stops isKeywordChar ('(' :: after) := stops_cons (by decide)
    rw [first_word plain, List.append_assoc]
    change word c (rest ++ '(' :: after) = _
    unfold word
    simp only [run_taken inside stops, run_dropped inside stops, named, if_true]

end ValueGrammar.Lexemes
