import ValueGrammar.Token

/-! A source text is cut into pieces, none of them empty, that join up to the
text again. Each piece is a run of blanks, the longest match of a lexical rule,
or a stray stretch: the longest run of characters, and at least one, that
begins some rule's match and cannot be finished. -/
namespace ValueGrammar

/-- What a piece of the source is to the lexer. -/
inductive Role where
  | blank
  | lexeme (kind : TokenKind)
  | stray
deriving DecidableEq, Repr

structure Piece where
  role : Role
  text : List Char
deriving DecidableEq, Repr

namespace Piece

/-- Space, tab, carriage return, line feed and form feed separate tokens. -/
def isBlank (c : Char) : Bool :=
  c = ' ' || c = '\t' || c = '\r' || c = '\n' || c = '\x0c'

/-- The characters that a lexical rule gives a meaning. -/
def delimiters : List Char :=
  ['<', '>', '(', ')', '[', ']', '&', '|', '*', '+', '?', '#', '!', '\x7b', '\x7d', '\x27']

/-- A keyword holds every character that is neither blank nor a delimiter. -/
def isKeywordChar (c : Char) : Bool := !isBlank c && !delimiters.contains c

def isNameStart (c : Char) : Bool := c.isAlpha || c = '_' || c = '-'

def isNameChar (c : Char) : Bool := c.isAlphanum || c = '_' || c = '-'

/-- A function name starts with a letter, an underscore or a hyphen, and goes
on with those and digits; all letters are ASCII. -/
def isName : List Char → Bool
  | [] => false
  | first :: rest => isNameStart first && rest.all isNameChar

/-- Whether a character may stand inside a data type. -/
def isAngledChar (c : Char) : Bool := c != '<' && c != '>'

/-- The piece after `<`: a data type, unless it is empty or not closed. -/
def angled (rest : List Char) : Piece × List Char :=
  let inner := rest.takeWhile isAngledChar
  match inner, rest.dropWhile isAngledChar with
  | _ :: _, '>' :: after => (⟨.lexeme .dataType, '<' :: inner ++ ['>']⟩, after)
  | _, after => (⟨.stray, '<' :: inner⟩, after)

/-- The piece after a single quote: everything up to the next one. -/
def quoted (rest : List Char) : Piece × List Char :=
  let inner := rest.takeWhile (· != '\x27')
  match rest.dropWhile (· != '\x27') with
  | '\x27' :: after => (⟨.lexeme .quotedKeyword, '\x27' :: inner ++ ['\x27']⟩, after)
  | after => (⟨.stray, '\x27' :: inner⟩, after)

/-- The piece after `{`: digits, then perhaps a comma and more digits, then `}`. -/
def braced (rest : List Char) : Piece × List Char :=
  let low := rest.takeWhile Char.isDigit
  match low, rest.dropWhile Char.isDigit with
  | _ :: _, '\x7d' :: after => (⟨.lexeme .curlyRange, '\x7b' :: low ++ ['\x7d']⟩, after)
  | _ :: _, ',' :: more =>
    let high := more.takeWhile Char.isDigit
    match more.dropWhile Char.isDigit with
    | '\x7d' :: after =>
      (⟨.lexeme .curlyRange, '\x7b' :: low ++ ',' :: high ++ ['\x7d']⟩, after)
    | after => (⟨.stray, '\x7b' :: low ++ ',' :: high⟩, after)
  | _, after => (⟨.stray, '\x7b' :: low⟩, after)

/-- The piece at a keyword character: the whole run of them, which opens a
function if it is a name and a parenthesis follows. -/
def word (first : Char) (rest : List Char) : Piece × List Char :=
  let run := first :: rest.takeWhile isKeywordChar
  match rest.dropWhile isKeywordChar with
  | '(' :: after =>
    if isName run then (⟨.lexeme .functionOpen, run ++ ['(']⟩, after)
    else (⟨.lexeme .keyword, run⟩, '(' :: after)
  | after => (⟨.lexeme .keyword, run⟩, after)

/-- A piece of one character. -/
def single (kind : TokenKind) (c : Char) (rest : List Char) : Piece × List Char :=
  (⟨.lexeme kind, [c]⟩, rest)

/-- The first piece of a text that is not empty, and what follows it. -/
def first (c : Char) (rest : List Char) : Piece × List Char :=
  if isBlank c then (⟨.blank, c :: rest.takeWhile isBlank⟩, rest.dropWhile isBlank)
  else match c with
    | '<' => angled rest
    | '\x27' => quoted rest
    | '\x7b' => braced rest
    | '(' => single .parenOpen c rest
    | ')' => single .parenClose c rest
    | '[' => single .bracketOpen c rest
    | ']' => single .bracketClose c rest
    | '*' => single .asterisk c rest
    | '+' => single .plusSign c rest
    | '?' => single .questionMark c rest
    | '#' => single .hashMark c rest
    | '!' => single .exclamationPoint c rest
    | '&' =>
      match rest with
      | '&' :: after => (⟨.lexeme .doubleAmpersand, ['&', '&']⟩, after)
      | _ => (⟨.stray, ['&']⟩, rest)
    | '|' =>
      match rest with
      | '|' :: after => (⟨.lexeme .doubleBar, ['|', '|']⟩, after)
      | _ => single .singleBar c rest
    | '>' => (⟨.stray, [c]⟩, rest)
    | '\x7d' => (⟨.stray, [c]⟩, rest)
    | _ => word c rest

private theorem run_append {p : Char → Bool} {text tail : List Char} {c : Char}
    (stops : text.dropWhile p = c :: tail) : text.takeWhile p ++ c :: tail = text := by
  rw [← stops, List.takeWhile_append_dropWhile]

private theorem angled_append (rest : List Char) :
    (angled rest).1.text ++ (angled rest).2 = '<' :: rest := by
  unfold angled
  dsimp only
  split
  · rename_i stops
    simp [run_append stops]
  · simp [List.takeWhile_append_dropWhile]

private theorem quoted_append (rest : List Char) :
    (quoted rest).1.text ++ (quoted rest).2 = '\x27' :: rest := by
  unfold quoted
  dsimp only
  split
  · rename_i stops
    simp [run_append stops]
  · simp [List.takeWhile_append_dropWhile]

private theorem braced_append (rest : List Char) :
    (braced rest).1.text ++ (braced rest).2 = '\x7b' :: rest := by
  unfold braced
  dsimp only
  split
  · rename_i stops
    simp [run_append stops]
  · rename_i stops
    split
    · rename_i ends
      simp [run_append ends, run_append stops]
    · simp [List.takeWhile_append_dropWhile, run_append stops]
  · simp [List.takeWhile_append_dropWhile]

private theorem word_append (c : Char) (rest : List Char) :
    (word c rest).1.text ++ (word c rest).2 = c :: rest := by
  unfold word
  dsimp only
  split
  · rename_i stops
    split <;> simp [run_append stops]
  · simp [List.takeWhile_append_dropWhile]

/-- The first piece and the rest make up the text. -/
theorem first_append (c : Char) (rest : List Char) :
    (first c rest).1.text ++ (first c rest).2 = c :: rest := by
  unfold first
  split
  · simp [List.takeWhile_append_dropWhile]
  · split
    · exact angled_append rest
    · exact quoted_append rest
    · exact braced_append rest
    all_goals try rfl
    · split <;> rfl
    · split <;> rfl
    · exact word_append c rest

/-- A piece starts with the first character of the text, so none is empty. -/
theorem first_text_ne_nil (c : Char) (rest : List Char) : (first c rest).1.text ≠ [] := by
  unfold first
  split
  · simp
  · split
    · unfold angled; dsimp only; split <;> simp
    · unfold quoted; dsimp only; split <;> simp
    · unfold braced; dsimp only; split
      · simp
      · split <;> simp
      · simp
    all_goals try exact List.cons_ne_nil _ _
    · split <;> simp
    · split <;> simp [single]
    · unfold word; dsimp only; split
      · split <;> simp
      · simp

theorem first_rest_length (c : Char) (rest : List Char) :
    (first c rest).2.length < (c :: rest).length := by
  have whole := congrArg List.length (first_append c rest)
  have filled := List.length_pos_iff.mpr (first_text_ne_nil c rest)
  rw [List.length_append] at whole
  omega

/-- Cuts a text into its pieces. -/
def split : List Char → List Piece
  | [] => []
  | c :: rest => (first c rest).1 :: split (first c rest).2
termination_by text => text.length
decreasing_by exact first_rest_length c rest

/-- The pieces of a text join up to it: nothing is lost and nothing is added. -/
theorem split_flatMap_text (text : List Char) : (split text).flatMap Piece.text = text := by
  fun_induction split text with
  | case1 => rfl
  | case2 c rest ih => rw [List.flatMap_cons, ih, first_append]

end Piece
end ValueGrammar
