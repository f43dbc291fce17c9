import ValueGrammar.Proofs.Runs
import ValueGrammar.Token.Lexer

/-! Lexing from left to right. A blank behind a text cannot change a token of
it, unless the text ends in a stretch that is no token; the tokens of a text with
a blank in it are those before the blank and those behind it. -/
namespace ValueGrammar.Lexing
open Text Token Piece Runs

variable {c : Char} {rest after tail stray run lexeme source : List Char} {sort : TokenKind}

/-- The tokens of a stray stretch at this offset and of the text behind it. -/
def lexFrom (start : Nat) (stray source : List Char) : List Token :=
  ofPieces start stray (split source)

/-- The text goes on with a blank. -/
def StartsBlank (tail : List Char) : Prop := ∃ c rest, tail = c :: rest ∧ isBlank c = true

/-- The piece is a lexeme, or else the text goes on behind it. -/
def Finished (piece : Piece × List Char) : Prop := piece.1.role = .stray → piece.2 ≠ []

private theorem blank_cases (blank : isBlank c = true) :
    c = ' ' ∨ c = '\t' ∨ c = '\r' ∨ c = '\n' ∨ c = '\x0c' := by
  simpa [isBlank, or_assoc] using blank

private theorem blank_stops {p : Char → Bool} (starts : StartsBlank tail)
    (outside : ∀ c, isBlank c = true → p c = false) : Stops p tail := by
  obtain ⟨c, rest, rfl, blank⟩ := starts
  exact stops_cons (outside c blank)

private theorem blank_not_keyword (c : Char) (blank : isBlank c = true) :
    isKeywordChar c = false := by
  simp [isKeywordChar, blank]

private theorem angled_settled (finished : Finished (angled rest)) :
    angled (rest ++ tail) = ((angled rest).1, (angled rest).2 ++ tail) := by
  have ends : rest.dropWhile isAngledChar ≠ [] := by
    intro runs
    simp [Finished, angled, runs] at finished
  unfold angled
  rw [run_taken_append (.inl ends), run_dropped_append (.inl ends)]
  cases stops : rest.dropWhile isAngledChar with
  | nil => exact absurd stops ends
  | cons c after =>
    cases rest.takeWhile isAngledChar with
    | nil => rfl
    | cons first inner =>
      by_cases closes : c = '>'
      · subst closes
        rfl
      · simp [closes]

private theorem quoted_settled (finished : Finished (quoted rest)) :
    quoted (rest ++ tail) = ((quoted rest).1, (quoted rest).2 ++ tail) := by
  have ends : rest.dropWhile (· != '\x27') ≠ [] := by
    intro runs
    simp [Finished, quoted, runs] at finished
  unfold quoted
  rw [run_taken_append (.inl ends), run_dropped_append (.inl ends)]
  cases stops : rest.dropWhile (· != '\x27') with
  | nil => exact absurd stops ends
  | cons c after =>
    obtain rfl : c = '\x27' := by simpa using run_ends stops
    rfl

private theorem word_settled (starts : StartsBlank tail) (c : Char) (rest : List Char) :
    word c (rest ++ tail) = ((word c rest).1, (word c rest).2 ++ tail) := by
  have ends : rest.dropWhile isKeywordChar ≠ [] ∨ Stops isKeywordChar tail :=
    .inr (blank_stops starts blank_not_keyword)
  unfold word
  rw [run_taken_append ends, run_dropped_append ends]
  cases rest.dropWhile isKeywordChar with
  | nil =>
    obtain ⟨first, more, rfl, blank⟩ := starts
    rcases blank_cases blank with rfl | rfl | rfl | rfl | rfl <;> rfl
  | cons first after =>
    by_cases opens : first = '('
    · subst opens
      simp only [List.cons_append]
      split <;> rfl
    · simp [opens]

private theorem braced_settled (finished : Finished (braced rest)) :
    braced (rest ++ tail) = ((braced rest).1, (braced rest).2 ++ tail) := by
  have ends : rest.dropWhile Char.isDigit ≠ [] := by
    intro runs
    simp [Finished, braced, runs] at finished
  unfold braced
  rw [run_taken_append (.inl ends), run_dropped_append (.inl ends)]
  cases stops : rest.dropWhile Char.isDigit with
  | nil => exact absurd stops ends
  | cons c after =>
    cases low : rest.takeWhile Char.isDigit with
    | nil => rfl
    | cons first digits =>
      by_cases closes : c = '\x7d'
      · subst closes
        rfl
      by_cases separates : c = ','
      · subst separates
        have ends : after.dropWhile Char.isDigit ≠ [] := by
          intro runs
          simp [Finished, braced, stops, low, runs] at finished
        simp only [List.cons_append]
        rw [run_taken_append (.inl ends), run_dropped_append (.inl ends)]
        cases highStops : after.dropWhile Char.isDigit with
        | nil => exact absurd highStops ends
        | cons d behind =>
          by_cases closes : d = '\x7d'
          · subst closes
            rfl
          · simp [closes]
      · simp [closes, separates]

/-- What stands behind a blank cannot change the first piece of a text, unless
the whole text is a stretch that no rule accepts. -/
theorem first_settled (ink : isBlank c = false) (finished : Finished (first c rest))
    (starts : StartsBlank tail) :
    first c (rest ++ tail) = ((first c rest).1, (first c rest).2 ++ tail) := by
  unfold Finished at finished
  unfold first at finished ⊢
  simp only [ink, Bool.false_eq_true, if_false] at finished ⊢
  split
  · exact angled_settled finished
  · exact quoted_settled finished
  · exact braced_settled finished
  all_goals try rfl
  · cases rest with
    | nil => simp at finished
    | cons d after =>
      by_cases pairs : d = '&'
      · subst pairs
        rfl
      · simp [pairs]
  · cases rest with
    | nil =>
      obtain ⟨d, more, rfl, blank⟩ := starts
      rcases blank_cases blank with rfl | rfl | rfl | rfl | rfl <;> rfl
    | cons d after =>
      by_cases pairs : d = '|'
      · subst pairs
        rfl
      · simp [pairs, single]
  · exact word_settled starts c rest

/-- At the end of a text only a stray stretch in front of it is left. -/
theorem lex_end (start : Nat) (stray : List Char) :
    lexFrom start stray [] = ofStray start stray := by
  simp [lexFrom, Piece.split, ofPieces]

theorem lex_nil (start : Nat) : lexFrom start [] [] = [] := lex_end start []

theorem byte_length_append (left right : List Char) :
    byteLength (left ++ right) = byteLength left + byteLength right := by
  induction left with
  | nil => exact (Nat.zero_add _).symm
  | cons c left ih =>
    change c.utf8Size + byteLength (left ++ right) = c.utf8Size + byteLength left + _
    rw [ih, Nat.add_assoc]

theorem first_blank (blank : isBlank c = true) (rest : List Char) :
    first c rest = (⟨.blank, c :: rest.takeWhile isBlank⟩, rest.dropWhile isBlank) := by
  unfold first
  rw [if_pos blank]

/-- A piece that starts with a blank holds blanks only. -/
theorem first_blanks (blank : isBlank c = true) (rest : List Char) :
    ∀ d ∈ (first c rest).1.text, isBlank d = true := by
  rw [first_blank blank]
  intro d member
  rcases List.mem_cons.mp member with rfl | member
  · exact blank
  · exact List.mem_takeWhile_imp member

private theorem split_blank (blank : isBlank c = true) (rest : List Char) :
    split (c :: rest) = ⟨.blank, c :: rest.takeWhile isBlank⟩ :: split (rest.dropWhile isBlank) := by
  rw [Piece.split, first_blank blank]

/-- A blank between tokens is passed over. -/
theorem lex_blank (blank : isBlank c = true) (start : Nat) (rest : List Char) :
    lexFrom start [] (c :: rest) = lexFrom (start + c.utf8Size) [] rest := by
  unfold lexFrom
  rw [split_blank blank]
  cases rest with
  | nil => rfl
  | cons d after =>
    by_cases more : isBlank d = true
    · rw [split_blank more, List.takeWhile_cons_of_pos more, List.dropWhile_cons_of_pos more]
      simp only [ofPieces, List.isEmpty_nil, if_true, byteLength, List.foldr_cons, Nat.add_assoc]
    · rw [List.takeWhile_cons_of_neg more, List.dropWhile_cons_of_neg more]
      rfl

private theorem lex_stray_blank (blank : isBlank c = true) (filled : stray ≠ []) (start : Nat)
    (rest : List Char) :
    lexFrom start stray (c :: rest) = lexFrom start (stray ++ [c]) rest := by
  unfold lexFrom
  rw [split_blank blank]
  cases rest with
  | nil => simp [ofPieces, split, filled]
  | cons d after =>
    by_cases more : isBlank d = true
    · rw [split_blank more, List.takeWhile_cons_of_pos more, List.dropWhile_cons_of_pos more]
      simp [ofPieces, filled]
    · rw [List.takeWhile_cons_of_neg more, List.dropWhile_cons_of_neg more]
      simp [ofPieces, filled]

/-- Blanks between tokens are passed over. -/
theorem lex_blanks (blanks : ∀ c ∈ run, isBlank c = true) (start : Nat) (rest : List Char) :
    lexFrom start [] (run ++ rest) = lexFrom (start + byteLength run) [] rest := by
  induction run generalizing start with
  | nil => rfl
  | cons c run ih =>
    rw [List.cons_append, lex_blank (blanks c List.mem_cons_self),
      ih (fun d member => blanks d (List.mem_cons_of_mem c member)), Nat.add_assoc]
    rfl

/-- Blanks behind a stray stretch belong to it. -/
theorem lex_stray_blanks (blanks : ∀ c ∈ run, isBlank c = true) (filled : stray ≠ [])
    (start : Nat) (rest : List Char) :
    lexFrom start stray (run ++ rest) = lexFrom start (stray ++ run) rest := by
  induction run generalizing stray with
  | nil => simp
  | cons c run ih =>
    rw [List.cons_append, lex_stray_blank (blanks c List.mem_cons_self) filled,
      ih (fun d member => blanks d (List.mem_cons_of_mem c member)) (by simp), List.append_assoc]
    rfl

/-- A stray piece lengthens the stray stretch in front of it. -/
theorem lex_stray (piece : first c rest = (⟨.stray, lexeme⟩, after)) (start : Nat) :
    lexFrom start stray (c :: rest) = lexFrom start (stray ++ lexeme) after := by
  unfold lexFrom
  rw [Piece.split, piece]
  rfl

/-- A lexeme ends the stray stretch in front of it and is a token itself. -/
theorem lex_lexeme (piece : first c rest = (⟨.lexeme sort, lexeme⟩, after)) (start : Nat) :
    lexFrom start stray (c :: rest) =
      ofStray start stray ++
        ⟨sort, String.ofList lexeme,
          ⟨start + byteLength stray, start + byteLength stray + byteLength lexeme⟩⟩ ::
        lexFrom (start + byteLength stray + byteLength lexeme) [] after := by
  unfold lexFrom
  rw [Piece.split, piece]
  rfl

/-- A piece that starts with any other character is no blank. -/
theorem first_inked (ink : isBlank c = false) (rest : List Char) :
    (first c rest).1.role ≠ .blank := by
  unfold first
  simp only [ink, Bool.false_eq_true, if_false]
  split
  · unfold angled; dsimp only; split <;> simp
  · unfold quoted; dsimp only; split <;> simp
  · unfold braced; dsimp only; split
    · simp
    · split <;> simp
    · simp
  all_goals try simp [single]
  · split <;> simp
  · split <;> simp
  · unfold word; dsimp only; split
    · split <;> simp
    · simp

theorem piece_append {role : Role} (piece : first c rest = (⟨role, lexeme⟩, after)) :
    lexeme ++ after = c :: rest := by
  have whole := first_append c rest
  rw [piece] at whole
  exact whole

theorem piece_filled {role : Role} (piece : first c rest = (⟨role, lexeme⟩, after)) :
    lexeme ≠ [] := by
  have filled := first_text_ne_nil c rest
  rw [piece] at filled
  exact filled

/-- A piece that is no blank starts with a character that is none. -/
theorem piece_inked {role : Role} (piece : first c rest = (⟨role, lexeme⟩, after))
    (inked : role ≠ .blank) : isBlank c = false := by
  rw [Bool.eq_false_iff]
  intro blank
  rw [first_blank blank] at piece
  cases piece
  exact inked rfl

/-- Lexing takes a text piece by piece: blanks, which a stray stretch in front of
them takes in, stray pieces, which lengthen it, and lexemes, which end it. -/
theorem lexing_induction {motive : Nat → List Char → List Char → Prop}
    (ends : ∀ start stray, motive start stray [])
    (blanks : ∀ start run rest, (∀ c ∈ run, isBlank c = true) →
      motive (start + byteLength run) [] rest → motive start [] (run ++ rest))
    (trailing : ∀ start stray run rest, (∀ c ∈ run, isBlank c = true) → stray ≠ [] →
      motive start (stray ++ run) rest → motive start stray (run ++ rest))
    (strays : ∀ start stray c rest lexeme after, first c rest = (⟨.stray, lexeme⟩, after) →
      motive start (stray ++ lexeme) after → motive start stray (c :: rest))
    (lexemes : ∀ start stray c rest sort lexeme after,
      first c rest = (⟨.lexeme sort, lexeme⟩, after) →
      motive (start + byteLength stray + byteLength lexeme) [] after →
      motive start stray (c :: rest))
    (start : Nat) (stray source : List Char) : motive start stray source := by
  fun_induction Piece.split source generalizing start stray with
  | case1 => exact ends start stray
  | case2 c rest ih =>
    by_cases blank : isBlank c = true
    · have run := first_blanks blank rest
      rw [← first_append c rest]
      by_cases clean : stray = []
      · subst clean
        exact blanks start _ _ run (ih _ [])
      · exact trailing start stray _ _ run clean (ih start _)
    · rcases piece : first c rest with ⟨⟨role, lexeme⟩, after⟩
      rw [piece] at ih
      cases role with
      | blank => exact absurd (by rw [piece]) (first_inked (by simpa using blank) rest)
      | stray => exact strays start stray c rest lexeme after piece (ih start _)
      | lexeme sort => exact lexemes start stray c rest sort lexeme after piece (ih _ [])

/-- The last of the tokens, if there are any, is one that some rule accepts. -/
def Settled (tokens : List Token) : Prop :=
  ∀ token, tokens.getLast? = some token → token.kind ≠ .unexpected

private theorem settled_tail {before after : List Token} {token : Token}
    (settled : Settled (before ++ token :: after)) : Settled after := by
  intro last ends
  refine settled last ?_
  rw [List.getLast?_append, List.getLast?_cons, ends]
  rfl

private theorem stray_unsettled (filled : stray ≠ []) (start : Nat) :
    ¬ Settled (lexFrom start stray []) := by
  intro settled
  refine settled ⟨.unexpected, String.ofList stray, ⟨start, start + byteLength stray⟩⟩ ?_ rfl
  simp [lex_end, ofStray, filled]

/-- Behind a text that does not end in a stray stretch, the tokens of what a
blank sets apart are those that it has by itself. -/
theorem lex_append (settled : Settled (lexFrom start stray source)) (starts : StartsBlank tail) :
    lexFrom start stray (source ++ tail) =
      lexFrom start stray source ++
        lexFrom (start + byteLength stray + byteLength source) [] tail := by
  induction start, stray, source using lexing_induction with
  | ends start stray =>
    by_cases clean : stray = []
    · subst clean
      simp [lex_nil, byteLength]
    · exact absurd settled (stray_unsettled clean start)
  -- Blanks at the end of the text join those behind it, so they are taken one by one.
  | blanks start run rest blank ih =>
    rw [lex_blanks blank] at settled ⊢
    rw [List.append_assoc, lex_blanks blank, ih settled, byte_length_append]
    simp [byteLength, Nat.add_assoc]
  | trailing start stray run rest blank filled ih =>
    rw [lex_stray_blanks blank filled] at settled ⊢
    rw [List.append_assoc, lex_stray_blanks blank filled, ih settled, byte_length_append,
      byte_length_append]
    simp only [Nat.add_assoc]
  | strays start stray c rest lexeme after piece ih =>
    rw [lex_stray piece] at settled ⊢
    -- A stray stretch up to the end could still be finished behind it, but is refused.
    have finished : Finished (first c rest) := by
      rw [piece]
      rintro - rfl
      exact stray_unsettled (by simp [piece_filled piece]) start settled
    have extended := first_settled (piece_inked piece (by simp)) finished starts
    rw [piece] at extended
    rw [List.cons_append, lex_stray extended, ih settled, ← piece_append piece,
      byte_length_append, byte_length_append]
    simp only [Nat.add_assoc]
  | lexemes start stray c rest sort lexeme after piece ih =>
    rw [lex_lexeme piece] at settled ⊢
    have finished : Finished (first c rest) := by
      rw [piece]
      exact nofun
    have extended := first_settled (piece_inked piece (by simp)) finished starts
    rw [piece] at extended
    rw [List.cons_append, lex_lexeme extended, ih (settled_tail settled), ← piece_append piece,
      byte_length_append]
    simp [byteLength, Nat.add_assoc]

/-- The same token, this many bytes further on. -/
def shifted (distance : Nat) (token : Token) : Token :=
  { token with span := ⟨distance + token.span.start, distance + token.span.stop⟩ }

private theorem stray_shift (distance start : Nat) (stray : List Char) :
    ofStray (distance + start) stray = (ofStray start stray).map (shifted distance) := by
  unfold ofStray
  split <;> simp [shifted, Nat.add_assoc]

private theorem pieces_shift (distance start : Nat) (stray : List Char) (pieces : List Piece) :
    ofPieces (distance + start) stray pieces =
      (ofPieces start stray pieces).map (shifted distance) := by
  induction pieces generalizing start stray with
  | nil => exact stray_shift distance start stray
  | cons piece pieces ih =>
    rcases piece with ⟨_ | sort | _, lexeme⟩
    · unfold ofPieces
      split
      · rw [Nat.add_assoc, ih]
      · exact ih start _
    · unfold ofPieces
      simp only [Nat.add_assoc, List.map_append, List.map_cons, stray_shift, ih]
      simp [shifted]
    · exact ih start _

/-- What a text is preceded by has no influence on its tokens but for their places. -/
theorem lex_shift (distance : Nat) (source : List Char) :
    lexFrom distance [] source = (lexFrom 0 [] source).map (shifted distance) :=
  pieces_shift distance 0 [] (Piece.split source)

/-- A space between two sources parts their tokens. -/
theorem lex_space (settled : Settled (lex left)) (right : String) :
    ∃ distance,
      lex (left ++ " " ++ right) = lex left ++ lexFrom distance [] right.toList := by
  have starts : StartsBlank (' ' :: right.toList) := ⟨' ', right.toList, rfl, rfl⟩
  have ready : Settled (lexFrom 0 [] left.toList) := settled
  have whole := lex_append ready starts
  rw [lex_blank rfl] at whole
  refine ⟨_, Eq.trans ?_ whole⟩
  simp [lex, lexFrom]

end ValueGrammar.Lexing
