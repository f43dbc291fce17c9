import ValueGrammar.Proofs.Lexing
import ValueGrammar.Proofs.Rules

/-! Lexing by longest match. Every token is the longest text at its place that
any rule accepts, and a stretch that is no token starts where no rule accepts
anything. -/
namespace ValueGrammar.LongestMatch
open Text Piece Runs Lexemes Lexing Rules

variable {kind sort : TokenKind} {token : Token} {c : Char}
  {rest lexeme after tail stray done source : List Char}

theorem angled_run (text : List Char) :
    ∀ c ∈ text.takeWhile isAngledChar, c ≠ '<' ∧ c ≠ '>' := by
  intro c member
  simpa [isAngledChar] using List.mem_takeWhile_imp member

theorem quoted_run (text : List Char) : ∀ c ∈ text.takeWhile (· != '\x27'), c ≠ '\x27' := by
  intro c member
  simpa using List.mem_takeWhile_imp member

theorem digits_run (text : List Char) :
    ∀ c ∈ text.takeWhile Char.isDigit, Decimal c := by
  intro c member
  exact (decimal_iff c).mp (List.mem_takeWhile_imp member)

private theorem angled_accepts (role : (angled rest).1.role = .lexeme kind) :
    Accepts kind (angled rest).1.text := by
  unfold angled at role ⊢
  dsimp only at role ⊢
  split at role
  · rename_i filled _
    cases role
    exact .dataType (by simp [filled]) (angled_run rest)
  · cases role

private theorem quoted_accepts (role : (quoted rest).1.role = .lexeme kind) :
    Accepts kind (quoted rest).1.text := by
  unfold quoted at role ⊢
  dsimp only at role ⊢
  split at role
  · cases role
    exact .quotedKeyword (quoted_run rest)
  · cases role

private theorem braced_accepts (role : (braced rest).1.role = .lexeme kind) :
    Accepts kind (braced rest).1.text := by
  unfold braced at role ⊢
  dsimp only at role ⊢
  split at role
  · rename_i taken _
    cases role
    exact .count (by simp [taken]) (digits_run rest)
  · rename_i more taken _
    split at role
    · cases role
      exact .bounds (by simp [taken]) (digits_run rest) (digits_run more)
    · cases role
  · cases role

private theorem word_accepts (plain : isKeywordChar c = true)
    (role : (word c rest).1.role = .lexeme kind) : Accepts kind (word c rest).1.text := by
  have run : ∀ d ∈ c :: rest.takeWhile isKeywordChar, d ∉ reserved := by
    intro d member
    rw [← keyword_char_iff]
    rcases List.mem_cons.mp member with rfl | member
    · exact plain
    · exact List.mem_takeWhile_imp member
  unfold word at role ⊢
  dsimp only at role ⊢
  split at role
  · split at role
    · rename_i named
      cases role
      obtain ⟨starts, others⟩ := name_cons_iff.mp named
      simp only [named, if_true]
      exact .functionOpen starts others
    · rename_i other
      cases role
      simp only [other]
      exact .keyword (List.cons_ne_nil _ _) run
  · cases role
    exact .keyword (List.cons_ne_nil _ _) run

/-- One ampersand is no lexeme. -/
theorem ampersand_cases (rest : List Char) :
    (∃ after, first '&' rest = (⟨.lexeme .doubleAmpersand, ['&', '&']⟩, after)) ∨
      first '&' rest = (⟨.stray, ['&']⟩, rest) := by
  cases rest with
  | nil => exact .inr rfl
  | cons d after =>
    by_cases pairs : d = '&'
    · subst pairs
      exact .inl ⟨after, rfl⟩
    · exact .inr (by simp [first, isBlank, pairs])

/-- One bar is a lexeme, and so are two. -/
theorem bar_cases (rest : List Char) :
    (∃ after, first '|' rest = (⟨.lexeme .doubleBar, ['|', '|']⟩, after)) ∨
      first '|' rest = (⟨.lexeme .singleBar, ['|']⟩, rest) := by
  cases rest with
  | nil => exact .inr rfl
  | cons d after =>
    by_cases pairs : d = '|'
    · subst pairs
      exact .inl ⟨after, rfl⟩
    · exact .inr (by simp [first, isBlank, single, pairs])

/-- A lexeme is a text of the rule that it is named for. -/
theorem first_accepts (role : (first c rest).1.role = .lexeme kind) :
    Accepts kind (first c rest).1.text := by
  by_cases blank : isBlank c = true
  · rw [first_blank blank] at role
    cases role
  by_cases plain : isKeywordChar c = true
  · rw [first_word plain] at role ⊢
    exact word_accepts plain role
  have meant : c ∈ delimiters := by
    simpa [isKeywordChar, blank] using plain
  simp only [delimiters, List.mem_cons, List.not_mem_nil, or_false] at meant
  rcases meant with rfl | rfl | rfl | rfl | rfl | rfl | rfl | rfl | rfl | rfl | rfl | rfl | rfl |
    rfl | rfl | rfl
  · exact angled_accepts role
  · cases role
  · cases role; exact .parenOpen
  · cases role; exact .parenClose
  · cases role; exact .bracketOpen
  · cases role; exact .bracketClose
  · rcases ampersand_cases rest with ⟨after, piece⟩ | piece
    · rw [piece] at role ⊢
      cases role
      exact .doubleAmpersand
    · rw [piece] at role
      cases role
  · rcases bar_cases rest with ⟨after, piece⟩ | piece
    · rw [piece] at role ⊢
      cases role
      exact .doubleBar
    · rw [piece] at role ⊢
      cases role
      exact .singleBar
  · cases role; exact .asterisk
  · cases role; exact .plusSign
  · cases role; exact .questionMark
  · cases role; exact .hashMark
  · cases role; exact .exclamationPoint
  · exact braced_accepts role
  · cases role
  · exact quoted_accepts role

private theorem word_covers {more : List Char} (inside : ∀ d ∈ more, isKeywordChar d = true)
    (c : Char) (tail : List Char) :
    ∃ sort, (word c (more ++ tail)).1.role = .lexeme sort ∧
      (c :: more).length ≤ (word c (more ++ tail)).1.text.length := by
  have longer : more.length ≤ ((more ++ tail).takeWhile isKeywordChar).length := by
    rw [List.takeWhile_append_of_pos inside, List.length_append]
    exact Nat.le_add_right _ _
  unfold word
  dsimp only
  split
  · split
    · refine ⟨_, rfl, ?_⟩
      simp only [List.length_cons, List.length_append]
      omega
    · exact ⟨_, rfl, Nat.succ_le_succ longer⟩
  · exact ⟨_, rfl, Nat.succ_le_succ longer⟩

/-- Where a rule accepts the text as far as a lexeme, a lexeme is read that is
at least as long. -/
theorem first_covers (accepts : Accepts kind lexeme) (whole : lexeme ++ tail = c :: rest) :
    ∃ sort, (first c rest).1.role = .lexeme sort ∧
      lexeme.length ≤ (first c rest).1.text.length := by
  by_cases bar : kind = .singleBar
  · subst bar
    cases accepts
    rw [List.singleton_append] at whole
    obtain ⟨rfl, rfl⟩ := List.cons.inj whole
    rcases bar_cases tail with ⟨after, piece⟩ | piece
    · exact ⟨.doubleBar, by rw [piece], by simp [piece]⟩
    · exact ⟨.singleBar, by rw [piece], by simp [piece]⟩
  by_cases keyword : kind = .keyword
  · subst keyword
    cases accepts with
    | keyword filled plain =>
      obtain ⟨d, more, rfl⟩ := List.exists_cons_of_ne_nil filled
      rw [List.cons_append] at whole
      obtain ⟨rfl, rfl⟩ := List.cons.inj whole
      have chars : ∀ e ∈ d :: more, isKeywordChar e = true := fun e member =>
        (keyword_char_iff e).mpr (plain e member)
      rw [first_word (chars d List.mem_cons_self)]
      exact word_covers (fun e member => chars e (List.mem_cons_of_mem d member)) d tail
  · obtain ⟨d, more, rfl, reads⟩ := accepts_closed accepts bar keyword
    rw [List.cons_append] at whole
    obtain ⟨rfl, rfl⟩ := List.cons.inj whole
    exact ⟨kind, by rw [reads], by rw [reads]⟩

/-- No rule accepts any part of the text from its first character on, and that
character is not one that is skipped. -/
structure Hopeless (text : List Char) : Prop where
  refused : ∀ kind lexeme, lexeme <+: text → ¬ Accepts kind lexeme
  inked : ∃ c rest, text = c :: rest ∧ c ∉ skipped

/-- Nothing that any rule accepts goes on longer than the lexeme does. -/
def Longest (lexeme after : List Char) : Prop :=
  ∀ kind other, Accepts kind other → other <+: lexeme ++ after → other.length ≤ lexeme.length

theorem stray_hopeless (piece : first c rest = (⟨.stray, lexeme⟩, after)) :
    Hopeless (c :: rest) where
  refused kind other part accepts := by
    obtain ⟨tail, whole⟩ := part
    obtain ⟨sort, role, -⟩ := first_covers accepts whole
    rw [piece] at role
    cases role
  inked := by
    refine ⟨c, rest, rfl, fun blank => ?_⟩
    rw [first_blank ((skipped_iff c).mpr blank)] at piece
    cases piece

theorem lexeme_longest (piece : first c rest = (⟨.lexeme sort, lexeme⟩, after)) :
    Longest lexeme after := by
  intro kind other accepts part
  have whole := first_append c rest
  rw [piece] at whole
  dsimp only at whole
  rw [whole] at part
  obtain ⟨tail, joins⟩ := part
  obtain ⟨_, -, covers⟩ := first_covers accepts joins
  rw [piece] at covers
  exact covers

/-- Where a token stands in a source: what is in front of it and behind it, and
its place counted in bytes. -/
structure Stands (source : List Char) (token : Token) (before after : List Char) : Prop where
  whole : source = before ++ (token.text.toList ++ after)
  span : token.span = ⟨byteLength before, byteLength before + byteLength token.text.toList⟩

/-- A token is the longest match of its rule where it stands, or else nothing
matches there. -/
def Munched (token : Token) (after : List Char) : Prop :=
  (token.kind ≠ .unexpected →
    Accepts token.kind token.text.toList ∧ Longest token.text.toList after) ∧
  (token.kind = .unexpected → Hopeless (token.text.toList ++ after))

private theorem stray_munched (hopeless : stray ≠ [] → Hopeless (stray ++ after))
    (member : token ∈ Token.ofStray (byteLength done) stray) :
    Stands (done ++ (stray ++ after)) token done after ∧ Munched token after := by
  unfold Token.ofStray at member
  split at member
  · cases member
  · rename_i filled
    obtain rfl := List.mem_singleton.mp member
    have ready := hopeless (by simpa using filled)
    exact ⟨⟨by simp, by simp⟩, fun accepted => absurd rfl accepted, fun _ => by simpa using ready⟩

private theorem lexeme_munched (piece : first c rest = (⟨.lexeme sort, lexeme⟩, after))
    (start stop : Nat) : Munched ⟨sort, String.ofList lexeme, ⟨start, stop⟩⟩ after := by
  have accepts : Accepts sort (first c rest).1.text := first_accepts (by rw [piece])
  rw [piece] at accepts
  refine ⟨fun _ => ?_, ?_⟩
  · rw [String.toList_ofList]
    exact ⟨accepts, lexeme_longest piece⟩
  · rintro rfl
    cases accepts

/-- Every token that is read behind a stray stretch stands in the text where its
span says and is a longest match there; a stray stretch starts where nothing
matches. -/
theorem lex_munched (hopeless : stray ≠ [] → Hopeless (stray ++ source))
    (member : token ∈ lexFrom (byteLength done) stray source) :
    ∃ before after, Stands (done ++ (stray ++ source)) token before after ∧
      Munched token after := by
  generalize place : byteLength done = start at member
  induction start, stray, source using lexing_induction generalizing done with
  | ends start stray =>
    rw [lex_end, ← place] at member
    exact ⟨done, [], stray_munched hopeless member⟩
  | blanks start run rest blank ih =>
    rw [lex_blanks blank] at member
    have further : byteLength (done ++ run) = start + byteLength run := by
      rw [byte_length_append, place]
    obtain ⟨before, after, stands, munched⟩ := ih (by simp) further member
    exact ⟨before, after, by simpa using stands, munched⟩
  | trailing start stray run rest blank filled ih =>
    rw [lex_stray_blanks blank filled] at member
    rw [← List.append_assoc stray] at hopeless ⊢
    exact ih (fun _ => hopeless filled) place member
  | strays start stray c rest lexeme after piece ih =>
    rw [lex_stray piece] at member
    rw [← piece_append piece, ← List.append_assoc stray] at hopeless ⊢
    refine ih (fun _ => ?_) place member
    by_cases clean : stray = []
    · subst clean
      rw [List.nil_append, piece_append piece]
      exact stray_hopeless piece
    · exact hopeless clean
  | lexemes start stray c rest sort lexeme after piece ih =>
    rw [lex_lexeme piece, List.mem_append, List.mem_cons, ← place] at member
    rcases member with front | rfl | behind
    · exact ⟨done, c :: rest, stray_munched hopeless front⟩
    · rw [← piece_append piece]
      exact ⟨done ++ stray, after, ⟨by simp, by simp [byte_length_append]⟩,
        lexeme_munched piece _ _⟩
    · rw [place] at behind
      have further : byteLength (done ++ stray ++ lexeme) =
          start + byteLength stray + byteLength lexeme := by
        rw [byte_length_append, byte_length_append, place]
      obtain ⟨before, later, stands, munched⟩ := ih (by simp) further behind
      rw [← piece_append piece]
      exact ⟨before, later, by simpa using stands, munched⟩

/-- A token of a source that is not unexpected has a text of its rule. -/
theorem lexed_accepts {source : String} (member : token ∈ Token.lex source)
    (known : token.kind ≠ .unexpected) : Accepts token.kind token.text.toList := by
  have found : token ∈ lexFrom (byteLength []) [] source.toList := member
  obtain ⟨before, after, stands, accepted, refused⟩ := lex_munched (by simp) found
  exact (accepted known).1

/-- A token stands where its span says. If a rule accepts it, that rule is the
only one to do so, it gives the token its kind, and no rule accepts a longer
text from there on. If none does, the token starts with a character that is not
skipped and from which no rule accepts anything. -/
theorem tokens_are_longest_matches (source : String) (member : token ∈ Token.lex source) :
    ∃ before after, Stands source.toList token before after ∧
      (token.kind ≠ .unexpected →
        (∀ kind, Accepts kind token.text.toList ↔ kind = token.kind) ∧
          Longest token.text.toList after) ∧
      (token.kind = .unexpected → Hopeless (token.text.toList ++ after)) := by
  have found : token ∈ lexFrom (byteLength []) [] source.toList := member
  obtain ⟨before, after, stands, accepted, refused⟩ := lex_munched (by simp) found
  refine ⟨before, after, stands, fun known => ?_, refused⟩
  obtain ⟨accepts, longest⟩ := accepted known
  refine ⟨fun kind => ⟨fun other => accepts_unique other accepts, ?_⟩, longest⟩
  rintro rfl
  exact accepts

/-- The name here is no keyword since a parenthesis follows it, and the angle
bracket is never closed. -/
theorem opener_and_stray_are_longest_matches :
    ∃ opener stray : Token, opener = ⟨.functionOpen, "b(", ⟨3, 5⟩⟩ ∧
      stray = ⟨.unexpected, "<x", ⟨6, 8⟩⟩ ∧
      ∀ token ∈ [opener, stray], token ∈ Token.lex "a||b( <x" ∧
        ∃ before after, Stands "a||b( <x".toList token before after ∧
          (token.kind ≠ .unexpected →
            (∀ kind, Accepts kind token.text.toList ↔ kind = token.kind) ∧
              Longest token.text.toList after) ∧
          (token.kind = .unexpected → Hopeless (token.text.toList ++ after)) := by
  have lexed : Token.lex "a||b( <x" = [⟨.keyword, "a", ⟨0, 1⟩⟩, ⟨.doubleBar, "||", ⟨1, 3⟩⟩,
      ⟨.functionOpen, "b(", ⟨3, 5⟩⟩, ⟨.unexpected, "<x", ⟨6, 8⟩⟩] := by
    decide +kernel
  refine ⟨_, _, rfl, rfl, fun token member => ?_⟩
  have found : token ∈ Token.lex "a||b( <x" := by
    rw [lexed]
    simp only [List.mem_cons, List.not_mem_nil, or_false] at member ⊢
    exact .inr (.inr member)
  exact ⟨found, tokens_are_longest_matches _ found⟩

end ValueGrammar.LongestMatch
