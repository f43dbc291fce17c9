import ValueGrammar.Proofs.LongestMatch

/-! What is left out where no token is. A stray piece of a source is the longest
text at its place that begins a match which the source does not finish, or a
single character that begins none. -/
namespace ValueGrammar.Recovery
open Piece Runs Lexemes Lexing Rules LongestMatch

variable {kind : TokenKind} {c : Char} {rest lexeme after source : List Char}

/-- The text is the beginning of one that some rule accepts, and not all of it. -/
def Begins (text : List Char) : Prop := ∃ kind more, more ≠ [] ∧ Accepts kind (text ++ more)

/-- What is left out of a text without a match: as much as begins one, and one
character if nothing does. -/
structure Recovers (lexeme text : List Char) : Prop where
  begins : lexeme.length = 1 ∨ Begins lexeme
  longest : ∀ longer, longer <+: text → Begins longer → longer.length ≤ lexeme.length

private theorem run_covers {p : Char → Bool} {run : List Char} (part : run <+: rest)
    (inside : ∀ c ∈ run, p c = true) : run.length ≤ (rest.takeWhile p).length := by
  obtain ⟨tail, rfl⟩ := part
  rw [List.takeWhile_append_of_pos inside, List.length_append]
  exact Nat.le_add_right _ _

/-- What begins a text that ends with this character is a beginning of the rest. -/
private theorem front_prefix {run more front : List Char} (filled : more ≠ [])
    (whole : run ++ more = front ++ [c]) : run <+: front := by
  rcases List.prefix_concat_iff.mp ⟨more, whole⟩ with same | part
  · rw [same, List.append_right_eq_self] at whole
    exact absurd whole filled
  · exact part

/-- What starts with this character is as much as begins a match, if that is so
behind the character. -/
private theorem recovers_run {run : List Char} (begins : run = [] ∨ Begins (c :: run))
    (longest : ∀ other, other <+: rest → Begins (c :: other) → other.length ≤ run.length) :
    Recovers (c :: run) (c :: rest) where
  begins := begins.imp_left (congrArg fun run => (c :: run).length)
  longest := by
    intro longer part begun
    cases longer with
    | nil => exact Nat.zero_le _
    | cons d other =>
      obtain ⟨rfl, behind⟩ := List.cons_prefix_cons.mp part
      exact Nat.succ_le_succ (longest other behind begun)

/-- A mark begins no more than the run of characters that may stand behind it. -/
private theorem enclosed_longest {p : Char → Bool} {close : Char}
    (encloses : ∀ {kind text}, Accepts kind (c :: text) →
      ∃ inner, text = inner ++ [close] ∧ ∀ d ∈ inner, p d = true)
    (other : List Char) (part : other <+: rest) (begins : Begins (c :: other)) :
    other.length ≤ (rest.takeWhile p).length := by
  obtain ⟨kind, more, filled, accepts⟩ := begins
  obtain ⟨inner, whole, inside⟩ := encloses accepts
  have front := front_prefix filled whole
  exact run_covers part fun d member => inside d (front.subset member)

private theorem angled_recovers (role : (angled rest).1.role = .stray) :
    Recovers (angled rest).1.text ('<' :: rest) := by
  have text : (angled rest).1.text = '<' :: rest.takeWhile isAngledChar := by
    unfold angled at role ⊢
    dsimp only at role ⊢
    split at role
    · cases role
    · rfl
  rw [text]
  refine recovers_run ?_ (enclosed_longest accepts_angled)
  by_cases empty : rest.takeWhile isAngledChar = []
  · exact .inl empty
  · exact .inr ⟨.dataType, ['>'], by simp, .dataType empty (angled_run rest)⟩

private theorem quoted_recovers (role : (quoted rest).1.role = .stray) :
    Recovers (quoted rest).1.text ('\x27' :: rest) := by
  have text : (quoted rest).1.text = '\x27' :: rest.takeWhile (· != '\x27') := by
    unfold quoted at role ⊢
    dsimp only at role ⊢
    split at role
    · cases role
    · rfl
  rw [text]
  refine recovers_run (.inr ?_) (enclosed_longest accepts_quoted)
  exact ⟨.quotedKeyword, ['\x27'], by simp, .quotedKeyword (quoted_run rest)⟩

/-- What begins a range is digits, or digits on both sides of a comma. -/
private theorem begins_braced {run : List Char} (begins : Begins ('\x7b' :: run)) :
    (∀ c ∈ run, c.isDigit = true) ∨ ∃ low high, run = low ++ ',' :: high ∧ low ≠ [] ∧
      (∀ c ∈ low, c.isDigit = true) ∧ ∀ c ∈ high, c.isDigit = true := by
  obtain ⟨kind, more, filled, accepts⟩ := begins
  obtain ⟨low, bounds, whole, digits, decimal, bounded⟩ := accepts_braced accepts
  have front := front_prefix filled whole
  have ahead : low <+: low ++ bounds := List.prefix_append low bounds
  rcases List.prefix_or_prefix_of_prefix front ahead with within | ⟨tail, rfl⟩
  · exact .inl fun c member => decimal c (within.subset member)
  have beyond := (List.prefix_append_right_inj low).mp front
  cases tail with
  | nil => exact .inl (by simpa using decimal)
  | cons c others =>
    rcases bounded with rfl | ⟨high, rfl, decimal'⟩
    · cases List.prefix_nil.mp beyond
    · obtain ⟨rfl, behind⟩ := List.cons_prefix_cons.mp beyond
      have inside : ∀ d ∈ others, d.isDigit = true := fun d member =>
        decimal' d (behind.subset member)
      exact .inr ⟨low, others, rfl, digits, decimal, inside⟩

/-- Digits and a comma that a text starts with are its first run of digits and
what comes behind. -/
private theorem comma_ends {low high : List Char} (part : low ++ ',' :: high <+: rest)
    (decimal : ∀ c ∈ low, c.isDigit = true) :
    rest.takeWhile Char.isDigit = low ∧
      ∃ more, rest.dropWhile Char.isDigit = ',' :: more ∧ high <+: more := by
  obtain ⟨tail, rfl⟩ := part
  have stops : Stops Char.isDigit (',' :: (high ++ tail)) := stops_cons rfl
  rw [List.append_assoc, List.cons_append]
  exact ⟨run_taken decimal stops, _, run_dropped decimal stops, List.prefix_append high tail⟩

/-- Digits that no comma follows end what begins a range. -/
private theorem low_recovers (ends : ∀ more, rest.takeWhile Char.isDigit ≠ [] →
    rest.dropWhile Char.isDigit ≠ ',' :: more) :
    Recovers ('\x7b' :: rest.takeWhile Char.isDigit) ('\x7b' :: rest) := by
  refine recovers_run ?_ ?_
  · by_cases empty : rest.takeWhile Char.isDigit = []
    · exact .inl empty
    · exact .inr ⟨.curlyRange, ['\x7d'], by simp, .count empty (digits_run rest)⟩
  · intro other part begins
    rcases begins_braced begins with decimal | ⟨low, high, rfl, digits, decimal, -⟩
    · exact run_covers part decimal
    · obtain ⟨taken, more, dropped, -⟩ := comma_ends part decimal
      exact absurd dropped (ends more (by rw [taken]; exact digits))

/-- Otherwise the digits behind the comma end it. -/
private theorem high_recovers {more : List Char} (digits : rest.takeWhile Char.isDigit ≠ [])
    (dropped : rest.dropWhile Char.isDigit = ',' :: more) :
    Recovers ('\x7b' :: (rest.takeWhile Char.isDigit ++ ',' :: more.takeWhile Char.isDigit))
      ('\x7b' :: rest) := by
  refine recovers_run (.inr ?_) ?_
  · exact ⟨.curlyRange, ['\x7d'], by simp, .bounds digits (digits_run rest) (digits_run more)⟩
  · intro other part begins
    rw [List.length_append, List.length_cons]
    rcases begins_braced begins with decimal | ⟨low, high, rfl, -, decimal, decimal'⟩
    · have within := run_covers part decimal
      omega
    · obtain ⟨taken, others, dropped', beyond⟩ := comma_ends part decimal
      obtain rfl : others = more := by simpa [dropped] using dropped'.symm
      have within := run_covers beyond decimal'
      rw [taken, List.length_append, List.length_cons]
      omega

private theorem braced_recovers (role : (braced rest).1.role = .stray) :
    Recovers (braced rest).1.text ('\x7b' :: rest) := by
  unfold braced at role ⊢
  dsimp only at role ⊢
  split at role
  · cases role
  · rename_i taken dropped
    split at role
    · cases role
    · exact high_recovers (by simp [taken]) dropped
  · rename_i ends
    refine low_recovers fun more digits dropped => ?_
    obtain ⟨d, others, taken⟩ := List.exists_cons_of_ne_nil digits
    exact ends d others more taken dropped

/-- A mark that is stray by itself takes no more than itself. -/
private theorem alone_recovers
    (alone : ∀ {kind text}, Accepts kind (c :: text) → text.length ≤ 1) :
    Recovers [c] (c :: rest) := by
  refine recovers_run (.inl rfl) ?_
  rintro other part ⟨kind, more, filled, accepts⟩
  have short : (other ++ more).length ≤ 1 := alone accepts
  have behind := List.length_pos_iff.mpr filled
  rw [List.length_append] at short
  rw [List.length_nil]
  omega

/-- A stray piece is the longest text at its place that begins a match. -/
theorem stray_recovers (piece : first c rest = (⟨.stray, lexeme⟩, after)) :
    Recovers lexeme (c :: rest) := by
  have role : (first c rest).1.role = .stray := by rw [piece]
  obtain rfl : (first c rest).1.text = lexeme := by rw [piece]
  clear piece
  by_cases blank : isBlank c = true
  · rw [first_blank blank] at role
    cases role
  by_cases plain : isKeywordChar c = true
  · have keyword : Accepts .keyword [c] :=
      .keyword (List.cons_ne_nil c []) (by simpa using (keyword_char_iff c).mp plain)
    obtain ⟨sort, meets, -⟩ := first_covers keyword (List.singleton_append (l := rest))
    rw [role] at meets
    cases meets
  have meant : c ∈ delimiters := by
    simpa [isKeywordChar, blank] using plain
  simp only [delimiters, List.mem_cons, List.not_mem_nil, or_false] at meant
  rcases meant with rfl | rfl | rfl | rfl | rfl | rfl | rfl | rfl | rfl | rfl | rfl | rfl | rfl |
    rfl | rfl | rfl
  · exact angled_recovers role
  · exact alone_recovers fun accepts => absurd accepts (accepts_not_closing (.inl rfl))
  · cases role
  · cases role
  · cases role
  · cases role
  · rcases ampersand_cases rest with ⟨after, piece⟩ | piece
    · rw [piece] at role
      cases role
    · rw [piece]
      exact alone_recovers fun accepts => by rw [accepts_ampersand accepts]; rfl
  · rcases bar_cases rest with ⟨after, piece⟩ | piece
    · rw [piece] at role
      cases role
    · rw [piece] at role
      cases role
  · cases role
  · cases role
  · cases role
  · cases role
  · cases role
  · exact braced_recovers role
  · exact alone_recovers fun accepts => absurd accepts (accepts_not_closing (.inr rfl))
  · exact quoted_recovers role

/-- Every stray piece of a source takes as much as begins a match at its place. -/
theorem split_recovers {before later : List Piece}
    (cut : split source = before ++ ⟨.stray, lexeme⟩ :: later) :
    Recovers lexeme (lexeme ++ later.flatMap text) := by
  fun_induction Piece.split source generalizing before with
  | case1 => simp at cut
  | case2 c rest ih =>
    cases before with
    | nil =>
      obtain ⟨piece, rfl⟩ := List.cons.inj cut
      have whole := first_append c rest
      rw [split_flatMap_text]
      rw [piece] at whole
      dsimp only at whole
      rw [whole]
      exact stray_recovers (Prod.ext piece rfl)
    | cons other before =>
      obtain ⟨-, behind⟩ := List.cons.inj cut
      exact ih behind

end ValueGrammar.Recovery
