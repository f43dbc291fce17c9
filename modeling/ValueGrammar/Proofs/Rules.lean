import ValueGrammar.Proofs.Lexemes

/-! The lexical rules as languages, whatever cuts a source into their texts.
No text belongs to two rules, and a text that belongs to one is read as a single
lexeme of that rule. -/
namespace ValueGrammar.Rules
open Piece Runs Lexemes

variable {kind other : TokenKind} {c : Char} {rest text : List Char}

/-- The characters that separate tokens: space, tab, carriage return, line feed
and form feed. -/
def skipped : List Char := [' ', '\t', '\r', '\n', '\x0c']

/-- The characters that no keyword holds. -/
def reserved : List Char :=
  skipped ++
    ['<', '>', '(', ')', '[', ']', '&', '|', '*', '+', '?', '#', '!', '\x7b', '\x7d', '\x27']

def Decimal (c : Char) : Prop := '0' ≤ c ∧ c ≤ '9'

def NameStart (c : Char) : Prop :=
  ('A' ≤ c ∧ c ≤ 'Z') ∨ ('a' ≤ c ∧ c ≤ 'z') ∨ c = '_' ∨ c = '-'

def NamePart (c : Char) : Prop := NameStart c ∨ Decimal c

/-- The texts that each rule accepts. A stretch that is no token has no rule. -/
inductive Accepts : TokenKind → List Char → Prop where
  | dataType {inner : List Char} (filled : inner ≠ []) (plain : ∀ c ∈ inner, c ≠ '<' ∧ c ≠ '>') :
    Accepts .dataType ('<' :: inner ++ ['>'])
  | functionOpen {first : Char} {others : List Char} (starts : NameStart first)
    (named : ∀ c ∈ others, NamePart c) : Accepts .functionOpen (first :: others ++ ['('])
  | parenOpen : Accepts .parenOpen ['(']
  | parenClose : Accepts .parenClose [')']
  | bracketOpen : Accepts .bracketOpen ['[']
  | bracketClose : Accepts .bracketClose [']']
  | doubleAmpersand : Accepts .doubleAmpersand ['&', '&']
  | doubleBar : Accepts .doubleBar ['|', '|']
  | singleBar : Accepts .singleBar ['|']
  | asterisk : Accepts .asterisk ['*']
  | plusSign : Accepts .plusSign ['+']
  | questionMark : Accepts .questionMark ['?']
  | hashMark : Accepts .hashMark ['#']
  | exclamationPoint : Accepts .exclamationPoint ['!']
  | count {digits : List Char} (filled : digits ≠ []) (decimal : ∀ c ∈ digits, Decimal c) :
    Accepts .curlyRange ('\x7b' :: digits ++ ['\x7d'])
  | bounds {low high : List Char} (filled : low ≠ []) (decimal : ∀ c ∈ low, Decimal c)
    (decimal' : ∀ c ∈ high, Decimal c) :
    Accepts .curlyRange ('\x7b' :: low ++ ',' :: high ++ ['\x7d'])
  | quotedKeyword {inner : List Char} (unquoted : ∀ c ∈ inner, c ≠ '\x27') :
    Accepts .quotedKeyword ('\x27' :: inner ++ ['\x27'])
  | keyword {text : List Char} (filled : text ≠ []) (plain : ∀ c ∈ text, c ∉ reserved) :
    Accepts .keyword text

theorem decimal_iff (c : Char) : c.isDigit = true ↔ Decimal c := by
  simp [Char.isDigit, Decimal, Char.le_def]

private theorem all_digits (decimal : ∀ c ∈ text, Decimal c) : ∀ c ∈ text, c.isDigit = true :=
  fun c member => (decimal_iff c).mpr (decimal c member)

private theorem upper_iff (c : Char) : c.isUpper = true ↔ 'A' ≤ c ∧ c ≤ 'Z' :=
  decide_eq_true_iff

private theorem lower_iff (c : Char) : c.isLower = true ↔ 'a' ≤ c ∧ c ≤ 'z' := by
  have both := Bool.and_eq_true (decide (c.val ≥ 'a'.val)) (decide (c.val ≤ 'z'.val))
  rw [decide_eq_true_eq, decide_eq_true_eq] at both
  exact Iff.of_eq both

theorem name_start_iff (c : Char) : isNameStart c = true ↔ NameStart c := by
  change (c.isUpper || c.isLower || decide (c = '_') || decide (c = '-')) = true ↔ _
  simp only [Bool.or_eq_true, upper_iff, lower_iff, decide_eq_true_eq, or_assoc, NameStart]

theorem name_part_iff (c : Char) : isNameChar c = true ↔ NamePart c := by
  have start := name_start_iff c
  have digit := decimal_iff c
  unfold isNameStart at start
  unfold isNameChar NamePart Char.isAlphanum
  rw [← start, ← digit]
  simp only [Bool.or_eq_true]
  constructor
  · rintro (((letter | decimal) | line) | hyphen)
    · exact .inl (.inl (.inl letter))
    · exact .inr decimal
    · exact .inl (.inl (.inr line))
    · exact .inl (.inr hyphen)
  · rintro (((letter | line) | hyphen) | decimal)
    · exact .inl (.inl (.inl letter))
    · exact .inl (.inr line)
    · exact .inr hyphen
    · exact .inl (.inl (.inr decimal))

theorem skipped_iff (c : Char) : isBlank c = true ↔ c ∈ skipped := by
  simp [isBlank, skipped, or_assoc]

theorem keyword_char_iff (c : Char) : isKeywordChar c = true ↔ c ∉ reserved := by
  have blank := skipped_iff c
  unfold isKeywordChar reserved
  rw [List.mem_append, ← blank]
  simp [delimiters]

/-- A name starts with a letter, an underscore or a hyphen. -/
theorem name_cons_iff {first : Char} {others : List Char} :
    isName (first :: others) = true ↔ NameStart first ∧ ∀ c ∈ others, NamePart c := by
  simp [isName, name_start_iff, name_part_iff]

/-- A name holds letters, digits, underscores and hyphens alone. -/
theorem name_parts {name : List Char} (named : isName name = true) : ∀ c ∈ name, NamePart c := by
  cases name with
  | nil => exact List.forall_mem_nil _
  | cons first others =>
    obtain ⟨starts, parts⟩ := name_cons_iff.mp named
    exact List.forall_mem_cons.mpr ⟨.inl starts, parts⟩

/-- A name holds no character that names are not made of. -/
theorem name_lacks {name : List Char} {c : Char} (named : isName name = true)
    (other : isNameChar c = false) : c ∉ name := by
  intro member
  have part := (name_part_iff c).mpr (name_parts named c member)
  rw [other] at part
  cases part

/-- Every rule but those of the bar and the keyword ends its texts by itself. -/
theorem accepts_closed (accepts : Accepts kind text) (bar : kind ≠ .singleBar)
    (word : kind ≠ .keyword) : Closed kind text := by
  cases accepts with
  | dataType filled plain => exact angled_closed filled plain
  | functionOpen starts named => exact function_closed (name_cons_iff.mpr ⟨starts, named⟩)
  | count filled decimal => exact count_closed filled (all_digits decimal)
  | bounds filled decimal decimal' =>
    exact bounds_closed filled (all_digits decimal) (all_digits decimal')
  | quotedKeyword unquoted => exact quoted_closed unquoted
  | singleBar => exact absurd rfl bar
  | keyword => exact absurd rfl word
  | doubleAmpersand | doubleBar => exact ⟨_, _, rfl, fun _ => rfl⟩
  | parenOpen | parenClose | bracketOpen | bracketClose | asterisk | plusSign | questionMark
  | hashMark | exclamationPoint => exact ⟨_, [], rfl, fun _ => rfl⟩

/-- A run of keyword characters is read as one keyword if nothing follows it. -/
private theorem keyword_alone (plain : ∀ d ∈ c :: rest, d ∉ reserved) :
    first c rest = (⟨.lexeme .keyword, c :: rest⟩, []) := by
  have chars : ∀ d ∈ c :: rest, isKeywordChar d = true := fun d member =>
    (keyword_char_iff d).mpr (plain d member)
  have inside : ∀ d ∈ rest, isKeywordChar d = true := fun d member =>
    chars d (List.mem_cons_of_mem c member)
  have taken := run_taken inside stops_nil
  have dropped := run_dropped inside stops_nil
  rw [List.append_nil] at taken dropped
  rw [first_word (chars c List.mem_cons_self), word, taken, dropped]

/-- A text that a rule accepts is one lexeme of that rule by itself. -/
theorem accepts_alone (accepts : Accepts kind (c :: rest)) :
    first c rest = (⟨.lexeme kind, c :: rest⟩, []) := by
  by_cases bar : kind = .singleBar
  · subst bar
    cases accepts
    rfl
  by_cases word : kind = .keyword
  · subst word
    cases accepts with
    | keyword filled plain => exact keyword_alone plain
  · obtain ⟨d, others, whole, reads⟩ := accepts_closed accepts bar word
    obtain ⟨rfl, rfl⟩ := List.cons.inj whole
    have alone := reads []
    rw [List.append_nil] at alone
    exact alone

/-- A text that starts with an angle bracket is a data type. -/
theorem accepts_angled (accepts : Accepts kind ('<' :: text)) :
    ∃ inner, text = inner ++ ['>'] ∧ ∀ c ∈ inner, isAngledChar c = true := by
  cases accepts with
  | dataType filled plain => exact ⟨_, rfl, by simpa [isAngledChar] using plain⟩
  | functionOpen starts named => cases (name_start_iff '<').mpr starts
  | keyword filled plain => exact absurd (by decide) (plain '<' List.mem_cons_self)

/-- A text that starts with a quote is a quoted keyword. -/
theorem accepts_quoted (accepts : Accepts kind ('\x27' :: text)) :
    ∃ inner, text = inner ++ ['\x27'] ∧ ∀ c ∈ inner, (c != '\x27') = true := by
  cases accepts with
  | quotedKeyword unquoted => exact ⟨_, rfl, by simpa using unquoted⟩
  | functionOpen starts named => cases (name_start_iff '\x27').mpr starts
  | keyword filled plain => exact absurd (by decide) (plain '\x27' List.mem_cons_self)

/-- A text that starts with a brace is a range with one bound or with two. -/
theorem accepts_braced (accepts : Accepts kind ('\x7b' :: text)) :
    ∃ low bounds, text = low ++ bounds ++ ['\x7d'] ∧ low ≠ [] ∧ (∀ c ∈ low, c.isDigit = true) ∧
      (bounds = [] ∨ ∃ high, bounds = ',' :: high ∧ ∀ c ∈ high, c.isDigit = true) := by
  cases accepts with
  | count filled decimal => exact ⟨_, [], by simp, filled, all_digits decimal, .inl rfl⟩
  | bounds filled decimal decimal' =>
    exact ⟨_, _, by simp, filled, all_digits decimal, .inr ⟨_, rfl, all_digits decimal'⟩⟩
  | functionOpen starts named => cases (name_start_iff '\x7b').mpr starts
  | keyword filled plain => exact absurd (by decide) (plain '\x7b' List.mem_cons_self)

theorem accepts_ampersand (accepts : Accepts kind ('&' :: text)) : text = ['&'] := by
  cases accepts with
  | doubleAmpersand => rfl
  | functionOpen starts named => cases (name_start_iff '&').mpr starts
  | keyword filled plain => exact absurd (by decide) (plain '&' List.mem_cons_self)

/-- No rule has texts that start with a closing mark of another. -/
theorem accepts_not_closing (closing : c = '>' ∨ c = '\x7d') : ¬ Accepts kind (c :: text) := by
  intro accepts
  rcases closing with rfl | rfl
  · cases accepts with
    | functionOpen starts named => cases (name_start_iff '>').mpr starts
    | keyword filled plain => exact absurd (by decide) (plain '>' List.mem_cons_self)
  · cases accepts with
    | functionOpen starts named => cases (name_start_iff '\x7d').mpr starts
    | keyword filled plain => exact absurd (by decide) (plain '\x7d' List.mem_cons_self)

theorem accepts_ne_nil (accepts : Accepts kind text) : text ≠ [] := by
  cases accepts with
  | keyword filled plain => exact filled
  | _ => exact List.cons_ne_nil _ _

/-- No text belongs to two rules. -/
theorem accepts_unique (accepts : Accepts kind text) (accepts' : Accepts other text) :
    kind = other := by
  cases text with
  | nil => exact absurd rfl (accepts_ne_nil accepts)
  | cons c rest =>
    have same := (accepts_alone accepts).symm.trans (accepts_alone accepts')
    simpa using same

end ValueGrammar.Rules
