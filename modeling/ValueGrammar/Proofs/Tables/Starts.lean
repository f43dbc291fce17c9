import ValueGrammar.Proofs.Tables.Grammar

/-! What the first character of a text tells about the part of the grammar that the
text starts with. -/
namespace ValueGrammar.Tables

variable {c mark : Char} {text rest : List Char} {keys : List (List Char)}

/-! ### Spaces -/

theorem spaces_nil : Spaces [] rest ↔ rest = [] := by
  constructor
  · intro spaces
    cases spaces
    rfl
  · rintro rfl
    exact .none

/-- No mark is taken for a space. -/
theorem blank_other (blank : c ∈ blanks) :
    c ≠ ',' ∧ c ≠ ':' ∧ c ≠ '"' ∧ c ≠ ']' ∧ c ≠ '\x7d' := by
  simp only [blanks, List.mem_cons, List.not_mem_nil, or_false] at blank
  rcases blank with rfl | rfl | rfl | rfl <;> decide

/-- Spaces go on up to a character that is none. -/
theorem spaces_cons (ink : mark ∉ blanks) :
    Spaces (c :: text) (mark :: rest) ↔
      c ∈ blanks ∧ Spaces text (mark :: rest) ∨ c = mark ∧ rest = text := by
  constructor
  · intro spaces
    cases spaces with
    | none => exact .inr ⟨rfl, rfl⟩
    | more blank others => exact .inl ⟨blank, others⟩
  · rintro (⟨blank, others⟩ | ⟨rfl, rfl⟩)
    · exact .more blank others
    · exact .none

/-- Nothing but spaces is left. -/
theorem trailing_cons : Spaces (c :: text) [] ↔ c ∈ blanks ∧ Spaces text [] := by
  constructor
  · intro spaces
    cases spaces with
    | more blank others => exact ⟨blank, others⟩
  · rintro ⟨blank, others⟩
    exact .more blank others

theorem spaces_drop (ink : mark ∉ blanks) :
    Spaces text (mark :: rest) ↔ text.dropWhile (· ∈ blanks) = mark :: rest := by
  induction text with
  | nil =>
    rw [spaces_nil]
    exact eq_comm
  | cons c text ih =>
    rw [spaces_cons ink, ih]
    by_cases blank : c ∈ blanks
    · have other : c ≠ mark := by
        rintro rfl
        exact ink blank
      simp [blank, other]
    · simp [blank, eq_comm]

/-! ### Numbers and values -/

theorem number_starts (number : Number (c :: text) rest) : c.isDigit = true ∨ c = '-' := by
  cases number with
  | positive unsigned =>
    cases unsigned with
    | zero => exact .inl rfl
    | digits digit => exact .inl digit
  | negative => exact .inr rfl

/-- A value with spaces in front of it. -/
def Padded (text rest : List Char) : Prop := ∃ value, Spaces text value ∧ Value value rest

theorem value_inked (value : Value (c :: text) rest) : c ∉ blanks := by
  intro blank
  simp only [blanks, List.mem_cons, List.not_mem_nil, or_false] at blank
  cases value with
  | number number =>
    rcases blank with rfl | rfl | rfl | rfl <;> exact absurd (number_starts number) (by decide)
  | _ => simp at blank

theorem padded_blank (blank : c ∈ blanks) : Padded (c :: text) rest ↔ Padded text rest := by
  constructor
  · rintro ⟨_, spaces, value⟩
    cases spaces with
    | none => exact absurd blank (value_inked value)
    | more _ others => exact ⟨_, others, value⟩
  · rintro ⟨_, spaces, value⟩
    exact ⟨_, .more blank spaces, value⟩

theorem padded_inked (ink : c ∉ blanks) : Padded (c :: text) rest ↔ Value (c :: text) rest := by
  constructor
  · rintro ⟨_, spaces, value⟩
    cases spaces with
    | none => exact value
    | more blank => exact absurd blank ink
  · intro value
    exact ⟨_, .none, value⟩

theorem not_value_closing : ¬ Value (']' :: text) rest := by
  intro value
  cases value with
  | number number => exact absurd (number_starts number) (by decide)

theorem not_padded_nil : ¬ Padded [] rest := by
  rintro ⟨_, spaces, value⟩
  cases spaces
  cases value with
  | number number =>
    cases number with
    | positive unsigned => cases unsigned

/-! ### Lists -/

theorem items_iff : Items text rest ↔ ∃ after, Padded text after ∧ MoreItems after rest := by
  constructor
  · rintro ⟨spaces, item, others⟩
    exact ⟨_, ⟨_, spaces, item⟩, others⟩
  · rintro ⟨_, ⟨_, spaces, item⟩, others⟩
    exact .item spaces item others

theorem list_iff : Value ('[' :: text) rest ↔ Spaces text (']' :: rest) ∨ Items text (']' :: rest) := by
  constructor
  · intro value
    cases value with
    | number number => exact absurd (number_starts number) (by decide)
    | noItems spaces => exact .inl spaces
    | array items => exact .inr items
  · rintro (spaces | items)
    · exact .noItems spaces
    · exact .array items

theorem more_items_cons :
    MoreItems (c :: text) (']' :: rest) ↔
      c ∈ blanks ∧ MoreItems text (']' :: rest) ∨ c = ',' ∧ Items text (']' :: rest) ∨
        c = ']' ∧ rest = text := by
  constructor
  · intro more
    cases more with
    | last spaces =>
      rcases (spaces_cons (by decide)).mp spaces with ⟨blank, spaces⟩ | closed
      · exact .inl ⟨blank, .last spaces⟩
      · exact .inr (.inr closed)
    | next spaces others =>
      rcases (spaces_cons (by decide)).mp spaces with ⟨blank, spaces⟩ | ⟨rfl, rfl⟩
      · exact .inl ⟨blank, .next spaces others⟩
      · exact .inr (.inl ⟨rfl, others⟩)
  · rintro (⟨blank, ⟨spaces⟩ | ⟨spaces, others⟩⟩ | ⟨rfl, items⟩ | ⟨rfl, rfl⟩)
    · exact .last (.more blank spaces)
    · exact .next (.more blank spaces) others
    · exact .next .none items
    · exact .last .none

private theorem items_cons :
    Items (c :: text) rest ↔ c ∈ blanks ∧ Items text rest ∨
      c ∉ blanks ∧ ∃ after, Value (c :: text) after ∧ MoreItems after rest := by
  simp only [items_iff]
  by_cases blank : c ∈ blanks
  · simp only [padded_blank blank, blank, true_and, not_true_eq_false, false_and, or_false]
  · simp only [padded_inked blank, blank, not_false_eq_true, true_and, false_and, false_or]

theorem list_cons :
    Value ('[' :: c :: text) rest ↔
      c ∈ blanks ∧ Value ('[' :: text) rest ∨ c = ']' ∧ rest = text ∨
        c ∉ blanks ∧ ∃ after, Value (c :: text) after ∧ MoreItems after (']' :: rest) := by
  rw [list_iff, list_iff, spaces_cons (by decide), items_cons]
  tauto

/-! ### Objects -/

theorem object_iff : Value ('\x7b' :: text) rest ↔ ∃ keys, Inside text keys ('\x7d' :: rest) := by
  constructor
  · intro value
    cases value with
    | number number => exact absurd (number_starts number) (by decide)
    | object inside => exact ⟨_, inside⟩
  · rintro ⟨keys, inside⟩
    exact .object inside

/-- A key in its quotes, and what stands behind it. -/
def Keyed (text : List Char) (keys : List (List Char)) (rest : List Char) : Prop :=
  ∃ literal behind others, text = literal ++ '"' :: behind ∧ keys = literal :: others ∧
    Body literal ∧ Field behind others rest

theorem members_cons :
    Members (c :: text) keys rest ↔
      c ∈ blanks ∧ Members text keys rest ∨ c = '"' ∧ Keyed text keys rest := by
  constructor
  · rintro ⟨spaces, body, field⟩
    rcases (spaces_cons (by decide)).mp spaces with ⟨blank, spaces⟩ | ⟨rfl, rfl⟩
    · exact .inl ⟨blank, .member spaces body field⟩
    · exact .inr ⟨rfl, _, _, _, rfl, rfl, body, field⟩
  · rintro (⟨blank, spaces, body, field⟩ | ⟨rfl, _, _, _, rfl, rfl, body, field⟩)
    · exact .member (.more blank spaces) body field
    · exact .member .none body field

theorem inside_cons :
    Inside (c :: text) keys ('\x7d' :: rest) ↔
      c ∈ blanks ∧ Inside text keys ('\x7d' :: rest) ∨ c = '"' ∧ Keyed text keys ('\x7d' :: rest) ∨
        c = '\x7d' ∧ keys = [] ∧ rest = text := by
  constructor
  · intro inside
    cases inside with
    | empty spaces =>
      rcases (spaces_cons (by decide)).mp spaces with ⟨blank, spaces⟩ | ⟨closed, rests⟩
      · exact .inl ⟨blank, .empty spaces⟩
      · exact .inr (.inr ⟨closed, rfl, rests⟩)
    | members members =>
      rcases members_cons.mp members with ⟨blank, members⟩ | keyed
      · exact .inl ⟨blank, .members members⟩
      · exact .inr (.inl keyed)
  · rintro (⟨blank, ⟨spaces⟩ | ⟨members⟩⟩ | keyed | ⟨rfl, rfl, rfl⟩)
    · exact .empty (.more blank spaces)
    · exact .members (members_cons.mpr (.inl ⟨blank, members⟩))
    · exact .members (members_cons.mpr (.inr keyed))
    · exact .empty .none

theorem field_cons :
    Field (c :: text) keys rest ↔
      c ∈ blanks ∧ Field text keys rest ∨
        c = ':' ∧ ∃ after, Padded text after ∧ MoreMembers after keys rest := by
  constructor
  · rintro ⟨spaces, spaces', value, others⟩
    rcases (spaces_cons (by decide)).mp spaces with ⟨blank, spaces⟩ | ⟨rfl, rfl⟩
    · exact .inl ⟨blank, .field spaces spaces' value others⟩
    · exact .inr ⟨rfl, _, ⟨_, spaces', value⟩, others⟩
  · rintro (⟨blank, spaces, spaces', value, others⟩ | ⟨rfl, _, ⟨_, spaces', value⟩, others⟩)
    · exact .field (.more blank spaces) spaces' value others
    · exact .field .none spaces' value others

theorem more_members_cons :
    MoreMembers (c :: text) keys ('\x7d' :: rest) ↔
      c ∈ blanks ∧ MoreMembers text keys ('\x7d' :: rest) ∨
        c = ',' ∧ Members text keys ('\x7d' :: rest) ∨ c = '\x7d' ∧ keys = [] ∧ rest = text := by
  constructor
  · intro more
    cases more with
    | last spaces =>
      rcases (spaces_cons (by decide)).mp spaces with ⟨blank, spaces⟩ | ⟨closed, rests⟩
      · exact .inl ⟨blank, .last spaces⟩
      · exact .inr (.inr ⟨closed, rfl, rests⟩)
    | next spaces others =>
      rcases (spaces_cons (by decide)).mp spaces with ⟨blank, spaces⟩ | ⟨rfl, rfl⟩
      · exact .inl ⟨blank, .next spaces others⟩
      · exact .inr (.inl ⟨rfl, others⟩)
  · rintro (⟨blank, ⟨spaces⟩ | ⟨spaces, others⟩⟩ | ⟨rfl, members⟩ | ⟨rfl, rfl, rfl⟩)
    · exact .last (.more blank spaces)
    · exact .next (.more blank spaces) others
    · exact .next .none members
    · exact .last .none

/-! ### Empty texts -/

private theorem not_marked_nil : ¬ Spaces [] (mark :: rest) := by
  intro spaces
  cases spaces

theorem not_list_nil : ¬ Value ['['] rest := by
  intro value
  rcases list_iff.mp value with spaces | items
  · exact not_marked_nil spaces
  · obtain ⟨after, padded, -⟩ := items_iff.mp items
    exact not_padded_nil padded

theorem not_members_nil : ¬ Members [] keys rest := by
  rintro ⟨spaces, -, -⟩
  exact not_marked_nil spaces

theorem not_inside_nil : ¬ Inside [] keys (mark :: rest) := by
  rintro (⟨spaces⟩ | ⟨members⟩)
  · exact not_marked_nil spaces
  · exact not_members_nil members

theorem not_field_nil : ¬ Field [] keys rest := by
  rintro ⟨spaces, -, -, -⟩
  exact not_marked_nil spaces

theorem not_more_items_nil : ¬ MoreItems [] (mark :: rest) := by
  rintro (⟨spaces⟩ | ⟨spaces, -⟩)
  · exact not_marked_nil spaces
  · exact not_marked_nil spaces

theorem not_more_members_nil : ¬ MoreMembers [] keys (mark :: rest) := by
  rintro (⟨spaces⟩ | ⟨spaces, -⟩)
  · exact not_marked_nil spaces
  · exact not_marked_nil spaces

end ValueGrammar.Tables
