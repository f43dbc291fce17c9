import ValueGrammar.Proofs.Tables.Numbers
import ValueGrammar.Proofs.Tables.Starts
import ValueGrammar.Proofs.Tables.Strings

/-! Values are read one character at a time, whatever they hold. What may still follow
the place that has been reached is told by the grammar, and each step of the reader
takes one character of it. -/
namespace ValueGrammar.Tables
open Json Json.Reader

variable {c : Char} {text rest : List Char} {place : Place} {frames : List Frame} {state : State}
  {part : Part} {read : List Char}

/-- What is left of the containers behind a value, and what follows them. -/
def Closes : List Frame → List Char → List Char → Prop
  | [], text, rest => rest = text
  | .items _ :: outer, text, rest => ∃ after, MoreItems text (']' :: after) ∧ Closes outer after rest
  | .members _ _ :: outer, text, rest =>
    ∃ keys after, MoreMembers text keys ('\x7d' :: after) ∧ Closes outer after rest

/-- What is left of a value behind this place, and what follows the value. -/
def Remains : Place → List Char → List Char → Prop
  | .value, text, rest => Padded text rest
  | .firstItem, text, rest => Value ('[' :: text) rest
  | .firstKey, text, rest => ∃ keys, Inside text keys ('\x7d' :: rest)
  | .nextKey _, text, rest => ∃ keys, Members text keys ('\x7d' :: rest)
  | .colon _ _, text, rest => ∃ keys, Field text keys ('\x7d' :: rest)
  -- A word is never left without letters; the reader would take any character for its end.
  | .word [] _, text, rest => ∃ c, text = c :: rest
  | .word letters _, text, rest => text = letters ++ rest
  | .number part _, text, rest => Continues part text rest
  | .string place _, text, rest => Closed place text rest
  | .key _ place _, text, rest =>
    ∃ behind keys, Closed place text behind ∧ Field behind keys ('\x7d' :: rest)
  | .after _, text, rest => rest = text

/-- What is left behind this state of the outermost value, and what follows it. -/
def Completes (state : State) (text rest : List Char) : Prop :=
  ∃ after, Remains state.place text after ∧ Closes state.frames after rest

theorem space_iff : isSpace c = true ↔ c ∈ blanks := by
  simp only [isSpace, blanks, Bool.or_eq_true, decide_eq_true_eq, List.mem_cons,
    List.not_mem_nil, or_false]
  tauto

/-! ### Where a value starts -/

private theorem start_digit (digit : c.isDigit = true) (other : c ≠ '0') (place : Place)
    (frames : List Frame) :
    State.start ⟨place, frames⟩ c = .ok ⟨.number .whole [c], frames⟩ := by
  unfold State.start
  split
  case h_9 => rw [if_pos digit]
  all_goals contradiction

private theorem start_number (number : Number (c :: text) rest) (place : Place)
    (frames : List Frame) :
    ∃ next, State.start ⟨place, frames⟩ c = .ok ⟨next, frames⟩ ∧ Remains next text rest := by
  cases number with
  | positive unsigned =>
    cases unsigned with
    | zero fraction => exact ⟨_, rfl, fraction⟩
    | digits digit other digits fraction =>
      exact ⟨_, start_digit digit other place frames, _, digits, fraction⟩
  | negative unsigned => exact ⟨_, rfl, unsigned⟩

/-- The first character of a value decides what may follow it. -/
theorem start_iff (place : Place) (frames : List Frame) :
    Value (c :: text) rest ↔ ∃ next, State.start ⟨place, frames⟩ c = .ok ⟨next, frames⟩ ∧
      Remains next text rest := by
  constructor
  · intro value
    cases value with
    | null => exact ⟨_, rfl, rfl⟩
    | true => exact ⟨_, rfl, rfl⟩
    | false => exact ⟨_, rfl, rfl⟩
    | number number => exact start_number number place frames
    | string body => exact ⟨_, rfl, _, rfl, body⟩
    | noItems spaces => exact ⟨_, rfl, .noItems spaces⟩
    | array items => exact ⟨_, rfl, .array items⟩
    | object inside => exact ⟨_, rfl, _, inside⟩
  · rintro ⟨next, starts, remains⟩
    unfold State.start at starts
    split at starts
    case h_9 other _ _ _ =>
      split at starts
      · next digit =>
        cases starts
        obtain ⟨after, digits, fraction⟩ := remains
        exact .number (.positive (.digits digit other digits fraction))
      · cases starts
    all_goals cases starts
    · exact remains
    · exact object_iff.mpr remains
    · obtain ⟨literal, rfl, body⟩ := remains
      exact .string body
    · exact .number (.negative remains)
    · exact .number (.positive (.zero remains))
    · cases remains
      exact .true
    · cases remains
      exact .false
    · cases remains
      exact .null

theorem start_frames {next : State} (starts : state.start c = .ok next) :
    next.frames = state.frames := by
  unfold State.start at starts
  split at starts
  case h_9 =>
    split at starts
    · cases starts
      rfl
    · cases starts
  all_goals
    cases starts
    rfl

theorem start_completes (place : Place) (frames : List Frame) :
    (∃ next, State.start ⟨place, frames⟩ c = .ok next ∧ Completes next text rest) ↔
      ∃ after, Value (c :: text) after ∧ Closes frames after rest := by
  simp only [start_iff place frames]
  constructor
  · rintro ⟨⟨next, others⟩, starts, after, remains, closes⟩
    have kept : others = frames := start_frames starts
    subst kept
    exact ⟨after, ⟨next, starts, remains⟩, closes⟩
  · rintro ⟨after, ⟨next, starts, remains⟩, closes⟩
    exact ⟨_, starts, after, remains, closes⟩

/-! ### Behind a value -/

@[simp] theorem completes_after (value : Json) :
    Completes ⟨.after value, frames⟩ text rest ↔ Closes frames text rest := by
  simp [Completes, Remains]

/-- The values behind an item start like those of a list. -/
theorem completes_items (done : List Json) :
    Completes ⟨.value, .items done :: frames⟩ text rest ↔
      ∃ after, Items text (']' :: after) ∧ Closes frames after rest := by
  simp only [Completes, Remains, Closes, items_iff]
  constructor
  · rintro ⟨mid, padded, after, others, closes⟩
    exact ⟨after, ⟨mid, padded, others⟩, closes⟩
  · rintro ⟨after, ⟨mid, padded, others⟩, closes⟩
    exact ⟨mid, padded, after, others, closes⟩

/-- The members behind one start like those of an object. -/
theorem completes_members (known : List (String × Json)) :
    Completes ⟨.nextKey known, frames⟩ text rest ↔
      ∃ keys after, Members text keys ('\x7d' :: after) ∧ Closes frames after rest := by
  simp only [Completes, Remains]
  constructor
  · rintro ⟨after, ⟨keys, members⟩, closes⟩
    exact ⟨keys, after, members, closes⟩
  · rintro ⟨keys, after, members, closes⟩
    exact ⟨after, ⟨keys, members⟩, closes⟩

private theorem closes_blank (filled : frames ≠ []) (blank : c ∈ blanks) :
    Closes frames (c :: text) rest ↔ Closes frames text rest := by
  match frames with
  | [] => contradiction
  | .items done :: outer => simp [Closes, more_items_cons, blank, blank_other blank]
  | .members done key :: outer => simp [Closes, more_members_cons, blank, blank_other blank]

private theorem follow_items (ink : c ∉ blanks) (done : List Json) (value : Json) :
    (∃ next, State.follow value (.items done :: frames) c = .ok next ∧ Completes next text rest) ↔
      Closes (.items done :: frames) (c :: text) rest := by
  simp only [State.follow, Closes, more_items_cons, ink, false_and, false_or]
  by_cases comma : c = ','
  · subst comma
    rw [if_pos rfl, ok_iff, completes_items]
    simp
  · rw [if_neg comma]
    by_cases closing : c = ']'
    · subst closing
      rw [if_pos rfl, ok_iff, completes_after]
      simp
    · rw [if_neg closing, error_iff]
      simp [comma, closing]

private theorem follow_members (ink : c ∉ blanks) (done : List (String × Json)) (key : String)
    (value : Json) :
    (∃ next, State.follow value (.members done key :: frames) c = .ok next ∧
        Completes next text rest) ↔
      Closes (.members done key :: frames) (c :: text) rest := by
  simp only [State.follow, Closes, more_members_cons, ink, false_and, false_or]
  by_cases comma : c = ','
  · subst comma
    rw [if_pos rfl, ok_iff, completes_members]
    simp
  · rw [if_neg comma]
    by_cases closing : c = '\x7d'
    · subst closing
      rw [if_pos rfl, ok_iff, completes_after]
      simp
    · rw [if_neg closing, error_iff]
      simp [comma, closing]

/-- Behind a value in a container stand the other values, or the end of the container. -/
theorem follow_iff (filled : frames ≠ []) (value : Json) :
    (∃ next, (if isSpace c then .ok ⟨.after value, frames⟩ else State.follow value frames c) =
      .ok next ∧ Completes next text rest) ↔ Closes frames (c :: text) rest := by
  by_cases blank : c ∈ blanks
  · rw [if_pos (space_iff.mpr blank), ok_iff, completes_after, closes_blank filled blank]
  · rw [if_neg (mt space_iff.mp blank)]
    match frames with
    | [] => contradiction
    | .items done :: outer => exact follow_items blank done value
    | .members done key :: outer => exact follow_members blank done key value

/-! ### One more character -/

/-- The characters that may follow a value. -/
def followers : List Char := blanks ++ [',', ']', '\x7d']

/-- What follows a value cannot be taken for a part of it. -/
def Apart (text : List Char) : Prop := ∀ c, text.head? = some c → c ∈ followers

theorem more_members_apart {keys : List (List Char)}
    (more : MoreMembers text keys ('\x7d' :: rest)) : Apart text := by
  intro c first
  obtain ⟨others, rfl⟩ := List.head?_eq_some_iff.mp first
  rcases more_members_cons.mp more with ⟨blank, -⟩ | ⟨rfl, -⟩ | ⟨rfl, -⟩
  · exact List.mem_append_left _ blank
  · decide
  · decide

private theorem more_items_apart (more : MoreItems text (']' :: rest)) : Apart text := by
  intro c first
  obtain ⟨others, rfl⟩ := List.head?_eq_some_iff.mp first
  rcases more_items_cons.mp more with ⟨blank, -⟩ | ⟨rfl, -⟩ | ⟨rfl, -⟩
  · exact List.mem_append_left _ blank
  · decide
  · decide

private theorem closes_apart (apart : Apart rest) (closes : Closes frames text rest) :
    Apart text := by
  match frames with
  | [] =>
    cases closes
    exact apart
  | .items done :: outer =>
    obtain ⟨after, more, -⟩ := closes
    exact more_items_apart more
  | .members done key :: outer =>
    obtain ⟨keys, after, more, -⟩ := closes
    exact more_members_apart more

/-- No number goes on with a character that may follow it. -/
private theorem followed_ends (ends : part.isEnd = true) (follows : c ∈ followers) :
    part.endsBefore c = true := by
  have outside : (followers.all fun c => (part.next? c).isNone && !c.isDigit) = true := by
    cases part <;> decide
  have here := List.all_eq_true.mp outside c follows
  rw [Bool.and_eq_true, Bool.not_eq_true'] at here
  simp [Part.endsBefore, ends, here.1, here.2]

private theorem value_steps :
    (∃ next, State.step ⟨.value, frames⟩ c = .ok next ∧ Completes next text rest) ↔
      Completes ⟨.value, frames⟩ (c :: text) rest := by
  simp only [State.step, State.settle]
  by_cases blank : c ∈ blanks
  · rw [if_pos (space_iff.mpr blank), ok_iff]
    simp only [Completes, Remains, padded_blank blank]
  · rw [if_neg (mt space_iff.mp blank), start_completes]
    simp only [Completes, Remains, padded_inked blank]

private theorem first_item_steps :
    (∃ next, State.step ⟨.firstItem, frames⟩ c = .ok next ∧ Completes next text rest) ↔
      Completes ⟨.firstItem, frames⟩ (c :: text) rest := by
  simp only [State.step, State.settle]
  by_cases blank : c ∈ blanks
  · rw [if_pos (space_iff.mpr blank), ok_iff]
    simp [Completes, Remains, list_cons, blank, blank_other blank]
  · rw [if_neg (mt space_iff.mp blank)]
    by_cases closing : c = ']'
    · subst closing
      rw [if_pos rfl, ok_iff, completes_after]
      simp [Completes, Remains, list_cons, blank, not_value_closing]
    · rw [if_neg closing, start_completes]
      simp only [Completes, Remains, list_cons, blank, closing, Closes, false_and, false_or,
        not_false_eq_true, true_and]
      constructor
      · rintro ⟨mid, value, after, others, closes⟩
        exact ⟨after, ⟨mid, value, others⟩, closes⟩
      · rintro ⟨after, ⟨mid, value, others⟩, closes⟩
        exact ⟨mid, value, after, others, closes⟩

/-- A key is opened by its quote. -/
private theorem key_opened (known : List (String × Json)) :
    Completes ⟨.key known .plain [], frames⟩ text rest ↔
      ∃ after, (∃ keys, Keyed text keys ('\x7d' :: after)) ∧ Closes frames after rest := by
  have keyed : ∀ after, Remains (.key known .plain []) text after ↔
      ∃ keys, Keyed text keys ('\x7d' :: after) := by
    intro after
    constructor
    · rintro ⟨behind, others, ⟨literal, rfl, body⟩, field⟩
      exact ⟨_, literal, behind, others, rfl, rfl, body, field⟩
    · rintro ⟨_, literal, behind, others, rfl, rfl, body, field⟩
      exact ⟨behind, others, ⟨literal, rfl, body⟩, field⟩
  simp only [Completes, keyed]

private theorem first_key_steps :
    (∃ next, State.step ⟨.firstKey, frames⟩ c = .ok next ∧ Completes next text rest) ↔
      Completes ⟨.firstKey, frames⟩ (c :: text) rest := by
  simp only [State.step, State.settle]
  by_cases blank : c ∈ blanks
  · rw [if_pos (space_iff.mpr blank), ok_iff]
    simp [Completes, Remains, inside_cons, blank, blank_other blank]
  · rw [if_neg (mt space_iff.mp blank)]
    by_cases quote : c = '"'
    · subst quote
      rw [if_pos rfl, ok_iff, key_opened]
      simp [Completes, Remains, inside_cons, blank]
    · rw [if_neg quote]
      by_cases closing : c = '\x7d'
      · subst closing
        rw [if_pos rfl, ok_iff, completes_after]
        simp [Completes, Remains, inside_cons, blank]
      · rw [if_neg closing, error_iff]
        simp [Completes, Remains, inside_cons, blank, quote, closing]

private theorem next_key_steps (known : List (String × Json)) :
    (∃ next, State.step ⟨.nextKey known, frames⟩ c = .ok next ∧ Completes next text rest) ↔
      Completes ⟨.nextKey known, frames⟩ (c :: text) rest := by
  simp only [State.step, State.settle]
  by_cases blank : c ∈ blanks
  · rw [if_pos (space_iff.mpr blank), ok_iff]
    simp [Completes, Remains, members_cons, blank, blank_other blank]
  · rw [if_neg (mt space_iff.mp blank)]
    by_cases quote : c = '"'
    · subst quote
      rw [if_pos rfl, ok_iff, key_opened]
      simp [Completes, Remains, members_cons, blank]
    · rw [if_neg quote, error_iff]
      simp [Completes, Remains, members_cons, blank, quote]

private theorem colon_steps (known : List (String × Json)) (key : String) :
    (∃ next, State.step ⟨.colon known key, frames⟩ c = .ok next ∧ Completes next text rest) ↔
      Completes ⟨.colon known key, frames⟩ (c :: text) rest := by
  simp only [State.step, State.settle]
  by_cases blank : c ∈ blanks
  · rw [if_pos (space_iff.mpr blank), ok_iff]
    simp [Completes, Remains, field_cons, blank, blank_other blank]
  · rw [if_neg (mt space_iff.mp blank)]
    by_cases colon : c = ':'
    · subst colon
      rw [if_pos rfl, ok_iff]
      simp only [Completes, Remains, field_cons, blank, Closes, false_and, false_or, true_and]
      constructor
      · rintro ⟨mid, value, keys, after, others, closes⟩
        exact ⟨after, ⟨keys, mid, value, others⟩, closes⟩
      · rintro ⟨after, ⟨keys, mid, value, others⟩, closes⟩
        exact ⟨mid, value, keys, after, others, closes⟩
    · rw [if_neg colon, error_iff]
      simp [Completes, Remains, field_cons, blank, colon]

private theorem word_steps (letters : List Char) (value : Json) :
    (∃ next, State.step ⟨.word letters value, frames⟩ c = .ok next ∧ Completes next text rest) ↔
      Completes ⟨.word letters value, frames⟩ (c :: text) rest := by
  cases letters with
  | nil =>
    simp only [State.step, State.settle]
    rw [ok_iff, completes_after]
    simp [Completes, Remains]
  | cons letter letters =>
    simp only [State.step, State.settle]
    by_cases same : c = letter
    · subst same
      rw [if_neg (not_not_intro rfl)]
      cases letters with
      | nil =>
        simp only [List.isEmpty_nil, if_true]
        rw [ok_iff, completes_after]
        simp [Completes, Remains]
      | cons next letters =>
        simp only [List.isEmpty_cons, Bool.false_eq_true, if_false]
        rw [ok_iff]
        simp [Completes, Remains]
    · rw [if_pos same, error_iff]
      simp [Completes, Remains, same]

private theorem number_steps (unsettled : ¬ part.endsBefore c = true) (apart : Apart rest) :
    (∃ next, State.step ⟨.number part read, frames⟩ c = .ok next ∧ Completes next text rest) ↔
      Completes ⟨.number part read, frames⟩ (c :: text) rest := by
  simp only [State.step, State.settle, if_neg unsettled]
  constructor
  · rintro ⟨next, steps, after, remains, closes⟩
    cases goesOn : part.next? c with
    | none =>
      rw [goesOn] at steps
      cases steps
    | some further =>
      rw [goesOn] at steps
      cases steps
      exact ⟨after, continues_next goesOn remains, closes⟩
  · rintro ⟨after, continues, closes⟩
    rcases continues_goes_on continues with ⟨ends, rfl⟩ | ⟨_, _, next, whole, goesOn, continues⟩
    · exact absurd (followed_ends ends (closes_apart apart closes c rfl)) unsettled
    · cases whole
      rw [goesOn]
      exact ⟨_, rfl, after, continues, closes⟩

/-- A character between quotes is taken in any place that holds what was read. -/
private theorem quoted_steps {held : StringPlace → List Char → Place} {place : StringPlace}
    {Behind : List Char → List Char → Prop}
    (remains : ∀ {place read text after}, Remains (held place read) text after ↔
      ∃ behind, Closed place text behind ∧ Behind behind after)
    (inside : place = .plain → c ≠ '"') :
    (∃ next, ((place.step c).map fun next => (⟨held next (c :: read), frames⟩ : State)) = .ok next ∧
        Completes next text rest) ↔
      Completes ⟨held place read, frames⟩ (c :: text) rest := by
  simp only [map_iff, Completes, remains, closed_cons inside]
  constructor
  · rintro ⟨next, steps, after, ⟨behind, closed, others⟩, closes⟩
    exact ⟨after, ⟨behind, ⟨next, steps, closed⟩, others⟩, closes⟩
  · rintro ⟨after, ⟨behind, ⟨next, steps, closed⟩, others⟩, closes⟩
    exact ⟨next, steps, after, ⟨behind, closed, others⟩, closes⟩

private theorem string_remains {place : StringPlace} {after : List Char} :
    Remains (.string place read) text after ↔ ∃ behind, Closed place text behind ∧ after = behind := by
  simp [Remains]

private theorem key_remains {known : List (String × Json)} {place : StringPlace}
    {after : List Char} :
    Remains (.key known place read) text after ↔
      ∃ behind, Closed place text behind ∧ ∃ keys, Field behind keys ('\x7d' :: after) := by
  simp [Remains]

private theorem string_steps (place : StringPlace) :
    (∃ next, State.step ⟨.string place read, frames⟩ c = .ok next ∧ Completes next text rest) ↔
      Completes ⟨.string place read, frames⟩ (c :: text) rest := by
  cases place with
  | plain =>
    simp only [State.step, State.settle]
    by_cases quote : c = '"'
    · subst quote
      rw [if_pos rfl, ok_iff, completes_after]
      simp [Completes, Remains, closed_quote]
    · rw [if_neg quote]
      exact quoted_steps string_remains fun _ => quote
  | escaped | code => exact quoted_steps string_remains nofun

private theorem key_steps (known : List (String × Json)) (place : StringPlace) :
    (∃ next, State.step ⟨.key known place read, frames⟩ c = .ok next ∧ Completes next text rest) ↔
      Completes ⟨.key known place read, frames⟩ (c :: text) rest := by
  cases place with
  | plain =>
    simp only [State.step, State.settle]
    by_cases quote : c = '"'
    · subst quote
      rw [if_pos rfl, ok_iff]
      simp [Completes, Remains, closed_quote]
    · rw [if_neg quote]
      exact quoted_steps key_remains fun _ => quote
  | escaped | code => exact quoted_steps key_remains nofun

/-- The outermost value is complete. -/
def Done (state : State) : Prop := (∃ value, state.place = .after value) ∧ state.frames = []

/-- A number that has ended is not ended again. -/
theorem settled_step (state : State) (c : Char) : (state.settle c).step c = state.step c := by
  obtain ⟨place, frames⟩ := state
  cases place with
  | number part read =>
    simp only [State.settle]
    by_cases ends : part.endsBefore c = true
    · simp [State.step, State.settle, ends]
    · rw [if_neg ends]
  | _ => rfl

/-- Before a character that ends a number the number is left behind. -/
theorem settled_completes :
    Completes (state.settle c) (c :: text) rest ↔ Completes state (c :: text) rest := by
  obtain ⟨place, frames⟩ := state
  cases place with
  | number part read =>
    simp only [State.settle]
    by_cases ends : part.endsBefore c = true
    · rw [if_pos ends, completes_after]
      simp only [Part.endsBefore, Bool.and_eq_true, Option.isNone_iff_eq_none] at ends
      constructor
      · intro closes
        exact ⟨_, continues_end ends.1.1 _, closes⟩
      · rintro ⟨after, continues, closes⟩
        rcases continues_goes_on continues with ⟨-, rfl⟩ | ⟨_, _, next, whole, goesOn, -⟩
        · exact closes
        · cases whole
          rw [ends.1.2] at goesOn
          cases goesOn
    · rw [if_neg ends]
  | _ => rfl

/-- While the outermost value is not complete, a step of the reader takes the next
character of what is left of it. -/
theorem completes_step (apart : Apart rest) (incomplete : ¬ Done (state.settle c)) :
    (∃ next, state.step c = .ok next ∧ Completes next text rest) ↔
      Completes state (c :: text) rest := by
  obtain ⟨place, frames⟩ := state
  cases place with
  | value => exact value_steps
  | firstItem => exact first_item_steps
  | firstKey => exact first_key_steps
  | nextKey known => exact next_key_steps known
  | colon known key => exact colon_steps known key
  | word letters value => exact word_steps letters value
  | string place read => exact string_steps place
  | key known place read => exact key_steps known place
  | after value =>
    have filled : frames ≠ [] := fun none => incomplete ⟨⟨value, rfl⟩, none⟩
    rw [completes_after]
    exact follow_iff filled value
  | number part read =>
    by_cases ends : part.endsBefore c = true
    · rw [← settled_completes]
      simp only [State.step, State.settle, if_pos ends] at incomplete ⊢
      have filled : frames ≠ [] := fun none => incomplete ⟨⟨_, rfl⟩, none⟩
      rw [completes_after]
      exact follow_iff filled _
    · exact number_steps ends apart

private theorem not_closed_nil {place : StringPlace} : ¬ Closed place [] rest := by
  rintro ⟨literal, whole, -⟩
  cases literal <;> cases whole

private theorem remains_nil (remains : Remains place [] rest) : rest = [] := by
  cases place with
  | value => exact absurd remains not_padded_nil
  | firstItem => exact absurd remains not_list_nil
  | firstKey =>
    obtain ⟨keys, inside⟩ := remains
    exact absurd inside not_inside_nil
  | nextKey known =>
    obtain ⟨keys, members⟩ := remains
    exact absurd members not_members_nil
  | colon known key =>
    obtain ⟨keys, field⟩ := remains
    exact absurd field not_field_nil
  | word letters value =>
    cases letters with
    | nil =>
      obtain ⟨c, whole⟩ := remains
      cases whole
    | cons letter letters => cases remains
  | number part read =>
    rcases continues_goes_on remains with ⟨-, rests⟩ | ⟨_, _, _, whole, -⟩
    · exact rests
    · cases whole
  | string place read => exact absurd remains not_closed_nil
  | key known place read =>
    obtain ⟨behind, keys, closed, -⟩ := remains
    exact absurd closed not_closed_nil
  | after value => exact remains

/-- Where a text ends, nothing follows the value. -/
theorem completes_nil (completes : Completes state [] rest) : rest = [] := by
  obtain ⟨place, frames⟩ := state
  obtain ⟨after, remains, closes⟩ := completes
  cases remains_nil remains
  match frames with
  | [] => exact closes
  | .items done :: outer =>
    obtain ⟨after, more, -⟩ := closes
    exact absurd more not_more_items_nil
  | .members done key :: outer =>
    obtain ⟨keys, after, more, -⟩ := closes
    exact absurd more not_more_members_nil

end ValueGrammar.Tables
