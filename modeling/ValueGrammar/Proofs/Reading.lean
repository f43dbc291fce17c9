import ValueGrammar.Proofs.Digits
import ValueGrammar.Proofs.Literals

/-! A value that is written without any space is read back, whatever containers
it stands in, as long as each of its literals is legible: its numbers are
numbers, and no string ends early. -/
namespace ValueGrammar.Reading
open Json Json.Reader Literals Text Digits

/-- The part of a number behind these characters, if it goes on with them. -/
def lastPart? (part : Part) : List Char → Option Part
  | [] => some part
  | c :: rest => (part.next? c).bind fun next => lastPart? next rest

/-- A number, whose first part follows the minus if there is one. -/
def Numeric (literal : String) : Prop :=
  ∃ unsigned last, (literal.toList = unsigned ∨ literal.toList = '-' :: unsigned) ∧
    lastPart? .minus unsigned = some last ∧ last.isEnd = true

/-- A value whose literals can be told from what stands around them. -/
inductive Legible : Json → Prop
  | null : Legible .null
  | bool (value : Bool) : Legible (.bool value)
  | number {literal : String} (numeric : Numeric literal) : Legible (.number literal)
  | string {literal : String} (whole : Whole literal) : Legible (.string literal)
  | array {items : List Json} (each : ∀ item ∈ items, Legible item) : Legible (.array items)
  | object {members : List (String × Json)} (keys : ∀ member ∈ members, Whole member.1)
      (each : ∀ member ∈ members, Legible member.2) : Legible (.object members)

variable {value : Json} {literal key : String} {frames : List Frame} {c : Char}
  {text rest read : List Char} {part last : Part} {place final next : StringPlace}
  {done items : List Json} {known members : List (String × Json)}

/-- The characters that can follow a value in a container. -/
def marks : List Char := [',', ']', '\x7d']

/-- The state goes on, and ends, as if it stood behind the value. It need not
stand there: a number is over only when a character follows that is none of its
own. -/
structure Ended (state : State) (value : Json) (frames : List Frame) : Prop where
  finishes : state.finish = State.finish ⟨.after value, frames⟩
  follows : ∀ c ∈ marks, state.step c = State.step ⟨.after value, frames⟩ c

/-- The value is read back in all containers. -/
def Reads (value : Json) : Prop :=
  ∀ frames, ∃ state, State.run? ⟨.value, frames⟩ value.compact.toList = some state ∧
    Ended state value frames

theorem after_ended (value : Json) (frames : List Frame) :
    Ended ⟨.after value, frames⟩ value frames := ⟨rfl, fun _ _ => rfl⟩

theorem run_append (state : State) (text rest : List Char) :
    state.run? (text ++ rest) = (state.run? text).bind fun next => next.run? rest := by
  induction text generalizing state with
  | nil => rfl
  | cons c text ih =>
    simp only [List.cons_append, State.run?]
    cases state.step c with
    | ok next => exact ih next
    | error => rfl

theorem run_step {state after : State} (steps : state.step c = .ok after) :
    state.run? (c :: rest) = after.run? rest := by
  rw [State.run?, steps]

/-! ### Strings -/

theorem behind_cons (passed : behind? place (c :: rest) = some final) :
    ∃ next, place.step c = .ok next ∧ (place = .plain → c ≠ '"') ∧
      behind? next rest = some final := by
  rw [behind?.eq_def] at passed
  simp only at passed
  split at passed
  · cases passed
  · next closing =>
    split at passed
    · next next steps => exact ⟨next, steps, closing, passed⟩
    · cases passed

theorem string_step (steps : place.step c = .ok next) (inside : place = .plain → c ≠ '"') :
    State.step ⟨.string place read, frames⟩ c = .ok ⟨.string next (c :: read), frames⟩ := by
  cases place with
  | plain => simp [State.step, State.settle, inside rfl, steps, Except.map]
  | escaped | code => simp [State.step, State.settle, steps, Except.map]

theorem key_step (steps : place.step c = .ok next) (inside : place = .plain → c ≠ '"') :
    State.step ⟨.key known place read, frames⟩ c = .ok ⟨.key known next (c :: read), frames⟩ := by
  cases place with
  | plain => simp [State.step, State.settle, inside rfl, steps, Except.map]
  | escaped | code => simp [State.step, State.settle, steps, Except.map]

/-- What stands inside of quotes is taken as it is written, in any place that
holds what was read of it. -/
theorem quoted_run {held : StringPlace → List Char → Place}
    (steps : ∀ {place next : StringPlace} {read : List Char} {c : Char}, place.step c = .ok next →
      (place = .plain → c ≠ '"') →
        State.step ⟨held place read, frames⟩ c = .ok ⟨held next (c :: read), frames⟩)
    (passed : behind? place text = some final) (read : List Char) :
    State.run? ⟨held place read, frames⟩ text =
      some ⟨held final (text.reverse ++ read), frames⟩ := by
  induction text generalizing place read with
  | nil =>
    cases passed
    rfl
  | cons c text ih =>
    obtain ⟨next, goesOn, inside, passed⟩ := behind_cons passed
    rw [run_step (steps goesOn inside), ih passed]
    simp

theorem quoted_list (literal : String) :
    (quoted literal).toList = '"' :: (literal.toList ++ ['"']) := by
  simp [quoted]

theorem string_reads (whole : Whole literal) : Reads (.string literal) := by
  intro frames
  have opens : State.step ⟨.value, frames⟩ '"' = .ok ⟨.string .plain [], frames⟩ := rfl
  refine ⟨_, ?_, after_ended _ frames⟩
  rw [compact, quoted_list, run_step opens, run_append, quoted_run string_step whole,
    Option.bind_some, List.append_nil]
  simp [State.run?, State.step, State.settle]

/-- A key leads to its value. -/
theorem key_read (whole : Whole key) (rest : List Char) :
    State.run? ⟨.nextKey known, frames⟩ ((quoted key ++ ":").toList ++ rest) =
      State.run? ⟨.value, .members known key :: frames⟩ rest := by
  have opens : State.step ⟨.nextKey known, frames⟩ '"' = .ok ⟨.key known .plain [], frames⟩ := rfl
  rw [String.toList_append, quoted_list, List.append_assoc, List.cons_append, List.append_assoc,
    run_step opens, run_append, quoted_run key_step whole, Option.bind_some, List.append_nil]
  simp [State.run?, State.step, State.settle, isSpace]

/-! ### Numbers -/

theorem number_step (goesOn : part.next? c = some last) :
    State.step ⟨.number part read, frames⟩ c = .ok ⟨.number last (c :: read), frames⟩ := by
  have unsettled : part.endsBefore c = false := by simp [Part.endsBefore, goesOn]
  simp [State.step, State.settle, unsettled, goesOn]

/-- The characters of a number are taken as they are written. -/
theorem number_run (parts : lastPart? part text = some last) :
    State.run? ⟨.number part read, frames⟩ text =
      some ⟨.number last (text.reverse ++ read), frames⟩ := by
  induction text generalizing part read with
  | nil =>
    cases parts
    rfl
  | cons c text ih =>
    obtain ⟨next, goesOn, parts⟩ := Option.bind_eq_some_iff.mp parts
    rw [run_step (number_step goesOn), ih parts]
    simp

theorem digit_starts (starts : Part.minus.next? c = some part) : c.isDigit = true := by
  simp only [Part.next?] at starts
  split at starts
  · next zero =>
    subst zero
    decide
  · split at starts
    · assumption
    · cases starts

theorem digit_solid (digit : c.isDigit = true) : isSpace c = false ∧ c ≠ ']' := by
  constructor
  · by_contra space
    simp only [isSpace, Bool.not_eq_false, Bool.or_eq_true, decide_eq_true_eq] at space
    rcases space with ((rfl | rfl) | rfl) | rfl <;> cases digit
  · rintro rfl
    cases digit

/-- The first character of a number without a minus. -/
theorem digit_step (starts : Part.minus.next? c = some part) :
    State.step ⟨.value, frames⟩ c = .ok ⟨.number part [c], frames⟩ := by
  have digit := digit_starts starts
  by_cases zero : c = '0'
  · subst zero
    cases starts
    rfl
  · have whole : part = .whole := by simpa [Part.next?, zero, digit] using starts.symm
    have start : State.start ⟨.value, frames⟩ c = .ok ⟨.number .whole [c], frames⟩ := by
      unfold State.start
      split
      case h_9 => simp [digit]
      all_goals contradiction
    simp [State.step, State.settle, (digit_solid digit).1, start, whole]

theorem last_part_append (first second : List Char) :
    lastPart? part (first ++ second) =
      (lastPart? part first).bind fun last => lastPart? last second := by
  induction first generalizing part with
  | nil => rfl
  | cons c first ih => cases goesOn : part.next? c <;> simp [lastPart?, goesOn, ih]

/-- Digits stay in the part of a number that takes digits. -/
theorem digits_stay (stays : ∀ c, c.isDigit = true → part.next? c = some part)
    (decimal : ∀ c ∈ text, c.isDigit = true) : lastPart? part text = some part := by
  induction text with
  | nil => rfl
  | cons c text ih =>
    obtain ⟨digit, others⟩ := List.forall_mem_cons.mp decimal
    rw [lastPart?, stays c digit, Option.bind_some, ih others]

private theorem whole_stays (c : Char) (digit : c.isDigit = true) :
    Part.whole.next? c = some .whole := by
  simp [Part.next?, digit]

/-- A whole part does not start with zero. -/
theorem counting_whole (counting : Counting text) : lastPart? .minus text = some .whole := by
  obtain ⟨decimal, c, rest, rfl, other⟩ := counting
  obtain ⟨digit, others⟩ := List.forall_mem_cons.mp decimal
  have starts : Part.minus.next? c = some .whole := by simp [Part.next?, other, digit]
  rw [lastPart?, starts, Option.bind_some, digits_stay whole_stays others]

/-- The digits of a number are a number, for they have no leading zero. -/
theorem digits_numeric (n : Nat) : Numeric (String.ofList (digits n)) := by
  rcases Nat.eq_zero_or_pos n with rfl | positive
  · refine ⟨['0'], .zero, .inl ?_, rfl, rfl⟩
    rw [String.toList_ofList, digits]
    rfl
  · have whole := counting_whole (digits_counting positive)
    exact ⟨digits n, .whole, .inl String.toList_ofList, whole, rfl⟩

/-- No number goes on with a character that can follow a value. -/
theorem number_ends (ends : last.isEnd = true) (mark : c ∈ marks) :
    last.endsBefore c = true := by
  have outside : (marks.all fun c => (last.next? c).isNone && !c.isDigit) = true := by
    cases last <;> decide
  have here := List.all_eq_true.mp outside c mark
  rw [Bool.and_eq_true, Bool.not_eq_true'] at here
  simp [Part.endsBefore, ends, here.1, here.2]

theorem number_ended (ends : last.isEnd = true) (read : List Char) (frames : List Frame) :
    Ended ⟨.number last read, frames⟩ (.number (String.ofList read.reverse)) frames where
  finishes := by simp [State.finish, ends]
  follows c mark := by simp [State.step, State.settle, number_ends ends mark]

theorem number_reads (numeric : Numeric literal) : Reads (.number literal) := by
  obtain ⟨unsigned, last, written, parts, ends⟩ := numeric
  intro frames
  have taken : State.run? ⟨.value, frames⟩ literal.toList =
      some ⟨.number last literal.toList.reverse, frames⟩ := by
    rcases written with written | written
    · cases unsigned with
      | nil =>
        cases parts
        cases ends
      | cons c rest =>
        obtain ⟨part, starts, parts⟩ := Option.bind_eq_some_iff.mp parts
        rw [written, run_step (digit_step starts), number_run parts, List.reverse_cons]
    · have starts : State.step ⟨.value, frames⟩ '-' = .ok ⟨.number .minus ['-'], frames⟩ := rfl
      rw [written, run_step starts, number_run parts, List.reverse_cons]
  have ended := number_ended ends literal.toList.reverse frames
  rw [List.reverse_reverse, String.ofList_toList] at ended
  exact ⟨_, taken, ended⟩

/-! ### Containers -/

/-- Behind a value the reader goes on with what stands after it. -/
theorem value_followed (reads : Reads value) (mark : c ∈ marks) (rest : List Char) :
    State.run? ⟨.value, frames⟩ (value.compact.toList ++ c :: rest) =
      State.run? ⟨.after value, frames⟩ (c :: rest) := by
  obtain ⟨state, taken, ended⟩ := reads frames
  rw [run_append, taken, Option.bind_some, State.run?, State.run?, ended.follows c mark]

theorem comma_list (first next : String) (others : List String) (closing : List Char) :
    (separated "," (first :: next :: others)).toList ++ closing =
      first.toList ++ ',' :: ((separated "," (next :: others)).toList ++ closing) := by
  simp [separated_cons_cons, List.append_assoc]

theorem first_text (first : String) (others : List String) :
    ∃ more, (separated "," (first :: others)).toList = first.toList ++ more := by
  cases others with
  | nil => exact ⟨[], by simp [separated]⟩
  | cons next others =>
    exact ⟨_, by rw [separated_cons_cons, String.append_assoc, String.toList_append]⟩

/-- The items of an array are added to those in front of them. -/
theorem items_run (filled : items ≠ []) (each : ∀ item ∈ items, Reads item) :
    State.run? ⟨.value, .items done :: frames⟩
        ((separated "," (compactItems items)).toList ++ [']']) =
      some ⟨.after (.array (done.reverse ++ items)), frames⟩ := by
  induction items generalizing done with
  | nil => contradiction
  | cons item items ih =>
    rw [List.forall_mem_cons] at each
    cases items with
    | nil =>
      have closes : State.step ⟨.after item, .items done :: frames⟩ ']' =
          .ok ⟨.after (.array (item :: done).reverse), frames⟩ := rfl
      rw [compactItems, compactItems, separated, List.foldl_nil,
        value_followed each.1 (by decide), run_step closes, List.reverse_cons]
      rfl
    | cons next items =>
      have goesOn : State.step ⟨.after item, .items done :: frames⟩ ',' =
          .ok ⟨.value, .items (item :: done) :: frames⟩ := rfl
      rw [compactItems, compactItems, comma_list, ← compactItems,
        value_followed each.1 (by decide), run_step goesOn, ih (by simp) each.2,
        List.reverse_cons, List.append_assoc]
      rfl

/-- The members of an object are added to those in front of them. -/
theorem members_run (filled : members ≠ []) (keys : ∀ member ∈ members, Whole member.1)
    (each : ∀ member ∈ members, Reads member.2) :
    State.run? ⟨.nextKey known, frames⟩
        ((separated "," (compactMembers members)).toList ++ ['\x7d']) =
      some ⟨.after (.object (known.reverse ++ members)), frames⟩ := by
  induction members generalizing known with
  | nil => contradiction
  | cons member members ih =>
    obtain ⟨key, value⟩ := member
    rw [List.forall_mem_cons] at keys each
    cases members with
    | nil =>
      have closes : State.step ⟨.after value, .members known key :: frames⟩ '\x7d' =
          .ok ⟨.after (.object ((key, value) :: known).reverse), frames⟩ := rfl
      rw [compactMembers, compactMembers, separated, List.foldl_nil, String.toList_append,
        List.append_assoc, key_read keys.1, value_followed each.1 (by decide), run_step closes,
        List.reverse_cons]
      rfl
    | cons next members =>
      have goesOn : State.step ⟨.after value, .members known key :: frames⟩ ',' =
          .ok ⟨.nextKey ((key, value) :: known), frames⟩ := rfl
      rw [compactMembers, compactMembers, comma_list, ← compactMembers, String.toList_append,
        List.append_assoc, key_read keys.1, value_followed each.1 (by decide), run_step goesOn,
        ih (by simp) keys.2 each.2, List.reverse_cons, List.append_assoc]
      rfl

/-- A text that is not taken for space or for the end of an array. -/
def Solid (text : List Char) : Prop :=
  ∃ c rest, text = c :: rest ∧ isSpace c = false ∧ c ≠ ']'

theorem solid_append (solid : Solid text) (rest : List Char) : Solid (text ++ rest) := by
  obtain ⟨c, more, rfl, ink⟩ := solid
  exact ⟨c, more ++ rest, rfl, ink⟩

theorem number_solid (numeric : Numeric literal) : Solid literal.toList := by
  obtain ⟨unsigned, last, written, parts, ends⟩ := numeric
  rcases written with written | written
  · cases unsigned with
    | nil =>
      cases parts
      cases ends
    | cons c rest =>
      obtain ⟨part, starts, -⟩ := Option.bind_eq_some_iff.mp parts
      exact ⟨c, rest, written, digit_solid (digit_starts starts)⟩
  · exact ⟨'-', unsigned, written, by decide⟩

theorem compact_solid (legible : Legible value) : Solid value.compact.toList := by
  cases legible with
  | null => exact ⟨'n', ['u', 'l', 'l'], rfl, by decide⟩
  | bool value =>
    cases value with
    | true => exact ⟨'t', ['r', 'u', 'e'], rfl, by decide⟩
    | false => exact ⟨'f', ['a', 'l', 's', 'e'], rfl, by decide⟩
  | number numeric => exact number_solid numeric
  | string => exact ⟨'"', _, quoted_list _, by decide⟩
  | array => exact ⟨'[', _, by simp [compact]; rfl, by decide⟩
  | object => exact ⟨'\x7b', _, by simp [compact]; rfl, by decide⟩

theorem start_place (place : Place) :
    State.start ⟨place, frames⟩ c = State.start ⟨.value, frames⟩ c := by
  unfold State.start
  split <;> rfl

/-- The first item of an array is read like any other. -/
theorem first_item_run (solid : Solid text) :
    State.run? ⟨.firstItem, frames⟩ text = State.run? ⟨.value, .items [] :: frames⟩ text := by
  obtain ⟨c, rest, rfl, ink, other⟩ := solid
  have step : State.step ⟨.firstItem, frames⟩ c = State.step ⟨.value, .items [] :: frames⟩ c := by
    simp only [State.step, State.settle, ink, other, if_false, Bool.false_eq_true]
    exact start_place _
  rw [State.run?, State.run?, step]

theorem array_reads (solid : ∀ item ∈ items, Solid item.compact.toList)
    (each : ∀ item ∈ items, Reads item) : Reads (.array items) := by
  intro frames
  have opens : State.step ⟨.value, frames⟩ '[' = .ok ⟨.firstItem, frames⟩ := rfl
  have text : (compact (.array items)).toList =
      '[' :: ((separated "," (compactItems items)).toList ++ [']']) := by
    simp [compact]
  refine ⟨_, ?_, after_ended _ frames⟩
  rw [text, run_step opens]
  cases items with
  | nil => rfl
  | cons item items =>
    obtain ⟨more, written⟩ := first_text item.compact (compactItems items)
    have starts : Solid ((separated "," (compactItems (item :: items))).toList ++ [']']) := by
      rw [compactItems, written, List.append_assoc]
      exact solid_append (solid item List.mem_cons_self) _
    rw [first_item_run starts, items_run (by simp) each]
    rfl

theorem object_reads (keys : ∀ member ∈ members, Whole member.1)
    (each : ∀ member ∈ members, Reads member.2) : Reads (.object members) := by
  intro frames
  have opens : State.step ⟨.value, frames⟩ '\x7b' = .ok ⟨.firstKey, frames⟩ := rfl
  have text : (compact (.object members)).toList =
      '\x7b' :: ((separated "," (compactMembers members)).toList ++ ['\x7d']) := by
    simp [compact]
  refine ⟨_, ?_, after_ended _ frames⟩
  rw [text, run_step opens]
  cases members with
  | nil => rfl
  | cons member members =>
    obtain ⟨more, written⟩ := first_text (quoted member.1 ++ ":" ++ member.2.compact)
      (compactMembers members)
    have same : State.run? ⟨.firstKey, frames⟩
          ((separated "," (compactMembers (member :: members))).toList ++ ['\x7d']) =
        State.run? ⟨.nextKey [], frames⟩
          ((separated "," (compactMembers (member :: members))).toList ++ ['\x7d']) := by
      rw [compactMembers, written, String.toList_append, String.toList_append, quoted_list]
      rfl
    rw [same, members_run (by simp) keys each]
    rfl

/-- Every legible value is read back. -/
theorem legible_reads (legible : Legible value) : Reads value := by
  induction legible with
  | null => exact fun frames => ⟨_, rfl, after_ended .null frames⟩
  | bool value =>
    intro frames
    refine ⟨_, ?_, after_ended (.bool value) frames⟩
    cases value <;> rfl
  | number numeric => exact number_reads numeric
  | string whole => exact string_reads whole
  | array each reads => exact array_reads (fun item member => compact_solid (each item member)) reads
  | object keys each reads => exact object_reads keys reads

/-- A legible value is what its text without any space is read as. -/
theorem read_compact (legible : Legible value) : read? value.compact = some value := by
  obtain ⟨state, taken, ended⟩ := legible_reads legible []
  rw [read?, taken, Option.bind_some, ended.finishes]
  rfl

/-- No two legible values have the same text without any space. -/
theorem compact_injective {other : Json} (legible : Legible value) (legible' : Legible other)
    (same : value.compact = other.compact) : value = other := by
  have read := read_compact legible
  rw [same, read_compact legible'] at read
  exact (Option.some.inj read).symm

end ValueGrammar.Reading
