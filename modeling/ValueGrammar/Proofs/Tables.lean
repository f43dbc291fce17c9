import ValueGrammar.Catalog.Loading
import ValueGrammar.Proofs.Building
import ValueGrammar.Proofs.Tables.Keys
import ValueGrammar.Proofs.Tables.Values

/-! Tables are read for their keys alone. What may still follow a place in a table, and
the names that are still to come, are told by the grammar, and each step takes one
character of it. So a text is taken exactly if it is a table, and a catalog is told by
the keys of two texts. -/
namespace ValueGrammar.Tables
open Json Catalog Building
open Json.Reader (isSpace)

variable {c : Char} {text rest : List Char} {names known : List String} {place next : Table.Place}

/-- The text goes on like this up to the brace at the end of the table, and the keys that
are still to come stand for these names. -/
def Enclosed (part : List Char → List (List Char) → List Char → Prop) (text : List Char)
    (names : List String) : Prop :=
  ∃ keys after, part text keys ('\x7d' :: after) ∧ Named keys names ∧ Spaces after []

/-- What is left of a table behind this place, with the names that are still to come. -/
def Ahead : Table.Place → List Char → List String → Prop
  | .firstKey, text, names => Enclosed Inside text names
  | .nextKey, text, names => Enclosed Members text names
  | .key literal, text, names =>
    ∃ name others behind, names = name :: others ∧ ClosedKey literal text name behind ∧
      Enclosed Field behind others
  | .colon, text, names => Enclosed Field text names
  | .value reader, text, names =>
    ∃ after, Completes reader text after ∧ Enclosed MoreMembers after names
  | .closed, text, names => Spaces text [] ∧ names = []

/-- What is left of a table behind this state, with all of its names. -/
def Leads (state : Table.State) (text : List Char) (names : List String) : Prop :=
  ∃ more, Ahead state.place text more ∧ names = state.keys.reverse ++ more

private theorem leads_congr (same : ∀ more, Ahead next rest more ↔ Ahead place text more) :
    Leads ⟨next, known⟩ rest names ↔ Leads ⟨place, known⟩ text names := by
  simp only [Leads, same]

private theorem not_leads {state : Table.State} (none : ∀ more, ¬ Ahead state.place text more) :
    ¬ Leads state text names := by
  rintro ⟨more, ahead, -⟩
  exact none more ahead

/-- A key that is opened is the first of the keys to come. -/
private theorem key_opened_ahead : Ahead (.key {}) text names ↔ Enclosed Keyed text names := by
  constructor
  · rintro ⟨name, others, behind, rfl, closed, keys, after, field, named, trailing⟩
    obtain ⟨literal, rfl, spells⟩ := closed_key_start.mp closed
    exact ⟨_, after, ⟨literal, behind, keys, rfl, rfl, spells_body spells, field⟩,
      .cons spells named, trailing⟩
  · rintro ⟨_, after, ⟨literal, behind, keys, rfl, rfl, body, field⟩, named, trailing⟩
    cases named with
    | cons spells named =>
      exact ⟨_, _, behind, rfl, closed_key_start.mpr ⟨literal, rfl, spells⟩, keys, after, field,
        named, trailing⟩

private theorem named_nil : Named [] names ↔ names = [] := List.forall₂_nil_left_iff

private theorem completes_start : Completes {} text rest ↔ Padded text rest := by
  simp [Completes, Remains, Closes]

private theorem first_key_leads :
    (∃ next, Table.State.step ⟨.firstKey, known⟩ c = .ok next ∧ Leads next text names) ↔
      Leads ⟨.firstKey, known⟩ (c :: text) names := by
  simp only [Table.State.step]
  by_cases blank : c ∈ blanks
  · rw [if_pos (space_iff.mpr blank), ok_iff]
    apply leads_congr
    intro more
    simp [Ahead, Enclosed, inside_cons, blank, blank_other blank]
  · rw [if_neg (mt space_iff.mp blank)]
    by_cases quote : c = '"'
    · subst quote
      rw [if_pos rfl, ok_iff]
      apply leads_congr
      intro more
      rw [key_opened_ahead]
      simp [Ahead, Enclosed, inside_cons, blank]
    · rw [if_neg quote]
      by_cases closing : c = '\x7d'
      · subst closing
        rw [if_pos rfl, ok_iff]
        apply leads_congr
        intro more
        simp [Ahead, Enclosed, inside_cons, blank, named_nil, and_comm]
      · rw [if_neg closing, error_iff, false_iff]
        apply not_leads
        simp [Ahead, Enclosed, inside_cons, blank, quote, closing]

private theorem next_key_leads :
    (∃ next, Table.State.step ⟨.nextKey, known⟩ c = .ok next ∧ Leads next text names) ↔
      Leads ⟨.nextKey, known⟩ (c :: text) names := by
  simp only [Table.State.step]
  by_cases blank : c ∈ blanks
  · rw [if_pos (space_iff.mpr blank), ok_iff]
    apply leads_congr
    intro more
    simp [Ahead, Enclosed, members_cons, blank, blank_other blank]
  · rw [if_neg (mt space_iff.mp blank)]
    by_cases quote : c = '"'
    · subst quote
      rw [if_pos rfl, ok_iff]
      apply leads_congr
      intro more
      rw [key_opened_ahead]
      simp [Ahead, Enclosed, members_cons, blank]
    · rw [if_neg quote]
      have none : ¬ Leads ⟨.nextKey, known⟩ (c :: text) names := by
        apply not_leads
        simp [Ahead, Enclosed, members_cons, blank, quote]
      split
      · rw [error_iff, false_iff]
        exact none
      · rw [error_iff, false_iff]
        exact none

private theorem colon_leads :
    (∃ next, Table.State.step ⟨.colon, known⟩ c = .ok next ∧ Leads next text names) ↔
      Leads ⟨.colon, known⟩ (c :: text) names := by
  simp only [Table.State.step]
  by_cases blank : c ∈ blanks
  · rw [if_pos (space_iff.mpr blank), ok_iff]
    apply leads_congr
    intro more
    simp [Ahead, Enclosed, field_cons, blank, blank_other blank]
  · rw [if_neg (mt space_iff.mp blank)]
    by_cases colon : c = ':'
    · subst colon
      rw [if_pos rfl, ok_iff]
      apply leads_congr
      intro more
      simp only [Ahead, Enclosed, field_cons, blank, completes_start, false_and, false_or, true_and]
      constructor
      · rintro ⟨mid, padded, keys, after, others, rest⟩
        exact ⟨keys, after, ⟨mid, padded, others⟩, rest⟩
      · rintro ⟨keys, after, ⟨mid, padded, others⟩, rest⟩
        exact ⟨mid, padded, keys, after, others, rest⟩
    · rw [if_neg colon, error_iff, false_iff]
      apply not_leads
      simp [Ahead, Enclosed, field_cons, blank, colon]

/-- Behind a value that is complete stand the other members, or the end of the table. -/
private theorem follow_leads {reader : Reader.State} (done : Done reader) :
    (∃ next, Table.State.follow ⟨.value reader, known⟩ c = .ok next ∧ Leads next text names) ↔
      Leads ⟨.value reader, known⟩ (c :: text) names := by
  have ahead : ∀ text more, Ahead (.value reader) text more ↔ Enclosed MoreMembers text more := by
    intro text more
    obtain ⟨place, frames⟩ := reader
    obtain ⟨⟨value, rfl⟩, rfl⟩ := done
    simp [Ahead, Closes]
  simp only [Table.State.follow]
  by_cases blank : c ∈ blanks
  · rw [if_pos (space_iff.mpr blank), ok_iff]
    apply leads_congr
    intro more
    simp [ahead, Enclosed, more_members_cons, blank, blank_other blank]
  · rw [if_neg (mt space_iff.mp blank)]
    by_cases comma : c = ','
    · subst comma
      rw [if_pos rfl, ok_iff]
      apply leads_congr
      intro more
      rw [ahead]
      simp [Ahead, Enclosed, more_members_cons, blank]
    · rw [if_neg comma]
      by_cases closing : c = '\x7d'
      · subst closing
        rw [if_pos rfl, ok_iff]
        apply leads_congr
        intro more
        rw [ahead]
        simp [Ahead, Enclosed, more_members_cons, blank, named_nil, and_comm]
      · rw [if_neg closing, error_iff, false_iff]
        apply not_leads
        simp [ahead, Enclosed, more_members_cons, blank, comma, closing]

private theorem members_apart (behind : Enclosed MoreMembers text names) : Apart text := by
  obtain ⟨keys, after, more, -⟩ := behind
  exact more_members_apart more

private theorem value_leads (reader : Reader.State) :
    (∃ next, Table.State.step ⟨.value reader, known⟩ c = .ok next ∧ Leads next text names) ↔
      Leads ⟨.value reader, known⟩ (c :: text) names := by
  have settled : Leads ⟨.value reader, known⟩ (c :: text) names ↔
      Leads ⟨.value (reader.settle c), known⟩ (c :: text) names := by
    simp only [Leads, Ahead, settled_completes]
  simp only [Table.State.step, settled_step]
  split
  · next value place frames =>
    rw [settled]
    exact follow_leads ⟨⟨value, place⟩, frames⟩
  · next others =>
    have incomplete : ¬ Done (reader.settle c) := by
      rintro ⟨⟨value, place⟩, frames⟩
      exact others value place frames
    simp only [map_iff, Leads, Ahead]
    constructor
    · rintro ⟨next, steps, more, ⟨after, completes, behind⟩, rfl⟩
      have whole := (completes_step (members_apart behind) incomplete).mp ⟨next, steps, completes⟩
      exact ⟨more, ⟨after, whole, behind⟩, rfl⟩
    · rintro ⟨more, ⟨after, completes, behind⟩, rfl⟩
      obtain ⟨next, steps, left⟩ := (completes_step (members_apart behind) incomplete).mpr completes
      exact ⟨next, steps, more, ⟨after, left, behind⟩, rfl⟩

private theorem key_leads (literal : Literal.State) :
    (∃ next, Table.State.step ⟨.key literal, known⟩ c = .ok next ∧ Leads next text names) ↔
      Leads ⟨.key literal, known⟩ (c :: text) names := by
  simp only [Table.State.step]
  split
  · next name decoded =>
    rw [ok_iff]
    simp [Leads, Ahead, closed_key_quote decoded, List.reverse_cons, List.append_assoc]
  · next c _ _ others =>
    have inside : literal.place = .plain → c ≠ '"' := by
      intro plain quote
      exact others _ (text_plain.mpr ⟨plain, String.toList_ofList⟩) quote
    simp only [map_iff, Leads, Ahead, closed_key_cons inside]
    constructor
    · rintro ⟨next, steps, more, ⟨name, others, behind, listed, closed, field⟩, whole⟩
      exact ⟨more, ⟨name, others, behind, listed, ⟨next, steps, closed⟩, field⟩, whole⟩
    · rintro ⟨more, ⟨name, others, behind, listed, ⟨next, steps, closed⟩, field⟩, whole⟩
      exact ⟨next, steps, more, ⟨name, others, behind, listed, closed, field⟩, whole⟩

private theorem closed_leads :
    (∃ next, Table.State.step ⟨.closed, known⟩ c = .ok next ∧ Leads next text names) ↔
      Leads ⟨.closed, known⟩ (c :: text) names := by
  simp only [Table.State.step]
  by_cases blank : c ∈ blanks
  · rw [if_pos (space_iff.mpr blank), ok_iff]
    apply leads_congr
    intro more
    simp [Ahead, trailing_cons, blank]
  · rw [if_neg (mt space_iff.mp blank), error_iff, false_iff]
    apply not_leads
    simp [Ahead, trailing_cons, blank]

/-- One step of a table takes the next character of what is left of it. -/
theorem leads_step (state : Table.State) :
    (∃ next, state.step c = .ok next ∧ Leads next text names) ↔ Leads state (c :: text) names := by
  obtain ⟨place, known⟩ := state
  cases place with
  | firstKey => exact first_key_leads
  | nextKey => exact next_key_leads
  | key literal => exact key_leads literal
  | colon => exact colon_leads
  | value reader => exact value_leads reader
  | closed => exact closed_leads

/-- A text can end only behind the closing brace. -/
private theorem ahead_nil (ahead : Ahead place [] names) : place = .closed ∧ names = [] := by
  cases place with
  | firstKey =>
    obtain ⟨keys, after, inside, -⟩ := ahead
    exact absurd inside not_inside_nil
  | nextKey =>
    obtain ⟨keys, after, members, -⟩ := ahead
    exact absurd members not_members_nil
  | key literal =>
    obtain ⟨name, others, behind, -, ⟨literal, whole, -⟩, -⟩ := ahead
    cases literal <;> cases whole
  | colon =>
    obtain ⟨keys, after, field, -⟩ := ahead
    exact absurd field not_field_nil
  | value reader =>
    obtain ⟨after, completes, keys, behind, more, -⟩ := ahead
    cases completes_nil completes
    exact absurd more not_more_members_nil
  | closed => exact ⟨rfl, ahead.2⟩

theorem leads_nil (state : Table.State) : Leads state [] names ↔ state.finish = .ok names := by
  constructor
  · rintro ⟨more, ahead, rfl⟩
    obtain ⟨closed, rfl⟩ := ahead_nil ahead
    rw [Table.State.finish, closed, List.append_nil]
  · intro finishes
    obtain ⟨place, known⟩ := state
    cases place with
    | closed =>
      cases finishes
      exact ⟨[], ⟨.none, rfl⟩, (List.append_nil _).symm⟩
    | value reader =>
      simp only [Table.State.finish] at finishes
      split at finishes <;> cases finishes
    | _ => cases finishes

/-- The rest of a table is read to the end exactly if it is one. -/
theorem run_iff (state : Table.State) (offset : Nat) (text : List Char) :
    state.run offset text = .ok names ↔ Leads state text names := by
  induction text generalizing state offset with
  | nil =>
    rw [Table.State.run, leads_nil]
    cases state.finish <;> simp
  | cons c text ih =>
    rw [Table.State.run, ← leads_step]
    cases state.step c with
    | ok next => simp [ih]
    | error fault => simp

/-! ### Whole texts -/

private theorem space_eq : isSpace = fun c => decide (c ∈ blanks) := by
  funext c
  rw [Bool.eq_iff_iff, space_iff, decide_eq_true_eq]

theorem table_iff :
    Table text names ↔ ∃ inner, Spaces text ('\x7b' :: inner) ∧ Enclosed Inside inner names := by
  constructor
  · rintro ⟨leading, inside, named, trailing⟩
    exact ⟨_, leading, _, _, inside, named, trailing⟩
  · rintro ⟨inner, leading, keys, after, inside, named, trailing⟩
    exact .object leading inside named trailing

/-- The keys that are found in a text are those of the table that it is. -/
theorem keys_iff (text : String) : Json.Table.keys text = .ok names ↔ Table text.toList names := by
  have opened : ∀ inner, Spaces text.toList ('\x7b' :: inner) ↔
      text.toList.dropWhile isSpace = '\x7b' :: inner := by
    intro inner
    rw [space_eq]
    exact spaces_drop (by decide)
  simp only [table_iff, opened, Json.Table.keys]
  split
  · next members found =>
    rw [run_iff, found]
    simp [Leads, Ahead]
  · next other =>
    refine iff_of_false nofun ?_
    rintro ⟨inner, found, -⟩
    exact other inner found

theorem table_names_iff (text : String) :
    tableNames text = .ok names ↔ Table text.toList names := by
  rw [← keys_iff, tableNames]
  cases Json.Table.keys text <;> simp

/-- The keys of a table stand for the same names however it is read. -/
theorem table_alike {text : String} (table : Table text.toList names)
    (table' : Table text.toList known) : names = known := by
  rw [← table_names_iff] at table table'
  exact Except.ok.inj (table.symm.trans table')

/-- A text that is no table is told by an error. -/
theorem table_names_error {text : String} (none : ∀ names, ¬ Table text.toList names) :
    ∃ error, tableNames text = .error error := by
  cases told : tableNames text with
  | ok names => exact absurd ((table_names_iff text).mp told) (none names)
  | error error => exact ⟨error, rfl⟩

/-- Both texts are tables, and the same keys come first in them. -/
def SameOrder (text other : String) : Prop :=
  ∃ names names', Table text.toList names ∧ Table other.toList names' ∧
    names'.eraseDups = names.eraseDups

/-- Both texts are tables, and the same keys are in them. -/
def SameNames (text other : String) : Prop :=
  ∃ names names', Table text.toList names ∧ Table other.toList names' ∧
    ∀ name, name ∈ names' ↔ name ∈ names

/-- How the catalog of two texts comes about. -/
structure Loaded (types syntaxes : String) : Prop where
  /-- Two tables give the catalog of the names that their keys stand for; nothing else
  gives one. -/
  built : ∀ catalog, ofJson types syntaxes = .ok catalog ↔
    ∃ typeNames syntaxNames, Table types.toList typeNames ∧ Table syntaxes.toList syntaxNames ∧
      catalog = build typeNames syntaxNames
  /-- The text for the types is told first, whatever the other one is. -/
  types_told : (∀ names, ¬ Table types.toList names) →
    ∃ error, tableNames types = .error error ∧ ∀ other, ofJson types other = .error error
  syntaxes_told : ∀ names, Table types.toList names →
    (∀ names, ¬ Table syntaxes.toList names) →
      ∃ error, tableNames syntaxes = .error error ∧ ofJson types syntaxes = .error error
  /-- Whatever else is in the tables, and however it is written, the catalog is the same. -/
  alike : ∀ types' syntaxes', SameOrder types types' → SameNames syntaxes syntaxes' →
    ofJson types' syntaxes' = ofJson types syntaxes

private theorem of_json_ok {types syntaxes : String} {typeNames syntaxNames : List String}
    (first : Table types.toList typeNames) (second : Table syntaxes.toList syntaxNames) :
    ofJson types syntaxes = .ok (build typeNames syntaxNames) := by
  rw [ofJson, (table_names_iff types).mpr first, (table_names_iff syntaxes).mpr second]

/-- Of two texts only the keys matter. -/
theorem only_keys_matter (types syntaxes : String) : Loaded types syntaxes where
  built := by
    intro catalog
    constructor
    · intro loaded
      unfold ofJson at loaded
      split at loaded
      · cases loaded
      · cases loaded
      · next typeNames syntaxNames first second =>
        cases loaded
        exact ⟨typeNames, syntaxNames, (table_names_iff types).mp first,
          (table_names_iff syntaxes).mp second, rfl⟩
    · rintro ⟨typeNames, syntaxNames, first, second, rfl⟩
      exact of_json_ok first second
  types_told := by
    intro none
    obtain ⟨error, told⟩ := table_names_error none
    refine ⟨error, told, ?_⟩
    intro other
    rw [ofJson, told]
  syntaxes_told := by
    intro names first none
    obtain ⟨error, told⟩ := table_names_error none
    refine ⟨error, told, ?_⟩
    rw [ofJson, (table_names_iff types).mpr first, told]
  alike := by
    rintro types' syntaxes' ⟨typeNames, typeNames', first, first', sameOrder⟩
      ⟨syntaxNames, syntaxNames', second, second', sameNames⟩
    rw [of_json_ok first second, of_json_ok first' second', build_types sameOrder,
      build_syntaxes sameNames]

/-- A key can be written with escapes and come again, and half of a pair is skipped in a
value. As a key it stands for nothing, so there is no table then. -/
theorem escaped_keys_load_alike :
    ofJson "\x7b\"le\\u006egth\": [\"\\ud800\", \x7b\x7d], \"angle\": 1, \"length\": null\x7d"
        "\x7b\"hue\":0\x7d" =
      ofJson "\x7b\"length\":0,\"angle\":-1e9\x7d" " \x7b\"hue\":\x7b\x7d,\"h\\u0075e\":1\x7d\n" ∧
    ∃ error, tableNames "\x7b\"\\ud800\":0\x7d" = .error error ∧
      ∀ other, ofJson "\x7b\"\\ud800\":0\x7d" other = .error error := by
  constructor
  · apply (only_keys_matter _ _).alike
    · refine ⟨["length", "angle"], ["length", "angle", "length"], ?_, ?_, by decide⟩
      · exact (keys_iff _).mp (by decide +kernel)
      · exact (keys_iff _).mp (by decide +kernel)
    · refine ⟨["hue", "hue"], ["hue"], ?_, ?_, by simp⟩
      · exact (keys_iff _).mp (by decide +kernel)
      · exact (keys_iff _).mp (by decide +kernel)
  · apply (only_keys_matter _ "").types_told
    intro names table
    have refused : (Json.Table.keys "\x7b\"\\ud800\":0\x7d").toOption = none := by decide +kernel
    rw [(keys_iff _).mpr table] at refused
    cases refused

end ValueGrammar.Tables
