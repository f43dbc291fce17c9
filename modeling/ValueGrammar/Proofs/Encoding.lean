import ValueGrammar.Entity.Encoding
import ValueGrammar.Proofs.Multiplier
import ValueGrammar.Proofs.Reading

/-! Sequences of entities are read back from their JSON form, as deep as a text
may nest. -/
namespace ValueGrammar.Json

mutual

/-- How many arrays and objects lie inside each other. -/
def nesting : Json → Nat
  | null | bool _ | number _ | string _ => 0
  | array items => nestingItems items + 1
  | object members => nestingMembers members + 1

/-- The deepest nesting of the items. -/
def nestingItems : List Json → Nat
  | [] => 0
  | item :: rest => max item.nesting (nestingItems rest)

/-- The deepest nesting of the members' values. -/
def nestingMembers : List (String × Json) → Nat
  | [] => 0
  | (_, value) :: rest => max value.nesting (nestingMembers rest)

end

end ValueGrammar.Json

namespace ValueGrammar.Encoding
open Json Entity Literals Reading Text

variable {name : String} {value payload kind : Json} {entity : Entity} {entities : List Entity}
  {multiplier : Option Multiplier} {room : Nat}

/-- The names that stand in the JSON form of entities. -/
def names : List String :=
  ["Component", "kind", "multiplier", "Keyword", "DataType", "value", "Group", "entities",
    "Combinator", "Function", "name", "CurlyBracket", "min", "max", "Asterisk", "PlusSign",
    "QuestionMark", "HashMark", "ExclamationPoint", "Juxtaposition", "DoubleAmpersand",
    "DoubleBar", "SingleBar"]

theorem name_escape : ∀ name ∈ names, Literal.escape name = name := by decide +kernel

theorem name_decode (known : name ∈ names) : Literal.decode? name = some name := by
  have read := decode_escape name
  rwa [name_escape name known] at read

theorem name_whole (known : name ∈ names) : Whole name := plain_whole (name_escape name known)

@[simp]
theorem nesting_tagged (name : String) (payload : Json) :
    (tagged name payload).nesting = payload.nesting + 1 := by
  simp [tagged, nesting, nestingMembers]

@[simp]
theorem nesting_text_field (name value : String) : (textField name value).nesting = 1 := by
  simp [textField, nesting, nestingMembers]

@[simp]
theorem nesting_record (name : String) (value : Json) :
    (Json.object [(name, value)]).nesting = value.nesting + 1 := by
  simp [nesting, nestingMembers]

/-- An alternative is known by its name. -/
theorem alternative_read (known : name ∈ names) (payload : Json) :
    alternative? .text (tagged name payload) = some (name, some payload) := by
  simp [tagged, alternative?, members?, decodeKeys, name_decode known]

theorem alternative_plain (known : name ∈ names) :
    alternative? .text (.string name) = some (name, none) := by
  simp [alternative?, name_decode known]

/-- A record with one field. -/
theorem field_read (known : name ∈ names) (value : Json) :
    fields? .text [name] (.object [(name, value)]) = some [.given value] := by
  simp [fields?, members?, decodeKeys, name_decode known, field?]

/-- A record with two fields. -/
theorem two_fields_read {other : String} (known : name ∈ names) (known' : other ∈ names)
    (differ : name ≠ other) (value value' : Json) :
    fields? .text [name, other] (.object [(name, value), (other, value')]) =
      some [.given value, .given value'] := by
  simp [fields?, members?, decodeKeys, name_decode known, name_decode known', field?, differ,
    differ.symm]

theorem text_read (known : name ∈ names) (value : String) :
    onlyText? (fields? .text [name] (textField name value)) = some value := by
  rw [textField, field_read known]
  exact decode_escape value

/-! ### Multipliers -/

theorem bound_read (n : UInt32) : Multiplier.boundOfJson? (Multiplier.boundJson n) = some n := by
  have bound := Grammar.bound_iff.mpr (Multiplier.bound_text n)
  simpa [Multiplier.boundJson, Multiplier.boundOfJson?, Multiplier.boundText] using bound

/-- A value that may be missing. -/
def optional {α : Type} (json : α → Json) : Option α → Json
  | none => .null
  | some value => json value

theorem range_json (min : UInt32) (max : Option UInt32) :
    (Multiplier.range min max).json = tagged "CurlyBracket" (.object
      [("min", Multiplier.boundJson min), ("max", optional Multiplier.boundJson max)]) := by
  cases max <;> rfl

theorem nesting_range (min : UInt32) (max : Option UInt32) :
    (Multiplier.range min max).json.nesting = 2 := by
  cases max <;> rfl

theorem range_read (min : UInt32) (max : Option UInt32) :
    Multiplier.rangeOfJson? .text (.object [("min", Multiplier.boundJson min),
      ("max", optional Multiplier.boundJson max)]) = some (.range min max) := by
  have fields := two_fields_read (show "min" ∈ names by decide)
    (show "max" ∈ names by decide) (by decide)
  have low := bound_read min
  cases max with
  | none => simp [optional, Multiplier.rangeOfJson?, payloadFields?, fields, low]
  | some max =>
    have high := bound_read max
    unfold Multiplier.boundJson at *
    simp [optional, Multiplier.rangeOfJson?, payloadFields?, fields, low, high]

/-- A multiplier that is written as the name of its sign. -/
theorem sign_read (known : name ∈ names) {multiplier : Multiplier}
    (named : Multiplier.ofName? name = some multiplier) (room : Nat) :
    Multiplier.ofJson? .text room (.string name) = some multiplier := by
  simp [Multiplier.ofJson?, alternative_plain known, named]

/-- A multiplier is read back where it has room. -/
theorem multiplier_read (multiplier : Multiplier) (room : Nat) :
    Multiplier.ofJson? .text room multiplier.json =
      if multiplier.json.nesting ≤ room then some multiplier else none := by
  cases multiplier with
  | range min max =>
    rw [nesting_range, range_json]
    simp [Multiplier.ofJson?, alternative_read (show "CurlyBracket" ∈ names by decide), range_read]
  | _ => exact sign_read (by decide) rfl room

theorem multiplier_field_read (multiplier : Option Multiplier) (room : Nat) :
    Multiplier.ofField? .text room (.given (optional Multiplier.json multiplier)) =
      if (optional Multiplier.json multiplier).nesting ≤ room then some multiplier else none := by
  cases multiplier with
  | none => simp [optional, Multiplier.ofField?, nesting]
  | some multiplier =>
    have given : Multiplier.ofField? .text room (.given multiplier.json) =
        (Multiplier.ofJson? .text room multiplier.json).map some := by
      cases multiplier <;> rfl
    rw [optional, given, multiplier_read]
    split <;> rfl

/-! ### Entities -/

theorem component_json (kind : Json) (multiplier : Option Multiplier) :
    componentJson kind multiplier = tagged "Component" (.object [("kind", kind),
      ("multiplier", optional Multiplier.json multiplier)]) := by
  cases multiplier <;> rfl

theorem nesting_component (kind : Json) (multiplier : Option Multiplier) :
    (componentJson kind multiplier).nesting =
      max kind.nesting (optional Multiplier.json multiplier).nesting + 2 := by
  simp [component_json, nesting, nestingMembers]

/-- A component is read back if its kind is. -/
theorem component_read {build : Option Multiplier → Entity}
    (kindRead : ∀ room, kindOfJson? .text room kind =
      if kind.nesting ≤ room then some build else none)
    (multiplier : Option Multiplier) (room : Nat) :
    ofJson? .text room (componentJson kind multiplier) =
      if (componentJson kind multiplier).nesting ≤ room then some (build multiplier) else none := by
  have fields := two_fields_read (show "kind" ∈ names by decide)
    (show "multiplier" ∈ names by decide) (by decide) kind (optional Multiplier.json multiplier)
  have alternative := alternative_read (show "Component" ∈ names by decide)
  rw [nesting_component, component_json]
  -- The object of the alternative and the record inside it take a level each.
  match room with
  | 0 => simp [ofJson?]
  | 1 => simp [ofJson?, alternative, componentOfJson?]
  | room + 2 =>
    simp only [ofJson?, alternative, componentOfJson?, fields, kindRead, multiplier_field_read,
      Nat.add_le_add_iff_right, Nat.max_le]
    by_cases deep : kind.nesting ≤ room <;>
      by_cases wide : (optional Multiplier.json multiplier).nesting ≤ room <;>
      simp [deep, wide]

/-- A kind that has a text alone is read back. -/
theorem text_kind_read {build : String → Option Multiplier → Entity}
    (chosen : ∀ room payload, kindOfJson? .text (room + 2) (tagged name payload) =
      (onlyText? (payloadFields? .text ["value"] payload)).map build) (value : String)
    (room : Nat) :
    kindOfJson? .text room (tagged name (textField "value" value)) =
      if (tagged name (textField "value" value)).nesting ≤ room then some (build value)
      else none := by
  match room with
  | 0 | 1 => simp [kindOfJson?]
  | room + 2 => simp [chosen, payloadFields?, text_read (show "value" ∈ names by decide)]

theorem keyword_chosen (room : Nat) (payload : Json) :
    kindOfJson? .text (room + 2) (tagged "Keyword" payload) =
      (onlyText? (payloadFields? .text ["value"] payload)).map keyword := by
  simp [kindOfJson?, alternative_read (show "Keyword" ∈ names by decide)]

theorem data_type_chosen (room : Nat) (payload : Json) :
    kindOfJson? .text (room + 2) (tagged "DataType" payload) =
      (onlyText? (payloadFields? .text ["value"] payload)).map dataType := by
  simp [kindOfJson?, alternative_read (show "DataType" ∈ names by decide)]

/-- An array is read back if its items are. -/
theorem sequence_read {items : List Json}
    (itemsRead : ∀ room, items.mapM (ofJson? .text room) =
      if nestingItems items ≤ room then some entities else none) (room : Nat) :
    sequenceOfJson? .text room (.array items) =
      if (Json.array items).nesting ≤ room then some entities else none := by
  cases room with
  | zero => simp [sequenceOfJson?, nesting]
  | succ room => simp [sequenceOfJson?, nesting, itemsRead]

/-- A group is read back if its sequence is. -/
theorem group_read {entries : Json}
    (entriesRead : ∀ room, sequenceOfJson? .text room entries =
      if entries.nesting ≤ room then some entities else none) (room : Nat) :
    kindOfJson? .text room (tagged "Group" (.object [("entities", entries)])) =
      if (tagged "Group" (.object [("entities", entries)])).nesting ≤ room
      then some (group entities) else none := by
  match room with
  | 0 | 1 => simp [kindOfJson?, nesting]
  | room + 2 =>
    simp [kindOfJson?, alternative_read (show "Group" ∈ names by decide), payloadFields?,
      field_read (show "entities" ∈ names by decide), entriesRead, nesting, nestingMembers]

theorem combinator_read (kind : Combinator) (room : Nat) :
    ofJson? .text room (combinator kind).json =
      if (combinator kind).json.nesting ≤ room then some (combinator kind) else none := by
  have known : kind.name ∈ names := by cases kind <;> decide
  have named : Combinator.ofName? kind.name = some kind := by cases kind <;> decide
  match room with
  | 0 => simp [ofJson?, json]
  | room + 1 =>
    simp [ofJson?, json, alternative_read (show "Combinator" ∈ names by decide), combinatorOfJson?,
      plainAlternative?, alternative_plain known, named, nesting]

theorem function_read (name : String) (room : Nat) :
    ofJson? .text room (function name).json =
      if (function name).json.nesting ≤ room then some (function name) else none := by
  match room with
  | 0 => simp [ofJson?, json]
  | room + 1 =>
    simp [ofJson?, json, alternative_read (show "Function" ∈ names by decide),
      text_read (show "name" ∈ names by decide)]

mutual

/-- An entity is read back from its JSON form where it has room. -/
theorem entity_read (entity : Entity) (room : Nat) :
    ofJson? .text room entity.json =
      if entity.json.nesting ≤ room then some entity else none :=
  match entity with
  | .keyword value multiplier =>
    component_read (text_kind_read keyword_chosen value) multiplier room
  | .dataType value multiplier =>
    component_read (text_kind_read data_type_chosen value) multiplier room
  | .group entities multiplier =>
    component_read (group_read (sequence_read (items_read entities))) multiplier room
  | .combinator kind => combinator_read kind room
  | .function name => function_read name room

/-- So are the entities of a sequence, each on its own. -/
theorem items_read (entities : List Entity) (room : Nat) :
    (jsonItems entities).mapM (ofJson? .text room) =
      if nestingItems (jsonItems entities) ≤ room then some entities else none :=
  match entities with
  | [] => by simp [jsonItems, nestingItems]
  | entity :: rest => by
    have first := entity_read entity room
    have others := items_read rest room
    simp only [jsonItems, List.mapM_cons, first, others, nestingItems, Nat.max_le]
    by_cases deep : entity.json.nesting ≤ room <;>
      by_cases wide : nestingItems (jsonItems rest) ≤ room <;>
      simp [deep, wide]

end

/-! ### Legible forms -/

theorem tagged_legible (known : name ∈ names) (legible : Legible payload) :
    Legible (tagged name payload) :=
  .object (by simpa using name_whole known) (by simpa using legible)

theorem two_fields_legible {other : String} {value' : Json} (known : name ∈ names)
    (known' : other ∈ names) (legible : Legible value) (legible' : Legible value') :
    Legible (.object [(name, value), (other, value')]) :=
  .object (by simpa using ⟨name_whole known, name_whole known'⟩)
    (by simpa using ⟨legible, legible'⟩)

theorem text_field_legible (known : name ∈ names) (value : String) :
    Legible (textField name value) :=
  tagged_legible known (.string (escape_whole value))

theorem optional_legible {α : Type} {json : α → Json} (legible : ∀ value, Legible (json value))
    (value : Option α) : Legible (optional json value) := by
  cases value with
  | none => exact .null
  | some value => exact legible value

theorem bound_legible (n : UInt32) : Legible (Multiplier.boundJson n) :=
  .number (digits_numeric n.toNat)

theorem multiplier_legible (multiplier : Multiplier) : Legible multiplier.json := by
  cases multiplier with
  | range min max =>
    rw [range_json]
    exact tagged_legible (by decide) (two_fields_legible (by decide) (by decide)
      (bound_legible min) (optional_legible bound_legible max))
  | _ => exact .string (name_whole (by decide))

theorem component_legible (legible : Legible kind) (multiplier : Option Multiplier) :
    Legible (componentJson kind multiplier) := by
  rw [component_json]
  exact tagged_legible (by decide) (two_fields_legible (by decide) (by decide) legible
    (optional_legible multiplier_legible multiplier))

mutual

/-- The JSON form of an entity is legible. -/
theorem entity_legible (entity : Entity) : Legible entity.json :=
  match entity with
  | .keyword value multiplier => component_legible
    (tagged_legible (by decide) (text_field_legible (by decide) value)) multiplier
  | .dataType value multiplier => component_legible
    (tagged_legible (by decide) (text_field_legible (by decide) value)) multiplier
  | .group entities multiplier => component_legible
    (tagged_legible (by decide) (tagged_legible (by decide) (.array (items_legible entities))))
    multiplier
  | .combinator kind =>
    tagged_legible (by decide) (.string (name_whole (by cases kind <;> decide)))
  | .function name => tagged_legible (by decide) (text_field_legible (by decide) name)

theorem items_legible (entities : List Entity) : ∀ item ∈ jsonItems entities, Legible item :=
  match entities with
  | [] => by simp [jsonItems]
  | entity :: rest => by
    rw [jsonItems, List.forall_mem_cons]
    exact ⟨entity_legible entity, items_legible rest⟩

end

theorem sequence_legible (entities : List Entity) : Legible (sequenceJson entities) :=
  .array (items_legible entities)

/-- A sequence is read back from its text if that does not nest too deep. -/
theorem sequence_text_read (entities : List Entity) :
    ofJsonText? (sequenceJson entities).compact =
      if (sequenceJson entities).nesting ≤ 127 then some entities else none := by
  rw [ofJsonText?, read_compact (sequence_legible entities), Option.bind_some]
  exact sequence_read (items_read entities) nestingLimit

/-- Of groups inside each other, twenty-five are read back, and one more is
refused. -/
example :
    let groups (depth : Nat) := Nat.repeat (fun entities => [group entities none]) depth []
    ofJsonText? (sequenceJson (groups 25)).compact = some (groups 25) ∧
      ofJsonText? (sequenceJson (groups 26)).compact = none := by
  simp only [sequence_text_read]
  decide +kernel

/-! ### What is read has a form that fits

A form that is read can take liberties, but none that saves a level: a kind lies
two levels deep whether its records are objects or arrays, which leaves room for
a range too, and a single sign never nests deeper written out than read. -/

variable {strictness : Strictness}

theorem sign_nesting {sign : Multiplier} (named : Multiplier.ofName? name = some sign) :
    sign.json.nesting = 0 := by
  have flat : ∀ sign ∈ [Multiplier.asterisk, .plusSign, .questionMark, .hashMark,
      .exclamationPoint], sign.json.nesting = 0 := by decide
  exact flat sign (List.mem_of_find?_eq_some named)

theorem range_is_range {multiplier : Multiplier}
    (read : Multiplier.rangeOfJson? strictness value = some multiplier) :
    ∃ min max, multiplier = .range min max := by
  unfold Multiplier.rangeOfJson? at read
  split at read
  · obtain ⟨min, -, rfl⟩ := Option.map_eq_some_iff.mp read
    exact ⟨min, none, rfl⟩
  · obtain ⟨min, -, rfl⟩ := Option.map_eq_some_iff.mp read
    exact ⟨min, none, rfl⟩
  · split at read
    · cases read
      exact ⟨_, _, rfl⟩
    · cases read
  · cases read

theorem multiplier_fits {multiplier : Multiplier}
    (read : Multiplier.ofJson? strictness room value = some multiplier) :
    multiplier.json.nesting ≤ room := by
  unfold Multiplier.ofJson? at read
  split at read
  · split at read
    · next enough =>
      obtain ⟨min, max, rfl⟩ := range_is_range read
      rwa [nesting_range]
    · cases read
  · rw [sign_nesting read]
    exact Nat.zero_le room
  · split at read
    · rw [sign_nesting read]
      exact Nat.zero_le room
    · cases read
  · cases read

theorem multiplier_field_fits {field : Field}
    (read : Multiplier.ofField? strictness room field = some multiplier) :
    (optional Multiplier.json multiplier).nesting ≤ room := by
  unfold Multiplier.ofField? at read
  split at read
  case h_4 =>
    obtain ⟨multiplier, given, rfl⟩ := Option.map_eq_some_iff.mp read
    exact multiplier_fits given
  all_goals
    cases read
    exact Nat.zero_le room

theorem combinator_fits (read : combinatorOfJson? strictness room value = some entity) :
    entity.json.nesting = 1 := by
  unfold combinatorOfJson? at read
  split at read
  · cases read
  · obtain ⟨name, -, known⟩ := Option.bind_eq_some_iff.mp read
    obtain ⟨kind, -, rfl⟩ := Option.map_eq_some_iff.mp known
    rfl

/-- A sequence fits if each of its entities does. -/
theorem items_fit {items : List Json}
    (each : ∀ item entity, ofJson? strictness room item = some entity →
      entity.json.nesting ≤ room)
    (read : items.mapM (ofJson? strictness room) = some entities) :
    nestingItems (jsonItems entities) ≤ room := by
  induction items generalizing entities with
  | nil =>
    cases read
    exact Nat.zero_le room
  | cons item items ih =>
    rw [List.mapM_cons] at read
    obtain ⟨entity, first, read⟩ := Option.bind_eq_some_iff.mp read
    obtain ⟨rest, others, whole⟩ := Option.bind_eq_some_iff.mp read
    cases whole
    exact Nat.max_le.mpr ⟨each item entity first, ih others⟩

mutual

theorem entity_fits {room : Nat} {value : Json} {entity : Entity}
    (read : ofJson? strictness room value = some entity) : entity.json.nesting ≤ room :=
  match room, read with
  | room + 1, read => by
    unfold ofJson? at read
    split at read
    · exact component_fits read
    · rw [combinator_fits read]
      exact Nat.le_add_left 1 _
    · split at read
      · next enough =>
        obtain ⟨name, -, rfl⟩ := Option.map_eq_some_iff.mp read
        simpa [json] using enough
      · cases read
    · cases read

theorem component_fits {room : Nat} {value : Json} {entity : Entity}
    (read : componentOfJson? strictness room value = some entity) :
    entity.json.nesting ≤ room + 1 :=
  match room, read with
  | room + 1, read => by
    unfold componentOfJson? at read
    split at read
    · split at read
      · next kindRead multiplierRead =>
        cases read
        exact kind_fits kindRead (multiplier_field_fits multiplierRead)
      · cases read
    · cases read

theorem kind_fits {room : Nat} {value : Json} {build : Option Multiplier → Entity}
    {multiplier : Option Multiplier} (read : kindOfJson? strictness room value = some build)
    (fits : (optional Multiplier.json multiplier).nesting ≤ room) :
    (build multiplier).json.nesting ≤ room + 2 :=
  match room, read with
  | room + 2, read => by
    unfold kindOfJson? at read
    split at read
    · obtain ⟨value, -, rfl⟩ := Option.map_eq_some_iff.mp read
      rw [json, nesting_component, nesting_tagged, nesting_text_field]
      omega
    · obtain ⟨value, -, rfl⟩ := Option.map_eq_some_iff.mp read
      rw [json, nesting_component, nesting_tagged, nesting_text_field]
      omega
    · split at read
      · obtain ⟨entities, inner, rfl⟩ := Option.map_eq_some_iff.mp read
        have deep := sequence_fits inner
        rw [json, nesting_component, nesting_tagged, nesting_record]
        exact Nat.add_le_add_right (Nat.max_le.mpr ⟨Nat.add_le_add_right deep 2, fits⟩) 2
      · cases read
    · cases read

theorem sequence_fits {room : Nat} {value : Json} {entities : List Entity}
    (read : sequenceOfJson? strictness room value = some entities) :
    (sequenceJson entities).nesting ≤ room :=
  match room, value, read with
  | room + 1, .array items, read => by
    unfold sequenceOfJson? at read
    exact Nat.succ_le_succ (items_fit (fun _ _ => entity_fits) read)

end

/-- What any text is read as has a form that is read as the same. -/
theorem form_read {text : String} (read : ofJsonText? text = some entities) :
    ofJsonText? (sequenceJson entities).compact = some entities := by
  obtain ⟨value, -, read⟩ := Option.bind_eq_some_iff.mp read
  have fits : (sequenceJson entities).nesting ≤ 127 := sequence_fits read
  rw [sequence_text_read, if_pos fits]

/-- Every sequence of entities is read back from its own JSON text, unless more
than 127 arrays and objects lie inside each other there, in which case the text
is refused; and whatever text a sequence is read from, with all the liberties
that it may take, the sequence's own text is read as the same sequence. -/
theorem json_text_is_read_back :
    (∀ entities, ofJsonText? (sequenceJson entities).compact =
      if (sequenceJson entities).nesting ≤ 127 then some entities else none) ∧
    ∀ text entities, ofJsonText? text = some entities →
      ofJsonText? (sequenceJson entities).compact = some entities :=
  ⟨sequence_text_read, fun _ _ => form_read⟩

/-- A text with records that are arrays, a field of another name, no multiplier
where one may stand, and the name of a combinator with `null` for its payload. -/
def looseText : String :=
  "[\x7b\"Component\":\x7b\"more\":[],\"kind\":\x7b\"Keyword\":[\"a\"]\x7d\x7d\x7d, " ++
  "\x7b\"Combinator\":\x7b\"SingleBar\":null\x7d\x7d, " ++
  "\x7b\"Component\":[\x7b\"DataType\":[\"<b>\"]\x7d,\x7b\"CurlyBracket\":[2,1]\x7d]\x7d]"

theorem loose_text_is_read_back :
    ∃ entities, ofJsonText? looseText = some entities ∧
      ofJsonText? (sequenceJson entities).compact = some entities := by
  have read : ofJsonText? looseText =
      some [keyword "a" none, combinator .singleBar, dataType "<b>" (some (.range 2 (some 1)))] := by
    decide +kernel
  exact ⟨_, read, json_text_is_read_back.2 _ _ read⟩

end ValueGrammar.Encoding
