import ValueGrammar.Entity
import ValueGrammar.Json.Reader

/-! The JSON form of entities. What is written names every field; what is read
may leave out a multiplier or an upper bound, may give the fields of a record as
an array in order, and may hold fields of other names. In a text at most 127
arrays and objects may lie inside each other. -/
namespace ValueGrammar

/-- An object with one member, which names one of several alternatives. -/
def tagged (name : String) (payload : Json) : Json := .object [(name, payload)]

namespace Multiplier
open Text

/-- A bound as a JSON number. -/
def boundJson (n : UInt32) : Json := .number (String.ofList (digits n.toNat))

/-- The multiplier as JSON: the name of a single sign, or the bounds of a range. -/
def json : Multiplier → Json
  | asterisk => .string "Asterisk"
  | plusSign => .string "PlusSign"
  | questionMark => .string "QuestionMark"
  | hashMark => .string "HashMark"
  | exclamationPoint => .string "ExclamationPoint"
  | range min max =>
    tagged "CurlyBracket" (.object [("min", boundJson min),
      ("max", match max with | none => .null | some max => boundJson max)])

end Multiplier

namespace Entity

/-- A component as JSON: its kind, and its multiplier or `null`. -/
def componentJson (kind : Json) (multiplier : Option Multiplier) : Json :=
  tagged "Component" (.object [("kind", kind),
    ("multiplier", match multiplier with | none => .null | some multiplier => multiplier.json)])

/-- A record with one text field. -/
def textField (name value : String) : Json :=
  .object [(name, .string (Json.Literal.escape value))]

mutual

/-- The entity as JSON. -/
def json : Entity → Json
  | keyword value multiplier =>
    componentJson (tagged "Keyword" (textField "value" value)) multiplier
  | dataType value multiplier =>
    componentJson (tagged "DataType" (textField "value" value)) multiplier
  | group entities multiplier =>
    componentJson (tagged "Group" (.object [("entities", .array (jsonItems entities))])) multiplier
  | combinator kind => tagged "Combinator" (.string kind.name)
  | function name => tagged "Function" (textField "name" name)

/-- Each entity of a sequence as JSON. -/
def jsonItems : List Entity → List Json
  | [] => []
  | entity :: rest => entity.json :: jsonItems rest

end

/-- The sequence as a JSON array. -/
def sequenceJson (entities : List Entity) : Json := .array (jsonItems entities)

end Entity

namespace Json

/-- The text of a string. -/
def text? : Json → Option String
  | string literal => Literal.decode? literal
  | _ => none

/-- How strictly the form of a value is taken. -/
inductive Strictness where
  /-- In a text, a name may not come twice in a record, and every record may be
  an array. -/
  | text
  /-- In a value that was taken in before, the last of several members with one
  name counts, and the record of an alternative has to be an object. -/
  | value
deriving DecidableEq, Repr

/-- The members of an object with their keys decoded. -/
def decodeKeys : List (String × Json) → Option (List (String × Json))
  | [] => some []
  | (key, value) :: rest =>
    match Literal.decode? key, decodeKeys rest with
    | some name, some more => some ((name, value) :: more)
    | _, _ => none

/-- The members of which no later one has the name. -/
def lastMembers : List (String × Json) → List (String × Json)
  | [] => []
  | member :: rest =>
    if rest.any fun later => later.1 == member.1 then lastMembers rest
    else member :: lastMembers rest

/-- The members of an object that count. -/
def members? (strictness : Strictness) (members : List (String × Json)) :
    Option (List (String × Json)) :=
  match strictness with
  | .text => decodeKeys members
  | .value => (decodeKeys members).map lastMembers

/-- What stands in one field of a record. -/
inductive Field where
  | given (value : Json)
  /-- An object does not name the field. -/
  | unnamed
  /-- An array has no more items. -/
  | beyond

/-- The only member of this name. -/
def field? (members : List (String × Json)) (name : String) : Option Field :=
  match members.filter fun member => member.1 == name with
  | [] => some .unnamed
  | [(_, value)] => some (.given value)
  | _ => none

/-- Items of an array as the fields of a record, of which there may be no more
than names. -/
def itemFields : List String → List Json → Option (List Field)
  | [], [] => some []
  | [], _ :: _ => none
  | _ :: names, [] => (itemFields names []).map (.beyond :: ·)
  | _ :: names, item :: rest => (itemFields names rest).map (.given item :: ·)

/-- The fields of a record, in the order of these names. Other names do not
count. -/
def fields? (strictness : Strictness) (names : List String) : Json → Option (List Field)
  | array items => itemFields names items
  | object members =>
    (members? strictness members).bind fun members => names.mapM (field? members)
  | _ => none

/-- The fields of the record that an alternative has. -/
def payloadFields? (strictness : Strictness) (names : List String) (value : Json) :
    Option (List Field) :=
  match strictness, value with
  | .value, array _ => none
  | _, _ => fields? strictness names value

/-- The name of an alternative, with its payload if it has one. -/
def alternative? (strictness : Strictness) : Json → Option (String × Option Json)
  | string literal => (Literal.decode? literal).map fun name => (name, none)
  | object members =>
    match members? strictness members with
    | some [(name, payload)] => some (name, some payload)
    | _ => none
  | _ => none

/-- The name of an alternative without a payload, or with `null` for one. -/
def plainAlternative? (strictness : Strictness) (value : Json) : Option String :=
  match alternative? strictness value with
  | some (name, none) => some name
  | some (name, some null) => some name
  | _ => none

end Json

namespace Multiplier
open Json Text

/-- A bound is an integer of 32 bits, without sign, fraction or power of ten. -/
def boundOfJson? : Json → Option UInt32
  | .number literal => bound? literal.toList
  | _ => none

/-- The alternatives that are written as a single sign. -/
def ofName? (name : String) : Option Multiplier :=
  [asterisk, plusSign, questionMark, hashMark, exclamationPoint].find? fun multiplier =>
    match multiplier.json with
    | .string known => known == name
    | _ => false

/-- The range of a record with two bounds. -/
def rangeOfJson? (strictness : Strictness) (value : Json) : Option Multiplier :=
  match payloadFields? strictness ["min", "max"] value with
  | some [.given min, .given .null] | some [.given min, .unnamed] =>
    (boundOfJson? min).map fun min => range min none
  | some [.given min, .given max] =>
    match boundOfJson? min, boundOfJson? max with
    | some min, some max => some (range min (some max))
    | _, _ => none
  | _ => none

/-- The multiplier of a JSON value in which at most so many arrays and objects
may lie inside each other. -/
def ofJson? (strictness : Strictness) (room : Nat) (value : Json) : Option Multiplier :=
  match alternative? strictness value with
  | some ("CurlyBracket", some payload) =>
    if 2 ≤ room then rangeOfJson? strictness payload else none
  | some (name, none) => ofName? name
  | some (name, some .null) => if 1 ≤ room then ofName? name else none
  | _ => none

/-- A multiplier that may be left out. -/
def ofField? (strictness : Strictness) (room : Nat) : Json.Field → Option (Option Multiplier)
  | .given .null | .unnamed | .beyond => some none
  | .given value => (ofJson? strictness room value).map some

end Multiplier

namespace Entity
open Json

/-- The combinator that is named. -/
def combinatorOfJson? (strictness : Strictness) (room : Nat) (value : Json) : Option Entity :=
  match value, room with
  | .object _, 0 => none
  | _, _ =>
    (plainAlternative? strictness value).bind fun name =>
      (Combinator.ofName? name).map combinator

/-- The text of a record with one text field. -/
def onlyText? : Option (List Json.Field) → Option String
  | some [.given value] => value.text?
  | _ => none

mutual

/-- The entity of a JSON value in which at most so many arrays and objects may
lie inside each other. -/
def ofJson? (strictness : Strictness) : Nat → Json → Option Entity
  | 0, _ => none
  | room + 1, value =>
    match alternative? strictness value with
    | some ("Component", some payload) => componentOfJson? strictness room payload
    | some ("Combinator", some payload) => combinatorOfJson? strictness room payload
    | some ("Function", some payload) =>
      if 1 ≤ room then (onlyText? (fields? strictness ["name"] payload)).map function else none
    | _ => none

/-- The component of a record with a kind and a multiplier. -/
def componentOfJson? (strictness : Strictness) : Nat → Json → Option Entity
  | 0, _ => none
  | room + 1, value =>
    match fields? strictness ["kind", "multiplier"] value with
    | some [.given kind, multiplier] =>
      match kindOfJson? strictness room kind, Multiplier.ofField? strictness room multiplier with
      | some build, some multiplier => some (build multiplier)
      | _, _ => none
    | _ => none

/-- The component of a kind, which lacks its multiplier. -/
def kindOfJson? (strictness : Strictness) : Nat → Json → Option (Option Multiplier → Entity)
  | 0, _ | 1, _ => none
  | room + 2, value =>
    match alternative? strictness value with
    | some ("Keyword", some payload) =>
      (onlyText? (payloadFields? strictness ["value"] payload)).map keyword
    | some ("DataType", some payload) =>
      (onlyText? (payloadFields? strictness ["value"] payload)).map dataType
    | some ("Group", some payload) =>
      match payloadFields? strictness ["entities"] payload with
      | some [.given entities] => (sequenceOfJson? strictness room entities).map group
      | _ => none
    | _ => none

/-- The sequence of a JSON array. -/
def sequenceOfJson? (strictness : Strictness) : Nat → Json → Option (List Entity)
  | room + 1, .array items => items.mapM (ofJson? strictness room)
  | _, _ => none

end

/-- How many arrays and objects may lie inside each other in a text. -/
def nestingLimit : Nat := 127

/-- The sequence that a JSON text writes. -/
def ofJsonText? (text : String) : Option (List Entity) :=
  (Json.Reader.read? text).bind (sequenceOfJson? .text nestingLimit)

end Entity
end ValueGrammar
