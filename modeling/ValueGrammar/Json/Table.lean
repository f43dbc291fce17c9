import ValueGrammar.Json.Scalar

/-! The keys of a JSON object. Keys are decoded, in order and with repetitions;
the values are only checked to be JSON. -/
namespace ValueGrammar.Json.Table
open Reader (isSpace)

/-- Where in the object the next character stands. -/
inductive Place where
  /-- After the opening brace: a key or the closing brace. -/
  | firstKey
  /-- After a comma. -/
  | nextKey
  | key (literal : Literal.State)
  | colon
  | value (reader : Reader.State)
  /-- After the closing brace. -/
  | closed

/-- An object as far as it has been read. -/
structure State where
  place : Place := .firstKey
  /-- The keys, the latest first. -/
  keys : List String := []

namespace State

/-- A character after a value. -/
def follow (state : State) (c : Char) : Except (Fault.Cause × Nat) State :=
  if isSpace c then .ok state
  else if c = ',' then .ok { state with place := .nextKey }
  else if c = '\x7d' then .ok { state with place := .closed }
  else .error (.expectedCommaOrBrace, 1)

/-- One more character. A fault comes with the number of bytes of this character
that are taken in with it. -/
def step (state : State) (c : Char) : Except (Fault.Cause × Nat) State :=
  match state.place with
  | .firstKey =>
    if isSpace c then .ok state
    else if c = '"' then .ok { state with place := .key {} }
    else if c = '\x7d' then .ok { state with place := .closed }
    else .error (.keyMustBeString, 1)
  | .nextKey =>
    if isSpace c then .ok state
    else if c = '"' then .ok { state with place := .key {} }
    else if c = '\x7d' then .error (.trailingComma, 1)
    else .error (.keyMustBeString, 1)
  | .key literal =>
    match literal.text?, c with
    | some key, '"' => .ok { place := .colon, keys := key :: state.keys }
    | _, _ => (literal.step c).map fun next => { state with place := .key next }
  | .colon =>
    if isSpace c then .ok state
    else if c = ':' then .ok { state with place := .value {} }
    else .error (.expectedColon, 1)
  | .value reader =>
    let settled := reader.settle c
    match settled.place, settled.frames with
    | .after _, [] => { state with place := .value settled }.follow c
    | _, _ => (settled.step c).map fun next => { state with place := .value next }
  | .closed => if isSpace c then .ok state else .error (.trailingCharacters, 1)

/-- The keys, if the text may end here. -/
def finish (state : State) : Except Fault.Cause (List String) :=
  match state.place with
  | .closed => .ok state.keys.reverse
  | .firstKey | .colon => .error .endInObject
  | .nextKey => .error .endInValue
  | .key _ => .error .endInString
  | .value reader =>
    match reader.finish with
    | .ok _ => .error .endInObject
    | .error cause => .error cause

/-- Reads the rest of an object, which starts at this offset. -/
def run (state : State) (offset : Nat) : List Char → Except Fault (List String)
  | [] =>
    match state.finish with
    | .ok keys => .ok keys
    | .error cause => .error ⟨cause, offset⟩
  | c :: rest =>
    match state.step c with
    | .ok next => next.run (offset + c.utf8Size) rest
    | .error (cause, taken) => .error ⟨cause, offset + taken⟩

end State

/-- The keys of the object that a text consists of. -/
def keys (text : String) : Except Fault (List String) :=
  let spaces := (text.toList.takeWhile isSpace).length
  match text.toList.dropWhile isSpace with
  | '\x7b' :: members => State.run {} (spaces + 1) members
  | other => .error (Scalar.fault spaces other)

end ValueGrammar.Json.Table
