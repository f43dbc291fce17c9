import ValueGrammar.Json
import ValueGrammar.Json.Literal

/-! Reading a JSON value one character at a time, with the containers around the
place kept in a list. Strings are taken as they are written: their escapes have
to be well formed, but surrogates need no partner. -/
namespace ValueGrammar.Json.Reader
open Literal (Hex)

/-- Space, line feed, tab and carriage return may stand between the parts. -/
def isSpace (c : Char) : Bool := c = ' ' || c = '\n' || c = '\t' || c = '\r'

/-- The part of a number that was read last. -/
inductive Part where
  | minus
  /-- A zero, after which no other digit of the whole part may follow. -/
  | zero
  | whole
  | point
  | fraction
  | mark
  | markSign
  | power
deriving DecidableEq, Repr

namespace Part

/-- Whether a number may end here. -/
def isEnd : Part → Bool
  | zero | whole | fraction | power => true
  | minus | point | mark | markSign => false

/-- The part that the next character belongs to, if the number goes on with it. -/
def next? (part : Part) (c : Char) : Option Part :=
  match part with
  | minus => if c = '0' then some zero else if c.isDigit then some whole else none
  | zero => if c = '.' then some point else if c = 'e' || c = 'E' then some mark else none
  | whole =>
    if c.isDigit then some whole
    else if c = '.' then some point
    else if c = 'e' || c = 'E' then some mark
    else none
  | point => if c.isDigit then some fraction else none
  | fraction =>
    if c.isDigit then some fraction else if c = 'e' || c = 'E' then some mark else none
  | mark =>
    if c.isDigit then some power else if c = '+' || c = '-' then some markSign else none
  | markSign | power => if c.isDigit then some power else none

/-- Whether the number ends before this character. A digit after a leading zero
neither goes on nor ends it. -/
def endsBefore (part : Part) (c : Char) : Bool :=
  part.isEnd && (part.next? c).isNone && !(part = zero && c.isDigit)

end Part

/-- Where in a string the next character stands. -/
inductive StringPlace where
  | plain
  | escaped
  | code (hex : Hex)

/-- One more character of a string, which is not the closing quote. -/
def StringPlace.step (place : StringPlace) (c : Char) : Except (Fault.Cause × Nat) StringPlace :=
  match place with
  | .plain =>
    if c = '\\' then .ok .escaped
    else if c.toNat < 0x20 then .error (.controlCharacter, 0)
    else .ok .plain
  | .escaped =>
    if c = 'u' then .ok (.code {})
    else if (Literal.shortEscape? c).isSome then .ok .plain
    else .error (.invalidEscape, 1)
  | .code hex =>
    let added := hex.add c
    if !added.isFull then .ok (.code added)
    else if added.sound then .ok .plain
    else .error (.invalidEscape, 4 - hex.bytes)

/-- A container that is open, with what it holds so far, the latest first. -/
inductive Frame where
  | items (done : List Json)
  /-- The key is the one whose value is being read. -/
  | members (done : List (String × Json)) (key : String)

/-- Where in a value the next character stands. -/
inductive Place where
  | value
  /-- After an opening bracket: a value or the closing bracket. -/
  | firstItem
  /-- After an opening brace: a key or the closing brace. -/
  | firstKey
  /-- After a comma in an object. -/
  | nextKey (done : List (String × Json))
  | colon (done : List (String × Json)) (key : String)
  /-- Inside `true`, `false` or `null`, with the letters that have to follow. -/
  | word (rest : List Char) (value : Json)
  /-- Inside a number; its characters run backwards. -/
  | number (part : Part) (read : List Char)
  /-- Inside a string; its characters run backwards. -/
  | string (place : StringPlace) (read : List Char)
  | key (done : List (String × Json)) (place : StringPlace) (read : List Char)
  | after (value : Json)

/-- A value as far as it has been read. -/
structure State where
  place : Place := .value
  /-- The containers around the place, the innermost first. -/
  frames : List Frame := []

namespace State

/-- A character where a value has to start. -/
def start (state : State) (c : Char) : Except (Fault.Cause × Nat) State :=
  match c with
  | '[' => .ok { state with place := .firstItem }
  | '\x7b' => .ok { state with place := .firstKey }
  | '"' => .ok { state with place := .string .plain [] }
  | '-' => .ok { state with place := .number .minus [c] }
  | '0' => .ok { state with place := .number .zero [c] }
  | 't' => .ok { state with place := .word ['r', 'u', 'e'] (.bool true) }
  | 'f' => .ok { state with place := .word ['a', 'l', 's', 'e'] (.bool false) }
  | 'n' => .ok { state with place := .word ['u', 'l', 'l'] .null }
  | c =>
    if c.isDigit then .ok { state with place := .number .whole [c] }
    else .error (.expectedValue, 1)

/-- A number ends where a character follows that it cannot go on with. -/
def settle (state : State) (c : Char) : State :=
  match state.place with
  | .number part read =>
    if part.endsBefore c then
      { state with place := .after (.number (String.ofList read.reverse)) }
    else state
  | _ => state

/-- A character after a value in a container. -/
def follow (value : Json) (frames : List Frame) (c : Char) : Except (Fault.Cause × Nat) State :=
  match frames with
  | [] => .error (.trailingCharacters, 1)
  | .items done :: outer =>
    if c = ',' then .ok { place := .value, frames := .items (value :: done) :: outer }
    else if c = ']' then
      .ok { place := .after (.array (value :: done).reverse), frames := outer }
    else .error (.expectedCommaOrBracket, 1)
  | .members done key :: outer =>
    let members := (key, value) :: done
    if c = ',' then .ok { place := .nextKey members, frames := outer }
    else if c = '\x7d' then .ok { place := .after (.object members.reverse), frames := outer }
    else .error (.expectedCommaOrBrace, 1)

/-- One more character. A fault comes with the number of bytes of this character
that are taken in with it. -/
def step (state : State) (c : Char) : Except (Fault.Cause × Nat) State :=
  let state := state.settle c
  match state.place with
  | .value => if isSpace c then .ok state else state.start c
  | .firstItem =>
    if isSpace c then .ok state
    else if c = ']' then .ok { state with place := .after (.array []) }
    else { state with frames := .items [] :: state.frames }.start c
  | .firstKey =>
    if isSpace c then .ok state
    else if c = '"' then .ok { state with place := .key [] .plain [] }
    else if c = '\x7d' then .ok { state with place := .after (.object []) }
    else .error (.keyMustBeString, 1)
  | .nextKey done =>
    if isSpace c then .ok state
    else if c = '"' then .ok { state with place := .key done .plain [] }
    else .error (.keyMustBeString, 1)
  | .colon done key =>
    if isSpace c then .ok state
    else if c = ':' then .ok { place := .value, frames := .members done key :: state.frames }
    else .error (.expectedColon, 1)
  | .word [] value => .ok { state with place := .after value }
  | .word (letter :: rest) value =>
    if c ≠ letter then .error (.expectedIdent, 1)
    else if rest.isEmpty then .ok { state with place := .after value }
    else .ok { state with place := .word rest value }
  | .number part read =>
    match part.next? c with
    | some next => .ok { state with place := .number next (c :: read) }
    | none => .error (.invalidNumber, 1)
  | .string place read =>
    match place with
    | .plain =>
      if c = '"' then
        .ok { state with place := .after (.string (String.ofList read.reverse)) }
      else (place.step c).map fun next => { state with place := .string next (c :: read) }
    | _ => (place.step c).map fun next => { state with place := .string next (c :: read) }
  | .key done place read =>
    match place with
    | .plain =>
      if c = '"' then .ok { state with place := .colon done (String.ofList read.reverse) }
      else (place.step c).map fun next => { state with place := .key done next (c :: read) }
    | _ => (place.step c).map fun next => { state with place := .key done next (c :: read) }
  | .after value => if isSpace c then .ok state else follow value state.frames c

/-- The value that ends here, if the text may end. -/
def finish (state : State) : Except Fault.Cause Json :=
  let complete (value : Json) : Except Fault.Cause Json :=
    match state.frames with
    | [] => .ok value
    | .items _ :: _ => .error .endInList
    | .members .. :: _ => .error .endInObject
  match state.place with
  | .value | .word .. => .error .endInValue
  | .firstItem => .error .endInList
  | .firstKey | .nextKey _ | .colon .. => .error .endInObject
  | .number part read =>
    if part.isEnd then complete (.number (String.ofList read.reverse)) else .error .invalidNumber
  | .string .. | .key .. => .error .endInString
  | .after value => complete value

/-- Reads all of these characters. -/
def run? (state : State) : List Char → Option State
  | [] => some state
  | c :: rest =>
    match state.step c with
    | .ok next => next.run? rest
    | .error _ => none

end State

/-- The value that a text writes, if it writes one and nothing else but space. -/
def read? (text : String) : Option Json :=
  (State.run? {} text.toList).bind fun state => state.finish.toOption

end ValueGrammar.Json.Reader
