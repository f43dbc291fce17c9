import ValueGrammar.Json.Fault
import ValueGrammar.Text.Quoted

/-! String literals: the escaped form of a text, and the text that a literal
stands for, read one character at a time. A pair of surrogate escapes stands
for one character, and a surrogate on its own for none. -/
namespace ValueGrammar.Json.Literal
open Text

/-- A hexadecimal number of four digits. -/
def fourDigits (n : Nat) : List Char :=
  [hexDigit (n / 4096 % 16), hexDigit (n / 256 % 16), hexDigit (n / 16 % 16), hexDigit (n % 16)]

/-- The character as it stands in a literal. Only the quote, the backslash and
the controls below the space are escaped. -/
def escapeChar (c : Char) : List Char :=
  match c with
  | '"' => ['\\', '"']
  | '\\' => ['\\', '\\']
  | '\x08' => ['\\', 'b']
  | '\t' => ['\\', 't']
  | '\n' => ['\\', 'n']
  | '\x0c' => ['\\', 'f']
  | '\r' => ['\\', 'r']
  | c => if c.toNat < 0x20 then '\\' :: 'u' :: fourDigits c.toNat else [c]

/-- The literal of a text. -/
def escape (text : String) : String := String.ofList (text.toList.flatMap escapeChar)

/-- The value of a hexadecimal digit in either case. -/
def hexValue? (c : Char) : Option Nat :=
  if c.isDigit then some (c.toNat - 48)
  else if 'a' ≤ c && c ≤ 'f' then some (c.toNat - 87)
  else if 'A' ≤ c && c ≤ 'F' then some (c.toNat - 55)
  else none

/-- The characters that a backslash and one letter stand for. -/
def shortEscape? (c : Char) : Option Char :=
  match c with
  | '"' => some '"'
  | '\\' => some '\\'
  | '/' => some '/'
  | 'b' => some '\x08'
  | 'f' => some '\x0c'
  | 'n' => some '\n'
  | 'r' => some '\r'
  | 't' => some '\t'
  | _ => none

/-- The four bytes after `\u`, as far as they have been taken in. -/
structure Hex where
  bytes : Nat := 0
  value : Nat := 0
  /-- Whether all of them are hexadecimal digits. -/
  sound : Bool := true

/-- One more character of the four bytes; the fourth byte may lie inside it. -/
def Hex.add (hex : Hex) (c : Char) : Hex where
  bytes := hex.bytes + c.utf8Size
  value := 16 * hex.value + (hexValue? c).getD 0
  sound := hex.sound && (hexValue? c).isSome

/-- Whether all four bytes have been taken in. -/
def Hex.isFull (hex : Hex) : Bool := 4 ≤ hex.bytes

/-- Where in a literal the next character stands. -/
inductive Place where
  | plain
  /-- After a backslash. -/
  | escaped
  /-- After `\u`, in the second escape of a pair if there is a first surrogate. -/
  | code (first : Option Nat) (hex : Hex)
  /-- After a first surrogate. -/
  | paired (first : Nat)
  /-- After a first surrogate and a backslash. -/
  | pairedEscape (first : Nat)

/-- A literal as far as it has been read. -/
structure State where
  place : Place := .plain
  /-- The characters that it stands for, the latest first. -/
  decoded : List Char := []

def isFirstSurrogate (n : Nat) : Bool := 0xd800 ≤ n && n ≤ 0xdbff

def isSecondSurrogate (n : Nat) : Bool := 0xdc00 ≤ n && n ≤ 0xdfff

/-- What four hexadecimal digits stand for. -/
def State.addCode (state : State) (first : Option Nat) (n : Nat) : Except Fault.Cause State :=
  match first with
  | none =>
    if isSecondSurrogate n then .error .loneSurrogate
    else if isFirstSurrogate n then .ok { state with place := .paired n }
    else .ok { place := .plain, decoded := Char.ofNat n :: state.decoded }
  | some first =>
    if isSecondSurrogate n then
      let c := Char.ofNat (0x10000 + (first - 0xd800) * 0x400 + (n - 0xdc00))
      .ok { place := .plain, decoded := c :: state.decoded }
    else .error .loneSurrogate

/-- One more character. A fault comes with the number of bytes of this character
that are taken in with it. -/
def State.step (state : State) (c : Char) : Except (Fault.Cause × Nat) State :=
  match state.place with
  | .plain =>
    if c = '\\' then .ok { state with place := .escaped }
    else if c.toNat < 0x20 then .error (.controlCharacter, 1)
    else .ok { state with decoded := c :: state.decoded }
  | .escaped =>
    if c = 'u' then .ok { state with place := .code none {} }
    else match shortEscape? c with
      | some plain => .ok { place := .plain, decoded := plain :: state.decoded }
      | none => .error (.invalidEscape, 1)
  | .code first hex =>
    let added := hex.add c
    if !added.isFull then .ok { state with place := .code first added }
    else if !added.sound then .error (.invalidEscape, 4 - hex.bytes)
    else match state.addCode first added.value with
      | .ok next => .ok next
      | .error cause => .error (cause, 1)
  | .paired first =>
    if c = '\\' then .ok { state with place := .pairedEscape first }
    else .error (.unfinishedPair, 1)
  | .pairedEscape first =>
    if c = 'u' then .ok { state with place := .code (some first) {} }
    else .error (.unfinishedPair, 1)

/-- The text of a literal that is complete. -/
def State.text? (state : State) : Option String :=
  match state.place with
  | .plain => some (String.ofList state.decoded.reverse)
  | _ => none

/-- The state after all of these characters, if none of them is at fault. -/
def State.run? (state : State) : List Char → Option State
  | [] => some state
  | c :: rest =>
    match state.step c with
    | .ok next => next.run? rest
    | .error _ => none

/-- The text that a literal stands for. -/
def decode? (literal : String) : Option String :=
  (State.run? {} literal.toList).bind State.text?

end ValueGrammar.Json.Literal
