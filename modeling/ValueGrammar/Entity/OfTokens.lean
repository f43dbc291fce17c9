import ValueGrammar.Entity.Nesting
import ValueGrammar.ParseError
import ValueGrammar.Text.Blank
import ValueGrammar.Token.Lexer

/-! Reading a value definition, from left to right and one token at a time. A
token is refused as soon as nothing that follows it could make the text a value
definition; what is still open at the end is refused there. -/
namespace ValueGrammar.Entity
open Text

/-- A sequence as far as it has been read. -/
structure Progress where
  /-- The terms and the combinators between them, the latest first. -/
  items : List Entity := []
  /-- A combinator that has no right operand yet. -/
  pending : Option (Combinator × Span) := none

/-- A function call whose arguments are being skipped. -/
structure Call where
  name : String
  span : Span
  /-- How many parentheses have been opened inside the arguments. -/
  depth : Nat := 0

/-- What has been read of a text. -/
structure Reading where
  /-- The innermost sequence that is open. -/
  current : Progress := {}
  /-- The sequences around it, the innermost first, each with the bracket that
  opened the group inside it. -/
  outer : List (Span × Progress) := []
  call : Option Call := none

/-- Adds a term. The pending combinator joins it to the one before, or else
juxtaposition does. -/
def Progress.addTerm (progress : Progress) (term : Entity) : Progress :=
  match progress.items, progress.pending with
  | [], _ => { items := [term] }
  | items, some (kind, _) => { items := term :: combinator kind :: items }
  | items, none => { items := term :: combinator .juxtaposition :: items }

/-- Whether the sequence ends with a term, which a combinator or a multiplier
can follow. -/
def Progress.endsWithTerm (progress : Progress) : Bool :=
  !progress.items.isEmpty && progress.pending.isNone

/-- The first multiplier of a component stays, and a function takes none. -/
def addMultiplier (multiplier : Multiplier) (entity : Entity) : Entity :=
  if entity.multiplier?.isNone then entity.withMultiplier multiplier else entity

/-- Repeats the latest term. -/
def Progress.repeatLast (progress : Progress) (multiplier : Multiplier) : Progress :=
  match progress.items with
  | [] => progress
  | last :: items => { progress with items := addMultiplier multiplier last :: items }

/-- The finished sequence, nested by precedence. -/
def Progress.entities (progress : Progress) : List Entity := nest progress.items.reverse

/-- The text of a data type without its range: `<length [0,1]>` refers to
`<length>`. A reference to a property, in single quotes, is kept as it is. -/
def dataTypeText (text : String) : String :=
  let inner := (text.toList.drop 1).dropLast
  match inner with
  | '\x27' :: _ => text
  | _ => String.ofList ('<' :: trim (inner.takeWhile (· != '[')) ++ ['>'])

/-- The multiplier that a token writes. -/
def multiplierOf (token : Token) : Option Multiplier :=
  match token.kind with
  | .asterisk => some .asterisk
  | .plusSign => some .plusSign
  | .questionMark => some .questionMark
  | .hashMark => some .hashMark
  | .exclamationPoint => some .exclamationPoint
  | .curlyRange => Multiplier.ofRange? token.text
  | _ => none

namespace Reading

/-- The same reading with another innermost sequence. -/
def addTerm (reading : Reading) (term : Entity) : Reading :=
  { reading with current := reading.current.addTerm term }

/-- A token inside the arguments of a function: only the parentheses count. -/
def skip (reading : Reading) (call : Call) (token : Token) : Reading :=
  match token.kind, call.depth with
  | .functionOpen, depth | .parenOpen, depth =>
    { reading with call := some { call with depth := depth + 1 } }
  | .parenClose, depth + 1 => { reading with call := some { call with depth := depth } }
  | .parenClose, 0 => { reading with call := none }.addTerm (function call.name)
  | _, _ => reading

/-- A token that joins two terms. -/
def readCombinator (reading : Reading) (kind : Combinator) (span : Span) :
    Except ParseError Reading :=
  if reading.current.endsWithTerm then
    .ok { reading with current := { reading.current with pending := some (kind, span) } }
  else .error ⟨.danglingCombinator kind, span⟩

/-- A token that repeats the term before it. -/
def readMultiplier (reading : Reading) (token : Token) : Except ParseError Reading :=
  if reading.current.endsWithTerm then
    match multiplierOf token with
    | some multiplier =>
      .ok { reading with current := reading.current.repeatLast multiplier }
    | none => .error ⟨.invalidRange token.text, token.span⟩
  else .error ⟨.misplacedMultiplier token.text, token.span⟩

/-- A closing bracket. -/
def readClose (reading : Reading) (token : Token) : Except ParseError Reading :=
  match reading.outer, reading.current.pending with
  | [], _ => .error ⟨.unexpectedToken token.text, token.span⟩
  | _ :: _, some (kind, span) => .error ⟨.danglingCombinator kind, span⟩
  | (_, enclosing) :: outer, none =>
    .ok { current := enclosing.addTerm (group reading.current.entities none), outer }

/-- A token outside the arguments of a function. -/
def read (reading : Reading) (token : Token) : Except ParseError Reading :=
  match token.kind with
  | .unexpected => .error ⟨.unexpectedToken token.text, token.span⟩
  | .bracketOpen =>
    .ok { reading with current := {}, outer := (token.span, reading.current) :: reading.outer }
  | .bracketClose => reading.readClose token
  | .doubleAmpersand => reading.readCombinator .doubleAmpersand token.span
  | .doubleBar => reading.readCombinator .doubleBar token.span
  | .singleBar => reading.readCombinator .singleBar token.span
  | .asterisk | .plusSign | .questionMark | .hashMark | .exclamationPoint | .curlyRange =>
    reading.readMultiplier token
  | .dataType => .ok (reading.addTerm (dataType (dataTypeText token.text) none))
  | .keyword | .parenOpen | .parenClose => .ok (reading.addTerm (keyword token.text none))
  | .quotedKeyword =>
    .ok (reading.addTerm (keyword (String.ofList (token.text.toList.drop 1).dropLast) none))
  | .functionOpen =>
    .ok { reading with call := some { name := String.ofList token.text.toList.dropLast
                                      span := token.span } }

/-- One more token. -/
def step (reading : Reading) (token : Token) : Except ParseError Reading :=
  match reading.call with
  | some call => .ok (reading.skip call token)
  | none => reading.read token

/-- The end of the text, where everything that was opened has to be closed. -/
def finish (reading : Reading) : Except ParseError (List Entity) :=
  match reading.call, reading.current.pending, reading.outer with
  | some call, _, _ => .error ⟨.unclosedFunction call.name, call.span⟩
  | none, some (kind, span), _ => .error ⟨.danglingCombinator kind, span⟩
  | none, none, (span, _) :: _ => .error ⟨.unclosedGroup, span⟩
  | none, none, [] => .ok reading.current.entities

/-- All of these tokens, from the first to the last. -/
def run (reading : Reading) : List Token → Except ParseError Reading
  | [] => .ok reading
  | token :: rest =>
    match reading.step token with
    | .ok next => next.run rest
    | .error error => .error error

end Reading

/-- The sequence that a list of tokens writes. -/
def ofTokens (tokens : List Token) : Except ParseError (List Entity) :=
  match Reading.run {} tokens with
  | .ok reading => reading.finish
  | .error error => .error error

/-- The sequence that a source text writes. -/
def parse (source : String) : Except ParseError (List Entity) :=
  ofTokens (Token.lex source)

end ValueGrammar.Entity
