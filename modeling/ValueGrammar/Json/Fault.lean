import ValueGrammar.Span

/-! What can be wrong with a JSON text, and where. The place is the number of
bytes that were taken in; a byte that was only looked at and found wrong is one
of them. -/
namespace ValueGrammar.Json

namespace Fault

inductive Cause where
  | endInValue
  | endInObject
  | endInList
  | endInString
  | expectedValue
  | expectedColon
  | expectedCommaOrBracket
  | expectedCommaOrBrace
  | keyMustBeString
  | trailingComma
  | trailingCharacters
  /-- A word that starts like `true`, `false` or `null` and goes on differently. -/
  | expectedIdent
  | invalidNumber
  | numberOutOfRange
  | invalidEscape
  /-- A surrogate escape that is not the first of a pair, or a second one that
  does not complete a pair. -/
  | loneSurrogate
  /-- The first surrogate of a pair with no escape behind it. -/
  | unfinishedPair
  | controlCharacter
  /-- A value of another type where an object has to stand. -/
  | notAnObject (found : String)
deriving DecidableEq, Repr

/-- The sentence that tells the cause. -/
def Cause.message : Cause → String
  | endInValue => "EOF while parsing a value"
  | endInObject => "EOF while parsing an object"
  | endInList => "EOF while parsing a list"
  | endInString => "EOF while parsing a string"
  | expectedValue => "expected value"
  | expectedColon => "expected `:`"
  | expectedCommaOrBracket => "expected `,` or `]`"
  | expectedCommaOrBrace => "expected `,` or `\x7d`"
  | keyMustBeString => "key must be a string"
  | trailingComma => "trailing comma"
  | trailingCharacters => "trailing characters"
  | expectedIdent => "expected ident"
  | invalidNumber => "invalid number"
  | numberOutOfRange => "number out of range"
  | invalidEscape => "invalid escape"
  | loneSurrogate => "lone leading surrogate in hex escape"
  | unfinishedPair => "unexpected end of hex escape"
  | controlCharacter => "control character (\\u0000-\\u001F) found while parsing a string"
  | notAnObject found => "invalid type: " ++ found ++ ", expected a map"

end Fault

structure Fault where
  cause : Fault.Cause
  /-- How many bytes of the text were taken in. -/
  offset : Nat
deriving DecidableEq, Repr

namespace Fault

/-- The line, counted from one, in which so many bytes of a text end, and how
many of the bytes stand in that line. -/
def position (offset : Nat) : List Char → Nat × Nat
  | [] => (1, offset)
  | c :: rest =>
    if offset = 0 then (1, 0)
    else
      let (line, column) := position (offset - c.utf8Size) rest
      if c = '\n' then (line + 1, column)
      else if line = 1 then (1, if offset < c.utf8Size then offset else c.utf8Size + column)
      else (line, column)

end Fault
end ValueGrammar.Json
