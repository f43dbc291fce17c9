import ValueGrammar.Combinator
import ValueGrammar.Span

/-! Tokens of a source text: what kind of thing a stretch of text is, the text
itself and the place where it stands. -/
namespace ValueGrammar

inductive TokenKind where
  /-- `<` to `>`, with at least one character and no other angle bracket between. -/
  | dataType
  /-- A name with the parenthesis that opens its arguments. -/
  | functionOpen
  | parenOpen
  | parenClose
  | bracketOpen
  | bracketClose
  | doubleAmpersand
  | doubleBar
  | singleBar
  | asterisk
  | plusSign
  | questionMark
  | hashMark
  | exclamationPoint
  /-- One or two bounds between braces. -/
  | curlyRange
  /-- Any text between single quotes. -/
  | quotedKeyword
  /-- A run of characters that have no meaning of their own. -/
  | keyword
  /-- A stretch that no rule accepts. -/
  | unexpected
deriving DecidableEq, Repr, Inhabited

namespace TokenKind

/-- Multiplier tokens follow the component that they repeat. -/
def isMultiplier : TokenKind → Bool
  | asterisk | plusSign | questionMark | hashMark | exclamationPoint | curlyRange => true
  | _ => false

/-- The combinator that a token of this kind writes. -/
def combinator? : TokenKind → Option Combinator
  | doubleAmpersand => some .doubleAmpersand
  | doubleBar => some .doubleBar
  | singleBar => some .singleBar
  | _ => none

/-- Combinator tokens join the terms on both of their sides. -/
def isCombinator (kind : TokenKind) : Bool := kind.combinator?.isSome

end TokenKind

structure Token where
  kind : TokenKind
  /-- The stretch of the source that the span covers. -/
  text : String
  span : Span
deriving DecidableEq, Repr, Inhabited

end ValueGrammar
