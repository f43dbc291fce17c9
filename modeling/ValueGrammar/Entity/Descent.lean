import ValueGrammar.Entity.OfTokens
import ValueGrammar.Entity.Shape

/-! Reading a value definition by descent: a sequence reads its terms, and a term
reads the sequence of a group. The tokens are taken as the lexer leaves them, and
their texts are cut out of the source by byte offsets. Whatever this relies on is
checked where it is needed, and a check that fails ends the reading as a mishap. -/
namespace ValueGrammar.Entity.Descent
open Text

/-- What is taken for impossible. -/
inductive Mishap where
  /-- A slice that ends before it starts or outside of the text, or that cuts a
  character in two. -/
  | slice
  /-- A token of a kind that does not occur at its place. -/
  | kind (kind : TokenKind)
  /-- No token where there is one. -/
  | exhausted
  /-- More parentheses are closed than were opened. -/
  | depth
  /-- A term that took no token. -/
  | stuck
  | malformed (malformation : Malformation)
deriving DecidableEq, Repr

/-- Why a reading ends early. -/
inductive Halt where
  | refused (error : ParseError)
  | mishap (mishap : Mishap)
deriving DecidableEq, Repr

/-- A token without its text. -/
structure Mark where
  kind : TokenKind
  span : Span
deriving DecidableEq, Repr

def Mark.ofToken (token : Token) : Mark := ⟨token.kind, token.span⟩

/-- What follows the first bytes of a text, if they are whole characters of it. -/
def dropBytes? (count : Nat) : List Char → Option (List Char)
  | [] => if count = 0 then some [] else none
  | c :: rest =>
    if count = 0 then some (c :: rest)
    else if c.utf8Size ≤ count then dropBytes? (count - c.utf8Size) rest
    else none

/-- The first bytes of a text, if they are whole characters of it. -/
def takeBytes? (count : Nat) : List Char → Option (List Char)
  | [] => if count = 0 then some [] else none
  | c :: rest =>
    if count = 0 then some []
    else if c.utf8Size ≤ count then (takeBytes? (count - c.utf8Size) rest).map (c :: ·)
    else none

/-- The part of a text from one byte offset to another. -/
def slice (text : List Char) (start stop : Nat) : Except Halt (List Char) :=
  if start ≤ stop then
    match (dropBytes? start text).bind (takeBytes? (stop - start)) with
    | some part => .ok part
    | none => .error (.mishap .slice)
  else .error (.mishap .slice)

/-- The text of a token. -/
def Mark.text (source : List Char) (token : Mark) : Except Halt (List Char) :=
  slice source token.span.start token.span.stop

/-- The offset of the last byte of a text. -/
def lastByte (text : List Char) : Except Halt Nat :=
  if byteLength text = 0 then .error (.mishap .slice) else .ok (byteLength text - 1)

/-- A text without its first and its last byte. -/
def inside (text : List Char) : Except Halt (List Char) := do
  slice text 1 (← lastByte text)

/-- A text without its last byte. -/
def withoutLast (text : List Char) : Except Halt (List Char) := do
  slice text 0 (← lastByte text)

/-- What stands in front of the first bracket in a text. -/
def beforeBracket (text : List Char) : Except Halt (List Char) :=
  if text.contains '[' then slice text 0 (byteLength (text.takeWhile (· != '['))) else .ok text

/-- The text of a data type without its range; `dataTypeText`, by offsets. -/
def dataTypeOf (text : List Char) : Except Halt String := do
  let inner ← inside text
  match inner with
  | '\x27' :: _ => return String.ofList text
  | _ => return String.ofList ('<' :: trim (← beforeBracket inner) ++ ['>'])

/-- The combinator of a token that was seen to be one. -/
def combinatorOf : TokenKind → Except Halt Combinator
  | .doubleAmpersand => .ok .doubleAmpersand
  | .doubleBar => .ok .doubleBar
  | .singleBar => .ok .singleBar
  | kind => .error (.mishap (.kind kind))

/-- The multiplier of a token that was seen to be one. -/
def multiplierOf (source : List Char) (token : Mark) : Except Halt Multiplier :=
  match token.kind with
  | .asterisk => .ok .asterisk
  | .plusSign => .ok .plusSign
  | .questionMark => .ok .questionMark
  | .hashMark => .ok .hashMark
  | .exclamationPoint => .ok .exclamationPoint
  | .curlyRange => do
    let text ← token.text source
    match Multiplier.ofBounds? (← inside text) with
    | some multiplier => return multiplier
    | none => throw (.refused ⟨.invalidRange (String.ofList text), token.span⟩)
  | kind => .error (.mishap (.kind kind))

/-- What follows the arguments of a function. The depth counts the parentheses
that are open, with that of the function itself. -/
def skipArguments (name : String) (span : Span) (depth : Nat) :
    List Mark → Except Halt (List Mark)
  | [] => .error (.refused ⟨.unclosedFunction name, span⟩)
  | token :: rest =>
    match token.kind with
    | .functionOpen | .parenOpen => skipArguments name span (depth + 1) rest
    | .parenClose =>
      match depth with
      | 0 => .error (.mishap .depth)
      | depth + 1 => if depth = 0 then .ok rest else skipArguments name span depth rest
    | _ => skipArguments name span depth rest

/-- The first of the multipliers behind a term. The others are read as well. -/
def multipliers (source : List Char) (found : Option Multiplier) :
    List Mark → Except Halt (Option Multiplier × List Mark)
  | [] => .ok (found, [])
  | token :: rest =>
    if token.kind.isMultiplier then do
      let multiplier ← multiplierOf source token
      multipliers source (found.or (some multiplier)) rest
    else .ok (found, token :: rest)

/-- The end of a sequence, at the bracket that closes its group if it has one. -/
def close (opening : Option Span) (progress : Progress) (tokens : List Mark) :
    Except Halt (List Entity × List Mark) :=
  match progress.pending, opening, tokens with
  | some (kind, span), _, _ => .error (.refused ⟨.danglingCombinator kind, span⟩)
  | none, none, tokens => .ok (progress.entities, tokens)
  | none, some span, [] => .error (.refused ⟨.unclosedGroup, span⟩)
  | none, some span, token :: rest =>
    if token.kind = .bracketClose then .ok (progress.entities, rest)
    else .error (.refused ⟨.unclosedGroup, span⟩)

mutual

/-- The rest of a sequence, which a bracket has opened if it is that of a group. -/
def sequence (source : List Char) (opening : Option Span) (progress : Progress) :
    List Mark → Except Halt (List Entity × List Mark)
  | [] => close opening progress []
  | token :: rest =>
    if token.kind = .bracketClose ∧ opening.isSome then close opening progress (token :: rest)
    else if token.kind = .bracketClose ∨ token.kind = .unexpected then do
      let text ← token.text source
      throw (.refused ⟨.unexpectedToken (String.ofList text), token.span⟩)
    else if token.kind.isCombinator then do
      let kind ← combinatorOf token.kind
      if progress.items.isEmpty || progress.pending.isSome then
        throw (.refused ⟨.danglingCombinator kind, token.span⟩)
      else sequence source opening { progress with pending := some (kind, token.span) } rest
    else if token.kind.isMultiplier then do
      let text ← token.text source
      throw (.refused ⟨.misplacedMultiplier (String.ofList text), token.span⟩)
    else do
      let (entity, others) ← term source (token :: rest)
      if others.length < (token :: rest).length then
        sequence source opening (progress.addTerm entity) others
      else throw (.mishap .stuck)
termination_by tokens => (tokens.length, 2)

/-- A term with its multipliers. -/
def term (source : List Char) : List Mark → Except Halt (Entity × List Mark)
  | [] => .error (.mishap .exhausted)
  | token :: rest => do
    let (entity, rest) ← base source token rest
    let (multiplier, rest) ← multipliers source none rest
    match multiplier with
    | some multiplier => return (entity.withMultiplier multiplier, rest)
    | none => return (entity, rest)
termination_by tokens => (tokens.length, 1)

/-- A term without multipliers, given its first token and what follows that. -/
def base (source : List Char) (token : Mark) (rest : List Mark) :
    Except Halt (Entity × List Mark) := do
  let text ← token.text source
  match token.kind with
  | .dataType => return (dataType (← dataTypeOf text) none, rest)
  | .keyword | .parenOpen | .parenClose => return (keyword (String.ofList text) none, rest)
  | .quotedKeyword => return (keyword (String.ofList (← inside text)) none, rest)
  | .bracketOpen =>
    let (entities, rest) ← sequence source (some token.span) {} rest
    return (group entities none, rest)
  | .functionOpen =>
    let name := String.ofList (← withoutLast text)
    return (function name, ← skipArguments name token.span 1 rest)
  | kind => throw (.mishap (.kind kind))
termination_by (rest.length + 1, 0)

end

/-- The sequence that a source writes, and the tokens that are left over. Its shape
is checked in the end. -/
def parse (source : String) : Except Halt (List Entity × List Mark) := do
  let (entities, rest) ← sequence source.toList none {} ((Token.lex source).map Mark.ofToken)
  match malformation? entities with
  | none => return (entities, rest)
  | some malformation => throw (.mishap (.malformed malformation))

end ValueGrammar.Entity.Descent
