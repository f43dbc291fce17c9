import ValueGrammar.Json.Reader
import ValueGrammar.Numeral

/-! What a text holds that should hold an object and holds another value. Lists
are told by their bracket alone; the other values are read to their end. A
number that is no 64-bit integer is taken as a double: up to nineteen or twenty
digits count, and the power of ten is applied to them by multiplications and
divisions that round each time. -/
namespace ValueGrammar.Json.Scalar
open Binary64 Literal Text

/-- A number as far as it has been read. -/
structure Accumulator where
  negative : Bool := false
  /-- The digits that count. -/
  significand : Nat := 0
  /-- The power of ten that the digits are to be multiplied by. -/
  exponent : Int := 0
  /-- Whether a digit of the part that is being read, before the point or after
  it, had to be left out, after which no other of that part counts. -/
  saturated : Bool := false
  /-- Whether the number has a point or a power of ten. -/
  isWhole : Bool := true
  powerNegative : Bool := false
  power : Nat := 0

/-- Significands are below this, which is 2 ^ 64. -/
def significandLimit : Nat := 0x10000000000000000

/-- No integer lies further below zero than this, which is 2 ^ 63. -/
def integerLimit : Nat := 0x8000000000000000

/-- Powers of ten are below this, which is 2 ^ 31. -/
def powerLimit : Nat := 0x80000000

/-- One more digit before the point. -/
def Accumulator.addWhole (number : Accumulator) (digit : Nat) : Accumulator :=
  let next := 10 * number.significand + digit
  if number.saturated then { number with exponent := number.exponent + 1 }
  else if next < significandLimit then { number with significand := next }
  else { number with exponent := number.exponent + 1, saturated := true }

/-- One more digit after the point. -/
def Accumulator.addFraction (number : Accumulator) (digit : Nat) : Accumulator :=
  let next := 10 * number.significand + digit
  if !number.saturated && next < significandLimit then
    { number with significand := next, exponent := number.exponent - 1 }
  else { number with saturated := true }

/-- The magnitude of a product of two finite magnitudes. -/
def multiply (left right : Nat) : Nat :=
  nearest (units left * units right) (unitsPerOne * unitsPerOne)

/-- The magnitude of a quotient of two finite magnitudes. -/
def divide (left right : Nat) : Nat := nearest (units left) (units right)

/-- A magnitude times a power of ten, or nothing if that is too large. Powers up
to `10 ^ 308` are applied in one step; division by a larger one goes through
steps of `10 ^ 308`, and ends early at zero. -/
def scale (magnitude : Nat) (exponent : Int) : Option Nat :=
  if exponent.natAbs ≤ 308 then
    let power := nearestDecimal 1 exponent.natAbs
    if 0 ≤ exponent then
      let product := multiply magnitude power
      if product < infiniteMagnitude then some product else none
    else some (divide magnitude power)
  else if magnitude = 0 then some 0
  else if 0 ≤ exponent then none
  else scale (divide magnitude (nearestDecimal 1 308)) (exponent + 308)
termination_by exponent.natAbs

/-- What a number that was read to its end is called. -/
def Accumulator.describe (number : Accumulator) : Except Fault.Cause String :=
  let integral := number.isWhole && !number.saturated
  if integral && !number.negative then
    .ok ("integer `" ++ String.ofList (digits number.significand) ++ "`")
  else if integral && 0 < number.significand && number.significand ≤ integerLimit then
    .ok ("integer `-" ++ String.ofList (digits number.significand) ++ "`")
  else
    let power : Int := if number.powerNegative then -number.power else number.power
    let value :=
      if powerLimit ≤ number.power then some 0
      else if integral then some (nearest number.significand 1)
      else scale (nearest number.significand 1) (number.exponent + power)
    match value with
    | none => .error .numberOutOfRange
    | some magnitude =>
      let x := ofMagnitude number.negative magnitude
      .ok ("floating point `" ++ Numeral.fractionalText x ++ "`")

/-- One more character of a number, which belongs to this part of it. -/
def Accumulator.add (number : Accumulator) (part : Reader.Part) (c : Char) : Accumulator :=
  let digit := c.toNat - 48
  match part with
  | .minus => { number with negative := true }
  | .zero => number
  | .whole => number.addWhole digit
  | .point => { number with isWhole := false, saturated := false }
  | .mark => { number with isWhole := false }
  | .fraction => number.addFraction digit
  | .markSign => { number with powerNegative := c = '-' }
  | .power =>
    if number.power < powerLimit then { number with power := 10 * number.power + digit }
    else number

/-- Whether the power of ten is too large for digits that are not all zero. -/
def Accumulator.isOutOfRange (number : Accumulator) : Bool :=
  powerLimit ≤ number.power && !number.powerNegative && number.significand ≠ 0

/-- Reads a number on from a part, and tells what it is and where it ends. -/
def readNumber (number : Accumulator) (part : Reader.Part) (offset : Nat) : List Char → Fault
  | [] =>
    if part.isEnd then closing number offset else ⟨.endInValue, offset⟩
  | c :: rest =>
    if part.endsBefore c then closing number offset
    else match part.next? c with
      | none => ⟨.invalidNumber, offset + 1⟩
      | some next =>
        let number := number.add next c
        if number.isOutOfRange then ⟨.numberOutOfRange, offset + 1⟩
        else readNumber number next (offset + 1) rest
where
  closing (number : Accumulator) (offset : Nat) : Fault :=
    match number.describe with
    | .ok found => ⟨.notAnObject found, offset⟩
    | .error cause => ⟨cause, offset⟩

/-- Reads the letters that a word has to go on with. -/
def readWord (found : String) (offset : Nat) : List Char → List Char → Fault
  | [], _ => ⟨.notAnObject found, offset⟩
  | _ :: _, [] => ⟨.endInValue, offset⟩
  | letter :: letters, c :: rest =>
    if c = letter then readWord found (offset + 1) letters rest
    else ⟨.expectedIdent, offset + 1⟩

/-- Reads a string up to its closing quote. -/
def readString (state : Literal.State) (offset : Nat) : List Char → Fault
  | [] => ⟨.endInString, offset⟩
  | c :: rest =>
    match state.text?, c with
    | some text, '"' => ⟨.notAnObject ("string " ++ quote text), offset + 1⟩
    | _, _ =>
      match state.step c with
      | .ok next => readString next (offset + c.utf8Size) rest
      | .error (cause, taken) => ⟨cause, offset + taken⟩

/-- The fault of a text that starts, after so many bytes of space, with another
character than the brace of an object. -/
def fault (offset : Nat) : List Char → Fault
  | [] => ⟨.endInValue, offset⟩
  | c :: rest =>
    match c with
    | '[' => ⟨.notAnObject "sequence", offset⟩
    | '"' => readString {} (offset + 1) rest
    | 'n' => readWord "null" (offset + 1) ['u', 'l', 'l'] rest
    | 't' => readWord "boolean `true`" (offset + 1) ['r', 'u', 'e'] rest
    | 'f' => readWord "boolean `false`" (offset + 1) ['a', 'l', 's', 'e'] rest
    | '-' => readNumber { negative := true } .minus (offset + 1) rest
    | '0' => readNumber {} .zero (offset + 1) rest
    | c =>
      if c.isDigit then
        readNumber { significand := c.toNat - 48 } .whole (offset + 1) rest
      else ⟨.expectedValue, offset + 1⟩

end ValueGrammar.Json.Scalar
