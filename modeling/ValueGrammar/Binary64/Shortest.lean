import ValueGrammar.Binary64.Rounding
import ValueGrammar.Text.Digits

/-! The shortest decimal that reads back to a double. For one digit, two
digits and so on, the two neighbours of the value that have so many digits are
read back; the first hit is the answer, and of two hits the nearer. -/
namespace ValueGrammar.Binary64
open Text

/-- The number `coefficient * 10 ^ exponent`. -/
structure Decimal where
  coefficient : Nat
  exponent : Int
deriving DecidableEq, Repr

/-- Moves the zeros at the end of a coefficient into the exponent. -/
def Decimal.withoutTrailingZeros (coefficient : Nat) (exponent : Int) : Decimal :=
  if coefficient = 0 ∨ coefficient % 10 ≠ 0 then ⟨coefficient, exponent⟩
  else withoutTrailingZeros (coefficient / 10) (exponent + 1)
termination_by coefficient

/-- What becomes of a value that lies half way between two decimals. -/
inductive Tie where
  /-- The one further from zero. -/
  | away
  /-- The one with an even last digit. -/
  | even
deriving DecidableEq, Repr

/-- The value of a finite magnitude as a multiple of `10 ^ exponent`, given as
a quotient. -/
def quotient (magnitude : Nat) (exponent : Int) : Nat × Nat :=
  if 0 ≤ exponent then (units magnitude, unitsPerOne * Nat.pow 10 exponent.toNat)
  else (units magnitude * Nat.pow 10 (-exponent).toNat, unitsPerOne)

/-- Of the two multiples of `10 ^ exponent` around the value, the nearer that
reads back to it. -/
def onGrid (tie : Tie) (magnitude : Nat) (exponent : Int) : Option Nat :=
  let (numerator, denominator) := quotient magnitude exponent
  let low := numerator / denominator
  let rest := 2 * (numerator % denominator)
  let readsBack (coefficient : Nat) : Bool := nearestDecimal coefficient exponent == magnitude
  match readsBack low, readsBack (low + 1) with
  | false, false => none
  | true, false => some low
  | false, true => some (low + 1)
  | true, true =>
    if rest < denominator then some low
    else if denominator < rest then some (low + 1)
    else match tie with
      | .away => some (low + 1)
      | .even => some (low + low % 2)

/-- How many digits the value has before the point: it is below `10 ^ n` and
not below `10 ^ (n - 1)`. The smallest value is above `10 ^ -324`. -/
def integerDigits (magnitude : Nat) : Int :=
  (digits (units magnitude * Nat.pow 10 350 / unitsPerOne)).length - 350

/-- The value in full. -/
def exactDecimal (magnitude : Nat) : Decimal :=
  .withoutTrailingZeros (units magnitude * Nat.pow 5 1074) (-1074)

/-- The shortest decimal that reads back to this finite magnitude. Seventeen
digits are always enough. -/
def shortest (tie : Tie) (magnitude : Nat) : Decimal :=
  let exponents := (List.range 17).map fun (n : Nat) => integerDigits magnitude - (n + 1)
  let found := exponents.findSome? fun exponent =>
    (onGrid tie magnitude exponent).map fun coefficient =>
      Decimal.withoutTrailingZeros coefficient exponent
  found.getD (exactDecimal magnitude)

end ValueGrammar.Binary64
