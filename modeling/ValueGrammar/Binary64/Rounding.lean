import ValueGrammar.Binary64

/-! Rounding to the nearest double, ties to an even magnitude. Everything is
exact arithmetic on natural numbers. -/
namespace ValueGrammar.Binary64

/-- The magnitude whose value is the largest that does not exceed this whole
number of units. -/
def floorMagnitude (units : Nat) : Nat :=
  let shift := units.log2 - 52
  units >>> shift + shift * exponentWeight

/-- The magnitude nearest to a quotient of natural numbers; what lies half way
between two goes to the even one, and what is too large goes to infinity. -/
def nearest (numerator denominator : Nat) : Nat :=
  let scaled := numerator * unitsPerOne
  let low := floorMagnitude (scaled / denominator)
  let twice := 2 * scaled
  let middles := (units low + units (low + 1)) * denominator
  let rounded :=
    if twice < middles then low
    else if twice = middles then low + low % 2
    else low + 1
  min rounded infiniteMagnitude

/-- The magnitude nearest to `coefficient * 10 ^ exponent`. Products that are
plainly out of range are not multiplied out: from `10 ^ 401` on all is infinite,
and a product below `2 * 10 ^ -1400` is zero. -/
def nearestDecimal (coefficient : Nat) (exponent : Int) : Nat :=
  if coefficient = 0 then 0
  else if 400 < exponent then infiniteMagnitude
  else if exponent + coefficient.log2 < -1400 then 0
  else if 0 ≤ exponent then nearest (coefficient * Nat.pow 10 exponent.toNat) 1
  else nearest coefficient (Nat.pow 10 (-exponent).toNat)

end ValueGrammar.Binary64
