/-! Double precision numbers of IEEE 754, as their three fields. The magnitude,
which is the bit pattern without the sign, orders the numbers of one sign; the
value of a finite magnitude is a whole number of units of 2 ^ -1074. -/
namespace ValueGrammar

/-- The weight of the exponent in a bit pattern, 2 ^ 52. Fractions are below it. -/
abbrev Binary64.exponentWeight : Nat := 0x10000000000000

/-- The weight of the sign in a bit pattern, 2 ^ 63. Magnitudes are below it. -/
abbrev Binary64.signWeight : Nat := 0x8000000000000000

structure Binary64 where
  negative : Bool
  exponent : Fin 2048
  fraction : Fin Binary64.exponentWeight
deriving DecidableEq, Repr

namespace Binary64

/-- The magnitude of infinity, which is above all finite ones. -/
def infiniteMagnitude : Nat := 2047 * exponentWeight

/-- The bit pattern without the sign. -/
def magnitude (x : Binary64) : Nat := x.exponent.val * exponentWeight + x.fraction.val

/-- The number with this sign and magnitude. -/
def ofMagnitude (negative : Bool) (magnitude : Nat) : Binary64 where
  negative
  exponent := ⟨magnitude / exponentWeight % 2048, Nat.mod_lt _ (by decide)⟩
  fraction := ⟨magnitude % exponentWeight, Nat.mod_lt _ (by decide)⟩

/-- The bit pattern as a number: sign, exponent and fraction. -/
def pattern (x : Binary64) : Nat := (if x.negative then signWeight else 0) + x.magnitude

/-- The bit pattern in a word of 64 bits. -/
def toBits (x : Binary64) : UInt64 := UInt64.ofNat x.pattern

/-- The number that 64 bits encode. -/
def ofBits (bits : UInt64) : Binary64 :=
  ofMagnitude (signWeight ≤ bits.toNat) (bits.toNat % signWeight)

def infinity (negative : Bool) : Binary64 := ofMagnitude negative infiniteMagnitude

def zero (negative : Bool) : Binary64 := ofMagnitude negative 0

/-- The quiet number-that-is-none with no further payload. -/
def nan (negative : Bool) : Binary64 :=
  ofMagnitude negative (infiniteMagnitude + exponentWeight / 2)

def isNaN (x : Binary64) : Bool := infiniteMagnitude < x.magnitude

def isInfinite (x : Binary64) : Bool := x.magnitude = infiniteMagnitude

def isFinite (x : Binary64) : Bool := x.magnitude < infiniteMagnitude

/-- Zero has either sign. -/
def isZero (x : Binary64) : Bool := x.magnitude = 0

/-- The value of a magnitude in units of 2 ^ -1074. Below 2 ^ 52 the exponent
field is zero and the fraction has no leading one. -/
def units (magnitude : Nat) : Nat :=
  if magnitude < exponentWeight then magnitude
  else (exponentWeight + magnitude % exponentWeight) <<< (magnitude / exponentWeight - 1)

/-- How many units make up one. -/
def unitsPerOne : Nat := 1 <<< 1074

end Binary64
end ValueGrammar
