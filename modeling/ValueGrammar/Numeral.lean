import ValueGrammar.Binary64.Shortest

/-! How numbers are written and read. Both written forms show the shortest
digits that read back; they differ in where the notation by powers of ten
begins and in whether a whole number shows a fraction. -/
namespace ValueGrammar.Numeral
open Text Binary64

/-- Digits with a decimal point after the first `point` of them. Zeros are put
in where the point lies outside the digits. -/
def positional (digits : List Char) (point : Int) : List Char :=
  if point ≤ 0 then '0' :: '.' :: List.replicate (-point).toNat '0' ++ digits
  else if digits.length ≤ point.toNat then
    digits ++ List.replicate (point.toNat - digits.length) '0'
  else digits.take point.toNat ++ '.' :: digits.drop point.toNat

/-- Digits with a point after the first, and the power of ten that the first
one stands for, always with a sign. -/
def scientific (digits : List Char) (power : Int) : List Char :=
  let mantissa := match digits with
    | first :: second :: rest => first :: '.' :: second :: rest
    | digits => digits
  mantissa ++ 'e' :: (if power < 0 then '-' else '+') :: Text.digits power.natAbs

/-- The shortest digits of a finite magnitude, and how many of them stand before
the point. -/
def shortestDigits (tie : Tie) (magnitude : Nat) : List Char × Int :=
  let decimal := shortest tie magnitude
  let shown := digits decimal.coefficient
  (shown, shown.length + decimal.exponent)

/-- The magnitude of a millionth, from where on numbers are written in full. -/
def millionth : Nat := nearestDecimal 1 (-6)

/-- The magnitude of `10 ^ 21`, up to where numbers are written in full. -/
def sextillion : Nat := nearestDecimal 1 21

/-- The sign and the digits of a number that is finite and not zero. -/
def finiteText (x : Binary64) : List Char :=
  let (shown, point) := shortestDigits .away x.magnitude
  let body :=
    if millionth ≤ x.magnitude && x.magnitude < sextillion then positional shown point
    else scientific shown (point - 1)
  if x.negative then '-' :: body else body

/-- The canonical numeral: zero has no sign, and numbers from a millionth up to
`10 ^ 21` are written in full. -/
def text (x : Binary64) : String :=
  if x.isNaN then "NaN"
  else if x.isInfinite then (if x.negative then "-Infinity" else "Infinity")
  else if x.isZero then "0"
  else String.ofList (finiteText x)

/-- The form of a finite number that never looks like an integer: with a
fraction if it is written in full, which it is from `0.00001` up to `10 ^ 16`,
and with a power of ten otherwise. -/
def fractionalText (x : Binary64) : String :=
  let (shown, point) := shortestDigits .even x.magnitude
  let body :=
    if x.isZero then ['0', '.', '0']
    else if -5 < point && point ≤ 16 then
      if shown.length ≤ point.toNat then positional shown point ++ ['.', '0']
      else positional shown point
    else scientific shown (point - 1)
  String.ofList (if x.negative then '-' :: body else body)

/-- A letter in its lower-case form; only ASCII letters have one. -/
private def lower (text : List Char) : List Char := text.map Char.toLower

/-- The sign in front of a number, and what follows it. -/
def takeSign : List Char → Bool × List Char
  | '-' :: rest => (true, rest)
  | '+' :: rest => (false, rest)
  | text => (false, text)

/-- The power of ten that ends a number: nothing, or `e` in either case with
digits that may have a sign. -/
def power? : List Char → Option Int
  | [] => some 0
  | c :: rest =>
    let (negative, places) := takeSign rest
    if (c = 'e' || c = 'E') && isDigits places then
      some (if negative then -(digitsValue places : Int) else digitsValue places)
    else none

/-- The magnitude that digits with an optional point and an optional power of
ten denote; at least one digit stands before or after the point. -/
def magnitude? (text : List Char) : Option Nat :=
  let whole := text.takeWhile Char.isDigit
  let (places, rest) := match text.dropWhile Char.isDigit with
    | '.' :: more => (more.takeWhile Char.isDigit, more.dropWhile Char.isDigit)
    | rest => ([], rest)
  if whole.isEmpty && places.isEmpty then none
  else (power? rest).map fun power =>
    nearestDecimal (digitsValue (whole ++ places)) (power - places.length)

/-- Reads a number: a sign, then `inf`, `infinity` or `nan` in any case, or
digits. The double is the nearest one. -/
def read? (text : String) : Option Binary64 :=
  let (negative, rest) := takeSign text.toList
  if lower rest = ['i', 'n', 'f'] ∨ lower rest = ['i', 'n', 'f', 'i', 'n', 'i', 't', 'y'] then
    some (infinity negative)
  else if lower rest = ['n', 'a', 'n'] then some (nan negative)
  else (magnitude? rest).map (ofMagnitude negative)

/-- The number that a canonical numeral denotes. -/
def canonical? (numeral : String) : Option Binary64 :=
  (read? numeral).filter fun x => text x = numeral

end ValueGrammar.Numeral
