/-! Decimal digits of natural numbers: writing without leading zeros, and
reading any run of digits by place value. -/
namespace ValueGrammar.Text

/-- The digit character of a number below ten. -/
def digit (n : Nat) : Char := Char.ofNat (48 + n)

/-- The decimal digits, most significant first and without leading zeros. -/
def digits (n : Nat) : List Char :=
  if n < 10 then [digit n] else digits (n / 10) ++ [digit (n % 10)]
termination_by n

/-- The number that a run of decimal digits denotes; leading zeros count for
nothing, and no digits denote zero. -/
def digitsValue (text : List Char) : Nat :=
  text.foldl (fun value c => 10 * value + (c.toNat - 48)) 0

/-- Whether the text is a run of one or more decimal digits. -/
def isDigits (text : List Char) : Bool :=
  !text.isEmpty && text.all Char.isDigit

end ValueGrammar.Text
