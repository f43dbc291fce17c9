import ValueGrammar.Text.Digits

/-! Multipliers and their written forms. A curly range is read with any number
of leading zeros, and is refused when a bound does not fit 32 bits or when its
upper bound is below its lower one. -/
namespace ValueGrammar

/-- How often a component may be repeated. -/
inductive Multiplier where
  | asterisk
  | plusSign
  | questionMark
  | hashMark
  | exclamationPoint
  /-- Between `min` and `max` times; without `max` the range has no upper end. -/
  | range (min : UInt32) (max : Option UInt32)
deriving DecidableEq, Repr, Inhabited

namespace Multiplier
open Text

/-- A bound of a curly range: digits whose value fits 32 bits. -/
def bound? (text : List Char) : Option UInt32 :=
  if isDigits text && digitsValue text < UInt32.size then
    some (UInt32.ofNat (digitsValue text))
  else none

/-- The range written between two braces: `n` alone bounds both ends by `n`,
and nothing after the comma leaves the upper end open. -/
def ofBounds? (inner : List Char) : Option Multiplier :=
  let low := inner.takeWhile (· != ',')
  match inner.dropWhile (· != ',') with
  | [] => (bound? low).map fun n => range n (some n)
  | [_] => (bound? low).map fun min => range min none
  | _ :: high =>
    match bound? low, bound? high with
    | some min, some max => if max < min then none else some (range min (some max))
    | _, _ => none

/-- The range written as this text, braces included. -/
def ofRange? (text : String) : Option Multiplier :=
  ofBounds? (text.toList.drop 1).dropLast

/-- The decimal form of a bound. -/
def boundText (n : UInt32) : List Char := digits n.toNat

/-- The written form. Equal bounds are written once. -/
def text : Multiplier → String
  | asterisk => "*"
  | plusSign => "+"
  | questionMark => "?"
  | hashMark => "#"
  | exclamationPoint => "!"
  | range min none => String.ofList ('\x7b' :: boundText min ++ [',', '\x7d'])
  | range min (some max) =>
    if min = max then String.ofList ('\x7b' :: boundText min ++ ['\x7d'])
    else String.ofList ('\x7b' :: boundText min ++ ',' :: boundText max ++ ['\x7d'])

end Multiplier
end ValueGrammar
