/-! Sets of characters, given by ranges of code points. -/
namespace ValueGrammar.Text

/-- Whether one of the ranges holds the code point. Each range is given by its
first and its last code point, and the ranges are in order. -/
def inRanges : List (Nat × Nat) → Nat → Bool
  | [], _ => false
  | (first, last) :: rest, n => if n < first then false else n ≤ last || inRanges rest n

end ValueGrammar.Text
