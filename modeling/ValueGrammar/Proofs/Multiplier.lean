import ValueGrammar.Proofs.Digits
import ValueGrammar.Proofs.Grammar
import ValueGrammar.Proofs.Lexemes

/-! The written form of a multiplier is one lexeme, whatever follows it, and
means the multiplier that it was written for. -/
namespace ValueGrammar.Multiplier
open Digits Grammar Lexemes

/-- A range that has an upper bound has it at or above its lower one. -/
def InOrder : Multiplier → Prop
  | range min (some max) => min ≤ max
  | _ => True

theorem bound_text (n : UInt32) : Bound (boundText n) n := ⟨is_digits n.toNat, digits_value n.toNat⟩

private theorem bound_decimal (n : UInt32) : ∀ c ∈ boundText n, c.isDigit = true :=
  digits_decimal n.toNat

private theorem bound_filled (n : UInt32) : boundText n ≠ [] := digits_ne_nil n.toNat

private theorem between_braces (text : List Char) :
    inside (String.ofList ('\x7b' :: text ++ ['\x7d'])) = text := by
  simp [inside]

/-- What is written between the braces of a range are its bounds. -/
theorem range_bounds (min : UInt32) (max : Option UInt32) (ordered : InOrder (range min max)) :
    Bounds (inside (text (range min max))) (range min max) := by
  cases max with
  | none =>
    have written : text (range min none) =
        String.ofList ('\x7b' :: (boundText min ++ [',']) ++ ['\x7d']) := by
      simp [text]
    rw [written, between_braces]
    exact .atLeast (bound_text min)
  | some max =>
    by_cases same : min = max
    · subst same
      simp only [text, if_true]
      rw [between_braces]
      exact .exactly (bound_text min)
    · simp only [text, same, if_false]
      have bounds := Bounds.between (bound_text min) (bound_text max) ordered
      rw [← between_braces (boundText min ++ ',' :: boundText max)] at bounds
      simpa using bounds

/-- A range is written as one lexeme. -/
theorem range_closed (min : UInt32) (max : Option UInt32) :
    Closed .curlyRange (text (range min max)).toList := by
  have filled := bound_filled min
  have decimal := bound_decimal min
  cases max with
  | none =>
    have closed : Closed .curlyRange ('\x7b' :: boundText min ++ ',' :: [] ++ ['\x7d']) :=
      bounds_closed filled decimal (by simp)
    simpa [text] using closed
  | some max =>
    by_cases same : min = max
    · simpa [text, same] using count_closed (bound_filled max) (bound_decimal max)
    · simpa [text, same] using bounds_closed filled decimal (bound_decimal max)

/-- A multiplier that is in order can be read back from its written form. -/
theorem text_repeats (multiplier : Multiplier) (ordered : InOrder multiplier) :
    ∃ kind, Closed kind multiplier.text.toList ∧
      ∀ span, Repeats ⟨kind, multiplier.text, span⟩ multiplier := by
  cases multiplier with
  | asterisk => exact ⟨.asterisk, ⟨'*', [], rfl, fun _ => rfl⟩, fun _ => .asterisk rfl⟩
  | plusSign => exact ⟨.plusSign, ⟨'+', [], rfl, fun _ => rfl⟩, fun _ => .plusSign rfl⟩
  | questionMark => exact ⟨.questionMark, ⟨'?', [], rfl, fun _ => rfl⟩, fun _ => .questionMark rfl⟩
  | hashMark => exact ⟨.hashMark, ⟨'#', [], rfl, fun _ => rfl⟩, fun _ => .hashMark rfl⟩
  | exclamationPoint =>
    exact ⟨.exclamationPoint, ⟨'!', [], rfl, fun _ => rfl⟩, fun _ => .exclamationPoint rfl⟩
  | range min max =>
    exact ⟨.curlyRange, range_closed min max, fun _ => .curlyRange rfl (range_bounds min max ordered)⟩

end ValueGrammar.Multiplier
