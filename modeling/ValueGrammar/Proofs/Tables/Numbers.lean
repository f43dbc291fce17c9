import ValueGrammar.Json.Reader
import ValueGrammar.Proofs.Tables.Grammar

/-! Numbers are read by their parts. What may still follow a part is told by the
grammar, and a number goes on with a character exactly if the part does. -/
namespace ValueGrammar.Tables
open Json.Reader

variable {c : Char} {text rest : List Char} {part next : Part}

/-- What is left of a number behind this part, and what follows the number. -/
def Continues : Part → List Char → List Char → Prop
  | .minus, text, rest => Unsigned text rest
  | .zero, text, rest => Fraction text rest
  | .whole, text, rest => ∃ after, DigitRun text after ∧ Fraction after rest
  | .point, text, rest => ∃ after, SomeDigits text after ∧ Exponent after rest
  | .fraction, text, rest => ∃ after, DigitRun text after ∧ Exponent after rest
  | .mark, text, rest => Power text rest
  | .markSign, text, rest => SomeDigits text rest
  | .power, text, rest => DigitRun text rest

theorem continues_end (ends : part.isEnd = true) (text : List Char) : Continues part text text := by
  cases part with
  | minus | point | mark | markSign => cases ends
  | zero => exact .none .none
  | whole => exact ⟨text, .none, .none .none⟩
  | fraction => exact ⟨text, .none, .none⟩
  | power => exact .none

/-- A character that the part goes on with can be put in front of what is left behind
the part that it belongs to. -/
theorem continues_next (goesOn : part.next? c = some next) (continues : Continues next text rest) :
    Continues part (c :: text) rest := by
  cases part with
  | minus =>
    simp only [Part.next?] at goesOn
    split at goesOn
    · next zero =>
      cases goesOn
      rw [zero]
      exact .zero continues
    · next other =>
      obtain ⟨digit, ⟨⟩⟩ := Option.ite_none_right_eq_some.mp goesOn
      obtain ⟨after, digits, fraction⟩ := continues
      exact .digits digit other digits fraction
  | zero =>
    simp only [Part.next?] at goesOn
    split at goesOn
    · next point =>
      cases goesOn
      obtain ⟨after, places, exponent⟩ := continues
      rw [point]
      exact .point places exponent
    · obtain ⟨mark, ⟨⟩⟩ := Option.ite_none_right_eq_some.mp goesOn
      exact .none (.marked (by simpa using mark) continues)
  | whole =>
    simp only [Part.next?] at goesOn
    split at goesOn
    · next digit =>
      cases goesOn
      obtain ⟨after, digits, fraction⟩ := continues
      exact ⟨after, .more digit digits, fraction⟩
    · split at goesOn
      · next point =>
        cases goesOn
        obtain ⟨after, places, exponent⟩ := continues
        rw [point]
        exact ⟨_, .none, .point places exponent⟩
      · obtain ⟨mark, ⟨⟩⟩ := Option.ite_none_right_eq_some.mp goesOn
        exact ⟨_, .none, .none (.marked (by simpa using mark) continues)⟩
  | point =>
    obtain ⟨digit, ⟨⟩⟩ := Option.ite_none_right_eq_some.mp goesOn
    obtain ⟨after, places, exponent⟩ := continues
    exact ⟨after, .digits digit places, exponent⟩
  | fraction =>
    simp only [Part.next?] at goesOn
    split at goesOn
    · next digit =>
      cases goesOn
      obtain ⟨after, places, exponent⟩ := continues
      exact ⟨after, .more digit places, exponent⟩
    · obtain ⟨mark, ⟨⟩⟩ := Option.ite_none_right_eq_some.mp goesOn
      exact ⟨_, .none, .marked (by simpa using mark) continues⟩
  | mark =>
    simp only [Part.next?] at goesOn
    split at goesOn
    · next digit =>
      cases goesOn
      exact .unsigned (.digits digit continues)
    · obtain ⟨sign, ⟨⟩⟩ := Option.ite_none_right_eq_some.mp goesOn
      exact .signed (by simpa using sign) continues
  | markSign =>
    obtain ⟨digit, ⟨⟩⟩ := Option.ite_none_right_eq_some.mp goesOn
    exact .digits digit continues
  | power =>
    obtain ⟨digit, ⟨⟩⟩ := Option.ite_none_right_eq_some.mp goesOn
    exact .more digit continues

/-- The text goes on with a character of the part, or the number ends here. -/
def GoesOn (part : Part) (text rest : List Char) : Prop :=
  (part.isEnd = true ∧ rest = text) ∨
    ∃ c others next, text = c :: others ∧ part.next? c = some next ∧ Continues next others rest

private theorem goes_on (next : Part) (next? : part.next? c = some next)
    (continues : Continues next text rest) : GoesOn part (c :: text) rest := .inr ⟨c, text, next, rfl, next?, continues⟩

private theorem mark_no_digit (mark : c = 'e' ∨ c = 'E') : c.isDigit = false ∧ c ≠ '.' := by
  rcases mark with rfl | rfl <;> decide

private theorem exponent_goes_on (ends : part.isEnd = true)
    (marks : ∀ c, c = 'e' ∨ c = 'E' → part.next? c = some .mark) (exponent : Exponent text rest) :
    GoesOn part text rest := by
  cases exponent with
  | none => exact .inl ⟨ends, rfl⟩
  | marked mark power => exact goes_on .mark (marks _ mark) power

theorem continues_goes_on (continues : Continues part text rest) : GoesOn part text rest := by
  cases part with
  | minus =>
    cases continues with
    | zero fraction => exact goes_on .zero rfl fraction
    | digits digit other digits fraction =>
      exact goes_on .whole (by simp [Part.next?, other, digit]) ⟨_, digits, fraction⟩
  | zero =>
    cases continues with
    | none exponent =>
      refine exponent_goes_on rfl ?_ exponent
      intro c mark
      simp [Part.next?, mark, (mark_no_digit mark).2]
    | point places exponent => exact goes_on .point rfl ⟨_, places, exponent⟩
  | whole =>
    obtain ⟨after, digits, fraction⟩ := continues
    cases digits with
    | none =>
      cases fraction with
      | none exponent =>
        refine exponent_goes_on rfl ?_ exponent
        intro c mark
        simp [Part.next?, mark, mark_no_digit mark]
      | point places exponent => exact goes_on .point rfl ⟨_, places, exponent⟩
    | more digit digits =>
      exact goes_on .whole (by simp [Part.next?, digit]) ⟨after, digits, fraction⟩
  | point =>
    obtain ⟨after, places, exponent⟩ := continues
    cases places with
    | digits digit places =>
      exact goes_on .fraction (by simp [Part.next?, digit]) ⟨after, places, exponent⟩
  | fraction =>
    obtain ⟨after, places, exponent⟩ := continues
    cases places with
    | none =>
      refine exponent_goes_on rfl ?_ exponent
      intro c mark
      simp [Part.next?, mark, mark_no_digit mark]
    | more digit places =>
      exact goes_on .fraction (by simp [Part.next?, digit]) ⟨after, places, exponent⟩
  | mark =>
    cases continues with
    | unsigned digits =>
      cases digits with
      | digits digit digits => exact goes_on .power (by simp [Part.next?, digit]) digits
    | signed sign digits =>
      rcases sign with rfl | rfl
      · exact goes_on .markSign rfl digits
      · exact goes_on .markSign rfl digits
  | markSign =>
    cases continues with
    | digits digit digits => exact goes_on .power (by simp [Part.next?, digit]) digits
  | power =>
    cases continues with
    | none => exact .inl ⟨rfl, rfl⟩
    | more digit digits => exact goes_on .power (by simp [Part.next?, digit]) digits

end ValueGrammar.Tables
