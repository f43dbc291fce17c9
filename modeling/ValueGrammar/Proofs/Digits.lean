import Mathlib.Algebra.Group.Nat.Defs
import ValueGrammar.Text.Digits

/-! Decimal digits read back as the number that they were written for. -/
namespace ValueGrammar.Digits
open Text

private theorem digit_decimal : ∀ n < 10, (digit n).isDigit = true := by decide

private theorem digit_value : ∀ n < 10, (digit n).toNat - 48 = n := by decide

theorem digits_ne_nil (n : Nat) : digits n ≠ [] := by
  unfold digits
  split <;> simp

theorem digits_positive (n : Nat) : 0 < (digits n).length :=
  List.length_pos_iff.mpr (digits_ne_nil n)

/-- Every character that is written for a number is a decimal digit. -/
theorem digits_decimal (n : Nat) : ∀ c ∈ digits n, c.isDigit = true := by
  fun_induction digits n with
  | case1 n small =>
    intro c member
    rw [List.mem_singleton.mp member]
    exact digit_decimal n small
  | case2 n large ih =>
    intro c member
    rcases List.mem_append.mp member with front | last
    · exact ih c front
    · rw [List.mem_singleton.mp last]
      exact digit_decimal _ (Nat.mod_lt n (by omega))

theorem is_digits (n : Nat) : isDigits (digits n) = true := by
  have decimal := digits_decimal n
  have filled := digits_ne_nil n
  simp only [isDigits, Bool.and_eq_true, List.all_eq_true]
  refine ⟨?_, decimal⟩
  simpa using filled

theorem digits_value (n : Nat) : digitsValue (digits n) = n := by
  fun_induction digits n with
  | case1 n small =>
    have value := digit_value n small
    simpa [digitsValue] using value
  | case2 n large ih =>
    have value := digit_value (n % 10) (Nat.mod_lt n (by omega))
    have front : digitsValue (digits (n / 10) ++ [digit (n % 10)]) =
        10 * digitsValue (digits (n / 10)) + ((digit (n % 10)).toNat - 48) := by
      simp [digitsValue]
    rw [front, ih, value]
    omega

/-- A number is written with as many digits as powers of ten are needed to exceed it. -/
theorem digits_short_iff (n : Nat) {count : Nat} (positive : 0 < count) :
    (digits n).length ≤ count ↔ n < 10 ^ count := by
  fun_induction digits n generalizing count with
  | case1 n small =>
    have tens : 10 ^ 1 ≤ 10 ^ count := Nat.pow_le_pow_right (by decide) positive
    exact iff_of_true positive (by omega)
  | case2 n large ih =>
    rw [List.length_append, List.length_singleton]
    obtain ⟨less, rfl⟩ := Nat.exists_eq_add_of_lt positive
    rw [Nat.zero_add, Nat.add_le_add_iff_right, Nat.pow_succ]
    by_cases none : less = 0
    · subst none
      have filled := digits_positive (n / 10)
      omega
    · rw [ih (Nat.pos_of_ne_zero none)]
      omega

/-- The first digit of a number is not zero. -/
theorem digits_long {n : Nat} (positive : 0 < n) : 10 ^ ((digits n).length - 1) ≤ n := by
  by_cases single : (digits n).length - 1 = 0
  · rw [single]
    exact positive
  · have short := digits_short_iff n (Nat.pos_of_ne_zero single)
    omega

/-- Digits that can stand in front of a point: the first of them is not zero. -/
structure Counting (text : List Char) : Prop where
  decimal : ∀ c ∈ text, c.isDigit = true
  starts : ∃ c rest, text = c :: rest ∧ c ≠ '0'

private theorem digit_not_zero : ∀ n < 10, 0 < n → digit n ≠ '0' := by decide

/-- A number other than zero is written without a leading zero. -/
theorem digits_counting {n : Nat} (positive : 0 < n) : Counting (digits n) := by
  refine ⟨digits_decimal n, ?_⟩
  fun_induction digits n with
  | case1 n small => exact ⟨digit n, [], rfl, digit_not_zero n small positive⟩
  | case2 n large ih =>
    obtain ⟨c, rest, written, other⟩ := ih (by omega)
    exact ⟨c, rest ++ [digit (n % 10)], by rw [written, List.cons_append], other⟩

end ValueGrammar.Digits
