import Mathlib.Tactic.Ring
import ValueGrammar.Proofs.Digits
import ValueGrammar.Proofs.Rounding.Order

/-! The two neighbours of a value among the decimals with so many digits. Every decimal
with no more digits lies beyond one of them, and if it reads back, so does this
neighbour. -/
namespace ValueGrammar.ShortestDecimals
open Text Digits Binary64 Rounding

variable {magnitude count : Nat} {exponent : Int} {other : Decimal}

/-- The number of digits that the decimal is written with. -/
def length (decimal : Decimal) : Nat := (digits decimal.coefficient).length

/-- How far the decimal is from the value of the magnitude. -/
def distance (decimal : Decimal) (magnitude : Nat) : ℚ := |decimal.value - value magnitude|

theorem ten_power (exponent : Int) : (0 : ℚ) < 10 ^ exponent := zpow_pos (by norm_num) _

theorem ten_power_add (count : Nat) (exponent : Int) :
    (10 : ℚ) ^ (count + exponent) = 10 ^ count * 10 ^ exponent := by
  rw [zpow_add₀ (by norm_num), zpow_natCast]

/-- The digits of the whole part of a scaled quotient tell between which powers of
ten the quotient lies. -/
private theorem decade {numerator denominator places : Nat} (positive : 0 < denominator)
    (large : denominator ≤ numerator * 10 ^ places) :
    let shown : Int := (digits (numerator * 10 ^ places / denominator)).length
    (10 : ℚ) ^ (shown - places - 1) ≤ numerator / denominator ∧
      (numerator / denominator : ℚ) < 10 ^ (shown - places) := by
  have whole : 0 < numerator * 10 ^ places / denominator := Nat.div_pos large positive
  have filled := digits_positive (numerator * 10 ^ places / denominator)
  have least := (Nat.le_div_iff_mul_le positive).mp (digits_long whole)
  have most := (Nat.div_lt_iff_lt_mul positive).mp
    ((digits_short_iff (numerator * 10 ^ places / denominator) filled).mp (Nat.le_refl _))
  have below : (0 : ℚ) < denominator := Nat.cast_pos.mpr positive
  have scale : (0 : ℚ) < 10 ^ places := by positivity
  generalize (digits (numerator * 10 ^ places / denominator)).length = shown at filled least most ⊢
  constructor
  · have power : (shown : Int) - places - 1 = (shown - 1 : ℕ) - (places : ℕ) := by omega
    rw [power, zpow_sub₀ (by norm_num), zpow_natCast, zpow_natCast, div_le_div_iff₀ scale below]
    exact_mod_cast least
  · rw [zpow_sub₀ (by norm_num), zpow_natCast, zpow_natCast, div_lt_div_iff₀ below scale]
    exact_mod_cast most

private theorem power_below {bits places : Nat} (count : Nat) (room : bits ≤ 23 * count)
    (enough : 7 * count ≤ places) : 1 <<< bits ≤ 10 ^ places := by
  rw [Nat.one_shiftLeft]
  calc 2 ^ bits
    _ ≤ 2 ^ (23 * count) := Nat.pow_le_pow_right (by decide) room
    _ = (2 ^ 23) ^ count := Nat.pow_mul 2 23 count
    _ ≤ (10 ^ 7) ^ count := Nat.pow_le_pow_left (by decide) count
    _ = 10 ^ (7 * count) := (Nat.pow_mul 10 7 count).symm
    _ ≤ 10 ^ places := Nat.pow_le_pow_right (by decide) enough

private theorem value_decade (places : Nat) (shift : Int) (enough : 350 ≤ places)
    (same : (places : Int) = shift) (filled : magnitude ≠ 0) :
    let shown : Int := (digits (units magnitude * Nat.pow 10 places / unitsPerOne)).length
    (10 : ℚ) ^ (shown - shift - 1) ≤ value magnitude ∧ value magnitude < 10 ^ (shown - shift) := by
  have one : 0 < unitsPerOne := by decide
  have first : 0 < units magnitude := units_lt_units.mpr (Nat.pos_of_ne_zero filled)
  have large : unitsPerOne ≤ 10 ^ places := power_below 50 (by decide) enough
  rw [← same]
  exact decade one (Nat.le_trans large (Nat.le_mul_of_pos_left _ first))

/-- The value has as many digits before the point as it is said to have. -/
theorem integer_digits (filled : magnitude ≠ 0) :
    (10 : ℚ) ^ (integerDigits magnitude - 1) ≤ value magnitude ∧
      value magnitude < 10 ^ integerDigits magnitude := by
  unfold integerDigits
  -- A power with a number for its exponent would be multiplied out.
  generalize same : (350 : Nat) = places
  exact value_decade places 350 (by omega) (by omega) filled

/-- The multiple of a power of ten below the value. -/
def low (magnitude : Nat) (exponent : Int) : Nat :=
  (quotient magnitude exponent).1 / (quotient magnitude exponent).2

private theorem quotient_positive (magnitude : Nat) (exponent : Int) :
    0 < (quotient magnitude exponent).2 := by
  have one : 0 < unitsPerOne := by decide
  unfold quotient
  split
  · exact Nat.mul_pos one (Nat.pow_pos (by decide))
  · exact one

/-- The quotient is the value as a multiple of the power of ten. -/
private theorem quotient_value (magnitude : Nat) (exponent : Int) :
    ((quotient magnitude exponent).1 / (quotient magnitude exponent).2 : ℚ) * 10 ^ exponent =
      value magnitude := by
  unfold quotient value
  split
  · rename_i whole
    obtain ⟨places, rfl⟩ := Int.eq_ofNat_of_zero_le whole
    have scale : (10 : ℚ) ^ places ≠ 0 := by positivity
    simp only [Int.toNat_natCast, Nat.pow_eq, Nat.cast_mul, Nat.cast_pow, Nat.cast_ofNat,
      zpow_natCast]
    rw [← div_div, div_mul_cancel₀ _ scale]
  · rename_i broken
    obtain ⟨places, same⟩ := Int.eq_ofNat_of_zero_le (Int.neg_nonneg.mpr (Int.le_of_not_le broken))
    have scale : (10 : ℚ) ^ places ≠ 0 := by positivity
    obtain rfl : exponent = -places := by omega
    simp only [Int.neg_neg, Int.toNat_natCast, Nat.pow_eq, Nat.cast_mul, Nat.cast_pow,
      Nat.cast_ofNat, zpow_neg, zpow_natCast]
    rw [mul_div_right_comm, mul_assoc, mul_inv_cancel₀ scale, mul_one]

/-- The value lies between its neighbours on every grid. -/
theorem neighbours (magnitude : Nat) (exponent : Int) :
    (⟨low magnitude exponent, exponent⟩ : Decimal).value ≤ value magnitude ∧
      value magnitude < (⟨low magnitude exponent + 1, exponent⟩ : Decimal).value := by
  have positive := quotient_positive magnitude exponent
  have below : (0 : ℚ) < (quotient magnitude exponent).2 := Nat.cast_pos.mpr positive
  rw [← quotient_value magnitude exponent]
  simp only [Decimal.value, low, mul_le_mul_iff_left₀ (ten_power exponent),
    mul_lt_mul_iff_left₀ (ten_power exponent)]
  rw [le_div_iff₀ below, div_lt_iff₀ below]
  constructor
  · exact_mod_cast Nat.div_mul_le_self _ _
  · exact_mod_cast (Nat.div_lt_iff_lt_mul positive).mp (Nat.lt_succ_self _)

theorem same_grid {first second : Nat} :
    (⟨first, exponent⟩ : Decimal).value ≤ (⟨second, exponent⟩ : Decimal).value ↔ first ≤ second := by
  rw [Decimal.value, Decimal.value, mul_le_mul_iff_left₀ (ten_power exponent), Nat.cast_le]

theorem larger_exponent (coefficient : Nat) {smaller larger : Int} (ordered : smaller ≤ larger) :
    (⟨coefficient, smaller⟩ : Decimal).value ≤ (⟨coefficient, larger⟩ : Decimal).value :=
  mul_le_mul_of_nonneg_left (zpow_le_zpow_right₀ (by norm_num) ordered) (Nat.cast_nonneg _)

/-- The grid on which the value has so many digits. -/
def grid (magnitude count : Nat) : Int := integerDigits magnitude - count

/-- The decimals around the value that have so many digits. -/
def below (magnitude count : Nat) : Decimal :=
  ⟨low magnitude (grid magnitude count), grid magnitude count⟩

def above (magnitude count : Nat) : Decimal :=
  ⟨low magnitude (grid magnitude count) + 1, grid magnitude count⟩

/-- The value has so many digits before the point of its grid. -/
theorem grid_digits (filled : magnitude ≠ 0) (positive : 0 < count) :
    (10 : ℚ) ^ (count - 1) * 10 ^ grid magnitude count ≤ value magnitude ∧
      value magnitude < 10 ^ count * 10 ^ grid magnitude count := by
  obtain ⟨least, most⟩ := integer_digits filled
  have first : integerDigits magnitude - 1 = (count - 1 : ℕ) + grid magnitude count := by
    rw [grid]
    omega
  have next : integerDigits magnitude = count + grid magnitude count := by
    rw [grid]
    omega
  rw [first, ten_power_add] at least
  rw [next, ten_power_add] at most
  exact ⟨least, most⟩

private theorem below_long (filled : magnitude ≠ 0) (positive : 0 < count) :
    10 ^ (count - 1) ≤ (below magnitude count).coefficient := by
  have first := (grid_digits filled positive).1.trans_lt
    (neighbours magnitude (grid magnitude count)).2
  rw [Decimal.value, mul_lt_mul_iff_left₀ (ten_power (grid magnitude count))] at first
  exact Nat.le_of_lt_succ (by exact_mod_cast first)

theorem below_short (filled : magnitude ≠ 0) (positive : 0 < count) :
    (below magnitude count).coefficient < 10 ^ count := by
  have last := (neighbours magnitude (grid magnitude count)).1.trans_lt
    (grid_digits filled positive).2
  rw [Decimal.value, mul_lt_mul_iff_left₀ (ten_power (grid magnitude count))] at last
  exact_mod_cast last

/-- Zeros at the end of the digits are as good as a higher power of ten. -/
theorem zeros_moved (coefficient places : Nat) (exponent : Int) :
    (⟨coefficient * 10 ^ places, exponent⟩ : Decimal).value =
      (⟨coefficient, exponent + places⟩ : Decimal).value := by
  simp only [Decimal.value, Nat.cast_mul, Nat.cast_pow, Nat.cast_ofNat]
  rw [Int.add_comm, ten_power_add, mul_assoc]

/-- A decimal with no more digits than the grid stands for lies beyond one of the
neighbours: it is on the grid, or else it has fewer digits before the point than the
value has. -/
theorem beyond (filled : magnitude ≠ 0) (positive : 0 < count) (short : length other ≤ count) :
    other.value ≤ (below magnitude count).value ∨ (above magnitude count).value ≤ other.value := by
  obtain ⟨coefficient, exponent⟩ := other
  have bound : coefficient < 10 ^ count := (digits_short_iff coefficient positive).mp short
  rcases le_or_gt (grid magnitude count) exponent with coarse | fine
  · obtain ⟨places, rfl⟩ := Int.le.dest coarse
    rw [← zeros_moved, below, above, same_grid, same_grid]
    exact (Nat.lt_or_ge _ _).imp Nat.le_of_lt_succ id
  · left
    have tens : 10 ^ count = 10 ^ (count - 1) * 10 ^ 1 := by
      rw [← Nat.pow_add, Nat.sub_add_cancel positive]
    calc (⟨coefficient, exponent⟩ : Decimal).value
      _ ≤ (⟨coefficient, grid magnitude count - 1⟩ : Decimal).value :=
        larger_exponent coefficient (Int.le_sub_one_of_lt fine)
      _ ≤ (⟨10 ^ (count - 1) * 10 ^ 1, grid magnitude count - 1⟩ : Decimal).value := by
        rw [same_grid, ← tens]
        exact Nat.le_of_lt bound
      _ = (⟨10 ^ (count - 1), grid magnitude count⟩ : Decimal).value := by
        rw [zeros_moved, Nat.cast_one, Int.sub_add_cancel]
      _ ≤ (below magnitude count).value := by
        rw [below, same_grid]
        exact below_long filled positive

/-- If a decimal with no more digits reads back, so does the neighbour between it and
the value. -/
theorem neighbour_reads (finite : magnitude < infiniteMagnitude) (filled : magnitude ≠ 0)
    (positive : 0 < count) (read : other.rounded = magnitude) (short : length other ≤ count) :
    (other.value ≤ (below magnitude count).value ∧ (below magnitude count).rounded = magnitude) ∨
      ((above magnitude count).value ≤ other.value ∧ (above magnitude count).rounded = magnitude) := by
  obtain ⟨least, most⟩ := neighbours magnitude (grid magnitude count)
  rcases beyond filled positive short with lower | upper
  · exact .inl ⟨lower, rounded_between finite.le read (.inl ⟨lower, least⟩)⟩
  · exact .inr ⟨upper, rounded_between finite.le read (.inr ⟨most.le, upper⟩)⟩

theorem below_distance (magnitude count : Nat) :
    distance (below magnitude count) magnitude =
      value magnitude - (below magnitude count).value := by
  rw [distance, abs_sub_comm, abs_of_nonneg]
  exact sub_nonneg.mpr (neighbours magnitude (grid magnitude count)).1

theorem above_distance (magnitude count : Nat) :
    distance (above magnitude count) magnitude =
      (above magnitude count).value - value magnitude := by
  rw [distance, abs_of_nonneg]
  exact sub_nonneg.mpr (neighbours magnitude (grid magnitude count)).2.le

/-- The two neighbours are one step of the grid apart. -/
theorem distances (magnitude count : Nat) :
    distance (below magnitude count) magnitude + distance (above magnitude count) magnitude =
      10 ^ grid magnitude count := by
  rw [below_distance, above_distance, below, above, Decimal.value, Decimal.value]
  push_cast
  ring

private theorem below_rest (magnitude count : Nat) :
    distance (below magnitude count) magnitude =
      (((quotient magnitude (grid magnitude count)).1 %
        (quotient magnitude (grid magnitude count)).2 : ℕ) /
          (quotient magnitude (grid magnitude count)).2 : ℚ) * 10 ^ grid magnitude count := by
  have positive := quotient_positive magnitude (grid magnitude count)
  have whole := quotient_value magnitude (grid magnitude count)
  rw [below_distance, ← whole, below, Decimal.value, low]
  generalize quotient magnitude (grid magnitude count) = parts at positive ⊢
  obtain ⟨numerator, denominator⟩ := parts
  have filled : (denominator : ℚ) ≠ 0 := by exact_mod_cast positive.ne'
  have division : (numerator : ℚ) = denominator * (numerator / denominator : ℕ) +
      (numerator % denominator : ℕ) := by
    exact_mod_cast (Nat.div_add_mod numerator denominator).symm
  dsimp only
  rw [← sub_mul]
  congr 1
  rw [eq_div_iff filled, sub_mul, div_mul_cancel₀ _ filled]
  linarith

/-- The rest of the division tells which neighbour is nearer. -/
theorem nearer_below (magnitude count : Nat) :
    2 * ((quotient magnitude (grid magnitude count)).1 %
        (quotient magnitude (grid magnitude count)).2) <
          (quotient magnitude (grid magnitude count)).2 ↔
      distance (below magnitude count) magnitude < distance (above magnitude count) magnitude := by
  have positive := quotient_positive magnitude (grid magnitude count)
  have rest := below_rest magnitude count
  have sum := distances magnitude count
  have scale := ten_power (grid magnitude count)
  generalize quotient magnitude (grid magnitude count) = parts at positive rest ⊢
  obtain ⟨numerator, denominator⟩ := parts
  dsimp only at positive rest ⊢
  have divisor : (0 : ℚ) < denominator := Nat.cast_pos.mpr positive
  have twice : 2 * distance (below magnitude count) magnitude =
      ((2 * (numerator % denominator) : ℕ) / denominator : ℚ) * 10 ^ grid magnitude count := by
    rw [rest, Nat.cast_mul, Nat.cast_ofNat, mul_div_assoc, mul_assoc]
  have less : (((2 * (numerator % denominator) : ℕ) / denominator : ℚ) < 1 ↔
      2 * distance (below magnitude count) magnitude < 10 ^ grid magnitude count) := by
    rw [twice, mul_lt_iff_lt_one_left scale]
  rw [div_lt_one₀ divisor, Nat.cast_lt] at less
  rw [less]
  constructor <;> intro <;> linarith

end ValueGrammar.ShortestDecimals
