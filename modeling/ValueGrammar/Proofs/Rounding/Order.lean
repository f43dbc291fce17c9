import Mathlib.Algebra.Order.Field.Power
import Mathlib.Data.Rat.Cast.Order
import Mathlib.Tactic.Linarith
import ValueGrammar.Proofs.Rounding

/-! Rounding keeps the order. A quotient is rounded beyond a magnitude exactly if it
lies behind the middle between this magnitude and the next one, so what rounds to one
magnitude lies together. Between the middles on its two sides everything does. -/
namespace ValueGrammar.Binary64

/-- The value of a finite magnitude. -/
def value (magnitude : Nat) : ℚ := units magnitude / unitsPerOne

/-- The middle between the values of a magnitude and of the next one. -/
def middle (magnitude : Nat) : ℚ := (value magnitude + value (magnitude + 1)) / 2

namespace Decimal

/-- The number that the decimal stands for. -/
def value (decimal : Decimal) : ℚ := decimal.coefficient * 10 ^ decimal.exponent

/-- The magnitude that the decimal is read as. -/
def rounded (decimal : Decimal) : Nat := nearestDecimal decimal.coefficient decimal.exponent

end Decimal
end ValueGrammar.Binary64

namespace ValueGrammar.Rounding
open Binary64

variable {magnitude other numerator denominator : Nat}

/-- The digits of a normal number, and those of the next power of two, under any exponent. -/
private theorem units_leading {significand : Nat} (power : Nat) (least : exponentWeight ≤ significand)
    (most : significand ≤ 2 * exponentWeight) :
    units (significand + power * exponentWeight) = significand <<< power := by
  by_cases carry : significand = 2 * exponentWeight
  · have place : significand + power * exponentWeight = (power + 1 + 1) * exponentWeight + 0 := by
      simp only [exponentWeight] at carry ⊢
      omega
    rw [place, units_normal (power + 1) 0 (by decide), carry, Nat.shiftLeft_eq, Nat.shiftLeft_eq,
      Nat.pow_succ, Nat.add_zero, Nat.mul_comm (2 ^ power), ← Nat.mul_assoc, Nat.mul_comm 2]
  · have place : significand + power * exponentWeight =
        (power + 1) * exponentWeight + (significand - exponentWeight) := by
      simp only [exponentWeight] at least ⊢
      omega
    rw [place, units_normal power _ (by omega), Nat.add_sub_cancel' least]

/-- A whole number of units lies at the largest magnitude that does not exceed it, or
between this one and the next. -/
theorem floor_bounds (count : Nat) :
    units (floorMagnitude count) ≤ count ∧ count < units (floorMagnitude count + 1) := by
  by_cases small : count < exponentWeight
  · have short : count.log2 - 52 = 0 := by
      by_cases zero : count = 0
      · subst zero
        decide
      · have bound : count.log2 < 52 := (Nat.log2_lt zero).mpr small
        omega
    have whole : floorMagnitude count = count := by
      simp only [floorMagnitude, short, Nat.shiftRight_zero, Nat.zero_mul, Nat.add_zero]
    have exact : units count = count := units_subnormal small
    rw [whole]
    refine ⟨Nat.le_of_eq exact, ?_⟩
    have larger := units_lt_succ count
    omega
  · have filled : count ≠ 0 := by
      rintro rfl
      exact small (by decide)
    have long : 52 ≤ count.log2 := (Nat.le_log2 filled).mpr (Nat.not_lt.mp small)
    obtain ⟨shift, top⟩ := Nat.exists_eq_add_of_le long
    have dropped : floorMagnitude count = count >>> shift + shift * exponentWeight := by
      simp only [floorMagnitude, top, Nat.add_sub_cancel_left]
    have least : exponentWeight ≤ count >>> shift := by
      have bound := Nat.log2_self_le filled
      rw [top, Nat.pow_add] at bound
      rw [Nat.shiftRight_eq_div_pow, Nat.le_div_iff_mul_le (Nat.two_pow_pos shift)]
      exact bound
    have most : count >>> shift < 2 * exponentWeight := by
      have bound : count < 2 ^ (count.log2 + 1) := Nat.lt_log2_self
      rw [top, Nat.add_right_comm, Nat.pow_add] at bound
      rw [Nat.shiftRight_eq_div_pow, Nat.div_lt_iff_lt_mul (Nat.two_pow_pos shift)]
      exact bound
    have next : units (floorMagnitude count + 1) = (count >>> shift + 1) <<< shift := by
      rw [dropped, Nat.add_right_comm, units_leading shift (Nat.le_succ_of_le least) most]
    rw [next, dropped, units_leading shift least (Nat.le_of_lt most), Nat.shiftLeft_eq,
      Nat.shiftLeft_eq, Nat.shiftRight_eq_div_pow]
    refine ⟨Nat.div_mul_le_self count _, ?_⟩
    exact (Nat.div_lt_iff_lt_mul (Nat.two_pow_pos shift)).mp (Nat.lt_succ_self _)

theorem units_lt_units : units magnitude < units other ↔ magnitude < other :=
  (strictMono_nat_of_lt_succ units_lt_succ).lt_iff_lt

theorem units_le_units : units magnitude ≤ units other ↔ magnitude ≤ other :=
  (strictMono_nat_of_lt_succ units_lt_succ).le_iff_le

/-- A quotient is rounded beyond a magnitude if it is above the middle between this
one and the next, and in the middle if the next one is even. -/
private theorem lt_nearest (finite : magnitude < infiniteMagnitude) (positive : 0 < denominator) :
    magnitude < nearest numerator denominator ↔
      (units magnitude + units (magnitude + 1)) * denominator < 2 * (numerator * unitsPerOne) ∨
        (units magnitude + units (magnitude + 1)) * denominator = 2 * (numerator * unitsPerOne) ∧
          magnitude % 2 = 1 := by
  unfold nearest
  extract_lets scaled low twice middles rounded
  obtain ⟨floor, next⟩ := floor_bounds (scaled / denominator)
  have least : units low * denominator ≤ numerator * unitsPerOne :=
    (Nat.le_div_iff_mul_le positive).mp floor
  have most : numerator * unitsPerOne < units (low + 1) * denominator :=
    (Nat.div_lt_iff_lt_mul positive).mp next
  have bounded : magnitude < min rounded infiniteMagnitude ↔ magnitude < rounded := by omega
  have down : low ≤ rounded := by
    simp only [rounded]
    split
    · exact Nat.le_refl low
    · split <;> omega
  have up : rounded ≤ low + 1 := by
    simp only [rounded]
    split
    · exact Nat.le_succ low
    · split <;> omega
  have larger := units_lt_succ magnitude
  rw [bounded]
  rcases Nat.lt_trichotomy magnitude low with below | same | beyond
  · have reached : units (magnitude + 1) ≤ units low := units_le_units.mpr below
    have apart : (units magnitude + units (magnitude + 1)) * denominator <
        (units low + units low) * denominator :=
      Nat.mul_lt_mul_of_pos_right (by omega) positive
    rw [Nat.add_mul (units low)] at apart
    exact iff_of_true (by omega) (.inl (by omega))
  · subst same
    simp only [rounded, middles, twice]
    split
    · omega
    · split <;> omega
  · have reached : units (low + 1) ≤ units magnitude := units_le_units.mpr beyond
    have apart : (units (low + 1) + units (low + 1)) * denominator <
        (units magnitude + units (magnitude + 1)) * denominator :=
      Nat.mul_lt_mul_of_pos_right (by omega) positive
    rw [Nat.add_mul (units (low + 1))] at apart
    refine iff_of_false (by omega) (not_or.mpr ⟨?_, ?_⟩) <;> omega

private theorem one_positive : (0 : ℚ) < unitsPerOne := by
  have positive : 0 < unitsPerOne := by decide
  exact Nat.cast_pos.mpr positive

theorem value_lt_value : value magnitude < value other ↔ magnitude < other := by
  rw [value, value, div_lt_div_iff_of_pos_right one_positive, Nat.cast_lt, units_lt_units]

theorem lt_nearest_iff (finite : magnitude < infiniteMagnitude) (positive : 0 < denominator) :
    magnitude < nearest numerator denominator ↔
      middle magnitude < numerator / denominator ∨
        middle magnitude = numerator / denominator ∧ magnitude % 2 = 1 := by
  have one := one_positive
  have below : (0 : ℚ) < denominator := Nat.cast_pos.mpr positive
  have center : middle magnitude =
      ((units magnitude + units (magnitude + 1) : Nat) : ℚ) / (2 * unitsPerOne : Nat) := by
    rw [middle, value, value, ← add_div, div_div, mul_comm]
    push_cast
    rfl
  have right : (2 : ℕ) * (numerator * unitsPerOne) = numerator * (2 * unitsPerOne) := by
    rw [Nat.mul_left_comm]
  have twice : (0 : ℚ) < ((2 * unitsPerOne : ℕ) : ℚ) := by
    rw [Nat.cast_mul]
    exact mul_pos (by norm_num) one
  rw [lt_nearest finite positive, center, div_lt_div_iff₀ twice below,
    div_eq_div_iff twice.ne' below.ne', right]
  norm_cast

theorem nearest_finite (numerator denominator : Nat) :
    nearest numerator denominator ≤ infiniteMagnitude :=
  Nat.min_le_right _ _

/-- A larger quotient is rounded to the same magnitude or to a larger one. -/
theorem nearest_mono {numerator' denominator' : Nat} (positive : 0 < denominator)
    (positive' : 0 < denominator')
    (ordered : (numerator / denominator : ℚ) ≤ numerator' / denominator') :
    nearest numerator denominator ≤ nearest numerator' denominator' := by
  by_contra exceeds
  -- The smaller result is finite, so the smaller quotient is behind the middle above it.
  have finite : nearest numerator' denominator' < infiniteMagnitude :=
    Nat.lt_of_lt_of_le (Nat.not_le.mp exceeds) (nearest_finite _ _)
  have behind := (lt_nearest_iff finite positive).mp (Nat.not_le.mp exceeds)
  refine Nat.lt_irrefl _ ((lt_nearest_iff finite positive').mpr ?_)
  rcases behind with apart | ⟨center, odd⟩
  · exact .inl (lt_of_lt_of_le apart ordered)
  · rcases ordered.lt_or_eq with less | same
    · exact .inl (center ▸ less)
    · exact .inr ⟨center.trans same, odd⟩

/-- A decimal is read as the magnitude that its value rounds to. -/
private theorem rounded_quotient (decimal : Decimal) :
    ∃ numerator denominator : Nat, 0 < denominator ∧
      decimal.rounded = nearest numerator denominator ∧
      decimal.value = numerator / denominator := by
  obtain ⟨coefficient, exponent⟩ := decimal
  refine ⟨_, _, Nat.pow_pos (by decide), nearest_decimal coefficient exponent, ?_⟩
  have power : (10 : ℚ) ^ exponent = 10 ^ exponent.toNat / 10 ^ (-exponent).toNat := by
    rw [← zpow_natCast, ← zpow_natCast, ← zpow_sub₀ (by norm_num), Int.toNat_sub_toNat_neg]
  simp only [Decimal.value, power, Nat.pow_eq, Nat.cast_mul, Nat.cast_pow, Nat.cast_ofNat,
    mul_div_assoc]

theorem rounded_mono {first second : Decimal} (ordered : first.value ≤ second.value) :
    first.rounded ≤ second.rounded := by
  obtain ⟨numerator, denominator, positive, read, quotient⟩ := rounded_quotient first
  obtain ⟨numerator', denominator', positive', read', quotient'⟩ := rounded_quotient second
  rw [quotient, quotient'] at ordered
  rw [read, read']
  exact nearest_mono positive positive' ordered

/-- What lies below the value of a magnitude is not read as a larger one. -/
theorem rounded_le {decimal : Decimal} (finite : magnitude ≤ infiniteMagnitude)
    (below : decimal.value ≤ value magnitude) : decimal.rounded ≤ magnitude := by
  obtain ⟨numerator, denominator, positive, read, quotient⟩ := rounded_quotient decimal
  rw [quotient] at below
  calc decimal.rounded
    _ = nearest numerator denominator := read
    _ ≤ nearest (units magnitude) unitsPerOne := nearest_mono positive (by decide) below
    _ = magnitude := nearest_units finite

theorem le_rounded {decimal : Decimal} (finite : magnitude ≤ infiniteMagnitude)
    (above : value magnitude ≤ decimal.value) : magnitude ≤ decimal.rounded := by
  obtain ⟨numerator, denominator, positive, read, quotient⟩ := rounded_quotient decimal
  rw [quotient] at above
  calc magnitude
    _ = nearest (units magnitude) unitsPerOne := (nearest_units finite).symm
    _ ≤ nearest numerator denominator := nearest_mono (by decide) positive above
    _ = decimal.rounded := read.symm

/-- Between the value of a magnitude and what is read as it everything is. -/
theorem rounded_between {near far : Decimal} (finite : magnitude ≤ infiniteMagnitude)
    (read : far.rounded = magnitude)
    (between : far.value ≤ near.value ∧ near.value ≤ value magnitude ∨
      value magnitude ≤ near.value ∧ near.value ≤ far.value) : near.rounded = magnitude := by
  rcases between with ⟨lower, upper⟩ | ⟨lower, upper⟩
  · have least := rounded_mono lower
    rw [read] at least
    exact Nat.le_antisymm (rounded_le finite upper) least
  · have most := rounded_mono upper
    rw [read] at most
    exact Nat.le_antisymm most (le_rounded finite lower)

/-- Between the middles on its two sides everything is read as the magnitude. -/
theorem rounded_inside {decimal : Decimal} (finite : magnitude + 1 < infiniteMagnitude)
    (above : middle magnitude < decimal.value) (below : decimal.value < middle (magnitude + 1)) :
    decimal.rounded = magnitude + 1 := by
  obtain ⟨numerator, denominator, positive, read, quotient⟩ := rounded_quotient decimal
  rw [quotient] at above below
  rw [read]
  have least := (lt_nearest_iff (Nat.lt_of_succ_lt finite) positive).mpr (.inl above)
  have most : ¬ magnitude + 1 < nearest numerator denominator := by
    rw [lt_nearest_iff finite positive, not_or, not_and]
    exact ⟨not_lt.mpr below.le, fun same => absurd same below.ne'⟩
  omega

/-- The values of two neighbours differ by more than a part in `10 ^ 16`. -/
private theorem units_apart (magnitude : Nat) :
    units (magnitude + 1) + 10 ^ 16 * units magnitude < 10 ^ 16 * units (magnitude + 1) := by
  by_cases small : magnitude + 1 ≤ exponentWeight
  · have next : units (magnitude + 1) = magnitude + 1 := by
      rcases Nat.lt_or_eq_of_le small with less | same
      · exact units_subnormal less
      · rw [same]
        decide
    rw [next, units_subnormal small]
    simp only [exponentWeight] at small
    omega
  · -- The larger one does not start a new power of two, or ends the one before it.
    obtain ⟨power, significand, least, most, place⟩ : ∃ power significand,
        exponentWeight ≤ significand ∧ significand < 2 * exponentWeight ∧
          magnitude = significand + power * exponentWeight := by
      refine ⟨magnitude / exponentWeight - 1, exponentWeight + magnitude % exponentWeight, ?_⟩
      simp only [exponentWeight] at small ⊢
      omega
    have next : magnitude + 1 = significand + 1 + power * exponentWeight := by omega
    rw [next, units_leading power (Nat.le_succ_of_le least) most, place,
      units_leading power least (Nat.le_of_lt most), Nat.shiftLeft_eq, Nat.shiftLeft_eq]
    have room : significand + 1 + 10 ^ 16 * significand < 10 ^ 16 * (significand + 1) := by
      simp only [exponentWeight] at most
      omega
    have scaled := Nat.mul_lt_mul_of_pos_right room (Nat.two_pow_pos power)
    rw [Nat.add_mul, Nat.mul_assoc, Nat.mul_assoc] at scaled
    exact scaled

theorem value_apart (magnitude : Nat) :
    value (magnitude + 1) < 10 ^ 16 * (value (magnitude + 1) - value magnitude) := by
  have apart : ((units (magnitude + 1) + 10 ^ 16 * units magnitude : ℕ) : ℚ) <
      (10 ^ 16 * units (magnitude + 1) : ℕ) := Nat.cast_lt.mpr (units_apart magnitude)
  push_cast at apart
  rw [value, value, ← sub_div, ← mul_div_assoc, div_lt_div_iff_of_pos_right one_positive]
  linarith

/-- What is as near to a value as half a part in `10 ^ 16` is read as its magnitude. -/
theorem rounded_near {decimal : Decimal} (finite : magnitude + 1 < infiniteMagnitude)
    (near : 2 * 10 ^ 16 * |decimal.value - value (magnitude + 1)| ≤ value (magnitude + 1)) :
    decimal.rounded = magnitude + 1 := by
  have below := value_apart magnitude
  have above := value_apart (magnitude + 1)
  have larger : value (magnitude + 1) < value (magnitude + 1 + 1) :=
    value_lt_value.mpr (Nat.lt_succ_self _)
  have left := neg_abs_le (decimal.value - value (magnitude + 1))
  have right := le_abs_self (decimal.value - value (magnitude + 1))
  apply rounded_inside finite
  · rw [middle]
    linarith
  · rw [middle]
    linarith

end ValueGrammar.Rounding
