import ValueGrammar.Binary64.Shortest

/-! Rounding of quotients and of decimals. A quotient rounds the same in lower or
higher terms, and so a decimal does with zeros moved between its digits and its
power of ten. The value of a magnitude rounds to that magnitude, and therefore
the shortest decimal of a number is always one that reads back. -/
namespace ValueGrammar.Rounding
open Binary64

variable {magnitude coefficient factor count : Nat} {exponent : Int} {tie : Tie}

theorem units_subnormal (small : magnitude < exponentWeight) :
    units magnitude = magnitude := by
  rw [units, if_pos small]

theorem units_normal (power fraction : Nat) (small : fraction < exponentWeight) :
    units ((power + 1) * exponentWeight + fraction) = (exponentWeight + fraction) <<< power := by
  have large : ¬ (power + 1) * exponentWeight + fraction < exponentWeight := by
    simp only [exponentWeight] at small ⊢
    omega
  have whole : ((power + 1) * exponentWeight + fraction) / exponentWeight = power + 1 := by
    simp only [exponentWeight] at small ⊢
    omega
  have rest : ((power + 1) * exponentWeight + fraction) % exponentWeight = fraction := by
    simp only [exponentWeight] at small ⊢
    omega
  rw [units, if_neg large, whole, rest, Nat.add_sub_cancel]

/-- A magnitude is a fraction alone, or a fraction under an exponent. -/
theorem magnitude_cases (magnitude : Nat) : magnitude < exponentWeight ∨
    ∃ power fraction, fraction < exponentWeight ∧
      magnitude = (power + 1) * exponentWeight + fraction := by
  by_cases small : magnitude < exponentWeight
  · exact .inl small
  · refine .inr ⟨magnitude / exponentWeight - 1, magnitude % exponentWeight,
      Nat.mod_lt _ (by decide), ?_⟩
    simp only [exponentWeight] at small ⊢
    omega

/-- The next magnitude has a larger value. -/
theorem units_lt_succ (magnitude : Nat) : units magnitude < units (magnitude + 1) := by
  rcases magnitude_cases magnitude with small | ⟨power, fraction, small, rfl⟩
  · by_cases last : magnitude + 1 < exponentWeight
    · rw [units_subnormal small, units_subnormal last]
      exact Nat.lt_succ_self magnitude
    · obtain rfl : magnitude = exponentWeight - 1 := by
        simp only [exponentWeight] at small last ⊢
        omega
      decide
  · have positive : 0 < Nat.pow 2 power := Nat.pow_pos (by decide)
    by_cases last : fraction + 1 < exponentWeight
    · rw [units_normal power fraction small, Nat.add_assoc, units_normal power _ last,
        Nat.shiftLeft_eq, Nat.shiftLeft_eq]
      exact Nat.mul_lt_mul_of_pos_right (by omega) positive
    · obtain rfl : fraction = exponentWeight - 1 := by
        simp only [exponentWeight] at small last ⊢
        omega
      have next : (power + 1) * exponentWeight + (exponentWeight - 1) + 1 =
          (power + 1 + 1) * exponentWeight + 0 := by
        simp only [exponentWeight]
        omega
      rw [next, units_normal power _ small, units_normal (power + 1) 0 (by decide),
        Nat.shiftLeft_eq, Nat.shiftLeft_eq, Nat.pow_succ]
      change _ * Nat.pow 2 power < _ * (Nat.pow 2 power * 2)
      simp only [exponentWeight]
      omega

private theorem log2_shift {n : Nat} (filled : n ≠ 0) (places : Nat) :
    (n <<< places).log2 = n.log2 + places := by
  have positive : 0 < 2 ^ places := Nat.two_pow_pos places
  have shifted : n * 2 ^ places ≠ 0 := Nat.mul_ne_zero filled (Nat.ne_of_gt positive)
  rw [Nat.shiftLeft_eq, Nat.log2_eq_iff shifted]
  constructor
  · rw [Nat.pow_add]
    exact Nat.mul_le_mul_right _ (Nat.log2_self_le filled)
  · rw [Nat.add_right_comm, Nat.pow_add]
    exact Nat.mul_lt_mul_of_pos_right Nat.lt_log2_self positive

/-- The largest magnitude that does not exceed the value of a magnitude is that one. -/
theorem floor_units (magnitude : Nat) : floorMagnitude (units magnitude) = magnitude := by
  rcases magnitude_cases magnitude with small | ⟨power, fraction, small, rfl⟩
  · have short : magnitude.log2 - 52 = 0 := by
      by_cases zero : magnitude = 0
      · subst zero
        decide
      · have bound : magnitude.log2 < 52 := (Nat.log2_lt zero).mpr small
        omega
    rw [units_subnormal small, floorMagnitude]
    simp only [short]
    omega
  · have filled : exponentWeight + fraction ≠ 0 := by
      simp only [exponentWeight]
      omega
    have top : (exponentWeight + fraction).log2 = 52 := by
      rw [Nat.log2_eq_iff filled]
      simp only [exponentWeight] at small ⊢
      omega
    have shift : ((exponentWeight + fraction) <<< power).log2 - 52 = power := by
      rw [log2_shift filled, top, Nat.add_sub_cancel_left]
    rw [units_normal power fraction small, floorMagnitude]
    simp only [shift, Nat.shiftLeft_shiftRight, exponentWeight]
    omega

/-- A quotient rounds the same in higher terms. -/
theorem nearest_scaled (positive : 0 < factor) (numerator denominator : Nat) :
    nearest (factor * numerator) (factor * denominator) = nearest numerator denominator := by
  have whole : factor * numerator * unitsPerOne / (factor * denominator) =
      numerator * unitsPerOne / denominator := by
    rw [Nat.mul_assoc, Nat.mul_div_mul_left _ _ positive]
  have twice : 2 * (factor * numerator * unitsPerOne) = factor * (2 * (numerator * unitsPerOne)) := by
    rw [Nat.mul_assoc, Nat.mul_left_comm]
  have middles (sum : Nat) : sum * (factor * denominator) = factor * (sum * denominator) :=
    Nat.mul_left_comm ..
  unfold nearest
  simp only [whole, twice, middles, Nat.mul_lt_mul_left positive,
    Nat.mul_right_inj (Nat.ne_of_gt positive)]

/-- The value of a magnitude rounds to that magnitude. -/
theorem nearest_units (finite : magnitude ≤ infiniteMagnitude) :
    nearest (units magnitude) unitsPerOne = magnitude := by
  have one : 0 < unitsPerOne := by decide
  have below : 2 * (units magnitude * unitsPerOne) <
      (units magnitude + units (magnitude + 1)) * unitsPerOne := by
    rw [← Nat.mul_assoc]
    apply Nat.mul_lt_mul_of_pos_right _ one
    have larger := units_lt_succ magnitude
    omega
  unfold nearest
  simp only [Nat.mul_div_cancel _ one, floor_units, below, if_true]
  exact Nat.min_eq_left finite

private theorem floor_zero : floorMagnitude 0 = 0 := by decide

/-- What is less than half of the smallest value rounds to zero. -/
theorem nearest_small {numerator denominator : Nat}
    (small : 2 * (numerator * unitsPerOne) < denominator) : nearest numerator denominator = 0 := by
  have none : numerator * unitsPerOne / denominator = 0 := Nat.div_eq_of_lt (by omega)
  have least : units 0 + units (0 + 1) = 1 := by decide
  unfold nearest
  simp only [none, floor_zero, least, Nat.one_mul, small, if_true]
  rfl

private theorem floor_large {units : Nat} (large : 2099 ≤ units.log2) :
    infiniteMagnitude ≤ floorMagnitude units := by
  have shift : 2047 ≤ units.log2 - 52 := by omega
  have bound := Nat.mul_le_mul_right exponentWeight shift
  exact Nat.le_trans bound (Nat.le_add_left ..)

/-- What is far above the finite values rounds to infinity. -/
theorem nearest_large (large : 1025 ≤ count.log2) : nearest count 1 = infiniteMagnitude := by
  have filled : count ≠ 0 := by
    rintro rfl
    exact absurd large (by decide)
  have scale (places : Nat) : count * (1 <<< places) = count <<< places := by
    rw [Nat.shiftLeft_eq, Nat.shiftLeft_eq, Nat.one_mul]
  have scaled : 2099 ≤ (count * unitsPerOne).log2 := by
    rw [unitsPerOne, scale, log2_shift filled]
    omega
  have low := floor_large scaled
  unfold nearest
  simp only [Nat.div_one]
  apply Nat.min_eq_right
  split
  · exact low
  · split <;> omega

/-- Plain bounds decide nothing that rounding would not: a decimal is rounded as
a quotient of whole numbers. -/
theorem nearest_decimal (coefficient : Nat) (exponent : Int) :
    nearestDecimal coefficient exponent =
      nearest (coefficient * Nat.pow 10 exponent.toNat) (Nat.pow 10 (-exponent).toNat) := by
  unfold nearestDecimal
  split
  · rename_i zero
    subst zero
    rw [Nat.zero_mul]
    refine (nearest_small ?_).symm
    rw [Nat.zero_mul]
    exact Nat.pow_pos (by decide)
  rename_i filled
  split
  · rename_i large
    have whole : (-exponent).toNat = 0 := by omega
    rw [whole]
    refine (nearest_large ?_).symm
    have power : 10 ^ exponent.toNat ≠ 0 := Nat.ne_of_gt (Nat.pow_pos (by decide))
    refine (Nat.le_log2 (Nat.mul_ne_zero filled power)).mpr ?_
    calc 2 ^ 1025
      _ ≤ 2 ^ (3 * exponent.toNat) := Nat.pow_le_pow_right (by decide) (by omega)
      _ = 8 ^ exponent.toNat := Nat.pow_mul 2 3 _
      _ ≤ 10 ^ exponent.toNat := Nat.pow_le_pow_left (by decide) _
      _ ≤ coefficient * 10 ^ exponent.toNat :=
        Nat.le_mul_of_pos_left _ (Nat.pos_of_ne_zero filled)
  split
  · rename_i small
    have below : exponent.toNat = 0 := by omega
    rw [below]
    refine (nearest_small ?_).symm
    have one : unitsPerOne = 2 ^ 1074 := Nat.one_shiftLeft 1074
    have alone : coefficient * Nat.pow 10 0 = coefficient := Nat.mul_one coefficient
    have bound : coefficient < 2 ^ (coefficient.log2 + 1) := Nat.lt_log2_self
    calc 2 * (coefficient * Nat.pow 10 0 * unitsPerOne)
      _ < 2 * (2 ^ (coefficient.log2 + 1) * 2 ^ 1074) := by
        rw [one, alone]
        apply Nat.mul_lt_mul_of_pos_left _ (by decide)
        exact Nat.mul_lt_mul_of_pos_right bound (Nat.two_pow_pos 1074)
      _ = 2 ^ (1 + (coefficient.log2 + 1 + 1074)) := by
        rw [Nat.pow_add 2 1, Nat.pow_add 2 (coefficient.log2 + 1), Nat.pow_one]
      _ ≤ 2 ^ (-exponent).toNat := Nat.pow_le_pow_right (by decide) (by omega)
      _ ≤ 10 ^ (-exponent).toNat := Nat.pow_le_pow_left (by decide) _
  split
  · rename_i whole
    have none : (-exponent).toNat = 0 := by omega
    rw [none]
  · rename_i broken
    have none : exponent.toNat = 0 := by omega
    rw [none]
    simp

/-- Zeros at the end of the digits are as good as a higher power of ten. -/
theorem nearest_decimal_shift (coefficient : Nat) (exponent : Int) (places : Nat) :
    nearestDecimal (coefficient * Nat.pow 10 places) exponent =
      nearestDecimal coefficient (exponent + places) := by
  -- The two quotients differ by a power of ten, which the exponents leave on one side.
  obtain ⟨common, below, above⟩ : ∃ common,
      (-exponent).toNat = (-(exponent + places)).toNat + common ∧
      places + exponent.toNat = (exponent + places).toNat + common :=
    ⟨(-exponent).toNat - (-(exponent + places)).toNat, by omega, by omega⟩
  have numerator : coefficient * Nat.pow 10 places * Nat.pow 10 exponent.toNat =
      Nat.pow 10 common * (coefficient * Nat.pow 10 (exponent + places).toNat) := by
    simp only [Nat.pow_eq]
    rw [Nat.mul_assoc, ← Nat.pow_add, above, Nat.add_comm, Nat.pow_add, Nat.mul_left_comm]
  have denominator : Nat.pow 10 (-exponent).toNat =
      Nat.pow 10 common * Nat.pow 10 (-(exponent + places)).toNat := by
    simp only [Nat.pow_eq]
    rw [below, Nat.pow_add, Nat.mul_comm]
  rw [nearest_decimal, nearest_decimal, numerator, denominator]
  exact nearest_scaled (Nat.pow_pos (by decide)) _ _

/-- Moving the zeros at the end into the exponent keeps what a decimal rounds to. -/
theorem nearest_without_zeros (coefficient : Nat) (exponent : Int) :
    let decimal := Decimal.withoutTrailingZeros coefficient exponent
    nearestDecimal decimal.coefficient decimal.exponent = nearestDecimal coefficient exponent := by
  fun_induction Decimal.withoutTrailingZeros coefficient exponent with
  | case1 coefficient exponent stops => rfl
  | case2 coefficient exponent goes ih =>
    have whole : coefficient / 10 * Nat.pow 10 1 = coefficient := by
      change coefficient / 10 * 10 = coefficient
      omega
    have shift := nearest_decimal_shift (coefficient / 10) exponent 1
    rw [whole] at shift
    exact ih.trans shift.symm

/-- What is found on a grid reads back. -/
theorem grid_reads_back (found : onGrid tie magnitude exponent = some coefficient) :
    nearestDecimal coefficient exponent = magnitude := by
  unfold onGrid at found
  dsimp only at found
  split at found
  · cases found
  · rename_i low _
    cases found
    exact eq_of_beq low
  · rename_i _ high
    cases found
    exact eq_of_beq high
  · rename_i low high
    split at found
    · cases found
      exact eq_of_beq low
    · split at found
      · cases found
        exact eq_of_beq high
      · cases tie with
        | away =>
          cases found
          exact eq_of_beq high
        | even =>
          cases found
          rcases Nat.mod_two_eq_zero_or_one _ with even | odd
          · rw [even]
            exact eq_of_beq low
          · rw [odd]
            exact eq_of_beq high

/-- A binary fraction is a decimal with as many places. -/
private theorem nearest_decimal_exact {fives places : Nat} (numerator : Nat)
    (power : Nat.pow 5 places = fives) :
    nearestDecimal (numerator * fives) (-(places : Int)) = nearest numerator (1 <<< places) := by
  have whole : (-(places : Int)).toNat = 0 := by omega
  have broken : (- -(places : Int)).toNat = places := by omega
  have denominator : Nat.pow 10 places = fives * (1 <<< places) := by
    rw [Nat.one_shiftLeft, ← power]
    exact Nat.mul_pow 5 2 places
  have factor : numerator * fives * Nat.pow 10 0 = fives * numerator := by
    change numerator * fives * 1 = _
    rw [Nat.mul_one, Nat.mul_comm]
  have positive : 0 < fives := by
    rw [← power]
    exact Nat.pow_pos (by decide)
  rw [nearest_decimal, whole, broken, factor, denominator]
  exact nearest_scaled positive _ _

/-- The value in full reads back. -/
private theorem exact_reads_back (finite : magnitude ≤ infiniteMagnitude) :
    nearestDecimal (exactDecimal magnitude).coefficient (exactDecimal magnitude).exponent =
      magnitude := by
  rw [exactDecimal, nearest_without_zeros]
  generalize power : Nat.pow 5 1074 = fives
  exact (nearest_decimal_exact (units magnitude) power).trans (nearest_units finite)

/-- The shortest decimal of a number reads back to it. -/
theorem shortest_reads_back (tie : Tie) (finite : magnitude ≤ infiniteMagnitude) :
    nearestDecimal (shortest tie magnitude).coefficient (shortest tie magnitude).exponent =
      magnitude := by
  unfold shortest
  extract_lets exponents found
  cases search : found with
  | none =>
    rw [Option.getD_none]
    exact exact_reads_back finite
  | some decimal =>
    obtain ⟨exponent, -, made⟩ := List.exists_of_findSome?_eq_some search
    obtain ⟨coefficient, grid, rfl⟩ := Option.map_eq_some_iff.mp made
    rw [Option.getD_some]
    exact (nearest_without_zeros coefficient exponent).trans (grid_reads_back grid)

end ValueGrammar.Rounding
