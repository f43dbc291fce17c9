import ValueGrammar.Proofs.ShortestDecimals.Neighbours

/-! The shortest decimal of a number. The search looks at the two neighbours of the
value among the decimals with one digit, with two digits and so on, so what it finds
first has as few digits as any decimal that reads back, and is the nearest of those. -/
namespace ValueGrammar.ShortestDecimals
open Text Digits Binary64 Rounding

variable {magnitude count : Nat} {exponent : Int} {decimal other : Decimal}

/-- The decimal reads back, and no decimal with fewer digits does. -/
structure Fewest (magnitude : Nat) (decimal : Decimal) : Prop where
  reads : decimal.rounded = magnitude
  fewest : ∀ other : Decimal, other.rounded = magnitude → length decimal ≤ length other

/-- Of two decimals this one is nearer to the value, or it is the larger one and as
near as the other. -/
def Nearer (magnitude : Nat) (decimal other : Decimal) : Prop :=
  distance decimal magnitude < distance other magnitude ∨
    distance decimal magnitude = distance other magnitude ∧ other.value ≤ decimal.value

/-- The decimal reads back with the fewest digits, and of those that do it is the
nearest to the value; of two that are equally near it is the larger one. -/
structure Shortest (magnitude : Nat) (decimal : Decimal) : Prop extends Fewest magnitude decimal where
  nearest : ∀ other : Decimal, other.rounded = magnitude → length other = length decimal →
    Nearer magnitude decimal other

/-- If nothing is found on a grid, none of the neighbours reads back. -/
private theorem none_on_grid (missed : onGrid .away magnitude exponent = none) :
    (⟨low magnitude exponent, exponent⟩ : Decimal).rounded ≠ magnitude ∧
      (⟨low magnitude exponent + 1, exponent⟩ : Decimal).rounded ≠ magnitude := by
  unfold onGrid at missed
  dsimp only at missed
  split at missed
  · rename_i lower upper
    exact ⟨beq_eq_false_iff_ne.mp lower, beq_eq_false_iff_ne.mp upper⟩
  · cases missed
  · cases missed
  · split at missed
    · cases missed
    · split at missed <;> cases missed

/-- What is found on a grid is the neighbour that reads back, and of two that do the
upper one unless the lower one is nearer. -/
private theorem some_on_grid {coefficient : Nat}
    (found : onGrid .away magnitude exponent = some coefficient) :
    let nearer := 2 * ((quotient magnitude exponent).1 % (quotient magnitude exponent).2) <
      (quotient magnitude exponent).2
    coefficient = low magnitude exponent ∧
        ((⟨low magnitude exponent + 1, exponent⟩ : Decimal).rounded = magnitude → nearer) ∨
      coefficient = low magnitude exponent + 1 ∧
        ((⟨low magnitude exponent, exponent⟩ : Decimal).rounded = magnitude → ¬ nearer) := by
  unfold onGrid at found
  dsimp only at found
  split at found
  · cases found
  · rename_i _ upper
    cases found
    exact .inl ⟨rfl, fun read => absurd read (beq_eq_false_iff_ne.mp upper)⟩
  · rename_i lower _
    cases found
    exact .inr ⟨rfl, fun read => absurd read (beq_eq_false_iff_ne.mp lower)⟩
  · split at found
    · rename_i near
      cases found
      exact .inl ⟨rfl, fun _ => near⟩
    · rename_i far
      rw [ite_self] at found
      cases found
      exact .inr ⟨rfl, fun _ => far⟩

theorem Nearer.trans {third : Decimal} (first : Nearer magnitude decimal other)
    (second : Nearer magnitude other third) : Nearer magnitude decimal third := by
  rcases first with less | ⟨same, larger⟩ <;> rcases second with less' | ⟨same', larger'⟩
  · exact .inl (less.trans less')
  · exact .inl (same' ▸ less)
  · exact .inl (same ▸ less')
  · exact .inr ⟨same.trans same', larger'.trans larger⟩

private theorem below_nearer (lower : other.value ≤ (below magnitude count).value) :
    Nearer magnitude (below magnitude count) other := by
  have least := (neighbours magnitude (grid magnitude count)).1
  have far : distance other magnitude = value magnitude - other.value := by
    rw [distance, abs_sub_comm, abs_of_nonneg (sub_nonneg.mpr (lower.trans least))]
  rw [Nearer, far, below_distance]
  rcases lower.lt_or_eq with less | same
  · exact .inl (sub_lt_sub_left less _)
  · exact .inr ⟨by rw [same], lower⟩

private theorem above_nearer (upper : (above magnitude count).value ≤ other.value) :
    Nearer magnitude (above magnitude count) other := by
  have most := (neighbours magnitude (grid magnitude count)).2.le
  have far : distance other magnitude = other.value - value magnitude := by
    rw [distance, abs_of_nonneg (sub_nonneg.mpr (most.trans upper))]
  rw [Nearer, far, above_distance]
  rcases upper.lt_or_eq with less | same
  · exact .inl (sub_lt_sub_right less _)
  · exact .inr ⟨by rw [same], same.ge⟩

/-- If nothing is found on a grid, only decimals with more digits read back. -/
theorem longer_of_none (finite : magnitude < infiniteMagnitude) (filled : magnitude ≠ 0)
    (positive : 0 < count) (missed : onGrid .away magnitude (grid magnitude count) = none)
    (read : other.rounded = magnitude) : count < length other := by
  obtain ⟨lower, upper⟩ := none_on_grid missed
  by_contra short
  rcases neighbour_reads finite filled positive read (Nat.not_lt.mp short) with
    ⟨-, read'⟩ | ⟨-, read'⟩
  · exact lower read'
  · exact upper read'

/-- What is found on a grid is nearer to the value than any other decimal that reads
back and has no more digits. -/
theorem nearer_of_some {coefficient : Nat} (finite : magnitude < infiniteMagnitude)
    (filled : magnitude ≠ 0) (positive : 0 < count)
    (found : onGrid .away magnitude (grid magnitude count) = some coefficient)
    (read : other.rounded = magnitude) (short : length other ≤ count) :
    Nearer magnitude ⟨coefficient, grid magnitude count⟩ other := by
  rcases some_on_grid found with ⟨rfl, near⟩ | ⟨rfl, far⟩ <;>
    rw [nearer_below] at * <;>
    rcases neighbour_reads finite filled positive read short with ⟨lower, read'⟩ | ⟨upper, read'⟩
  · exact below_nearer lower
  · exact .trans (.inl (near read')) (above_nearer upper)
  · have least := (neighbours magnitude (grid magnitude count)).1
    have most := (neighbours magnitude (grid magnitude count)).2.le
    have nearer : Nearer magnitude (above magnitude count) (below magnitude count) :=
      (not_lt.mp (far read')).lt_or_eq.imp id fun same => ⟨same, least.trans most⟩
    exact nearer.trans (below_nearer lower)
  · exact above_nearer upper

/-- With seventeen digits something is found. -/
theorem found_with_seventeen (finite : magnitude < infiniteMagnitude) (filled : magnitude ≠ 0) :
    onGrid .away magnitude (grid magnitude 17) ≠ none := by
  intro missed
  obtain ⟨lower, upper⟩ := none_on_grid missed
  obtain ⟨previous, rfl⟩ := Nat.exists_eq_add_one_of_ne_zero filled
  have sum := distances (previous + 1) 17
  have seventeen : 0 < 17 := by decide
  have step : (10 : ℚ) ^ 16 * 10 ^ grid (previous + 1) 17 ≤ value (previous + 1) :=
    (grid_digits filled seventeen).1
  rcases le_total (distance (below (previous + 1) 17) (previous + 1))
      (distance (above (previous + 1) 17) (previous + 1)) with near | near
  · refine lower (rounded_near finite ?_)
    change 2 * 10 ^ 16 * distance (below (previous + 1) 17) (previous + 1) ≤ _
    linarith
  · refine upper (rounded_near finite ?_)
    change 2 * 10 ^ 16 * distance (above (previous + 1) 17) (previous + 1) ≤ _
    linarith

/-- The search stops at the first grid on which something is found. -/
private theorem first_found {n last : Nat} {Result : Type} {find : Nat → Option Result}
    (bound : last < n) (hit : find last ≠ none) :
    ∃ first < n, ∃ result, find first = some result ∧ (∀ i < first, find i = none) ∧
      (List.range n).findSome? find = some result := by
  cases search : (List.range n).findSome? find with
  | none => exact absurd (List.findSome?_eq_none_iff.mp search last (List.mem_range.mpr bound)) hit
  | some result =>
    obtain ⟨front, first, back, split, found, misses⟩ := List.findSome?_eq_some_iff.mp search
    rw [List.range_eq_range'] at split
    obtain ⟨place, most, rfl, behind⟩ := List.range'_eq_append_iff.mp split
    obtain ⟨same, room, -⟩ := List.range'_eq_cons_iff.mp behind.symm
    obtain rfl : first = place := by omega
    refine ⟨first, by omega, result, found, fun i less => misses i ?_, rfl⟩
    rw [← List.range_eq_range', List.mem_range]
    exact less

/-- The shortest decimal is what is found on the first grid with a hit, without its
zeros at the end. -/
theorem shortest_found (finite : magnitude < infiniteMagnitude) (filled : magnitude ≠ 0) :
    ∃ count coefficient, 0 < count ∧
      onGrid .away magnitude (grid magnitude count) = some coefficient ∧
      (∀ fewer < count, 0 < fewer → onGrid .away magnitude (grid magnitude fewer) = none) ∧
      shortest .away magnitude =
        Decimal.withoutTrailingZeros coefficient (grid magnitude count) := by
  -- The grids are counted from none, the numbers of digits from one.
  let find (n : Nat) : Option Decimal := (onGrid .away magnitude (grid magnitude (n + 1))).map
    fun coefficient => Decimal.withoutTrailingZeros coefficient (grid magnitude (n + 1))
  have searched : shortest .away magnitude =
      ((List.range 17).findSome? find).getD (exactDecimal magnitude) := by
    rw [shortest, List.findSome?_map]
    rfl
  have hit : find 16 ≠ none := mt Option.map_eq_none_iff.mp (found_with_seventeen finite filled)
  have bound : 16 < 17 := by decide
  obtain ⟨first, -, result, found, misses, search⟩ := first_found bound hit
  obtain ⟨coefficient, found', rfl⟩ := Option.map_eq_some_iff.mp found
  refine ⟨first + 1, coefficient, Nat.succ_pos _, found', fun fewer less positive => ?_, ?_⟩
  · obtain ⟨i, rfl⟩ := Nat.exists_eq_add_one_of_ne_zero positive.ne'
    exact Option.map_eq_none_iff.mp (misses i (Nat.lt_of_succ_lt_succ less))
  · rw [searched, search, Option.getD_some]

/-- Moving the zeros at the end into the exponent keeps the value. -/
theorem value_without_zeros (coefficient : Nat) (exponent : Int) :
    (Decimal.withoutTrailingZeros coefficient exponent).value =
      (⟨coefficient, exponent⟩ : Decimal).value := by
  fun_induction Decimal.withoutTrailingZeros coefficient exponent with
  | case1 coefficient exponent stops => rfl
  | case2 coefficient exponent goes ih =>
    have whole : coefficient / 10 * 10 ^ 1 = coefficient := by omega
    have moved := zeros_moved (coefficient / 10) 1 exponent
    rw [whole] at moved
    exact ih.trans moved.symm

private theorem zeros_removed (coefficient : Nat) (exponent : Int) :
    (Decimal.withoutTrailingZeros coefficient exponent).coefficient ≤ coefficient := by
  fun_induction Decimal.withoutTrailingZeros coefficient exponent with
  | case1 coefficient exponent stops => exact Nat.le_refl _
  | case2 coefficient exponent goes ih => exact ih.trans (Nat.div_le_self _ _)

/-- The next power of ten is not longer than the digits before it, without its zeros. -/
theorem short_without_zeros {coefficient : Nat} (positive : 0 < count)
    (bound : coefficient ≤ 10 ^ count) (exponent : Int) :
    length (Decimal.withoutTrailingZeros coefficient exponent) ≤ count := by
  rw [length, digits_short_iff _ positive]
  rcases Nat.lt_or_eq_of_le bound with less | rfl
  · exact Nat.lt_of_le_of_lt (zeros_removed coefficient exponent) less
  · obtain ⟨n, rfl⟩ := Nat.exists_eq_add_one_of_ne_zero positive.ne'
    have power : 0 < 10 ^ n := Nat.pow_pos (by decide)
    rw [Nat.pow_succ, Decimal.withoutTrailingZeros, if_neg (by omega),
      Nat.mul_div_cancel _ (by decide)]
    have removed := zeros_removed (10 ^ n) (exponent + 1)
    omega

/-- What the search finds is the shortest decimal. -/
theorem shortest_shortest (finite : magnitude < infiniteMagnitude) (filled : magnitude ≠ 0) :
    Shortest magnitude (shortest .away magnitude) := by
  obtain ⟨count, coefficient, positive, found, misses, made⟩ := shortest_found finite filled
  have fewest (other : Decimal) (read : other.rounded = magnitude) : count ≤ length other := by
    have shown : 0 < length other := digits_positive _
    by_contra fewer
    exact Nat.lt_irrefl _
      (longer_of_none finite filled shown (misses _ (Nat.not_le.mp fewer) shown) read)
  have bound : coefficient ≤ 10 ^ count := by
    have short := below_short filled positive
    rcases some_on_grid found with ⟨rfl, -⟩ | ⟨rfl, -⟩
    · exact short.le
    · exact short
  have short : length (shortest .away magnitude) ≤ count := by
    rw [made]
    exact short_without_zeros positive bound _
  refine ⟨⟨shortest_reads_back .away finite.le, fun other read => short.trans (fewest other read)⟩,
    fun other read same => ?_⟩
  have nearer := nearer_of_some finite filled positive found read (same.trans_le short)
  rw [Nearer, distance] at nearer ⊢
  rw [made, value_without_zeros]
  exact nearer

theorem coefficient_positive (filled : magnitude ≠ 0) (read : decimal.rounded = magnitude) :
    0 < decimal.coefficient := by
  refine Nat.pos_of_ne_zero fun zero => filled ?_
  have nothing : decimal.value ≤ value 0 := by
    rw [Decimal.value, zero, Nat.cast_zero, zero_mul]
    exact div_nonneg (Nat.cast_nonneg _) (Nat.cast_nonneg _)
  rw [← read]
  exact Nat.le_zero.mp (rounded_le (Nat.zero_le _) nothing)

/-- A number has one decimal with so many digits. -/
private theorem same_decimal (positive : 0 < decimal.coefficient)
    (same : decimal.value = other.value) (long : length decimal = length other)
    (ordered : other.exponent ≤ decimal.exponent) : decimal = other := by
  obtain ⟨coefficient, exponent⟩ := decimal
  obtain ⟨coefficient', exponent'⟩ := other
  obtain ⟨places, rfl⟩ := Int.le.dest ordered
  obtain rfl : coefficient * 10 ^ places = coefficient' := by
    rw [← zeros_moved] at same
    exact Nat.le_antisymm (same_grid.mp same.le) (same_grid.mp same.ge)
  have shown : 0 < (digits coefficient).length := digits_positive _
  have short : coefficient * 10 ^ places < 10 ^ (digits coefficient).length :=
    (digits_short_iff _ shown).mp long.ge
  have bound : 10 ^ (digits coefficient).length ≤ coefficient * 10 := by
    have tens := Nat.mul_le_mul_right 10 (digits_long positive)
    rwa [← Nat.pow_succ, Nat.succ_eq_add_one, Nat.sub_add_cancel shown] at tens
  have none : places = 0 := by
    by_contra some
    have tens : 10 ^ 1 ≤ 10 ^ places := Nat.pow_le_pow_right (by decide) (Nat.pos_of_ne_zero some)
    exact Nat.not_lt.mpr (bound.trans (Nat.mul_le_mul_left coefficient tens)) short
  subst none
  rw [Nat.pow_zero, Nat.mul_one, Nat.cast_zero, Int.add_zero]

/-- There is only one shortest decimal. -/
theorem shortest_unique (filled : magnitude ≠ 0) (first : Shortest magnitude decimal)
    (second : Shortest magnitude other) : decimal = other := by
  have long : length decimal = length other :=
    Nat.le_antisymm (first.fewest other second.reads) (second.fewest decimal first.reads)
  have same : decimal.value = other.value := by
    rcases first.nearest other second.reads long.symm with less | ⟨equal, larger⟩ <;>
      rcases second.nearest decimal first.reads long with less' | ⟨equal', larger'⟩
    · exact absurd less' less.not_gt
    · exact absurd equal' less.ne'
    · exact absurd equal less'.ne'
    · exact le_antisymm larger' larger
  rcases le_total other.exponent decimal.exponent with ordered | ordered
  · exact same_decimal (coefficient_positive filled first.reads) same long ordered
  · exact (same_decimal (coefficient_positive filled second.reads) same.symm long.symm ordered).symm

end ValueGrammar.ShortestDecimals
