import ValueGrammar.Numeral
import ValueGrammar.Proofs.ShortestDecimals

/-! Numbers are written as in ECMAScript. The standard lays the shortest digits out by
where the point stands among them; the writer compares the number itself with a
millionth and with `10 ^ 21`. Both powers of ten have a single digit, and the largest
decimal with a single digit below each is read as a smaller number, so the two ways to
decide agree. -/
namespace ValueGrammar.StandardNumerals
open Text Digits Binary64 Rounding ShortestDecimals Numeral

variable {magnitude : Nat} {decimal : Decimal}

/-- How many digits stand before the point, which may be less than none. -/
def point (decimal : Decimal) : Int := length decimal + decimal.exponent

/-- The layout of digits with the point behind so many of them, as the standard has
it. -/
def standard (shown : List Char) (point : Int) : List Char :=
  if shown.length ≤ point ∧ point ≤ 21 then
    shown ++ List.replicate (point - shown.length).toNat '0'
  else if 0 < point ∧ point ≤ 21 then shown.take point.toNat ++ '.' :: shown.drop point.toNat
  else if -6 < point ∧ point ≤ 0 then
    '0' :: '.' :: (List.replicate (-point).toNat '0' ++ shown)
  else
    shown.take 1 ++ (if 1 < shown.length then '.' :: shown.drop 1 else []) ++
      'e' :: (if 0 < point - 1 then '+' else '-') :: digits (point - 1).natAbs

/-- The two notations of the writer are those of the standard. -/
theorem layout_standard {shown : List Char} (filled : shown ≠ []) (point : Int) :
    (if -6 < point ∧ point ≤ 21 then positional shown point
      else scientific shown (point - 1)) = standard shown point := by
  have length : 0 < shown.length := List.length_pos_iff.mpr filled
  unfold standard
  by_cases plain : -6 < point ∧ point ≤ 21
  · rw [if_pos plain]
    unfold positional
    by_cases small : point ≤ 0
    · rw [if_pos small, if_neg (by omega), if_neg (by omega), if_pos ⟨plain.1, small⟩]
      rfl
    · rw [if_neg small]
      by_cases whole : shown.length ≤ point.toNat
      · rw [if_pos whole, if_pos (by omega)]
        congr 2
        omega
      · rw [if_neg whole, if_neg (by omega), if_pos (by omega)]
  · rw [if_neg plain, if_neg (by omega), if_neg (by omega), if_neg (by omega)]
    have sign : (if point - 1 < 0 then '-' else '+') = if 0 < point - 1 then '+' else '-' := by
      split <;> split <;> first | rfl | omega
    unfold scientific
    rw [sign]
    match shown with
    | [first] => rfl
    | first :: second :: rest => rfl

/-- A decimal lies between the powers of ten that its point tells. -/
theorem value_bounds (positive : 0 < decimal.coefficient) :
    (10 : ℚ) ^ (point decimal - 1) ≤ decimal.value ∧ decimal.value < 10 ^ point decimal := by
  obtain ⟨coefficient, exponent⟩ := decimal
  have shown : 0 < (digits coefficient).length := digits_positive _
  have scale := ten_power exponent
  have least := digits_long positive
  have most := (digits_short_iff coefficient shown).mp (Nat.le_refl _)
  simp only [point, length, Decimal.value] at least most ⊢
  generalize (digits coefficient).length = count at shown least most ⊢
  constructor
  · have power : (count : Int) + exponent - 1 = (count - 1 : ℕ) + exponent := by omega
    rw [power, ten_power_add, mul_le_mul_iff_left₀ scale]
    exact_mod_cast least
  · rw [ten_power_add, mul_lt_mul_iff_left₀ scale]
    exact_mod_cast most

theorem power_value (power : Int) : (⟨1, power⟩ : Decimal).value = 10 ^ power := by
  rw [Decimal.value, Nat.cast_one, one_mul]

/-- A number is smaller than a power of ten exactly if its digits tell so, provided that
the largest single digit below the power is read as a smaller number than the power. -/
theorem lt_power_iff (filled : magnitude ≠ 0) (fewest : Fewest magnitude decimal) {power : Int}
    (gap : (⟨9, power - 1⟩ : Decimal).rounded < (⟨1, power⟩ : Decimal).rounded) :
    magnitude < (⟨1, power⟩ : Decimal).rounded ↔ point decimal ≤ power := by
  obtain ⟨least, most⟩ := value_bounds (coefficient_positive filled fewest.reads)
  have read := fewest.reads
  constructor
  · intro smaller
    by_contra beyond
    have above : (⟨1, power⟩ : Decimal).value ≤ decimal.value := by
      rw [power_value]
      exact (zpow_le_zpow_right₀ (by norm_num) (by omega)).trans least
    have larger := rounded_mono above
    omega
  · intro before
    have below : decimal.value ≤ (⟨1, power⟩ : Decimal).value := by
      rw [power_value]
      exact most.le.trans (zpow_le_zpow_right₀ (by norm_num) before)
    have smaller := rounded_mono below
    by_contra same
    -- Then the power reads back too, so the decimal has a single digit as well.
    have one : length ⟨1, power⟩ ≤ 1 := (digits_short_iff 1 Nat.one_pos).mpr (by decide)
    have single : length decimal ≤ 1 := (fewest.fewest ⟨1, power⟩ (by omega)).trans one
    have digit : decimal.coefficient < 10 ^ 1 :=
      (digits_short_iff decimal.coefficient Nat.one_pos).mp single
    have shown : 0 < length decimal := digits_positive _
    have last : decimal.value ≤ (⟨9, power - 1⟩ : Decimal).value := by
      unfold point at before
      exact (larger_exponent decimal.coefficient (by omega)).trans (same_grid.mpr (by omega))
    have less := rounded_mono last
    omega

private theorem below_millionth :
    (⟨9, -6 - 1⟩ : Decimal).rounded < (⟨1, -6⟩ : Decimal).rounded := by
  decide +kernel

private theorem below_sextillion :
    (⟨9, 21 - 1⟩ : Decimal).rounded < (⟨1, 21⟩ : Decimal).rounded := by
  decide +kernel

/-- Whether a number is written in full can be told from the shortest digits. -/
theorem written_in_full_iff (filled : magnitude ≠ 0) (fewest : Fewest magnitude decimal) :
    millionth ≤ magnitude ∧ magnitude < sextillion ↔ -6 < point decimal ∧ point decimal ≤ 21 := by
  have millionth_iff := lt_power_iff filled fewest below_millionth
  have sextillion_iff := lt_power_iff filled fewest below_sextillion
  rw [← Nat.not_lt]
  exact and_congr ((not_congr millionth_iff).trans Int.not_le) sextillion_iff

private theorem sign_in_front (negative : Bool) (body : List Char) :
    (if negative then '-' :: body else body) = (if negative then ['-'] else []) ++ body := by
  cases negative <;> rfl

/-- If the digits tell when the notation changes, they are laid out by the standard. -/
private theorem finite_layout {x : Binary64}
    (plain : millionth ≤ x.magnitude ∧ x.magnitude < sextillion ↔
      -6 < point (shortest .away x.magnitude) ∧ point (shortest .away x.magnitude) ≤ 21) :
    finiteText x = (if x.negative then ['-'] else []) ++
      standard (digits (shortest .away x.magnitude).coefficient)
        (point (shortest .away x.magnitude)) := by
  unfold finiteText shortestDigits
  rw [← layout_standard (digits_ne_nil _)]
  generalize shortest .away x.magnitude = decimal at plain ⊢
  have same : (digits decimal.coefficient).length + decimal.exponent = point decimal := rfl
  have test : (millionth ≤ x.magnitude && x.magnitude < sextillion : Bool) =
      decide (-6 < point decimal ∧ point decimal ≤ 21) := by
    rw [← Bool.decide_and]
    exact decide_eq_decide.mpr plain
  dsimp only
  rw [same, test]
  by_cases full : -6 < point decimal ∧ point decimal ≤ 21
  · rw [decide_eq_true full, if_pos full, if_pos rfl, sign_in_front]
  · rw [decide_eq_false full, if_neg full, if_neg Bool.false_ne_true, sign_in_front]

/-- Every finite number but zero has one shortest decimal, and its digits are laid out by
the standard, behind the sign. Whether the number lies between a millionth and `10 ^ 21`
is what the digits of this decimal tell, and those of any other that is as short. -/
theorem numerals_are_standard (x : Binary64) (finite : x.isFinite = true)
    (filled : x.isZero = false) :
    ∃ decimal : Decimal, Shortest x.magnitude decimal ∧
      (∀ other, Shortest x.magnitude other → other = decimal) ∧
      (∀ other, Fewest x.magnitude other →
        (millionth ≤ x.magnitude ∧ x.magnitude < sextillion ↔
          -6 < point other ∧ point other ≤ 21)) ∧
      text x = String.ofList ((if x.negative then ['-'] else []) ++
        standard (digits decimal.coefficient) (point decimal)) := by
  have finite' : x.magnitude < infiniteMagnitude := of_decide_eq_true finite
  have filled' : x.magnitude ≠ 0 := of_decide_eq_false filled
  have shortest := shortest_shortest finite' filled'
  refine ⟨_, shortest, fun other also => shortest_unique filled' also shortest,
    fun other => written_in_full_iff filled', ?_⟩
  have number : x.isNaN = false := decide_eq_false finite'.not_gt
  have bounded : x.isInfinite = false := decide_eq_false finite'.ne
  have plain := written_in_full_iff filled' shortest.toFewest
  rw [text, number, bounded, filled]
  simp only [Bool.false_eq_true, if_false]
  rw [finite_layout plain]

/-- The numeral of a negative number below a millionth has a point behind its first digit
and a negative power. -/
theorem small_numeral_is_standard :
    let x := ofBits 0xbe8421f5f40d8376
    x.isFinite = true ∧ x.isZero = false ∧ text x = "-1.5e-7" ∧
      ∃ decimal : Decimal, Shortest x.magnitude decimal ∧
        (∀ other, Shortest x.magnitude other → other = decimal) ∧
        (∀ other, Fewest x.magnitude other →
          (millionth ≤ x.magnitude ∧ x.magnitude < sextillion ↔
            -6 < point other ∧ point other ≤ 21)) ∧
        text x = String.ofList ((if x.negative then ['-'] else []) ++
          standard (digits decimal.coefficient) (point decimal)) := by
  have finite : (ofBits 0xbe8421f5f40d8376).isFinite = true := by decide +kernel
  have filled : (ofBits 0xbe8421f5f40d8376).isZero = false := by decide +kernel
  have shown : text (ofBits 0xbe8421f5f40d8376) = "-1.5e-7" := by decide +kernel
  exact ⟨finite, filled, shown, numerals_are_standard _ finite filled⟩

end ValueGrammar.StandardNumerals
