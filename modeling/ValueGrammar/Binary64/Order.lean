import ValueGrammar.Binary64

/-! The order of doubles by their bit patterns, a total order that tells all of
them apart, the two zeros and the kinds of NaN too. -/
namespace ValueGrammar.Binary64

theorem magnitude_lt (x : Binary64) : x.magnitude < signWeight := by
  have := x.exponent.isLt
  have := x.fraction.isLt
  simp only [magnitude, exponentWeight, signWeight] at *
  omega

theorem magnitude_injective {x y : Binary64} (sign : x.negative = y.negative)
    (magnitude : x.magnitude = y.magnitude) : x = y := by
  obtain ⟨negative, ⟨exponent, _⟩, ⟨fraction, bound⟩⟩ := x
  obtain ⟨_, ⟨exponent', _⟩, ⟨fraction', bound'⟩⟩ := y
  simp only [Binary64.magnitude, exponentWeight] at sign magnitude
  replace bound : fraction < 0x10000000000000 := bound
  replace bound' : fraction' < 0x10000000000000 := bound'
  obtain rfl : exponent = exponent' := by omega
  obtain rfl : fraction = fraction' := by omega
  rw [sign]

/-- The sign is the highest bit of the pattern. -/
theorem le_pattern_iff (x : Binary64) : signWeight ≤ x.pattern ↔ x.negative = true := by
  have := x.magnitude_lt
  cases h : x.negative with
  | false => simp [pattern, h]; omega
  | true => simp [pattern, h]

theorem pattern_injective {x y : Binary64} (h : x.pattern = y.pattern) : x = y := by
  have sign : x.negative = y.negative := by
    rw [Bool.eq_iff_iff, ← le_pattern_iff, ← le_pattern_iff, h]
  exact magnitude_injective sign (by simpa [pattern, sign] using h)

theorem pattern_lt (x : Binary64) : x.pattern < UInt64.size := by
  have := x.magnitude_lt
  simp only [pattern, signWeight, UInt64.size] at *
  split <;> omega

/-- The word holds the whole pattern, so it tells the numbers apart. -/
theorem toBits_injective {x y : Binary64} (h : x.toBits = y.toBits) : x = y := by
  have same := congrArg UInt64.toNat h
  rw [toBits, toBits, UInt64.toNat_ofNat_of_lt' x.pattern_lt,
    UInt64.toNat_ofNat_of_lt' y.pattern_lt] at same
  exact pattern_injective same

/-- Negative numbers come after the others. -/
instance : Ord Binary64 := ⟨fun x y => compare x.pattern y.pattern⟩

theorem compare_eq (x y : Binary64) : compare x y = compare x.pattern y.pattern := rfl

instance : Std.TransOrd Binary64 where
  eq_swap := by simp only [compare_eq]; exact Std.OrientedCmp.eq_swap
  isLE_trans := by simp only [compare_eq]; exact Std.TransCmp.isLE_trans

instance : Std.LawfulEqOrd Binary64 where
  compare_self := by simp only [compare_eq]; exact Std.ReflCmp.compare_self
  eq_of_compare h := pattern_injective (Nat.compare_eq_eq.mp h)

end ValueGrammar.Binary64
