import ValueGrammar.Proofs.CanonicalNumerals
import ValueGrammar.Proofs.Reading

/-! Numbers in JSON. A finite number is written so that JSON takes the text for a
number, without a zero in front and with a digit on each side of the point, and so
that it is read back from it, which tells it from all others. -/
namespace ValueGrammar.Fractions
open Text Digits Binary64 Numeral CanonicalNumerals Rounding Json.Reader Reading

variable {shown places : List Char} {point : Int} {part : Part} {x : Binary64}

theorem counting_filled (counting : Counting shown) : shown ≠ [] := by
  obtain ⟨c, rest, rfl, -⟩ := counting.starts
  exact List.cons_ne_nil c rest

theorem counting_append (counting : Counting shown) (decimal : Decimal places) :
    Counting (shown ++ places) := by
  refine ⟨decimal_append.mpr ⟨counting.decimal, decimal⟩, ?_⟩
  obtain ⟨c, rest, rfl, other⟩ := counting.starts
  exact ⟨c, rest ++ places, rfl, other⟩

theorem counting_take (counting : Counting shown) {count : Nat} (positive : 0 < count) :
    Counting (shown.take count) := by
  refine ⟨fun c member => counting.decimal c (List.mem_of_mem_take member), ?_⟩
  obtain ⟨c, rest, rfl, other⟩ := counting.starts
  obtain ⟨less, rfl⟩ := Nat.exists_eq_add_of_lt positive
  exact ⟨c, rest.take (0 + less), List.take_succ_cons, other⟩

/-- The first digit decides the part that a run of digits ends in. -/
private theorem digits_enter {before : Part}
    (enters : ∀ c, c.isDigit = true → before.next? c = some part)
    (stays : ∀ c, c.isDigit = true → part.next? c = some part) (filled : places ≠ [])
    (decimal : Decimal places) : lastPart? before places = some part := by
  obtain ⟨c, rest, rfl⟩ := List.exists_cons_of_ne_nil filled
  obtain ⟨digit, others⟩ := List.forall_mem_cons.mp decimal
  rw [lastPart?, enters c digit, Option.bind_some, digits_stay stays others]

private theorem fraction_stays (c : Char) (digit : c.isDigit = true) :
    Part.fraction.next? c = some .fraction := by
  simp [Part.next?, digit]

private theorem power_stays (c : Char) (digit : c.isDigit = true) :
    Part.power.next? c = some .power := by
  simp [Part.next?, digit]

/-- Behind a point there is at least one digit. -/
theorem places_fraction (filled : places ≠ []) (decimal : Decimal places) :
    lastPart? .point places = some .fraction := by
  apply digits_enter _ fraction_stays filled decimal
  intro c digit
  simp [Part.next?, digit]

/-- A whole part, a point and digits behind it. -/
theorem point_fraction (counting : Counting shown) (filled : places ≠ [])
    (decimal : Decimal places) : lastPart? .minus (shown ++ '.' :: places) = some .fraction := by
  rw [last_part_append, counting_whole counting, Option.bind_some]
  exact places_fraction filled decimal

/-- A power of ten, with its sign, behind a whole part or behind places. -/
private theorem mark_power (marks : part.next? 'e' = some .mark) (power : Int) :
    lastPart? part ('e' :: (if power < 0 then '-' else '+') :: digits power.natAbs) =
      some .power := by
  have signed : Part.mark.next? (if power < 0 then '-' else '+') = some .markSign := by
    split <;> rfl
  have entered : lastPart? .markSign (digits power.natAbs) = some .power := by
    apply digits_enter _ power_stays (digits_ne_nil _) (digits_decimal _)
    intro c digit
    simp [Part.next?, digit]
  rw [lastPart?, marks, Option.bind_some, lastPart?, signed, Option.bind_some, entered]

/-- Digits that are written in full with zeros behind them are a whole part. -/
theorem positional_whole (counting : Counting shown) (inside : shown.length ≤ point.toNat) :
    lastPart? .minus (positional shown point) = some .whole := by
  have filled := List.length_pos_iff.mpr (counting_filled counting)
  have above : ¬ point ≤ 0 := by omega
  rw [positional, if_neg above, if_pos inside]
  exact counting_whole (counting_append counting (decimal_zeros _))

/-- Digits that reach behind the point, with zeros in front of them if need be, end
in a fraction. -/
theorem positional_fraction (counting : Counting shown) (outside : ¬ shown.length ≤ point.toNat) :
    lastPart? .minus (positional shown point) = some .fraction := by
  unfold positional
  split
  · exact places_fraction (by simp [counting_filled counting])
      (decimal_append.mpr ⟨decimal_zeros _, counting.decimal⟩)
  · rename_i above
    apply point_fraction (counting_take counting (by omega))
    · rw [Ne, List.drop_eq_nil_iff]
      exact outside
    · intro c member
      exact counting.decimal c (List.mem_of_mem_drop member)

theorem scientific_power (counting : Counting shown) (power : Int) :
    lastPart? .minus (scientific shown power) = some .power := by
  obtain ⟨c, rest, rfl, other⟩ := counting.starts
  have first : Counting [c] := counting_take counting Nat.one_pos
  cases rest with
  | nil =>
    change lastPart? .minus ([c] ++ _) = _
    rw [last_part_append, counting_whole first, Option.bind_some]
    exact mark_power rfl power
  | cons second rest =>
    have places : Decimal (second :: rest) := (List.forall_mem_cons.mp counting.decimal).2
    have fraction := point_fraction first (List.cons_ne_nil second rest) places
    change lastPart? .minus (([c] ++ '.' :: second :: rest) ++ _) = _
    rw [last_part_append, fraction, Option.bind_some]
    exact mark_power rfl power

/-- The shortest digits of a number other than zero have no zero in front. -/
theorem shortest_counting (tie : Tie) (finite : x.isFinite = true) (filled : x.magnitude ≠ 0) :
    Counting (shortestDigits tie x.magnitude).1 := by
  apply digits_counting
  apply Nat.pos_of_ne_zero
  intro zero
  have back := shortest_reads_back tie (Nat.le_of_lt (of_decide_eq_true finite))
  rw [zero, nearestDecimal, if_pos rfl] at back
  exact filled back.symm

/-- Behind its sign a finite number is written as a JSON number that denotes its
magnitude. -/
theorem fraction_layout (finite : x.isFinite = true) :
    ∃ body, fractionalText x = String.ofList (if x.negative then '-' :: body else body) ∧
      magnitude? body = some x.magnitude ∧
      ∃ last, lastPart? .minus body = some last ∧ last.isEnd = true := by
  by_cases zero : x.isZero = true
  · have nothing : x.magnitude = 0 := of_decide_eq_true zero
    refine ⟨['0', '.', '0'], by simp [fractionalText, zero], ?_, .fraction, rfl, rfl⟩
    rw [nothing]
    decide
  · have counting := shortest_counting .even finite (fun nothing => zero (decide_eq_true nothing))
    have plain := layout_read .even finite true
    have marked := layout_read .even finite false
    unfold fractionalText
    generalize shortestDigits .even x.magnitude = digits at counting plain marked ⊢
    obtain ⟨shown, point⟩ := digits
    simp only [if_true, Bool.false_eq_true, if_false] at plain marked
    refine ⟨_, rfl, ?_⟩
    rw [if_neg zero]
    split
    · split
      · rename_i inside
        rw [positional_read (counting_filled counting) counting.decimal] at plain
        refine ⟨?_, .fraction, ?_, rfl⟩
        · rw [whole_point_read (counting_filled counting) counting.decimal inside, plain]
        · rw [last_part_append, positional_whole counting inside]
          rfl
      · rename_i outside
        exact ⟨plain, .fraction, positional_fraction counting outside, rfl⟩
    · exact ⟨marked, .power, scientific_power counting _, rfl⟩

/-- A finite number is read back from what JSON has for it. -/
theorem fraction_read (finite : x.isFinite = true) :
    Numeral.read? (fractionalText x) = some x := by
  obtain ⟨body, written, denotes, -⟩ := fraction_layout finite
  have signed := signed_read denotes x.negative
  rwa [of_magnitude, ← written] at signed

/-- What JSON has for a finite number is a number there. -/
theorem fraction_numeric (finite : x.isFinite = true) : Numeric (fractionalText x) := by
  obtain ⟨body, written, -, last, parts, ends⟩ := fraction_layout finite
  refine ⟨body, last, ?_, parts, ends⟩
  rw [written, String.toList_ofList]
  cases x.negative with
  | true => exact .inr rfl
  | false => exact .inl rfl

end ValueGrammar.Fractions
