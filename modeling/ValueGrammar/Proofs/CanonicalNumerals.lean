import ValueGrammar.Proofs.Printing
import ValueGrammar.Proofs.Rounding
import ValueGrammar.Proofs.Runs

/-! Canonical numerals are read back. However the shortest digits of a number are
laid out, with zeros, a point or a power of ten, they denote the decimal that
they were taken from, which rounds to the number. So a keyword stands for a
number exactly if it is the numeral of some number, and for no other number. -/
namespace ValueGrammar.CanonicalNumerals
open Text Digits Binary64 Numeral Numerals Rounding Runs Typing

variable {whole places tail shown : List Char} {c : Char} {x y : Binary64} {value other : String}
  {point power : Int} {magnitude : Nat}

/-- All of the characters are digits. -/
def Decimal (text : List Char) : Prop := ∀ c ∈ text, c.isDigit = true

theorem decimal_append {front back : List Char} :
    Decimal (front ++ back) ↔ Decimal front ∧ Decimal back :=
  List.forall_mem_append

theorem decimal_zeros (count : Nat) : Decimal (List.replicate count '0') := by
  intro c member
  rw [List.eq_of_mem_replicate member]
  decide

/-- Zeros in front count for nothing. -/
theorem value_behind_zeros (count : Nat) (text : List Char) :
    digitsValue (List.replicate count '0' ++ text) = digitsValue text := by
  induction count with
  | zero => rfl
  | succ count ih => exact ih

/-- Every zero at the end multiplies by ten. -/
theorem value_before_zeros (text : List Char) (count : Nat) :
    digitsValue (text ++ List.replicate count '0') = digitsValue text * Nat.pow 10 count := by
  induction count with
  | zero => simp
  | succ count ih =>
    have last : digitsValue (text ++ List.replicate count '0' ++ ['0']) =
        10 * digitsValue (text ++ List.replicate count '0') := by
      simp [digitsValue]
    rw [List.replicate_succ', ← List.append_assoc, last, ih]
    simp only [Nat.pow_eq, Nat.pow_succ]
    rw [Nat.mul_comm, Nat.mul_assoc]

/-- What stands behind digits does not go on with a digit, nor with a point. -/
def Ends (tail : List Char) : Prop := Stops Char.isDigit tail ∧ tail.head? ≠ some '.'

/-- Digits alone, with what stands behind them. -/
theorem whole_read (filled : whole ≠ []) (decimal : Decimal whole) (ends : Ends tail) :
    magnitude? (whole ++ tail) =
      (power? tail).map fun power => nearestDecimal (digitsValue whole) power := by
  unfold magnitude?
  rw [run_taken decimal ends.1, run_dropped decimal ends.1]
  dsimp only
  split
  · exact absurd rfl ends.2
  · simp [filled]

theorem places_read (filled : whole ≠ []) (decimal : Decimal whole) (decimal' : Decimal places)
    (stops : Stops Char.isDigit tail) :
    magnitude? (whole ++ '.' :: (places ++ tail)) =
      (power? tail).map fun power =>
        nearestDecimal (digitsValue (whole ++ places)) (power - places.length) := by
  have point : Stops Char.isDigit ('.' :: (places ++ tail)) := stops_cons rfl
  unfold magnitude?
  rw [run_taken decimal point, run_dropped decimal point]
  simp only [run_taken decimal' stops, run_dropped decimal' stops]
  simp [filled]

private theorem power_none : power? [] = some 0 := rfl

private theorem ends_nil : Ends [] := ⟨stops_nil, by simp⟩

/-- A power of ten that is written with its sign is read back. -/
theorem power_read (power : Int) :
    power? ('e' :: (if power < 0 then '-' else '+') :: digits power.natAbs) = some power := by
  have decimal := is_digits power.natAbs
  have value := digits_value power.natAbs
  by_cases negative : power < 0
  · simp only [power?, takeSign, negative, decimal, value, Char.reduceEq, decide_true, decide_false,
      Bool.or_false, Bool.and_self, if_true, Option.some.injEq]
    omega
  · simp only [power?, takeSign, negative, decimal, value, Char.reduceEq, decide_true, decide_false,
      Bool.or_false, Bool.and_self, if_true, if_false, Bool.false_eq_true, Option.some.injEq]
    omega

private theorem power_ends (power : Int) :
    Ends ('e' :: (if power < 0 then '-' else '+') :: digits power.natAbs) :=
  ⟨stops_cons rfl, by simp⟩

/-- Digits that are written in full, with a point among them or with zeros up to
it, denote the decimal with that point. -/
theorem positional_read (filled : shown ≠ []) (decimal : Decimal shown) (point : Int) :
    magnitude? (positional shown point) =
      some (nearestDecimal (digitsValue shown) (point - shown.length)) := by
  unfold positional
  split
  · rename_i below
    have read := places_read (List.cons_ne_nil '0' []) (decimal_zeros 1)
      (decimal_append.mpr ⟨decimal_zeros (-point).toNat, decimal⟩) stops_nil
    have zeros : ['0'] ++ (List.replicate (-point).toNat '0' ++ shown) =
        List.replicate ((-point).toNat + 1) '0' ++ shown := by
      rw [List.replicate_succ, ← List.append_assoc]
      rfl
    have exponent : (0 : Int) - (List.replicate (-point).toNat '0' ++ shown).length =
        point - shown.length := by
      rw [List.length_append, List.length_replicate]
      omega
    rw [List.append_nil, power_none, Option.map_some, exponent, zeros, value_behind_zeros] at read
    exact read
  split
  · rename_i above inside
    have read := whole_read (by simp [filled])
      (decimal_append.mpr ⟨decimal, decimal_zeros (point.toNat - shown.length)⟩) ends_nil
    have exponent : (0 : Int) + (point.toNat - shown.length : Nat) = point - shown.length := by
      omega
    rw [List.append_nil, power_none, Option.map_some, value_before_zeros, nearest_decimal_shift,
      exponent] at read
    exact read
  · rename_i above outside
    have parts := List.take_append_drop point.toNat shown
    rw [← parts, decimal_append] at decimal
    have front : shown.take point.toNat ≠ [] := by
      rw [Ne, List.take_eq_nil_iff]
      rintro (none | none)
      · omega
      · exact filled none
    have read := places_read front decimal.1 decimal.2 stops_nil
    have exponent : (0 : Int) - (shown.drop point.toNat).length = point - shown.length := by
      rw [List.length_drop]
      omega
    rw [List.append_nil, power_none, Option.map_some, parts, exponent] at read
    exact read

/-- Digits in full that have no point among them denote the same with a zero behind
a point. -/
theorem whole_point_read (filled : shown ≠ []) (decimal : Decimal shown)
    (inside : shown.length ≤ point.toNat) :
    magnitude? (positional shown point ++ ['.', '0']) =
      some (nearestDecimal (digitsValue shown) (point - shown.length)) := by
  have some_digits := List.length_pos_iff.mpr filled
  have above : ¬ point ≤ 0 := by omega
  have read := places_read (by simp [filled])
    (decimal_append.mpr ⟨decimal, decimal_zeros (point.toNat - shown.length)⟩) (decimal_zeros 1)
    stops_nil
  have exponent : (0 : Int) - (List.replicate 1 '0').length + (1 : Nat) +
      (point.toNat - shown.length : Nat) = point - shown.length := by
    rw [List.length_replicate]
    omega
  rw [List.append_nil, power_none, Option.map_some, value_before_zeros, value_before_zeros,
    nearest_decimal_shift, nearest_decimal_shift, exponent] at read
  rw [positional, if_neg above, if_pos inside]
  exact read

/-- Digits with a power of ten, and a point behind the first of several, denote
the decimal whose first digit stands for that power. -/
theorem scientific_read (filled : shown ≠ []) (decimal : Decimal shown) (power : Int) :
    magnitude? (scientific shown power) =
      some (nearestDecimal (digitsValue shown) (power + 1 - shown.length)) := by
  have tail := power_ends power
  obtain ⟨first, rest, rfl⟩ := List.exists_cons_of_ne_nil filled
  have parts : Decimal [first] ∧ Decimal rest := decimal_append.mp decimal
  cases rest with
  | nil =>
    have read := whole_read (List.cons_ne_nil first []) parts.1 tail
    have exponent : power + 1 - ([first].length : Nat) = power := by
      rw [List.length_singleton]
      omega
    rw [power_read, Option.map_some] at read
    rw [exponent]
    exact read
  | cons second rest =>
    have read := places_read (List.cons_ne_nil first []) parts.1 parts.2 tail.1
    have exponent : power + 1 - ((first :: second :: rest).length : Nat) =
        power - ((second :: rest).length : Nat) := by
      rw [List.length_cons (a := first)]
      omega
    rw [power_read, Option.map_some] at read
    rw [exponent]
    exact read

/-- The first character of what denotes a magnitude. -/
theorem magnitude_starts {text : List Char} (read : magnitude? text = some magnitude) :
    ∃ c rest, text = c :: rest ∧ (c.isDigit = true ∨ c = '.') := by
  cases text with
  | nil => cases read
  | cons c rest =>
    refine ⟨c, rest, rfl, ?_⟩
    by_contra other
    obtain ⟨digit, point⟩ := not_or.mp other
    unfold magnitude? at read
    rw [List.takeWhile_cons_of_neg digit, List.dropWhile_cons_of_neg digit] at read
    dsimp only at read
    split at read
    · rename_i same
      exact point (List.cons.inj same).1
    · cases read

/-- A digit has no other case. -/
private theorem digit_lower (digit : c.isDigit = true) : c.toLower = c := by
  simp only [Char.isDigit, Bool.and_eq_true, decide_eq_true_eq] at digit
  unfold Char.toLower
  split
  · rename_i upper
    have low := UInt32.le_trans upper.1 digit.2
    exact absurd low (by decide)
  · rfl

/-- What denotes a magnitude is none of the words, and has a sign only if one is
put in front. -/
theorem signed_read {text : List Char} (read : magnitude? text = some magnitude)
    (negative : Bool) :
    read? (String.ofList (if negative then '-' :: text else text)) =
      some (ofMagnitude negative magnitude) := by
  obtain ⟨c, rest, rfl, starts⟩ := magnitude_starts read
  have sign : takeSign (if negative then '-' :: c :: rest else c :: rest) =
      (negative, c :: rest) := by
    cases negative with
    | true => rfl
    | false =>
      simp only [Bool.false_eq_true, if_false]
      unfold takeSign
      split
      · rename_i same
        obtain ⟨rfl, -⟩ := List.cons.inj same
        exact absurd starts (by decide)
      · rename_i same
        obtain ⟨rfl, -⟩ := List.cons.inj same
        exact absurd starts (by decide)
      · rfl
  have lower : c.toLower ≠ 'i' ∧ c.toLower ≠ 'n' := by
    rcases starts with digit | rfl
    · rw [digit_lower digit]
      constructor <;> rintro rfl <;> cases digit
    · decide
  have word (first : Char) (others : List Char) (letter : c.toLower ≠ first) :
      List.map Char.toLower (c :: rest) ≠ first :: others := by
    intro same
    exact letter (List.cons.inj same).1
  unfold read?
  rw [String.toList_ofList, sign]
  dsimp only
  rw [read]
  refine (if_neg (not_or.mpr ⟨word _ _ lower.1, word _ _ lower.1⟩)).trans ?_
  exact if_neg (word _ _ lower.2)

/-- A magnitude and a sign make up the number. -/
theorem of_magnitude (x : Binary64) : ofMagnitude x.negative x.magnitude = x := by
  obtain ⟨negative, ⟨exponent, small⟩, ⟨fraction, bound⟩⟩ := x
  have whole : (exponent * exponentWeight + fraction) / exponentWeight % 2048 = exponent := by
    simp only [exponentWeight] at bound ⊢
    omega
  have rest : (exponent * exponentWeight + fraction) % exponentWeight = fraction := by
    simp only [exponentWeight] at bound ⊢
    omega
  simp only [ofMagnitude, magnitude, whole, rest]

/-- The magnitude of a finite number is read from its shortest digits, whichever
way they are laid out. -/
theorem layout_read (tie : Tie) (finite : x.isFinite = true) (plain : Bool) :
    let (shown, point) := shortestDigits tie x.magnitude
    magnitude? (if plain then positional shown point else scientific shown (point - 1)) =
      some x.magnitude := by
  have back := shortest_reads_back tie (Nat.le_of_lt (of_decide_eq_true finite))
  unfold shortestDigits
  generalize shortest tie x.magnitude = decimal at back ⊢
  have filled := digits_ne_nil decimal.coefficient
  have digital := digits_decimal decimal.coefficient
  cases plain with
  | true =>
    have exponent (length : Nat) (exponent : Int) : length + exponent - length = exponent := by
      omega
    simp only [if_true]
    rw [positional_read filled digital, digits_value, exponent, back]
  | false =>
    have exponent (length : Nat) (exponent : Int) :
        length + exponent - 1 + 1 - length = exponent := by
      omega
    simp only [Bool.false_eq_true, if_false]
    rw [scientific_read filled digital, digits_value, exponent, back]

/-- A number that is finite is read back from its digits. -/
theorem finite_read (finite : x.isFinite = true) :
    read? (String.ofList (finiteText x)) = some x := by
  have signed := signed_read
    (layout_read .away finite (millionth ≤ x.magnitude && x.magnitude < sextillion)) x.negative
  rw [of_magnitude] at signed
  exact signed

/-- The number that the numeral of a number denotes: zero has no sign there, and
every NaN is written alike. -/
def denoted (x : Binary64) : Binary64 :=
  if x.isNaN then .nan false else if x.isZero then .zero false else x

private theorem infinity_magnitude (negative : Bool) :
    (infinity negative).magnitude = infiniteMagnitude := by
  cases negative <;> decide

private theorem infinite_read (negative : Bool) :
    read? (if negative then "-Infinity" else "Infinity") = some (infinity negative) := by
  cases negative <;> decide

/-- The numeral of a number is read as the number that it denotes. -/
theorem text_read (x : Binary64) : read? (text x) = some (denoted x) := by
  unfold text denoted
  split
  · decide
  rename_i number
  split
  · rename_i infinite
    have whole : x = infinity x.negative := by
      apply magnitude_injective
      · rfl
      · rw [of_decide_eq_true infinite, infinity_magnitude]
    have filled : x.isZero = false := by
      rw [isZero, of_decide_eq_true infinite]
      rfl
    rw [infinite_read, ← whole]
    simp [filled]
  rename_i bounded
  split
  · decide
  · apply finite_read
    simp only [isNaN, isInfinite, isFinite, decide_eq_true_eq] at number bounded ⊢
    omega

/-- The numeral of a number is also that of the number that it denotes. -/
theorem denoted_text (x : Binary64) : text (denoted x) = text x := by
  unfold denoted
  split
  · rename_i none
    have written : text (nan false) = "NaN" := by decide
    rw [written, text, if_pos none]
  split
  · rename_i zero
    exact Printing.zeros_and_nans_alike (.inl ⟨by decide, zero⟩)
  · rfl

/-- A keyword is typed as a number if it is a canonical numeral of it. -/
theorem keyword_number_iff :
    keywordType value = .numericLiteral x ↔ canonical? value = some x := by
  unfold keywordType
  constructor
  · intro typed
    split at typed
    · rename_i canonical
      rw [canonical, Descriptor.numericLiteral.inj typed]
    · cases typed
  · intro canonical
    rw [canonical]

/-- The numeral of every number is canonical and denotes the number, but for the
sign of a zero and the kind of a NaN; and whatever is canonical is the numeral of
the number that it denotes. So the keywords that are typed as numbers are the
numerals of all numbers, and no two of them as the same number. -/
theorem numerals_of_numbers_are_canonical :
    (∀ x, canonical? (text x) = some (denoted x)) ∧
      read? "NaN" = some (.nan false) ∧
      (∀ numeral x, canonical? numeral = some x → text x = numeral) ∧
      (∀ value, (∃ x, keywordType value = .numericLiteral x) ↔ ∃ x, text x = value) ∧
      ∀ value other x, keywordType value = .numericLiteral x →
        keywordType other = .numericLiteral x → value = other := by
  have canonical (x : Binary64) : canonical? (text x) = some (denoted x) := by
    rw [canonical?, text_read, Option.filter_some, denoted_text]
    simp
  refine ⟨canonical, by decide, fun _ _ => canonical_text, fun value => ?_, ?_⟩
  · constructor
    · rintro ⟨x, typed⟩
      exact ⟨x, canonical_text (keyword_number_iff.mp typed)⟩
    · rintro ⟨x, rfl⟩
      exact ⟨denoted x, keyword_number_iff.mpr (canonical x)⟩
  · intro value other x typed typed'
    have written := canonical_text (keyword_number_iff.mp typed)
    rw [← written]
    exact canonical_text (keyword_number_iff.mp typed')

/-- The negative number nearest to zero, and the negative zero, which is written
like the other one. -/
theorem least_and_zero_are_canonical :
    ∃ least : Binary64, least = .ofBits 0x8000000000000001 ∧
      text least = "-5e-324" ∧ canonical? "-5e-324" = some least ∧
      text (.zero true) = "0" ∧ canonical? "0" = some (.zero false) := by
  obtain ⟨canonical, -⟩ := numerals_of_numbers_are_canonical
  have read {x y : Binary64} {numeral : String} (written : text x = numeral)
      (same : denoted x = y) : canonical? numeral = some y := by
    rw [← written, canonical, same]
  have least : text (.ofBits 0x8000000000000001) = "-5e-324" := by decide +kernel
  have zero : text (.zero true) = "0" := by decide
  exact ⟨_, rfl, least, read least (by decide), zero, read zero (by decide)⟩

/-- Not every text that reads as a number is its canonical numeral. -/
example : canonical? "-0" = none ∧ canonical? "00" = none ∧ canonical? "inf" = none := by
  decide +kernel

end ValueGrammar.CanonicalNumerals
