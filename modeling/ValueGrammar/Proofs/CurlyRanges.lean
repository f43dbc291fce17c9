import Mathlib.Data.Nat.Digits.Defs
import ValueGrammar.Proofs.Mishaps.Texts
import ValueGrammar.Proofs.Multiplier

/-! What a curly range decodes to. Its bounds are decimal numbers of any length, and the
range is refused exactly if one of them does not fit 32 bits or if they are out of order. -/
namespace ValueGrammar.CurlyRanges
open Text Entity Multiplier Runs Rules Mishaps

variable {text inner first second : List Char} {low : Nat} {high : Option Nat} {min : UInt32}
  {max : Option UInt32}

/-- One digit or more. -/
structure Numeral (text : List Char) : Prop where
  filled : text ≠ []
  digits : ∀ c ∈ text, Decimal c

/-- The number that digits write, each of them at its place. -/
def decimal (text : List Char) : Nat :=
  Nat.ofDigits 10 (text.reverse.map fun c => c.toNat - '0'.toNat)

/-- What can be written between the braces, with the numbers that are its bounds. -/
inductive Written : List Char → Nat → Option Nat → Prop where
  | exactly {text : List Char} (count : Numeral text) :
    Written text (decimal text) (some (decimal text))
  | atLeast {text : List Char} (low : Numeral text) : Written (text ++ [',']) (decimal text) none
  | between {first second : List Char} (low : Numeral first) (high : Numeral second) :
    Written (first ++ ',' :: second) (decimal first) (some (decimal second))

/-- The text in its braces. -/
def braced (inner : List Char) : List Char := '\x7b' :: inner ++ ['\x7d']

/-- The bounds fit 32 bits and are in order. -/
structure Admitted (low : Nat) (high : Option Nat) : Prop where
  low_fits : low ≤ 4294967295
  high_fits : ∀ n ∈ high, n ≤ 4294967295
  ordered : ∀ n ∈ high, low ≤ n

/-- The text as a token. -/
def asToken (text : List Char) (span : Span) : Token := ⟨.curlyRange, String.ofList text, span⟩

/-- Where a text stands behind another one. -/
def behind (before text : List Char) : Span :=
  ⟨byteLength before, byteLength before + byteLength text⟩

/-- The text is read as this multiplier, from its token and out of any source. -/
structure Reads (text : List Char) (multiplier : Multiplier) : Prop where
  token : ∀ span, multiplierOf (asToken text span) = some multiplier
  stretch : ∀ before after : List Char,
    Descent.multiplierOf (before ++ (text ++ after)) ⟨.curlyRange, behind before text⟩ =
      .ok multiplier

/-- The text is told to be no range, out of any source and behind any term. -/
structure Refuses (text : List Char) : Prop where
  token : ∀ span, multiplierOf (asToken text span) = none
  stretch : ∀ before after : List Char,
    Descent.multiplierOf (before ++ (text ++ after)) ⟨.curlyRange, behind before text⟩ =
      .error (.refused ⟨.invalidRange (String.ofList text), behind before text⟩)
  reading : ∀ (reading : Reading) (span : Span), reading.call = none →
    reading.current.endsWithTerm = true →
      reading.step (asToken text span) = .error ⟨.invalidRange (String.ofList text), span⟩

/-! ### Bounds -/

/-- Reading digits from the first to the last gives each of them its place. -/
theorem value_eq (text : List Char) : digitsValue text = decimal text := by
  induction text using List.reverseRecOn with
  | nil => rfl
  | append_singleton text c ih =>
    have last : decimal (text ++ [c]) = c.toNat - 48 + 10 * decimal text := by
      simp [decimal, Nat.ofDigits_cons]
    rw [last, ← ih, Nat.add_comm]
    simp [digitsValue]

theorem numeral_iff : isDigits text = true ↔ Numeral text := by
  simp only [isDigits, Bool.and_eq_true, Bool.not_eq_true', List.isEmpty_eq_false_iff,
    List.all_eq_true, decimal_iff]
  constructor
  · rintro ⟨filled, digits⟩
    exact ⟨filled, digits⟩
  · rintro ⟨filled, digits⟩
    exact ⟨filled, digits⟩

theorem bound_fits (numeral : Numeral text) (fits : decimal text ≤ 4294967295) :
    ∃ n : UInt32, bound? text = some n ∧ n.toNat = decimal text := by
  have bounded : decimal text < UInt32.size := Nat.lt_succ_of_le fits
  refine ⟨UInt32.ofNat (decimal text), ?_, UInt32.toNat_ofNat_of_lt' bounded⟩
  rw [bound?, value_eq, numeral_iff.mpr numeral]
  simp [bounded]

theorem bound_exceeds (exceeds : ¬ decimal text ≤ 4294967295) : bound? text = none := by
  have beyond : ¬ decimal text < UInt32.size := fun bounded => exceeds (Nat.le_of_lt_succ bounded)
  rw [bound?, value_eq]
  simp [beyond]

/-! ### Shapes -/

theorem bounds_exactly (count : Numeral text) :
    ofBounds? text = (bound? text).map fun n => range n (some n) := by
  obtain ⟨taken, dropped⟩ := Grammar.digits_cut (numeral_iff.mpr count) stops_nil
  rw [List.append_nil] at taken dropped
  simp only [ofBounds?, taken, dropped]

theorem bounds_at_least (low : Numeral text) :
    ofBounds? (text ++ [',']) = (bound? text).map fun min => range min none := by
  have stops : Stops (· != ',') [','] := stops_cons rfl
  obtain ⟨taken, dropped⟩ := Grammar.digits_cut (numeral_iff.mpr low) stops
  simp only [ofBounds?, taken, dropped]

theorem bounds_between (low : Numeral first) (high : Numeral second) :
    ofBounds? (first ++ ',' :: second) =
      (bound? first).bind fun min => (bound? second).bind fun max =>
        if max < min then none else some (range min (some max)) := by
  have stops : Stops (· != ',') (',' :: second) := stops_cons rfl
  obtain ⟨taken, dropped⟩ := Grammar.digits_cut (numeral_iff.mpr low) stops
  obtain ⟨c, others, rfl⟩ := List.exists_cons_of_ne_nil high.filled
  simp only [ofBounds?, taken, dropped]
  cases bound? first <;> cases bound? (c :: others) <;> rfl

/-- Bounds that are admitted are those of the range. -/
theorem bounds_admitted (written : Written inner low high) (admitted : Admitted low high) :
    ∃ min max, ofBounds? inner = some (range min max) ∧ min.toNat = low ∧
      max.map UInt32.toNat = high := by
  cases written with
  | exactly count =>
    obtain ⟨n, found, value⟩ := bound_fits count admitted.low_fits
    refine ⟨n, some n, ?_, value, congrArg some value⟩
    rw [bounds_exactly count, found, Option.map_some]
  | atLeast count =>
    obtain ⟨min, found, value⟩ := bound_fits count admitted.low_fits
    refine ⟨min, none, ?_, value, rfl⟩
    rw [bounds_at_least count, found, Option.map_some]
  | between first second =>
    obtain ⟨min, found, value⟩ := bound_fits first admitted.low_fits
    obtain ⟨max, found', value'⟩ := bound_fits second (admitted.high_fits _ rfl)
    have ordered : ¬ max < min := by
      rw [UInt32.lt_iff_toNat_lt, value, value', Nat.not_lt]
      exact admitted.ordered _ rfl
    refine ⟨min, some max, ?_, value, congrArg some value'⟩
    rw [bounds_between first second, found, found']
    exact if_neg ordered

/-- Bounds that are not admitted are those of no range. -/
theorem bounds_refused (written : Written inner low high) (refused : ¬ Admitted low high) :
    ofBounds? inner = none := by
  cases written with
  | exactly count =>
    rw [bounds_exactly count, bound_exceeds, Option.map_none]
    intro fits
    exact refused ⟨fits, by simpa using fits, by simp⟩
  | atLeast count =>
    rw [bounds_at_least count, bound_exceeds, Option.map_none]
    intro fits
    exact refused ⟨fits, nofun, nofun⟩
  | @between first second low high =>
    rw [bounds_between low high]
    by_cases lowFits : decimal first ≤ 4294967295
    · obtain ⟨min, found, value⟩ := bound_fits low lowFits
      by_cases highFits : decimal second ≤ 4294967295
      · obtain ⟨max, found', value'⟩ := bound_fits high highFits
        have disordered : max < min := by
          rw [UInt32.lt_iff_toNat_lt, value, value', ← Nat.not_le]
          intro ordered
          exact refused ⟨lowFits, by simpa using highFits, by simpa using ordered⟩
        rw [found, found']
        exact if_pos disordered
      · rw [found, bound_exceeds highFits, Option.bind_some, Option.bind_none]
    · rw [bound_exceeds lowFits, Option.bind_none]

/-! ### Tokens -/

private theorem multiplier_inside (inner : List Char) (span : Span) :
    multiplierOf (asToken (braced inner) span) = ofBounds? inner := by
  simp [multiplierOf, asToken, braced, ofRange?]

private theorem written_accepted (written : Written inner low high) :
    Accepts .curlyRange (braced inner) := by
  cases written with
  | exactly count => exact .count count.filled count.digits
  | atLeast count =>
    rw [braced, ← List.cons_append]
    exact .bounds count.filled count.digits nofun
  | between low high =>
    rw [braced, ← List.cons_append]
    exact .bounds low.filled low.digits high.digits

private theorem written_lexed (written : Written inner low high) (before after : List Char) :
    Lexed (before ++ (braced inner ++ after))
      (asToken (braced inner) (behind before (braced inner))) where
  cut := by
    rw [asToken, String.toList_ofList]
    exact slice_between before (braced inner) after
  accepts := by
    intro _
    rw [asToken, String.toList_ofList]
    exact written_accepted written

/-- What the token gives is also what the stretch of a source gives. -/
private theorem multiplier_stretch (written : Written inner low high) (before after : List Char) :
    Descent.multiplierOf (before ++ (braced inner ++ after))
        ⟨.curlyRange, behind before (braced inner)⟩ =
      match ofBounds? inner with
      | some multiplier => .ok multiplier
      | none => .error (.refused
        ⟨.invalidRange (String.ofList (braced inner)), behind before (braced inner)⟩) := by
  have read := multiplier_read (written_lexed written before after) rfl
  rw [multiplier_inside] at read
  exact read

theorem written_reads {multiplier : Multiplier} (written : Written inner low high)
    (found : ofBounds? inner = some multiplier) : Reads (braced inner) multiplier where
  token := by
    intro span
    rw [multiplier_inside, found]
  stretch := by
    intro before after
    rw [multiplier_stretch written, found]

theorem written_refuses (written : Written inner low high) (none : ofBounds? inner = none) :
    Refuses (braced inner) where
  token := by
    intro span
    rw [multiplier_inside, none]
  stretch := by
    intro before after
    rw [multiplier_stretch written, none]
  reading := by
    intro reading span outside ends
    have refused := multiplier_inside inner span
    rw [none] at refused
    rw [Reading.step, outside]
    change reading.readMultiplier (asToken (braced inner) span) = _
    rw [Reading.readMultiplier, if_pos ends, refused]
    rfl

/-! ### Written forms -/

theorem numeral_bound (n : UInt32) : Numeral (boundText n) :=
  numeral_iff.mp (Digits.is_digits n.toNat)

theorem decimal_bound (n : UInt32) : decimal (boundText n) = n.toNat := by
  rw [← value_eq]
  exact Digits.digits_value n.toNat

/-- A range is written as its bounds are, and equal bounds as one. -/
theorem text_written (min : UInt32) (max : Option UInt32) :
    ∃ inner, (range min max).text.toList = braced inner ∧
      Written inner min.toNat (max.map UInt32.toNat) := by
  rw [← decimal_bound min]
  cases max with
  | none =>
    refine ⟨_, ?_, .atLeast (numeral_bound min)⟩
    simp [Multiplier.text, braced]
  | some max =>
    rw [Option.map_some, ← decimal_bound max]
    by_cases same : min = max
    · subst same
      refine ⟨_, ?_, .exactly (numeral_bound min)⟩
      simp [Multiplier.text, braced]
    · refine ⟨_, ?_, .between (numeral_bound min) (numeral_bound max)⟩
      simp [Multiplier.text, braced, same]

theorem in_order_admitted (ordered : InOrder (range min max)) :
    Admitted min.toNat (max.map UInt32.toNat) where
  low_fits := Nat.le_of_lt_succ min.toNat_lt
  high_fits := by
    intro n bound
    obtain ⟨max, -, rfl⟩ := Option.map_eq_some_iff.mp bound
    exact Nat.le_of_lt_succ max.toNat_lt
  ordered := by
    intro n bound
    obtain ⟨max, rfl, rfl⟩ := Option.map_eq_some_iff.mp bound
    exact ordered

/-- What the text of a curly range with these bounds comes to. -/
structure Decodes (text : List Char) (low : Nat) (high : Option Nat) : Prop where
  admitted : Admitted low high → ∃ min max, min.toNat = low ∧ max.map UInt32.toNat = high ∧
    Reads text (range min max)
  refused : ¬ Admitted low high → Refuses text

/-- Whatever digits its bounds are written with, a curly range is read as the numbers that
they are, or refused if these are not admitted. What is written for a range in order is
read as this range. -/
theorem curly_ranges_decode :
    (∀ inner low high, Written inner low high → Decodes (braced inner) low high) ∧
      ∀ min max, InOrder (range min max) → Reads (range min max).text.toList (range min max) := by
  have decodes : ∀ inner low high, Written inner low high → Decodes (braced inner) low high := by
    intro inner low high written
    constructor
    · intro admitted
      obtain ⟨min, max, found, lowEq, highEq⟩ := bounds_admitted written admitted
      exact ⟨min, max, lowEq, highEq, written_reads written found⟩
    · intro refused
      exact written_refuses written (bounds_refused written refused)
  refine ⟨decodes, ?_⟩
  intro min max ordered
  obtain ⟨inner, whole, written⟩ := text_written min max
  have admitted := in_order_admitted ordered
  obtain ⟨min', max', same, same', reads⟩ := (decodes _ _ _ written).admitted admitted
  rw [whole]
  cases UInt32.toNat_inj.mp same
  cases Option.map_injective (fun _ _ => UInt32.toNat_inj.mp) same'
  exact reads

/-- Zeros in front count for nothing, and a bound of ten digits can be too large. -/
theorem padded_bounds_decode :
    Written ['0', '0', '7', ',', '1', '2'] 7 (some 12) ∧ Admitted 7 (some 12) ∧
      Reads (braced ['0', '0', '7', ',', '1', '2']) (range 7 (some 12)) ∧
      Written ['4', '2', '9', '4', '9', '6', '7', '2', '9', '6', ','] 4294967296 none ∧
      ¬ Admitted 4294967296 none ∧
      Refuses (braced ['4', '2', '9', '4', '9', '6', '7', '2', '9', '6', ',']) ∧
      InOrder (range 3 (some 3)) ∧ Reads (range 3 (some 3)).text.toList (range 3 (some 3)) := by
  obtain ⟨decodes, repeats⟩ := curly_ranges_decode
  have seven : Numeral ['0', '0', '7'] := numeral_iff.mp rfl
  have twelve : Numeral ['1', '2'] := numeral_iff.mp rfl
  have ten : Numeral ['4', '2', '9', '4', '9', '6', '7', '2', '9', '6'] := numeral_iff.mp rfl
  have padded : Written ['0', '0', '7', ',', '1', '2'] 7 (some 12) := .between seven twelve
  have large : Written ['4', '2', '9', '4', '9', '6', '7', '2', '9', '6', ','] 4294967296 none :=
    .atLeast ten
  have admitted : Admitted 7 (some 12) := ⟨by decide, by simp, by simp⟩
  have exceeds : ¬ Admitted 4294967296 none := fun admitted => absurd admitted.low_fits (by decide)
  have ordered : InOrder (range 3 (some 3)) := UInt32.le_refl 3
  obtain ⟨min, max, low, high, reads⟩ := (decodes _ _ _ padded).admitted admitted
  refine ⟨padded, admitted, ?_, large, exceeds, (decodes _ _ _ large).refused exceeds, ordered,
    repeats 3 (some 3) ordered⟩
  obtain ⟨last, rfl, value⟩ := Option.map_eq_some_iff.mp high
  have first : min = 7 := UInt32.toNat_inj.mp low
  have second : last = 12 := UInt32.toNat_inj.mp value
  rw [first, second] at reads
  exact reads

end ValueGrammar.CurlyRanges
