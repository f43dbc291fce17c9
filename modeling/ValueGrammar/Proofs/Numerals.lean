import ValueGrammar.Numeral
import ValueGrammar.Proofs.Digits

/-! The characters of numerals. A number is written with digits, a sign, a point
and a power of ten, or as one of three words. -/
namespace ValueGrammar.Numerals
open Text Digits Numeral

variable {shown : List Char}

/-- A character that numerals are written with. -/
def NumeralChar (c : Char) : Prop :=
  c.isDigit = true ∨
    c ∈ ['.', 'e', '+', '-', 'N', 'a', 'I', 'n', 'f', 'i', 't', 'y']

instance (c : Char) : Decidable (NumeralChar c) := inferInstanceAs (Decidable (_ ∨ _))

/-- Every character of the text is one of a numeral. -/
def NumeralText (text : List Char) : Prop := ∀ c ∈ text, NumeralChar c

instance (text : List Char) : Decidable (NumeralText text) :=
  List.decidableBAll NumeralChar text

theorem numeral_append {first second : List Char} :
    NumeralText (first ++ second) ↔ NumeralText first ∧ NumeralText second :=
  List.forall_mem_append

theorem numeral_cons {c : Char} {rest : List Char} :
    NumeralText (c :: rest) ↔ NumeralChar c ∧ NumeralText rest :=
  List.forall_mem_cons

private theorem numeral_zeros (n : Nat) : NumeralText (List.replicate n '0') := by
  intro c member
  rw [List.eq_of_mem_replicate member]
  decide

theorem numeral_digits (n : Nat) : NumeralText (digits n) := fun c member =>
  .inl (digits_decimal n c member)

theorem numeral_positional (numeral : NumeralText shown) (point : Int) :
    NumeralText (positional shown point) := by
  have zero : NumeralChar '0' := by decide
  have dot : NumeralChar '.' := by decide
  unfold positional
  split
  · exact numeral_append.mpr ⟨numeral_cons.mpr ⟨zero, numeral_cons.mpr
      ⟨dot, numeral_zeros _⟩⟩, numeral⟩
  · split
    · exact numeral_append.mpr ⟨numeral, numeral_zeros _⟩
    · rw [← List.take_append_drop point.toNat shown, numeral_append] at numeral
      exact numeral_append.mpr ⟨numeral.1, numeral_cons.mpr ⟨dot, numeral.2⟩⟩

theorem numeral_scientific (numeral : NumeralText shown) (power : Int) :
    NumeralText (scientific shown power) := by
  have dot : NumeralChar '.' := by decide
  have mark : NumeralChar 'e' := by decide
  have sign : NumeralChar (if power < 0 then '-' else '+') := by split <;> decide
  unfold scientific
  refine numeral_append.mpr ⟨?_, numeral_cons.mpr ⟨mark, numeral_cons.mpr
    ⟨sign, numeral_digits _⟩⟩⟩
  split
  · rw [numeral_cons] at numeral
    exact numeral_cons.mpr ⟨numeral.1, numeral_cons.mpr ⟨dot, numeral.2⟩⟩
  · exact numeral

theorem numeral_finite (x : Binary64) : NumeralText (finiteText x) := by
  have hyphen : NumeralChar '-' := by decide
  have shown : NumeralText (shortestDigits .away x.magnitude).1 := numeral_digits _
  unfold finiteText
  dsimp only
  split <;> split
  · exact numeral_cons.mpr ⟨hyphen, numeral_positional shown _⟩
  · exact numeral_cons.mpr ⟨hyphen, numeral_scientific shown _⟩
  · exact numeral_positional shown _
  · exact numeral_scientific shown _

/-- Every number is written with the characters of numerals alone. -/
theorem numeral_text (x : Binary64) : NumeralText (text x).toList := by
  unfold text
  split
  · decide
  · split
    · split <;> decide
    · split
      · decide
      · rw [String.toList_ofList]
        exact numeral_finite x

/-- A canonical numeral is the text of the number that it denotes. -/
theorem canonical_text {numeral : String} {x : Binary64}
    (canonical : canonical? numeral = some x) : text x = numeral := by
  unfold canonical? at canonical
  rw [Option.filter_eq_some_iff] at canonical
  simpa using canonical.2

end ValueGrammar.Numerals
