import ValueGrammar.Json.Literal
import ValueGrammar.Proofs.Runs

/-! Quoted text can be told apart from what follows it: the characters between
the quotes are read back one at a time, and the first quote that no backslash
escapes is the closing one. Nothing that is quoted breaks the line. -/
namespace ValueGrammar.Quoting
open Text Runs Json.Literal

variable {c d : Char} {text other after after' : List Char}

/-- The number that hexadecimal digits denote. -/
def hexNumber (digits : List Char) : Nat :=
  digits.foldl (fun value c => 16 * value + (hexValue? c).getD 0) 0

theorem hex_digit_value : ∀ n < 16, hexValue? (hexDigit n) = some n := by decide

/-- Every character that is written for a number is a hexadecimal digit. -/
theorem hex_digits_known (n : Nat) : ∀ c ∈ hexDigits n, (hexValue? c).isSome = true := by
  fun_induction hexDigits n with
  | case1 n small =>
    intro c member
    rw [List.mem_singleton.mp member, hex_digit_value n small]
    rfl
  | case2 n large ih =>
    intro c member
    rcases List.mem_append.mp member with front | last
    · exact ih c front
    · rw [List.mem_singleton.mp last, hex_digit_value _ (Nat.mod_lt n (by omega))]
      rfl

theorem hex_number_digits (n : Nat) : hexNumber (hexDigits n) = n := by
  fun_induction hexDigits n with
  | case1 n small => simp [hexNumber, hex_digit_value n small]
  | case2 n large ih =>
    have last := hex_digit_value (n % 16) (Nat.mod_lt n (by omega))
    have front : hexNumber (hexDigits (n / 16) ++ [hexDigit (n % 16)]) =
        16 * hexNumber (hexDigits (n / 16)) + (hexValue? (hexDigit (n % 16))).getD 0 := by
      simp [hexNumber]
    rw [front, ih, last, Option.getD_some]
    omega

/-- The first character of a text between quotes, and what follows it. -/
def firstQuoted : List Char → Option (Char × List Char)
  | [] => none
  | '\\' :: 'u' :: '\x7b' :: rest =>
    some (Char.ofNat (hexNumber (rest.takeWhile (· != '\x7d'))),
      (rest.dropWhile (· != '\x7d')).drop 1)
  | '\\' :: '0' :: rest => some ('\x00', rest)
  | '\\' :: 't' :: rest => some ('\t', rest)
  | '\\' :: 'r' :: rest => some ('\r', rest)
  | '\\' :: 'n' :: rest => some ('\n', rest)
  | '\\' :: c :: rest => some (c, rest)
  | c :: rest => some (c, rest)

private theorem first_plain (plain : c ≠ '\\') : firstQuoted (c :: after) = some (c, after) := by
  unfold firstQuoted
  split <;> simp_all

/-- A code point between braces is read back. -/
private theorem first_code (c : Char) (after : List Char) :
    firstQuoted ('\\' :: 'u' :: '\x7b' :: (hexDigits c.toNat ++ '\x7d' :: after)) =
      some (c, after) := by
  have inside : ∀ d ∈ hexDigits c.toNat, (d != '\x7d') = true := by
    intro d member
    rw [bne_iff_ne]
    rintro rfl
    cases hex_digits_known c.toNat _ member
  have stops : Stops (· != '\x7d') ('\x7d' :: after) := stops_cons rfl
  rw [firstQuoted, run_taken inside stops, run_dropped inside stops, hex_number_digits,
    Char.ofNat_toNat]
  rfl

/-- A quoted character is read back, whatever follows it. -/
theorem first_quoted (c : Char) (after : List Char) :
    firstQuoted (quoteChar c ++ after) = some (c, after) := by
  unfold quoteChar
  split
  case h_7 _ quote backslash nul tab feed line =>
    split
    · simpa using first_code c after
    · exact first_plain backslash
  all_goals rfl

/-- No character is quoted as text that starts with a quote. -/
theorem quote_char_head (c : Char) : (quoteChar c).head? ≠ some '"' := by
  unfold quoteChar
  split
  case h_7 _ quote backslash nul tab feed line =>
    split
    · simp
    · simpa using quote
  all_goals decide

theorem quote_char_ne_nil (c : Char) : quoteChar c ≠ [] := by
  intro empty
  have back := first_quoted c []
  rw [empty] at back
  cases back

private theorem closing_apart (c : Char) : quoteChar c ++ after ≠ '"' :: after' := by
  intro same
  cases quoted : quoteChar c with
  | nil => exact quote_char_ne_nil c quoted
  | cons d rest =>
    rw [quoted] at same
    cases same
    exact quote_char_head c (by rw [quoted]; rfl)

/-- What stands between quotes, and what follows the closing one, can be told
from the whole. -/
theorem quoted_apart (same : text.flatMap quoteChar ++ '"' :: after =
    other.flatMap quoteChar ++ '"' :: after') : text = other ∧ after = after' := by
  induction text generalizing other with
  | nil =>
    cases other with
    | nil => exact ⟨rfl, (List.cons.inj same).2⟩
    | cons d other =>
      rw [List.flatMap_cons, List.append_assoc] at same
      exact absurd same.symm (closing_apart d)
  | cons c text ih =>
    cases other with
    | nil =>
      rw [List.flatMap_cons, List.append_assoc] at same
      exact absurd same (closing_apart c)
    | cons d other =>
      rw [List.flatMap_cons, List.flatMap_cons, List.append_assoc, List.append_assoc] at same
      have read := congrArg firstQuoted same
      rw [first_quoted, first_quoted, Option.some.injEq, Prod.mk.injEq] at read
      obtain ⟨rfl, rest⟩ := read
      obtain ⟨rfl, behind⟩ := ih rest
      exact ⟨rfl, behind⟩

theorem quote_list (text : String) :
    (quote text).toList = '"' :: (text.toList.flatMap quoteChar ++ ['"']) := by
  simp [quote]

/-- Two texts that are quoted alike are the same. -/
theorem quote_injective {text other : String} (same : quote text = quote other) :
    text = other := by
  have chars := congrArg String.toList same
  rw [quote_list, quote_list, List.cons.injEq] at chars
  exact String.toList_injective (quoted_apart chars.2).1

/-- Line feeds are escaped. -/
theorem quote_one_line (text : String) : '\n' ∉ (quote text).toList := by
  have escaped : ∀ c, '\n' ∉ quoteChar c := by
    intro c
    unfold quoteChar
    split
    case h_7 _ quote backslash nul tab feed line =>
      split
      · have digits : '\n' ∉ hexDigits c.toNat := fun member => by
          cases hex_digits_known c.toNat _ member
        simpa using digits
      · simpa using Ne.symm line
    all_goals decide
  simp [quote_list, escaped]

end ValueGrammar.Quoting
