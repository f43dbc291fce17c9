import ValueGrammar.Json.Reader
import ValueGrammar.Proofs.Quoting

/-! The escaped form of a text: it stands for the text that it was made of, and
it is whole in the sense that a string does not end inside of it. -/
namespace ValueGrammar.Literals
open Json Json.Literal Json.Reader Text Quoting

variable {c : Char} {decoded rest : List Char}

/-- The place in a string behind these characters, if none of them is at fault
or closes the string. -/
def behind? (place : StringPlace) : List Char → Option StringPlace
  | [] => some place
  | c :: rest =>
    match place, c with
    | .plain, '"' => none
    | _, _ =>
      match place.step c with
      | .ok next => behind? next rest
      | .error _ => none

/-- What stands between the quotes of one string. -/
def Whole (literal : String) : Prop := behind? .plain literal.toList = some .plain

private theorem hex_digit_size : ∀ n < 16, (hexDigit n).utf8Size = 1 := by decide

/-- One more hexadecimal digit. -/
theorem add_hex_digit {n : Nat} (small : n < 16) (hex : Hex) :
    hex.add (hexDigit n) = ⟨hex.bytes + 1, 16 * hex.value + n, hex.sound⟩ := by
  simp [Hex.add, hex_digit_size n small, hex_digit_value n small]

private theorem nibble (n : Nat) : n % 16 < 16 := Nat.mod_lt n (by decide)

theorem code_behind (n : Nat) (rest : List Char) :
    behind? (.code {}) (fourDigits n ++ rest) = behind? .plain rest := by
  simp [fourDigits, behind?, StringPlace.step, add_hex_digit (nibble _), Hex.isFull]

/-- Four hexadecimal digits stand for the character that they were written for. -/
theorem code_run {n : Nat} (small : n < 0xd800) (decoded rest : List Char) :
    Literal.State.run? ⟨.code none {}, decoded⟩ (fourDigits n ++ rest) =
      Literal.State.run? ⟨.plain, Char.ofNat n :: decoded⟩ rest := by
  have value : 16 * (16 * (16 * (n / 4096 % 16) + n / 256 % 16) + n / 16 % 16) + n % 16 = n := by
    omega
  have first : isFirstSurrogate n = false := by
    simp only [isFirstSurrogate, Bool.and_eq_false_iff, decide_eq_false_iff_not]
    omega
  have second : isSecondSurrogate n = false := by
    simp only [isSecondSurrogate, Bool.and_eq_false_iff, decide_eq_false_iff_not]
    omega
  simp [fourDigits, Literal.State.run?, Literal.State.step, add_hex_digit (nibble _), Hex.isFull,
    Literal.State.addCode, value, first, second]

private theorem plain_behind (quote : c ≠ '"') (backslash : c ≠ '\\') (printed : ¬ c.toNat < 0x20) :
    behind? .plain (c :: rest) = behind? .plain rest := by
  have stays : StringPlace.step .plain c = .ok .plain := by
    simp [StringPlace.step, backslash, printed]
  rw [behind?.eq_def]
  simp only [stays]
  split
  · contradiction
  · rfl

private theorem plain_run (backslash : c ≠ '\\') (printed : ¬ c.toNat < 0x20) :
    Literal.State.run? ⟨.plain, decoded⟩ (c :: rest) =
      Literal.State.run? ⟨.plain, c :: decoded⟩ rest := by
  simp [Literal.State.run?, Literal.State.step, backslash, printed]

/-- An escaped character leaves a string as open as it was. -/
theorem char_behind (c : Char) (rest : List Char) :
    behind? .plain (escapeChar c ++ rest) = behind? .plain rest := by
  unfold escapeChar
  split
  case h_8 _ quote backslash back tab feed form carriage =>
    split
    · exact code_behind c.toNat rest
    · next printed => exact plain_behind quote backslash printed
  all_goals rfl

/-- An escaped character is read back. -/
theorem char_run (c : Char) (decoded rest : List Char) :
    Literal.State.run? ⟨.plain, decoded⟩ (escapeChar c ++ rest) =
      Literal.State.run? ⟨.plain, c :: decoded⟩ rest := by
  unfold escapeChar
  split
  case h_8 _ quote backslash back tab feed form carriage =>
    split
    · next control =>
      have read := code_run (show c.toNat < 0xd800 by omega) decoded rest
      rwa [Char.ofNat_toNat] at read
    · next printed => exact plain_run backslash printed
  all_goals rfl

theorem escape_list (text : String) : (escape text).toList = text.toList.flatMap escapeChar :=
  String.toList_ofList

/-- The escaped form of a text stays inside of its string. -/
theorem escape_whole (text : String) : Whole (escape text) := by
  have behind (chars : List Char) : behind? .plain (chars.flatMap escapeChar) = some .plain := by
    induction chars with
    | nil => rfl
    | cons c chars ih => rw [List.flatMap_cons, char_behind, ih]
  rw [Whole, escape_list]
  exact behind text.toList

/-- A text that needs no escapes stays inside of its string as it is. -/
theorem plain_whole {text : String} (plain : escape text = text) : Whole text := by
  have whole := escape_whole text
  rwa [plain] at whole

/-- The escaped form of a text stands for it. -/
theorem decode_escape (text : String) : decode? (escape text) = some text := by
  have run (chars decoded : List Char) :
      Literal.State.run? ⟨.plain, decoded⟩ (chars.flatMap escapeChar) =
        some ⟨.plain, chars.reverse ++ decoded⟩ := by
    induction chars generalizing decoded with
    | nil => rfl
    | cons c chars ih => rw [List.flatMap_cons, char_run, ih]; simp
  rw [decode?, escape_list, run]
  simp [Literal.State.text?]

/-- No two texts have the same escaped form. -/
theorem escape_injective {text other : String} (same : escape text = escape other) :
    text = other := by
  have read := decode_escape text
  rw [same, decode_escape] at read
  exact (Option.some.inj read).symm

end ValueGrammar.Literals
