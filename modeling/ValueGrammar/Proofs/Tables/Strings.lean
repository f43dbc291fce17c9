import ValueGrammar.Json.Reader
import ValueGrammar.Proofs.Tables.Grammar

/-! Strings are checked one character at a time. What may still follow a place inside of
the quotes is told by the grammar. -/
namespace ValueGrammar.Tables
open Json Json.Reader
open Literal (Hex hexValue? shortEscape?)

variable {c : Char} {text rest literal : List Char} {n digit : Nat} {hex : Hex}
  {place : StringPlace}

/-! ### Codes -/

private theorem narrow_value : ∀ k < 128, ∀ n ∈ hexValue? (Char.ofNat k),
    lowerDigits[n]? = some (Char.ofNat k) ∨ upperDigits[n]? = some (Char.ofNat k) := by
  decide

private theorem listed_value : ∀ n < 16,
    (lowerDigits[n]?.all fun c => hexValue? c = some n ∧ c.utf8Size = 1) = true ∧
      (upperDigits[n]?.all fun c => hexValue? c = some n ∧ c.utf8Size = 1) = true := by
  decide

private theorem value_narrow (value : hexValue? c = some n) : c.toNat < 128 := by
  by_contra wide
  have beyond : ∀ d : Char, d.toNat < 128 → ¬ c ≤ d := by
    intro d small below
    have le : c.toNat ≤ d.toNat := below
    omega
  have no_digit : ¬ c.isDigit = true := by
    rw [Char.isDigit_iff_toNat]
    exact fun bounds => beyond '9' (by decide) bounds.2
  simp [hexValue?, no_digit, beyond 'f' (by decide), beyond 'F' (by decide)] at value

private theorem digit_value (known : HexDigit c n) : hexValue? c = some n ∧ c.utf8Size = 1 := by
  rcases known with lower | upper
  · have listed := (listed_value n (List.getElem?_eq_some_iff.mp lower).1).1
    rw [lower] at listed
    exact of_decide_eq_true listed
  · have listed := (listed_value n (List.getElem?_eq_some_iff.mp upper).1).2
    rw [upper] at listed
    exact of_decide_eq_true listed

/-- The digits and their values are those of the grammar. -/
theorem hex_value_iff : hexValue? c = some n ↔ HexDigit c n := by
  constructor
  · intro value
    have listed := narrow_value c.toNat (value_narrow value) n
    rw [Char.ofNat_toNat] at listed
    exact listed value
  · intro known
    exact (digit_value known).1

/-- The number of a code whose digits go on with this text, and what follows it. -/
def code? (hex : Hex) : List Char → Option (Nat × List Char)
  | [] => none
  | c :: rest =>
    if (hex.add c).isFull then
      if (hex.add c).sound then some ((hex.add c).value, rest) else none
    else code? (hex.add c) rest

private theorem add_digit (known : HexDigit c digit) (hex : Hex) :
    hex.add c = ⟨hex.bytes + 1, 16 * hex.value + digit, hex.sound⟩ := by
  obtain ⟨value, size⟩ := digit_value known
  simp [Hex.add, value, size]

/-- A character that is no digit is never made up for. -/
private theorem unsound_code (unsound : hex.sound = false) (text : List Char) :
    code? hex text = none := by
  induction text generalizing hex with
  | nil => rfl
  | cons c rest ih =>
    have stays : (hex.add c).sound = false := by simp [Hex.add, unsound]
    simp only [code?, stays, Bool.false_eq_true, if_false, ih stays, ite_self]

/-- What a code that goes on with this text starts with. -/
private theorem code_starts (found : code? hex text = some (n, rest)) :
    ∃ c digit others, text = c :: others ∧ HexDigit c digit := by
  cases text with
  | nil => cases found
  | cons c others =>
    cases value : hexValue? c with
    | some digit => exact ⟨c, digit, others, rfl, hex_value_iff.mp value⟩
    | none =>
      have unsound : (hex.add c).sound = false := by simp [Hex.add, value]
      simp [code?, unsound, unsound_code] at found

/-- A code that starts to be read is that of four digits. -/
theorem code_iff : code? {} text = some (n, rest) ↔ Code text n rest := by
  constructor
  · intro found
    obtain ⟨a, i, text, rfl, first⟩ := code_starts found
    simp only [code?, add_digit first, Hex.isFull] at found
    obtain ⟨b, j, text, rfl, second⟩ := code_starts found
    simp only [code?, add_digit second, Hex.isFull] at found
    obtain ⟨c, k, text, rfl, third⟩ := code_starts found
    simp only [code?, add_digit third, Hex.isFull] at found
    obtain ⟨d, l, text, rfl, fourth⟩ := code_starts found
    simp [code?, add_digit fourth, Hex.isFull] at found
    obtain ⟨rfl, rfl⟩ := found
    exact .digits first second third fourth
  · intro code
    cases code with
    | digits first second third fourth =>
      simp [code?, add_digit first, add_digit second, add_digit third, add_digit fourth,
        Hex.isFull]

theorem short_escape_iff {letter : Char} : shortEscape? letter = some c ↔ (letter, c) ∈ escapes := by
  constructor
  · intro known
    unfold shortEscape? at known
    split at known
    case h_9 => cases known
    all_goals
      cases known
      decide
  · intro known
    simp only [escapes, List.mem_cons, Prod.mk.injEq, List.not_mem_nil, or_false] at known
    rcases known with ⟨rfl, rfl⟩ | ⟨rfl, rfl⟩ | ⟨rfl, rfl⟩ | ⟨rfl, rfl⟩ | ⟨rfl, rfl⟩ | ⟨rfl, rfl⟩ |
      ⟨rfl, rfl⟩ | ⟨rfl, rfl⟩ <;> rfl

section

variable {ε σ : Type} {value : σ} {fault : ε} {P : σ → Prop}

theorem ok_iff : (∃ next, (.ok value : Except ε σ) = .ok next ∧ P next) ↔ P value := by
  simp

theorem error_iff : (∃ next, (.error fault : Except ε σ) = .ok next ∧ P next) ↔ False := by
  simp

theorem map_iff {τ : Type} {result : Except ε τ} (f : τ → σ) :
    (∃ next, result.map f = .ok next ∧ P next) ↔ ∃ next, result = .ok next ∧ P (f next) := by
  cases result <;> simp [Except.map]

end

/-! ### Places -/

/-- What is left between the quotes behind this place. -/
def Ends : StringPlace → List Char → Prop
  | .plain, literal => Body literal
  | .escaped, literal => Body ('\\' :: literal)
  | .code hex, literal => ∃ n rest, code? hex literal = some (n, rest) ∧ Body rest

private theorem body_plain (backslash : c ≠ '\\') (quote : c ≠ '"') :
    Body (c :: literal) ↔ ¬ c.toNat < 0x20 ∧ Body literal := by
  constructor
  · intro body
    cases body with
    | plain plain others => exact ⟨Nat.not_lt.mpr plain.printed, others⟩
    | short | code => contradiction
  · rintro ⟨printed, others⟩
    exact .plain ⟨Nat.not_lt.mp printed, quote, backslash⟩ others

private theorem body_short (other : c ≠ 'u') :
    Body ('\\' :: c :: literal) ↔ (shortEscape? c).isSome ∧ Body literal := by
  constructor
  · intro body
    cases body with
    | plain plain => exact absurd rfl plain.not_backslash
    | short known others => exact ⟨by rw [short_escape_iff.mpr known]; rfl, others⟩
    | code => contradiction
  · rintro ⟨known, others⟩
    obtain ⟨d, known⟩ := Option.isSome_iff_exists.mp known
    exact .short (short_escape_iff.mp known) others

private theorem body_code :
    Body ('\\' :: 'u' :: literal) ↔ ∃ n rest, Code literal n rest ∧ Body rest := by
  constructor
  · intro body
    cases body with
    | plain plain => exact absurd rfl plain.not_backslash
    | short known => cases short_escape_iff.mpr known
    | code digits others => exact ⟨_, _, digits, others⟩
  · rintro ⟨n, rest, digits, others⟩
    exact .code digits others

/-- A character of a string leads to the place behind which its rest is left. -/
theorem ends_cons (inside : place = .plain → c ≠ '"') :
    Ends place (c :: literal) ↔ ∃ next, place.step c = .ok next ∧ Ends next literal := by
  cases place with
  | plain =>
    rw [StringPlace.step]
    by_cases backslash : c = '\\'
    · subst backslash
      rw [if_pos rfl, ok_iff]
      exact Iff.rfl
    · rw [if_neg backslash, Ends, body_plain backslash (inside rfl)]
      by_cases control : c.toNat < 0x20
      · rw [if_pos control, error_iff]
        exact iff_of_false (fun both => both.1 control) id
      · rw [if_neg control, ok_iff]
        exact and_iff_right control
  | escaped =>
    rw [StringPlace.step]
    by_cases unicode : c = 'u'
    · subst unicode
      rw [if_pos rfl, ok_iff, Ends, body_code, Ends]
      simp only [code_iff]
    · rw [if_neg unicode, Ends, body_short unicode]
      by_cases known : (shortEscape? c).isSome = true
      · rw [if_pos known, ok_iff]
        exact and_iff_right known
      · rw [if_neg known, error_iff]
        exact iff_of_false (fun both => known both.1) id
  | code hex =>
    simp only [StringPlace.step, Ends, code?]
    cases full : (hex.add c).isFull with
    | false =>
      simp only [Bool.not_false, if_true, Bool.false_eq_true, if_false]
      rw [ok_iff]
    | true =>
      cases sound : (hex.add c).sound with
      | false => simp
      | true => simp

/-- Where the closing quote stands, and what follows it. -/
def Closed (place : StringPlace) (text rest : List Char) : Prop :=
  ∃ literal, text = literal ++ '"' :: rest ∧ Ends place literal

theorem ends_nil : Ends place [] ↔ place = .plain := by
  cases place with
  | plain => exact iff_of_true .none rfl
  | escaped =>
    refine iff_of_false ?_ nofun
    intro body
    cases body with
    | plain plain => exact plain.not_backslash rfl
  | code hex => exact iff_of_false nofun nofun

theorem closed_quote : Closed .plain ('"' :: text) rest ↔ rest = text := by
  constructor
  · rintro ⟨literal, whole, ends⟩
    cases literal with
    | nil =>
      cases whole
      rfl
    | cons c literal =>
      cases whole
      cases ends with
      | plain plain => exact absurd rfl plain.not_quote
  · rintro rfl
    exact ⟨[], rfl, .none⟩

theorem closed_cons (inside : place = .plain → c ≠ '"') :
    Closed place (c :: text) rest ↔ ∃ next, place.step c = .ok next ∧ Closed next text rest := by
  constructor
  · rintro ⟨literal, whole, ends⟩
    cases literal with
    | nil =>
      cases whole
      exact absurd rfl (inside (ends_nil.mp ends))
    | cons d literal =>
      cases whole
      obtain ⟨next, steps, ends⟩ := (ends_cons inside).mp ends
      exact ⟨next, steps, literal, rfl, ends⟩
  · rintro ⟨next, steps, literal, rfl, ends⟩
    exact ⟨c :: literal, rfl, (ends_cons inside).mpr ⟨next, steps, ends⟩⟩

end ValueGrammar.Tables
