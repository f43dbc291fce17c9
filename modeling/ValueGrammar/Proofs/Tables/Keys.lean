import ValueGrammar.Proofs.Tables.Strings

/-! Keys are decoded one character at a time. What may still follow a place in a key,
and what it stands for, is told by the grammar. -/
namespace ValueGrammar.Tables
open Json
open Literal (Hex State shortEscape? isFirstSurrogate isSecondSurrogate)

variable {c : Char} {text rest literal spelled key : List Char} {n first : Nat} {hex : Hex}
  {state : State}

/-- The second code of a pair and what follows it. -/
def Second (first : Nat) (n : Nat) (rest spelled : List Char) : Prop :=
  IsSecond n ∧ ∃ others, Spells rest others ∧ spelled = paired first n :: others

/-- The first code of a pair, or the code of a character, and what follows it. -/
def First (n : Nat) (rest spelled : List Char) : Prop :=
  (¬ IsFirst n ∧ ¬ IsSecond n ∧ ∃ others, Spells rest others ∧ spelled = Char.ofNat n :: others) ∨
    (IsFirst n ∧ ∃ text m after, rest = '\\' :: 'u' :: text ∧ Code text m after ∧
      Second n m after spelled)

/-- The next code, given the first code of its pair if there is one. -/
def Numbered : Option Nat → Nat → List Char → List Char → Prop
  | none => First
  | some first => Second first

/-- What is left of a key behind this place, with the characters that it stands for. -/
def Decodes : Literal.Place → List Char → List Char → Prop
  | .plain, literal, spelled => Spells literal spelled
  | .escaped, literal, spelled => Spells ('\\' :: literal) spelled
  | .code first hex, literal, spelled =>
    ∃ n rest, code? hex literal = some (n, rest) ∧ Numbered first n rest spelled
  | .paired first, literal, spelled =>
    ∃ text n rest, literal = '\\' :: 'u' :: text ∧ Code text n rest ∧ Second first n rest spelled
  | .pairedEscape first, literal, spelled =>
    ∃ text n rest, literal = 'u' :: text ∧ Code text n rest ∧ Second first n rest spelled

/-- The key that is read if the rest of it is this. -/
def Completed (state : State) (literal key : List Char) : Prop :=
  ∃ spelled, Decodes state.place literal spelled ∧ key = state.decoded.reverse ++ spelled

private theorem spells_plain (backslash : c ≠ '\\') (quote : c ≠ '"') :
    Spells (c :: literal) spelled ↔
      ¬ c.toNat < 0x20 ∧ ∃ others, Spells literal others ∧ spelled = c :: others := by
  constructor
  · intro spells
    cases spells with
    | plain plain others => exact ⟨Nat.not_lt.mpr plain.printed, _, others, rfl⟩
    | short | code | pair => contradiction
  · rintro ⟨printed, others, spells, rfl⟩
    exact .plain ⟨Nat.not_lt.mp printed, quote, backslash⟩ spells

private theorem spells_short (other : c ≠ 'u') :
    Spells ('\\' :: c :: literal) spelled ↔
      ∃ d, shortEscape? c = some d ∧ ∃ others, Spells literal others ∧ spelled = d :: others := by
  constructor
  · intro spells
    cases spells with
    | plain plain => exact absurd rfl plain.not_backslash
    | short known others => exact ⟨_, short_escape_iff.mpr known, _, others, rfl⟩
    | code | pair => contradiction
  · rintro ⟨d, known, others, spells, rfl⟩
    exact .short (short_escape_iff.mp known) spells

private theorem spells_code :
    Spells ('\\' :: 'u' :: literal) spelled ↔ ∃ n rest, Code literal n rest ∧ First n rest spelled := by
  constructor
  · intro spells
    cases spells with
    | plain plain => exact absurd rfl plain.not_backslash
    | short known => cases short_escape_iff.mpr known
    | code digits single others =>
      exact ⟨_, _, digits, .inl ⟨single.1, single.2, _, others, rfl⟩⟩
    | pair digits first digits' second others =>
      exact ⟨_, _, digits, .inr ⟨first, _, _, _, rfl, digits', second, _, others, rfl⟩⟩
  · rintro ⟨n, rest, digits, ⟨first, second, others, spells, rfl⟩ |
      ⟨first, text, m, after, rfl, digits', second, others, spells, rfl⟩⟩
    · exact .code digits ⟨first, second⟩ spells
    · exact .pair digits first digits' second spells

private theorem is_first_iff : isFirstSurrogate n = true ↔ IsFirst n := by
  simp [isFirstSurrogate, IsFirst]

private theorem is_second_iff : isSecondSurrogate n = true ↔ IsSecond n := by
  simp [isSecondSurrogate, IsSecond]

private theorem surrogate_apart (first : IsFirst n) : ¬ IsSecond n := by
  unfold IsFirst at first
  unfold IsSecond
  omega

/-- One more character of a key is put behind those that were read. -/
private theorem completed_push (decoded : List Char) (d : Char) :
    Completed ⟨.plain, d :: decoded⟩ literal key ↔
      ∃ spelled, (∃ others, Spells literal others ∧ spelled = d :: others) ∧
        key = decoded.reverse ++ spelled := by
  simp [Completed, Decodes]

private theorem plain_cons (decoded : List Char) (quote : c ≠ '"') :
    Completed ⟨.plain, decoded⟩ (c :: literal) key ↔
      ∃ next, State.step ⟨.plain, decoded⟩ c = .ok next ∧ Completed next literal key := by
  simp only [State.step]
  by_cases backslash : c = '\\'
  · subst backslash
    rw [if_pos rfl, ok_iff]
    exact Iff.rfl
  · rw [if_neg backslash]
    simp only [Completed, Decodes, spells_plain backslash quote]
    by_cases control : c.toNat < 0x20
    · rw [if_pos control, error_iff]
      simp [control]
    · rw [if_neg control, ok_iff]
      simp [control]

private theorem escaped_cons (decoded : List Char) :
    Completed ⟨.escaped, decoded⟩ (c :: literal) key ↔
      ∃ next, State.step ⟨.escaped, decoded⟩ c = .ok next ∧ Completed next literal key := by
  simp only [State.step]
  by_cases unicode : c = 'u'
  · subst unicode
    rw [if_pos rfl, ok_iff]
    simp only [Completed, Decodes, spells_code, code_iff, Numbered]
  · rw [if_neg unicode]
    simp only [Completed, Decodes, spells_short unicode]
    cases known : shortEscape? c with
    | some d =>
      simp only
      rw [ok_iff]
      simp
    | none =>
      simp only
      rw [error_iff]
      simp

/-- The number of a code leads to a character, or to the other code of its pair. -/
private theorem code_added (state : State) (first : Option Nat) :
    (∃ spelled, Numbered first n rest spelled ∧ key = state.decoded.reverse ++ spelled) ↔
      ∃ next, state.addCode first n = .ok next ∧ Completed next rest key := by
  cases first with
  | none =>
    simp only [State.addCode, Numbered, First]
    by_cases second : IsSecond n
    · have single : ¬ IsFirst n := fun first => surrogate_apart first second
      rw [if_pos (is_second_iff.mpr second), error_iff]
      simp [single, second]
    · rw [if_neg (mt is_second_iff.mp second)]
      by_cases first : IsFirst n
      · rw [if_pos (is_first_iff.mpr first), ok_iff]
        simp only [Completed, Decodes, first, not_true_eq_false, false_and, true_and, false_or]
      · rw [if_neg (mt is_first_iff.mp first), ok_iff, completed_push]
        simp only [first, second, not_false_eq_true, true_and, false_and, or_false]
  | some first =>
    simp only [State.addCode, Numbered, Second]
    by_cases second : IsSecond n
    · rw [if_pos (is_second_iff.mpr second), ok_iff, completed_push]
      simp only [second, true_and]
      exact Iff.rfl
    · rw [if_neg (mt is_second_iff.mp second), error_iff]
      simp [second]

private theorem code_cons (first : Option Nat) (hex : Hex) (decoded : List Char) :
    Completed ⟨.code first hex, decoded⟩ (c :: literal) key ↔
      ∃ next, State.step ⟨.code first hex, decoded⟩ c = .ok next ∧ Completed next literal key := by
  have added : (∃ spelled, Numbered first (hex.add c).value literal spelled ∧
      key = decoded.reverse ++ spelled) ↔
        ∃ next, State.addCode ⟨.code first hex, decoded⟩ first (hex.add c).value = .ok next ∧
          Completed next literal key := code_added ⟨.code first hex, decoded⟩ first
  simp only [State.step]
  cases full : (hex.add c).isFull with
  | false =>
    simp only [Bool.not_false, if_true]
    rw [ok_iff]
    simp only [Completed, Decodes, code?, full, Bool.false_eq_true, if_false]
  | true =>
    cases sound : (hex.add c).sound with
    | false => simp [Completed, Decodes, code?, full, sound]
    | true =>
      have read : Completed ⟨.code first hex, decoded⟩ (c :: literal) key ↔
          ∃ spelled, Numbered first (hex.add c).value literal spelled ∧
            key = decoded.reverse ++ spelled := by
        simp [Completed, Decodes, code?, full, sound]
      rw [read, added]
      cases State.addCode ⟨.code first hex, decoded⟩ first (hex.add c).value with
      | ok next => simp
      | error cause => simp

private theorem paired_cons (first : Nat) (decoded : List Char) :
    Completed ⟨.paired first, decoded⟩ (c :: literal) key ↔
      ∃ next, State.step ⟨.paired first, decoded⟩ c = .ok next ∧ Completed next literal key := by
  simp only [State.step]
  by_cases backslash : c = '\\'
  · subst backslash
    rw [if_pos rfl, ok_iff]
    simp only [Completed, Decodes, List.cons.injEq, true_and]
  · rw [if_neg backslash, error_iff]
    simp [Completed, Decodes, backslash]

private theorem paired_escape_cons (first : Nat) (decoded : List Char) :
    Completed ⟨.pairedEscape first, decoded⟩ (c :: literal) key ↔
      ∃ next, State.step ⟨.pairedEscape first, decoded⟩ c = .ok next ∧
        Completed next literal key := by
  simp only [State.step]
  by_cases unicode : c = 'u'
  · subst unicode
    rw [if_pos rfl, ok_iff]
    simp only [Completed, Decodes, List.cons.injEq, true_and, code_iff, Numbered]
    simp
  · rw [if_neg unicode, error_iff]
    simp [Completed, Decodes, unicode]

theorem completed_cons (inside : state.place = .plain → c ≠ '"') :
    Completed state (c :: literal) key ↔
      ∃ next, state.step c = .ok next ∧ Completed next literal key := by
  obtain ⟨place, decoded⟩ := state
  cases place with
  | plain => exact plain_cons decoded (inside rfl)
  | escaped => exact escaped_cons decoded
  | code first hex => exact code_cons first hex decoded
  | paired first => exact paired_cons first decoded
  | pairedEscape first => exact paired_escape_cons first decoded

private theorem not_spelled {c : Char} (outside : ¬ Plain c) (alone : c = '\\' → literal = []) :
    ¬ Spells (c :: literal) spelled := by
  intro spells
  cases spells with
  | plain plain => exact outside plain
  | short | code | pair => cases alone rfl

/-- A key is over only where its characters stand for themselves. -/
theorem completed_nil :
    Completed state [] key ↔ state.place = .plain ∧ key = state.decoded.reverse := by
  obtain ⟨place, decoded⟩ := state
  cases place with
  | plain =>
    constructor
    · rintro ⟨spelled, spells, rfl⟩
      cases spells
      exact ⟨rfl, List.append_nil _⟩
    · rintro ⟨-, rfl⟩
      exact ⟨[], .none, (List.append_nil _).symm⟩
  | escaped =>
    refine iff_of_false ?_ nofun
    rintro ⟨spelled, spells, -⟩
    exact not_spelled (fun plain => plain.not_backslash rfl) (fun _ => rfl) spells
  | code first hex => simp [Completed, Decodes, code?]
  | paired first => simp [Completed, Decodes]
  | pairedEscape first => simp [Completed, Decodes]

/-- Where the closing quote of a key stands, the key, and what follows it. -/
def ClosedKey (state : State) (text : List Char) (name : String) (rest : List Char) : Prop :=
  ∃ literal, text = literal ++ '"' :: rest ∧ Completed state literal name.toList

theorem text_plain {name : String} :
    state.text? = some name ↔ state.place = .plain ∧ name.toList = state.decoded.reverse := by
  obtain ⟨place, decoded⟩ := state
  cases place <;> simp [State.text?, ← String.toList_inj, eq_comm]

/-- A quote closes the key. -/
theorem closed_key_quote {name found : String} (known : state.text? = some found) :
    ClosedKey state ('"' :: text) name rest ↔ name = found ∧ rest = text := by
  obtain ⟨plain, read⟩ := text_plain.mp known
  constructor
  · rintro ⟨literal, whole, completed⟩
    cases literal with
    | nil =>
      cases whole
      refine ⟨?_, rfl⟩
      rw [← String.toList_inj, read]
      exact (completed_nil.mp completed).2
    | cons c literal =>
      cases whole
      obtain ⟨spelled, spells, -⟩ := completed
      rw [plain] at spells
      exact absurd spells (not_spelled (fun plain => plain.not_quote rfl) nofun)
  · rintro ⟨rfl, rfl⟩
    exact ⟨[], rfl, completed_nil.mpr ⟨plain, read⟩⟩

/-- Any other character is one of the key. -/
theorem closed_key_cons {name : String} (inside : state.place = .plain → c ≠ '"') :
    ClosedKey state (c :: text) name rest ↔
      ∃ next, state.step c = .ok next ∧ ClosedKey next text name rest := by
  constructor
  · rintro ⟨literal, whole, completed⟩
    cases literal with
    | nil =>
      cases whole
      exact absurd rfl (inside (completed_nil.mp completed).1)
    | cons d literal =>
      cases whole
      obtain ⟨next, steps, completed⟩ := (completed_cons inside).mp completed
      exact ⟨next, steps, literal, rfl, completed⟩
  · rintro ⟨next, steps, literal, rfl, completed⟩
    exact ⟨c :: literal, rfl, (completed_cons inside).mpr ⟨next, steps, completed⟩⟩

/-- A key that is read from its start is what the grammar spells. -/
theorem closed_key_start {name : String} :
    ClosedKey {} text name rest ↔
      ∃ literal, text = literal ++ '"' :: rest ∧ Spells literal name.toList := by
  simp [ClosedKey, Completed, Decodes]

/-- What stands for characters can stand between quotes. -/
theorem spells_body (spells : Spells literal spelled) : Body literal := by
  induction spells with
  | none => exact .none
  | plain plain others ih => exact .plain plain ih
  | short known others ih => exact .short known ih
  | code digits single others ih => exact .code digits ih
  | pair digits first digits' second others ih => exact .code digits (.code digits' ih)

end ValueGrammar.Tables
