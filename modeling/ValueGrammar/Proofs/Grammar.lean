import ValueGrammar.Entity.OfTokens
import ValueGrammar.Proofs.Runs

/-! The grammar of value definitions over tokens. A derivation is a tree that
has the tokens of the definition as its leaves. The sequence that it denotes is
a function of the tree alone, whatever reads the tokens. -/
namespace ValueGrammar.Grammar
open Text Entity Runs

/-- Decimal digits of this value, with any number of leading zeros. -/
def Bound (text : List Char) (n : UInt32) : Prop :=
  isDigits text = true ∧ digitsValue text = n.toNat

/-- What stands between the braces of a curly range, and the range it means. -/
inductive Bounds : List Char → Multiplier → Prop where
  | exactly {text : List Char} {n : UInt32} (count : Bound text n) :
    Bounds text (.range n (some n))
  | atLeast {text : List Char} {min : UInt32} (low : Bound text min) :
    Bounds (text ++ [',']) (.range min none)
  | between {first second : List Char} {min max : UInt32} (low : Bound first min)
    (high : Bound second max) (ordered : min ≤ max) :
    Bounds (first ++ ',' :: second) (.range min (some max))

/-- The characters of a text but for its first and its last. -/
def inside (text : String) : List Char := (text.toList.drop 1).dropLast

/-- The token writes the multiplier: a sign of its own, or a curly range with
bounds of 32 bits that are in order. -/
inductive Repeats (token : Token) : Multiplier → Prop where
  | asterisk (kind : token.kind = .asterisk) : Repeats token .asterisk
  | plusSign (kind : token.kind = .plusSign) : Repeats token .plusSign
  | questionMark (kind : token.kind = .questionMark) : Repeats token .questionMark
  | hashMark (kind : token.kind = .hashMark) : Repeats token .hashMark
  | exclamationPoint (kind : token.kind = .exclamationPoint) : Repeats token .exclamationPoint
  | curlyRange {multiplier : Multiplier} (kind : token.kind = .curlyRange)
    (bounds : Bounds (inside token.text) multiplier) : Repeats token multiplier

/-- A multiplier as it is written. -/
structure Repeat where
  token : Token
  multiplier : Multiplier
  written : Repeats token multiplier

/-- A combinator as it is written; juxtaposition is not written. -/
structure Link where
  token : Token
  combinator : Combinator
  written : token.kind.combinator? = some combinator

/-- The tokens that are terms by themselves. Outside the arguments of a
function parentheses are keywords. -/
def isWord : TokenKind → Bool
  | .dataType | .keyword | .quotedKeyword | .parenOpen | .parenClose => true
  | _ => false

/-- The parentheses that the tokens open. -/
def openings (tokens : List Token) : Nat :=
  tokens.countP fun token => token.kind = .functionOpen || token.kind = .parenOpen

/-- The parentheses that the tokens close. -/
def closings (tokens : List Token) : Nat :=
  tokens.countP fun token => token.kind = .parenClose

theorem openings_append (first second : List Token) :
    openings (first ++ second) = openings first + openings second := List.countP_append

theorem closings_append (first second : List Token) :
    closings (first ++ second) = closings first + closings second := List.countP_append

/-- As many parentheses are opened as are closed, and none is closed before it
is opened. Any other tokens may stand among them. -/
def Balanced (tokens : List Token) : Prop :=
  openings tokens = closings tokens ∧
    ∀ before, before <+: tokens → closings before ≤ openings before

mutual

/-- A term without its multipliers. -/
inductive Base where
  | word (token : Token) (plain : isWord token.kind = true)
  | group (opening : Token) (body : Sequence) (closing : Token)
    (opens : opening.kind = .bracketOpen) (closes : closing.kind = .bracketClose)
  | call (opening : Token) (arguments : List Token) (closing : Token)
    (opens : opening.kind = .functionOpen) (balanced : Balanced arguments)
    (closes : closing.kind = .parenClose)

/-- A term with any number of multipliers behind it. -/
inductive Term where
  | repeated (base : Base) (multipliers : List Repeat)

/-- Nothing, or a first term and what follows it. -/
inductive Sequence where
  | empty
  | terms (first : Term) (rest : Rest)

/-- The terms after the first, each with or without a combinator in front. -/
inductive Rest where
  | done
  | next (link : Option Link) (term : Term) (rest : Rest)

end

mutual

/-- The tokens of a base, in order. -/
def Base.tokens : Base → List Token
  | .word token _ => [token]
  | .group opening body closing _ _ => opening :: body.tokens ++ [closing]
  | .call opening arguments closing _ _ _ => opening :: arguments ++ [closing]

def Term.tokens : Term → List Token
  | .repeated base multipliers => base.tokens ++ multipliers.map Repeat.token

def Sequence.tokens : Sequence → List Token
  | .empty => []
  | .terms first rest => first.tokens ++ rest.tokens

def Rest.tokens : Rest → List Token
  | .done => []
  | .next link term rest => (link.map Link.token).toList ++ (term.tokens ++ rest.tokens)

end

/-- The term that a token writes by itself. Quotes are no part of a keyword,
and a range is no part of a data type. -/
def wordEntity (token : Token) : Entity :=
  match token.kind with
  | .dataType => dataType (dataTypeText token.text) none
  | .quotedKeyword => keyword (String.ofList (inside token.text)) none
  | _ => keyword token.text none

/-- A written combinator joins as it says, and juxtaposition joins where none
is written. -/
def joining : Option Link → Combinator
  | none => .juxtaposition
  | some link => link.combinator

/-- Of the multipliers behind a term only the first one counts. -/
def repeatedBy (entity : Entity) : List Repeat → Entity
  | [] => entity
  | first :: _ => entity.withMultiplier first.multiplier

mutual

/-- The entity that a base denotes; the sequence of a group is nested by
precedence. -/
def Base.entity : Base → Entity
  | .word token _ => wordEntity token
  | .group _ body _ _ _ => group (nest body.items) none
  | .call opening _ _ _ _ _ => function (String.ofList opening.text.toList.dropLast)

def Term.entity : Term → Entity
  | .repeated base multipliers => repeatedBy base.entity multipliers

/-- The terms in order, with a combinator between each two. -/
def Sequence.items : Sequence → List Entity
  | .empty => []
  | .terms first rest => first.entity :: rest.items

def Rest.items : Rest → List Entity
  | .done => []
  | .next link term rest => combinator (joining link) :: term.entity :: rest.items

end

/-- The sequence that a derivation denotes, nested by precedence. -/
def Sequence.entities (sequence : Sequence) : List Entity := nest sequence.items

theorem bound_iff : Multiplier.bound? text = some n ↔ Bound text n := by
  unfold Multiplier.bound? Bound
  constructor
  · intro found
    split at found
    · rename_i fits
      simp only [Bool.and_eq_true, decide_eq_true_eq] at fits
      cases found
      exact ⟨fits.1, (UInt32.toNat_ofNat_of_lt' fits.2).symm⟩
    · cases found
  · rintro ⟨digits, value⟩
    have fits : n.toNat < UInt32.size := n.toNat_lt
    simp [digits, value, fits]

/-- Digits hold no comma, so a range is cut at the comma it is written with. -/
theorem digits_cut (digits : isDigits text = true) (stops : Stops (· != ',') rest) :
    (text ++ rest).takeWhile (· != ',') = text ∧ (text ++ rest).dropWhile (· != ',') = rest := by
  have noComma : ∀ c ∈ text, (c != ',') = true := by
    intro c member
    simp only [isDigits, Bool.and_eq_true, List.all_eq_true] at digits
    have digit := digits.2 c member
    rw [bne_iff_ne]
    rintro rfl
    exact absurd digit (by decide)
  exact ⟨run_taken noComma stops, run_dropped noComma stops⟩

private theorem bound_ne_nil (bound : Bound text n) : text ≠ [] := by
  rintro rfl
  exact absurd bound.1 (by decide)

/-- Reading the text between two braces finds exactly the range it means. -/
theorem bounds_iff {inner : List Char} :
    Multiplier.ofBounds? inner = some multiplier ↔ Bounds inner multiplier := by
  constructor
  · intro found
    have whole := List.takeWhile_append_dropWhile (p := (· != ',')) (l := inner)
    unfold Multiplier.ofBounds? at found
    dsimp only at found
    split at found
    · rename_i stops
      rw [stops, List.append_nil] at whole
      obtain ⟨n, bound, rfl⟩ := Option.map_eq_some_iff.mp found
      rw [whole] at bound
      exact .exactly (bound_iff.mp bound)
    · rename_i comma stops
      obtain ⟨n, bound, rfl⟩ := Option.map_eq_some_iff.mp found
      have same : comma = ',' := by simpa using run_ends stops
      rw [stops, same] at whole
      rw [← whole]
      exact .atLeast (bound_iff.mp bound)
    · rename_i comma high _ stops
      have same : comma = ',' := by simpa using run_ends stops
      rw [stops, same] at whole
      split at found
      · rename_i min max low high
        split at found
        · cases found
        · rename_i ordered
          cases found
          rw [← whole]
          exact .between (bound_iff.mp low) (bound_iff.mp high) (UInt32.not_lt.mp ordered)
      · cases found
  · intro bounds
    cases bounds with
    | exactly count =>
      obtain ⟨taken, dropped⟩ := digits_cut count.1 stops_nil
      rw [List.append_nil] at taken dropped
      simp only [Multiplier.ofBounds?, taken, dropped, bound_iff.mpr count, Option.map_some]
    | atLeast low =>
      have stops : Stops (· != ',') [','] := stops_cons rfl
      obtain ⟨taken, dropped⟩ := digits_cut low.1 stops
      simp only [Multiplier.ofBounds?, taken, dropped, bound_iff.mpr low, Option.map_some]
    | @between _ second _ _ low high ordered =>
      have stops : Stops (· != ',') (',' :: second) := stops_cons rfl
      obtain ⟨taken, dropped⟩ := digits_cut low.1 stops
      simp only [Multiplier.ofBounds?, taken, dropped]
      split
      · rename_i empty
        cases empty
      · rename_i alone
        simp only [List.cons.injEq] at alone
        exact absurd alone.2 (bound_ne_nil high)
      · rename_i whole
        simp only [List.cons.injEq] at whole
        rw [← whole.2, bound_iff.mpr low, bound_iff.mpr high]
        simp only [UInt32.not_lt.mpr ordered, ↓reduceIte]

/-- A token is read as a multiplier exactly when it writes one. -/
theorem repeats_iff : multiplierOf token = some multiplier ↔ Repeats token multiplier := by
  constructor
  · intro found
    unfold multiplierOf at found
    split at found
    · cases found; exact .asterisk ‹_›
    · cases found; exact .plusSign ‹_›
    · cases found; exact .questionMark ‹_›
    · cases found; exact .hashMark ‹_›
    · cases found; exact .exclamationPoint ‹_›
    · exact .curlyRange ‹_› (bounds_iff.mp found)
    · cases found
  · intro written
    cases written with
    | asterisk kind | plusSign kind | questionMark kind | hashMark kind
    | exclamationPoint kind => simp only [multiplierOf, kind]
    | curlyRange kind bounds =>
      simp only [multiplierOf, kind]
      exact bounds_iff.mpr bounds

theorem repeats_kind (written : Repeats token multiplier) : token.kind.isMultiplier = true := by
  cases written <;> simp_all [TokenKind.isMultiplier]

end ValueGrammar.Grammar
