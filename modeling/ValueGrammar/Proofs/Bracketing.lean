import ValueGrammar.Proofs.Contributions
import ValueGrammar.Proofs.Grammar.Joining
import ValueGrammar.Proofs.Nesting

/-! A definition in brackets. It is read there as it is by itself, and becomes one
group with the multiplier behind the closing bracket. That group accepts what the
definition does, and any text too if its multiplier writes several values in a
row. -/
namespace ValueGrammar.Bracketing
open Entity Typing TypeSet Contributions Lexing Spelling Lexemes Grammar Nesting

variable {source text : String} {entities : List Entity} {multiplier : Option Multiplier}

/-- What may stand behind a closing bracket: nothing, or the text of a multiplier. -/
inductive Suffix : String → Option Multiplier → Prop where
  | absent : Suffix "" none
  | single {text : String} {token : Token} {multiplier : Multiplier}
    (alone : Token.lex text = [token]) (written : Repeats token multiplier) :
    Suffix text (some multiplier)

/-- The brackets as tokens, at no place in particular. -/
def opening : Token := ⟨.bracketOpen, "[", ⟨0, 0⟩⟩

def closing : Token := ⟨.bracketClose, "]", ⟨0, 0⟩⟩

private theorem opening_spelling (after : List Char) :
    (lexFrom 0 [] ('[' :: after)).map spelling =
      spelling opening :: (lexFrom 0 [] after).map spelling :=
  closed_spelling ⟨'[', [], rfl, fun _ => rfl⟩ after

private theorem closing_spelling (after : List Char) :
    (lexFrom 0 [] (']' :: after)).map spelling =
      spelling closing :: (lexFrom 0 [] after).map spelling :=
  closed_spelling ⟨']', [], rfl, fun _ => rfl⟩ after

/-- The tokens of a source in brackets are its own, with the brackets around them. -/
theorem lex_brackets (settled : Settled (Token.lex source)) (text : String) :
    (opening :: (Token.lex source ++ closing :: Token.lex text)).map spelling =
      (Token.lex ("[ " ++ source ++ " ]" ++ text)).map spelling := by
  have written : "[ " ++ source ++ " ]" ++ text =
      "[" ++ " " ++ (source ++ " " ++ ("]" ++ text)) := by
    have front : "[ " = "[" ++ " " := by decide
    have back : " ]" = " " ++ "]" := by decide
    rw [front, back]
    simp only [String.append_assoc]
  have finished : Settled (Token.lex "[") := sign_settled rfl (by decide)
  have front : (Token.lex "[").map spelling = [spelling opening] := by
    have spelled := opening_spelling []
    rwa [lex_nil] at spelled
  have back : (Token.lex ("]" ++ text)).map spelling =
      spelling closing :: (Token.lex text).map spelling := by
    have spelled := closing_spelling text.toList
    have characters : ("]" ++ text).toList = ']' :: text.toList := String.toList_append
    rw [← characters] at spelled
    exact spelled
  rw [written, space_spelling finished, space_spelling settled, front, back,
    List.map_cons, List.map_append, List.map_cons]
  rfl

/-- The text behind the closing bracket gives a group its multiplier. -/
theorem suffix_repeats (suffix : Suffix text multiplier) :
    ∃ multipliers : List Repeat, multipliers.map Repeat.token = Token.lex text ∧
      ∀ entities, repeatedBy (group entities none) multipliers = group entities multiplier := by
  cases suffix with
  | absent => exact ⟨[], (lex_nil 0).symm, fun _ => rfl⟩
  | single alone written => exact ⟨[⟨_, _, written⟩], alone.symm, fun _ => rfl⟩

/-- A source in brackets is one group of what the source is by itself. -/
theorem parse_brackets (parsed : parse source = .ok entities) (suffix : Suffix text multiplier) :
    parse ("[ " ++ source ++ " ]" ++ text) = .ok [group entities multiplier] := by
  obtain ⟨body, whole, rfl⟩ := (of_tokens_iff _ _).mp parsed
  obtain ⟨multipliers, tokens, repeated⟩ := suffix_repeats suffix
  have alone : Uniform .juxtaposition [group body.entities multiplier] := .last rfl
  apply of_tokens_spelling (lex_brackets (parsed_settled parsed) text)
  apply (of_tokens_iff _ _).mpr
  refine ⟨.terms (.repeated (.group opening body closing rfl rfl) multipliers) .done, ?_, ?_⟩
  · simp [Sequence.tokens, Term.tokens, Base.tokens, Rest.tokens, whole, tokens]
  · rw [Sequence.entities, Sequence.items, Rest.items, Term.entity, Base.entity.eq_def]
    dsimp only
    rw [← Sequence.entities, repeated, nest_uniform alone]

/-- A multiplier that leaves a group what its sequence is: none, a question mark, or a
range that starts at one or below and does not end at one. -/
inductive Neutral : Option Multiplier → Prop where
  | absent : Neutral none
  | optional : Neutral (some .questionMark)
  | range {min : UInt32} {max : Option UInt32} (low : min ≤ 1) (high : max ≠ some 1) :
    Neutral (some (.range min max))

/-- The multipliers that are not neutral are those that collapse a group. -/
theorem neutral_iff : Neutral multiplier ↔ multiplier.any isCollapsing = false := by
  constructor
  · intro neutral
    cases neutral with
    | absent | optional => rfl
    | range low high => simp [isCollapsing, UInt32.not_lt.mpr low, high]
  · intro plain
    cases multiplier with
    | none => exact .absent
    | some multiplier =>
      cases multiplier with
      | questionMark => exact .optional
      | asterisk | plusSign | hashMark | exclamationPoint => cases plain
      | range min max =>
        simp only [Option.any_some, isCollapsing, Bool.or_eq_false_iff,
          decide_eq_false_iff_not] at plain
        exact .range (UInt32.not_lt.mp plain.1) plain.2

/-- A group contributes what its sequence does, behind what its multiplier adds. -/
theorem contributions_group (catalog : Catalog) (entities : List Entity)
    (multiplier : Option Multiplier) :
    contributions catalog [group entities multiplier] =
      (if multiplier.any isCollapsing then [.string] else []) ++ contributions catalog entities := by
  simp [contributions, contributionsFrom, contribution, included, mandatoryAt]

/-- Brackets around a definition leave it what it is, up to the multiplier behind
them: one that writes several values in a row puts text in front of the other
descriptors, and every other one, like none at all, changes nothing. -/
theorem brackets_are_neutral (catalog : Catalog) (parsed : parse source = .ok entities)
    (suffix : Suffix text multiplier) :
    ∃ types bracketed, typeSource catalog source = .ok types ∧
      typeSource catalog ("[ " ++ source ++ " ]" ++ text) = .ok bracketed ∧
      (Neutral multiplier → bracketed.toList = types.toList) ∧
      (¬ Neutral multiplier →
        bracketed.toList = .string :: types.toList.filter fun type => type != .string) := by
  have types := holds_contributions catalog entities
  have bracketed := holds_contributions catalog [group entities multiplier]
  rw [contributions_group] at bracketed
  refine ⟨typeEntities catalog entities, typeEntities catalog [group entities multiplier],
    by rw [typeSource, parsed]; rfl, by rw [typeSource, parse_brackets parsed suffix]; rfl, ?_, ?_⟩
  · intro neutral
    rw [neutral_iff.mp neutral] at bracketed
    rw [bracketed.listed, types.listed]
    rfl
  · intro collapses
    rw [neutral_iff, Bool.not_eq_false] at collapses
    rw [collapses, if_pos rfl, List.singleton_append] at bracketed
    rw [bracketed.listed, types.listed, List.eraseDups_cons, FirstOccurrences.erase_dups_filter]
    rfl

/-- The stray mark and the bracket among the arguments stay inside of the group, and
text comes first only if the group is to stand there twice. -/
theorem twice_in_brackets_is_text :
    ∃ source entities, source = "<length> | f( & ] )" ∧ parse source = .ok entities ∧
      Suffix "\x7b1,4\x7d" (some (.range 1 (some 4))) ∧ Suffix "\x7b02,\x7d" (some (.range 2 none)) ∧
      ∃ types bracketed repeated, typeSource .builtin source = .ok types ∧
        types.toList = [.length, .string] ∧
        typeSource .builtin ("[ " ++ source ++ " ]" ++ "\x7b1,4\x7d") = .ok bracketed ∧
        bracketed.toList = [.length, .string] ∧
        typeSource .builtin ("[ " ++ source ++ " ]" ++ "\x7b02,\x7d") = .ok repeated ∧
        repeated.toList = [.string, .length] := by
  have parsed : parse "<length> | f( & ] )" = .ok
      [dataType "<length>" none, combinator .singleBar, function "f"] := by
    decide +kernel
  have suffix : Suffix "\x7b1,4\x7d" (some (.range 1 (some 4))) := by
    have alone : Token.lex "\x7b1,4\x7d" = [⟨.curlyRange, "\x7b1,4\x7d", ⟨0, 5⟩⟩] := by
      decide +kernel
    exact .single alone (repeats_iff.mp (by decide))
  have suffix' : Suffix "\x7b02,\x7d" (some (.range 2 none)) := by
    have alone : Token.lex "\x7b02,\x7d" = [⟨.curlyRange, "\x7b02,\x7d", ⟨0, 5⟩⟩] := by
      decide +kernel
    exact .single alone (repeats_iff.mp (by decide))
  obtain ⟨types, bracketed, typed, typed', same, -⟩ :=
    brackets_are_neutral .builtin parsed suffix
  obtain ⟨types', repeated, again, typed'', -, front⟩ :=
    brackets_are_neutral .builtin parsed suffix'
  obtain rfl : types = types' := Except.ok.inj (typed.symm.trans again)
  have listed : types.toList = [.length, .string] := by
    rw [typeSource, parsed] at typed
    rw [← Except.ok.inj typed]
    decide +kernel
  refine ⟨_, _, rfl, parsed, suffix, suffix', types, bracketed, repeated, typed, listed, typed',
    ?_, typed'', ?_⟩
  · rw [same (.range (by decide) (by decide)), listed]
  · rw [front fun neutral => absurd (neutral_iff.mp neutral) (by decide), listed]
    rfl

end ValueGrammar.Bracketing
