import ValueGrammar.Proofs.Grammar

/-! A list of tokens has at most one derivation. The kind of its first token
tells how a base starts and ends, a term goes on as long as multipliers follow,
and a sequence goes on until a bracket closes it or the tokens run out. -/
namespace ValueGrammar.Grammar

/-- The kinds of token that a term can start with. -/
def startsTerm : TokenKind → Bool
  | .dataType | .keyword | .quotedKeyword | .parenOpen | .parenClose | .bracketOpen
  | .functionOpen => true
  | _ => false

/-- No multiplier follows. -/
def AfterTerm (after : List Token) : Prop :=
  ∀ token, after.head? = some token → token.kind.isMultiplier = false

/-- Nothing follows but a closing bracket. -/
def AfterSequence (after : List Token) : Prop :=
  ∀ token, after.head? = some token → token.kind = .bracketClose

private theorem base_starts (base : Base) :
    ∃ token rest, base.tokens = token :: rest ∧ startsTerm token.kind = true := by
  cases base with
  | word token plain =>
    refine ⟨token, [], Base.tokens.eq_1 token plain, ?_⟩
    cases kind : token.kind <;> simp_all [isWord, startsTerm]
  | group opening body closing opens closes =>
    exact ⟨opening, body.tokens ++ [closing], by simp [Base.tokens], by rw [opens]; rfl⟩
  | call opening arguments closing opens balanced closes =>
    exact ⟨opening, arguments ++ [closing], by simp [Base.tokens], by rw [opens]; rfl⟩

theorem term_starts (term : Term) :
    ∃ token rest, term.tokens = token :: rest ∧ startsTerm token.kind = true := by
  obtain ⟨base, multipliers⟩ := term
  obtain ⟨token, rest, whole, starts⟩ := base_starts base
  exact ⟨token, rest ++ multipliers.map Repeat.token, by rw [Term.tokens, whole]; rfl, starts⟩

private theorem link_not_start (link : Link) : startsTerm link.token.kind = false := by
  obtain ⟨⟨kind, text, span⟩, joint, written⟩ := link
  cases kind <;> cases written <;> rfl

private theorem link_not_multiplier (link : Link) : link.token.kind.isMultiplier = false := by
  obtain ⟨⟨kind, text, span⟩, joint, written⟩ := link
  cases kind <;> cases written <;> rfl

private theorem after_close {closing : Token} (closes : closing.kind = .bracketClose) :
    AfterSequence (closing :: after) := by
  intro token first
  cases first
  exact closes

/-- Between the terms of a sequence there is no multiplier. -/
private theorem after_rest (rest : Rest) (ends : AfterSequence after) :
    AfterTerm (rest.tokens ++ after) := by
  intro token first
  cases rest with
  | done =>
    rw [ends token first]
    rfl
  | next link term rest =>
    cases link with
    | some link =>
      simp [Rest.tokens] at first
      rw [← first]
      exact link_not_multiplier link
    | none =>
      obtain ⟨start, more, whole, starts⟩ := term_starts term
      simp [Rest.tokens, whole] at first
      rw [first] at starts
      cases kind : token.kind <;> simp_all [startsTerm, TokenKind.isMultiplier]

private theorem repeat_unique (first second : Repeat) (same : first.token = second.token) :
    first = second := by
  obtain ⟨token, multiplier, written⟩ := first
  obtain ⟨token', multiplier', written'⟩ := second
  obtain rfl : token = token' := same
  have value := (repeats_iff.mpr written).symm.trans (repeats_iff.mpr written')
  obtain rfl : multiplier = multiplier' := Option.some.inj value
  rfl

private theorem link_unique (first second : Link) (same : first.token = second.token) :
    first = second := by
  obtain ⟨token, joint, written⟩ := first
  obtain ⟨token', joint', written'⟩ := second
  obtain rfl : token = token' := same
  obtain rfl : joint = joint' := Option.some.inj (written.symm.trans written')
  rfl

private theorem term_not_closed (term : Term) (ends : AfterSequence (term.tokens ++ more)) :
    False := by
  obtain ⟨token, rest, whole, starts⟩ := term_starts term
  rw [ends token (by rw [whole]; rfl)] at starts
  cases starts

private theorem next_not_closed (link : Option Link) (term : Term)
    (ends : AfterSequence ((link.map Link.token).toList ++ (term.tokens ++ more))) : False := by
  cases link with
  | none => exact term_not_closed term ends
  | some link =>
    have written := link.written
    rw [ends link.token rfl] at written
    cases written

/-- A combinator is never taken for the start of a term. -/
private theorem joint_unique (first second : Option Link) (term term' : Term)
    (same : (first.map Link.token).toList ++ (term.tokens ++ more) =
      (second.map Link.token).toList ++ (term'.tokens ++ more')) :
    first = second ∧ term.tokens ++ more = term'.tokens ++ more' := by
  cases first with
  | none =>
    cases second with
    | none => exact ⟨rfl, same⟩
    | some link =>
      obtain ⟨token, rest, whole, starts⟩ := term_starts term
      rw [whole] at same
      rw [(List.cons.inj same).1, link_not_start] at starts
      cases starts
  | some link =>
    cases second with
    | none =>
      obtain ⟨token, rest, whole, starts⟩ := term_starts term'
      rw [whole] at same
      rw [← (List.cons.inj same).1, link_not_start] at starts
      cases starts
    | some link' =>
      obtain ⟨token, rest⟩ := List.cons.inj same
      exact ⟨congrArg some (link_unique link link' token), rest⟩

private theorem multipliers_unique (first second : List Repeat) (ends : AfterTerm after)
    (ends' : AfterTerm after')
    (same : first.map Repeat.token ++ after = second.map Repeat.token ++ after') :
    first = second ∧ after = after' := by
  induction first generalizing second with
  | nil =>
    cases second with
    | nil => exact ⟨rfl, same⟩
    | cons repeated second =>
      have multiplier := repeats_kind repeated.written
      rw [ends repeated.token (by rw [List.map_nil, List.nil_append] at same; rw [same]; rfl)]
        at multiplier
      cases multiplier
  | cons repeated first ih =>
    cases second with
    | nil =>
      have multiplier := repeats_kind repeated.written
      rw [ends' repeated.token (by rw [List.map_nil, List.nil_append] at same; rw [← same]; rfl)]
        at multiplier
      cases multiplier
    | cons repeated' second =>
      simp only [List.map_cons, List.cons_append, List.cons.injEq] at same
      obtain ⟨rfl, rfl⟩ := ih second same.2
      exact ⟨by rw [repeat_unique _ _ same.1], rfl⟩

/-- The parenthesis that ends the arguments of a function stands in no other
balanced list that starts with them. -/
private theorem closed_not_inside (balanced : Balanced arguments) (balanced' : Balanced arguments')
    (closes : closing.kind = .parenClose) : ¬ arguments ++ [closing] <+: arguments' := by
  intro shorter
  have covered := balanced'.2 _ shorter
  have opened := openings_append arguments [closing]
  have closed := closings_append arguments [closing]
  have none : openings [closing] = 0 := by simp [openings, closes]
  have one : closings [closing] = 1 := by simp [closings, closes]
  have equal := balanced.1
  omega

private theorem arguments_unique (balanced : Balanced arguments) (balanced' : Balanced arguments')
    (closes : closing.kind = .parenClose) (closes' : closing'.kind = .parenClose)
    (same : arguments ++ closing :: after = arguments' ++ closing' :: after') :
    arguments = arguments' ∧ closing = closing' ∧ after = after' := by
  rcases List.append_eq_append_iff.mp same with ⟨more, rfl, rest⟩ | ⟨more, rfl, rest⟩
  · cases more with
    | nil => simp_all
    | cons token more =>
      obtain ⟨rfl, rfl⟩ := List.cons.inj rest
      exact absurd ⟨more, by simp⟩ (closed_not_inside balanced balanced' closes)
  · cases more with
    | nil => simp_all
    | cons token more =>
      obtain ⟨rfl, rfl⟩ := List.cons.inj rest
      exact absurd ⟨more, by simp⟩ (closed_not_inside balanced' balanced closes')

mutual

theorem base_unique (first second : Base) {after after' : List Token}
    (same : first.tokens ++ after = second.tokens ++ after') :
    first = second ∧ after = after' := by
  match first, second with
  | .word token plain, .word token' plain' =>
    obtain ⟨rfl, rfl⟩ := List.cons.inj same
    exact ⟨rfl, rfl⟩
  | .word token plain, .group opening body closing opens closes
  | .word token plain, .call opening arguments closing opens balanced closes
  | .group opening body closing opens closes, .word token plain
  | .call opening arguments closing opens balanced closes, .word token plain =>
    obtain ⟨rfl, rest⟩ := List.cons.inj same
    rw [opens] at plain
    cases plain
  | .group opening body closing opens closes,
    .call opening' arguments closing' opens' balanced closes' =>
    obtain ⟨rfl, rest⟩ := List.cons.inj same
    cases opens.symm.trans opens'
  | .call opening' arguments closing' opens' balanced closes',
    .group opening body closing opens closes =>
    obtain ⟨rfl, rest⟩ := List.cons.inj same
    cases opens.symm.trans opens'
  | .group opening body closing opens closes, .group opening' body' closing' opens' closes' =>
    simp only [Base.tokens, List.append_assoc, List.cons_append, List.nil_append] at same
    obtain ⟨rfl, rest⟩ := List.cons.inj same
    obtain ⟨rfl, tail⟩ := sequence_unique body body' (after_close closes) (after_close closes')
      rest
    obtain ⟨rfl, rfl⟩ := List.cons.inj tail
    exact ⟨rfl, rfl⟩
  | .call opening arguments closing opens balanced closes,
    .call opening' arguments' closing' opens' balanced' closes' =>
    simp only [Base.tokens, List.append_assoc, List.cons_append, List.nil_append] at same
    obtain ⟨rfl, rest⟩ := List.cons.inj same
    obtain ⟨rfl, rfl, rfl⟩ := arguments_unique balanced balanced' closes closes' rest
    exact ⟨rfl, rfl⟩

theorem term_unique (first second : Term) {after after' : List Token} (ends : AfterTerm after)
    (ends' : AfterTerm after') (same : first.tokens ++ after = second.tokens ++ after') :
    first = second ∧ after = after' := by
  match first, second with
  | .repeated base multipliers, .repeated base' multipliers' =>
    simp only [Term.tokens, List.append_assoc] at same
    obtain ⟨rfl, rest⟩ := base_unique base base' same
    obtain ⟨rfl, rfl⟩ := multipliers_unique multipliers multipliers' ends ends' rest
    exact ⟨rfl, rfl⟩

theorem sequence_unique (first second : Sequence) {after after' : List Token}
    (ends : AfterSequence after) (ends' : AfterSequence after')
    (same : first.tokens ++ after = second.tokens ++ after') :
    first = second ∧ after = after' := by
  match first, second with
  | .empty, .empty => exact ⟨rfl, same⟩
  | .empty, .terms term rest =>
    rw [Sequence.tokens, Sequence.tokens, List.nil_append, List.append_assoc] at same
    exact (term_not_closed term (same ▸ ends)).elim
  | .terms term rest, .empty =>
    rw [Sequence.tokens, Sequence.tokens, List.nil_append, List.append_assoc] at same
    exact (term_not_closed term (same ▸ ends')).elim
  | .terms term rest, .terms term' rest' =>
    rw [Sequence.tokens, Sequence.tokens, List.append_assoc, List.append_assoc] at same
    obtain ⟨rfl, tail⟩ := term_unique term term' (after_rest rest ends) (after_rest rest' ends')
      same
    obtain ⟨rfl, rfl⟩ := rest_unique rest rest' ends ends' tail
    exact ⟨rfl, rfl⟩

theorem rest_unique (first second : Rest) {after after' : List Token}
    (ends : AfterSequence after) (ends' : AfterSequence after')
    (same : first.tokens ++ after = second.tokens ++ after') :
    first = second ∧ after = after' := by
  match first, second with
  | .done, .done => exact ⟨rfl, same⟩
  | .done, .next link term rest =>
    simp only [Rest.tokens, List.nil_append, List.append_assoc] at same
    exact (next_not_closed link term (same ▸ ends)).elim
  | .next link term rest, .done =>
    simp only [Rest.tokens, List.nil_append, List.append_assoc] at same
    exact (next_not_closed link term (same ▸ ends')).elim
  | .next link term rest, .next link' term' rest' =>
    simp only [Rest.tokens, List.append_assoc] at same
    obtain ⟨rfl, terms⟩ := joint_unique link link' term term' same
    obtain ⟨rfl, tail⟩ := term_unique term term' (after_rest rest ends) (after_rest rest' ends')
      terms
    obtain ⟨rfl, rfl⟩ := rest_unique rest rest' ends ends' tail
    exact ⟨rfl, rfl⟩

end

/-- Two derivations of the same tokens are the same. -/
theorem tokens_injective (first second : Sequence) (same : first.tokens = second.tokens) :
    first = second := by
  have ends : AfterSequence [] := fun token first => by cases first
  exact (sequence_unique first second ends ends (congrArg (· ++ []) same)).1

end ValueGrammar.Grammar
