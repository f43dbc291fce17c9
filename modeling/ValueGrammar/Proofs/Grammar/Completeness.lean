import ValueGrammar.Proofs.Grammar

/-! Reading accepts every derivation. The tokens of a term, read after anything,
add the entity of that term to what was read before, and leave the reader ready
for whatever tokens follow. -/
namespace ValueGrammar.Grammar
open Entity

variable {progress : Progress} {outer : List (Span × Progress)} {reading next : Reading}
  {more : List Token}

theorem run_step (stepped : reading.step token = .ok next) :
    reading.run (token :: more) = next.run more := by
  simp only [Reading.run, stepped]

/-- Reading goes through a list of tokens in two parts as it goes through the whole. -/
theorem run_append (first : List Token) :
    reading.run (first ++ more) = (reading.run first).bind (·.run more) := by
  induction first generalizing reading with
  | nil => rfl
  | cons token first ih =>
    cases stepped : reading.step token with
    | error error => simp only [List.cons_append, Reading.run, stepped]; rfl
    | ok next => simp only [List.cons_append, run_step stepped, ih]

theorem of_tokens_eq (tokens : List Token) :
    ofTokens tokens = (Reading.run {} tokens).bind Reading.finish := by
  unfold ofTokens
  cases Reading.run {} tokens <;> rfl

theorem step_word (plain : isWord token.kind = true) :
    Reading.step ⟨progress, outer, none⟩ token =
      .ok ⟨progress.addTerm (wordEntity token), outer, none⟩ := by
  obtain ⟨kind, text, span⟩ := token
  cases kind <;> first | rfl | cases plain

/-- A term can be repeated, whatever stands in front of it. -/
theorem add_term_ends (progress : Progress) (term : Entity) :
    (progress.addTerm term).endsWithTerm = true := by
  obtain ⟨items, pending⟩ := progress
  cases items <;> cases pending <;> rfl

/-- Nothing is pending behind a term. -/
theorem add_term_pending (progress : Progress) (term : Entity) :
    (progress.addTerm term).pending = none := by
  obtain ⟨items, pending⟩ := progress
  cases items <;> cases pending <;> rfl

/-- Repeating the term that was added last adds the repeated term instead. -/
theorem repeat_add_term (progress : Progress) (term : Entity) (multiplier : Multiplier) :
    (progress.addTerm term).repeatLast multiplier =
      progress.addTerm (addMultiplier multiplier term) := by
  obtain ⟨items, pending⟩ := progress
  cases items <;> cases pending <;> rfl

theorem read_multiplier (kind : token.kind.isMultiplier = true) :
    reading.read token = reading.readMultiplier token := by
  unfold Reading.read
  split <;> simp_all [TokenKind.isMultiplier]

theorem read_combinator (written : token.kind.combinator? = some joint) :
    reading.read token = reading.readCombinator joint token.span := by
  obtain ⟨kind, text, span⟩ := token
  cases kind <;> cases written <;> rfl

theorem step_read : Reading.step ⟨progress, outer, none⟩ token =
    Reading.read ⟨progress, outer, none⟩ token := rfl

theorem step_repeat (ends : progress.endsWithTerm = true) (repeated : Repeat) :
    Reading.step ⟨progress, outer, none⟩ repeated.token =
      .ok ⟨progress.repeatLast repeated.multiplier, outer, none⟩ := by
  rw [step_read, read_multiplier (repeats_kind repeated.written), Reading.readMultiplier]
  simp only [ends, ↓reduceIte, repeats_iff.mpr repeated.written]

theorem step_link (ends : progress.endsWithTerm = true) (link : Link) :
    Reading.step ⟨progress, outer, none⟩ link.token =
      .ok ⟨{ progress with pending := some (link.combinator, link.token.span) }, outer, none⟩ := by
  rw [step_read, read_combinator link.written, Reading.readCombinator]
  simp only [ends, ↓reduceIte]

private theorem add_multiplier_again (entity : Entity) (first later : Multiplier) :
    addMultiplier later (entity.withMultiplier first) = entity.withMultiplier first := by
  cases entity <;> rfl

/-- Only the first multiplier of a term that has none yet takes effect. -/
theorem add_multipliers (entity : Entity) (plain : entity.multiplier? = none)
    (multipliers : List Repeat) :
    multipliers.foldl (fun entity repeated => addMultiplier repeated.multiplier entity) entity =
      repeatedBy entity multipliers := by
  cases multipliers with
  | nil => rfl
  | cons first later =>
    have start : addMultiplier first.multiplier entity =
        entity.withMultiplier first.multiplier := by
      simp only [addMultiplier, plain, Option.isNone_none, ↓reduceIte]
    rw [List.foldl_cons, start, repeatedBy]
    induction later with
    | nil => rfl
    | cons repeated later ih => rw [List.foldl_cons, add_multiplier_again, ih]

theorem base_multiplier (base : Base) : base.entity.multiplier? = none := by
  cases base with
  | word token plain =>
    unfold Base.entity wordEntity
    split <;> rfl
  | group opening body closing opens closes => rw [Base.entity]; rfl
  | call opening arguments closing opens balanced closes => rw [Base.entity]; rfl

private theorem run_multipliers (term : Entity) (multipliers : List Repeat) :
    Reading.run ⟨progress.addTerm term, outer, none⟩ (multipliers.map Repeat.token ++ more) =
      Reading.run ⟨progress.addTerm (multipliers.foldl
        (fun entity repeated => addMultiplier repeated.multiplier entity) term), outer, none⟩
        more := by
  induction multipliers generalizing term with
  | nil => rfl
  | cons repeated multipliers ih =>
    rw [List.map_cons, List.cons_append,
      run_step (step_repeat (add_term_ends progress term) repeated), repeat_add_term, ih,
      List.foldl_cons]

/-- What one argument token does to the number of parentheses that are open. -/
theorem step_argument {call : Call}
    (covered : closings [token] ≤ call.depth + openings [token]) :
    Reading.step ⟨progress, outer, some call⟩ token =
      .ok ⟨progress, outer, some { call with
        depth := call.depth + openings [token] - closings [token] }⟩ := by
  obtain ⟨kind, text, span⟩ := token
  obtain ⟨name, start, depth⟩ := call
  cases kind <;> try rfl
  cases depth with
  | zero => simp [closings, openings] at covered
  | succ depth => rfl

/-- Arguments that close no more parentheses than are open leave the call open. -/
theorem run_arguments {call : Call} (arguments : List Token)
    (covered : ∀ before, before <+: arguments → closings before ≤ call.depth + openings before) :
    Reading.run ⟨progress, outer, some call⟩ (arguments ++ more) =
      Reading.run ⟨progress, outer, some { call with
        depth := call.depth + openings arguments - closings arguments }⟩ more := by
  induction arguments generalizing call with
  | nil => rfl
  | cons token arguments ih =>
    have first := covered [token] (List.prefix_append [token] arguments)
    have opened : openings (token :: arguments) = _ := openings_append [token] arguments
    have closed : closings (token :: arguments) = _ := closings_append [token] arguments
    rw [List.cons_append, run_step (step_argument first), ih]
    · dsimp only
      rw [show call.depth + openings [token] - closings [token] + openings arguments -
        closings arguments = call.depth + openings (token :: arguments) -
          closings (token :: arguments) by omega]
    · intro before shorter
      have whole := covered (token :: before) ((List.prefix_cons_inj token).mpr shorter)
      have opened : openings (token :: before) = _ := openings_append [token] before
      have closed : closings (token :: before) = _ := closings_append [token] before
      dsimp only
      omega

private theorem run_call (opens : opening.kind = .functionOpen) (balanced : Balanced arguments)
    (closes : closing.kind = .parenClose) :
    Reading.run ⟨progress, outer, none⟩ (opening :: (arguments ++ closing :: more)) =
      Reading.run ⟨progress.addTerm (function (String.ofList opening.text.toList.dropLast)),
        outer, none⟩ more := by
  have start : Reading.step ⟨progress, outer, none⟩ opening = .ok ⟨progress, outer, some
      { name := String.ofList opening.text.toList.dropLast, span := opening.span }⟩ := by
    simp only [Reading.step, Reading.read, opens]
  have stop (call : Call) (shut : call.depth = 0) :
      Reading.step ⟨progress, outer, some call⟩ closing =
        .ok ⟨progress.addTerm (function call.name), outer, none⟩ := by
    simp only [Reading.step, Reading.skip, closes, shut, Reading.addTerm]
  have covered := balanced.2
  rw [run_step start, run_arguments arguments (fun before shorter => by
    have := covered before shorter
    dsimp only
    omega)]
  exact run_step (stop _ (by dsimp only; have := balanced.1; omega))

mutual

/-- The tokens of a base add its entity to what was read before them. -/
theorem run_base (base : Base) (progress : Progress) (outer : List (Span × Progress))
    (more : List Token) :
    Reading.run ⟨progress, outer, none⟩ (base.tokens ++ more) =
      Reading.run ⟨progress.addTerm base.entity, outer, none⟩ more := by
  cases base with
  | word token plain => exact run_step (step_word plain)
  | group opening body closing opens closes =>
    have start : Reading.step ⟨progress, outer, none⟩ opening =
        .ok ⟨{}, (opening.span, progress) :: outer, none⟩ := by
      simp only [Reading.step, Reading.read, opens]
    have stop : Reading.step ⟨⟨body.items.reverse, none⟩, (opening.span, progress) :: outer, none⟩
        closing = .ok ⟨progress.addTerm (group (nest body.items) none), outer, none⟩ := by
      simp only [Reading.step, Reading.read, closes, Reading.readClose, Progress.entities,
        List.reverse_reverse]
    simp only [Base.tokens, Base.entity, List.cons_append, List.append_assoc, List.nil_append]
    rw [run_step start, run_sequence body, run_step stop]
  | call opening arguments closing opens balanced closes =>
    simp only [Base.tokens, Base.entity, List.cons_append, List.append_assoc, List.nil_append]
    exact run_call opens balanced closes

theorem run_term (term : Term) (progress : Progress) (outer : List (Span × Progress))
    (more : List Token) :
    Reading.run ⟨progress, outer, none⟩ (term.tokens ++ more) =
      Reading.run ⟨progress.addTerm term.entity, outer, none⟩ more := by
  obtain ⟨base, multipliers⟩ := term
  rw [Term.tokens, Term.entity, List.append_assoc, run_base base, run_multipliers,
    add_multipliers _ (base_multiplier base)]

/-- The tokens of a sequence, read from its start, give its items. -/
theorem run_sequence (sequence : Sequence) (outer : List (Span × Progress))
    (more : List Token) :
    Reading.run ⟨{}, outer, none⟩ (sequence.tokens ++ more) =
      Reading.run ⟨⟨sequence.items.reverse, none⟩, outer, none⟩ more := by
  cases sequence with
  | empty => rfl
  | terms first rest =>
    have started : Progress.addTerm {} first.entity = ⟨[first.entity], none⟩ := rfl
    rw [Sequence.tokens, Sequence.items, List.append_assoc, run_term first, started,
      run_rest rest [first.entity] (List.cons_ne_nil _ _), List.reverse_cons]

/-- The tokens after a first term add their items behind those already read. -/
theorem run_rest (rest : Rest) (items : List Entity) (filled : items ≠ [])
    (outer : List (Span × Progress)) (more : List Token) :
    Reading.run ⟨⟨items, none⟩, outer, none⟩ (rest.tokens ++ more) =
      Reading.run ⟨⟨rest.items.reverse ++ items, none⟩, outer, none⟩ more := by
  cases rest with
  | done => rfl
  | next link term rest =>
    obtain ⟨last, front, rfl⟩ := List.exists_cons_of_ne_nil filled
    have joined : Reading.run ⟨⟨last :: front, none⟩, outer, none⟩
        ((link.map Link.token).toList ++ (term.tokens ++ (rest.tokens ++ more))) =
        Reading.run ⟨⟨term.entity :: combinator (joining link) :: last :: front, none⟩,
          outer, none⟩ (rest.tokens ++ more) := by
      cases link with
      | none => exact run_term term _ _ _
      | some link => exact (run_step (step_link rfl link)).trans (run_term term _ _ _)
    simp only [Rest.tokens, List.append_assoc]
    rw [joined, run_rest rest _ (List.cons_ne_nil _ _), Rest.items]
    simp only [List.reverse_cons, List.append_assoc, List.cons_append, List.nil_append]

end

/-- Every derivation is read, and as the sequence that it denotes. -/
theorem derivation_read (sequence : Sequence) :
    ofTokens sequence.tokens = .ok sequence.entities := by
  have read := run_sequence sequence [] []
  rw [List.append_nil] at read
  have finished : Reading.run {} sequence.tokens = .ok ⟨⟨sequence.items.reverse, none⟩, [], none⟩ :=
    read
  simp only [ofTokens, finished, Reading.finish, Progress.entities, List.reverse_reverse,
    Sequence.entities]

end ValueGrammar.Grammar
