import ValueGrammar.Proofs.Grammar.Completeness

/-! Reading accepts nothing but derivations. At every point the reader stands
for the tokens that it has taken: complete terms in each open sequence, perhaps
a combinator behind them, and perhaps a function whose arguments have begun. A
text that ends where nothing is open is therefore a derivation. -/
namespace ValueGrammar.Grammar
open Entity

/-- More terms at the end. -/
def Rest.append : Rest → Rest → Rest
  | .done, others => others
  | .next link term rest, others => .next link term (rest.append others)

/-- One more term at the end, with or without a combinator in front. The first
term of a sequence has nothing to be joined to. -/
def Sequence.add : Sequence → Option Link → Term → Sequence
  | .empty, _, term => .terms term .done
  | .terms first rest, link, term => .terms first (rest.append (.next link term .done))

/-- A combinator stands only behind a term. -/
def Joins (front : Sequence) (link : Option Link) : Prop := front = .empty → link = none

theorem rest_append_tokens (rest others : Rest) :
    (rest.append others).tokens = rest.tokens ++ others.tokens := by
  match rest with
  | .done => rfl
  | .next link term rest =>
    simp only [Rest.append, Rest.tokens, rest_append_tokens rest, List.append_assoc]

theorem rest_append_items (rest others : Rest) :
    (rest.append others).items = rest.items ++ others.items := by
  match rest with
  | .done => rfl
  | .next link term rest =>
    simp only [Rest.append, Rest.items, rest_append_items rest, List.cons_append]

theorem add_tokens (joins : Joins front link) (term : Term) :
    (front.add link term).tokens =
      front.tokens ++ ((link.map Link.token).toList ++ term.tokens) := by
  cases front with
  | empty =>
    rw [joins rfl]
    simp [Sequence.add, Sequence.tokens, Rest.tokens]
  | terms first rest =>
    simp only [Sequence.add, Sequence.tokens, rest_append_tokens, Rest.tokens, List.append_nil,
      List.append_assoc]

/-- A sequence as it is held while it is read: the latest item comes first, and
a combinator behind it waits for its right operand. -/
def held (front : Sequence) (link : Option Link) : Progress :=
  ⟨front.items.reverse, link.map fun link => (link.combinator, link.token.span)⟩

theorem held_add (joins : Joins front link) (term : Term) :
    (held front link).addTerm term.entity = held (front.add link term) none := by
  cases front with
  | empty =>
    rw [joins rfl]
    rfl
  | terms first rest =>
    simp only [held, Sequence.add, Sequence.items, rest_append_items, Rest.items,
      List.reverse_cons, List.reverse_append, Option.map_none]
    cases back : rest.items.reverse <;> cases link <;> rfl

/-- The tokens of a sequence as far as it has been read. The term at its end is
kept apart, since a multiplier may follow. -/
inductive Reads : Progress → List Token → Prop where
  | start : Reads {} []
  | term (front : Sequence) (link : Option Link) (joins : Joins front link) (last : Term) :
    Reads (held (front.add link last) none) (front.add link last).tokens
  | linked (front : Sequence) (filled : front ≠ .empty) (link : Link) :
    Reads (held front (some link)) (front.tokens ++ [link.token])

private theorem add_ne_empty (front : Sequence) (link : Option Link) (last : Term) :
    front.add link last ≠ .empty := by
  cases front <;> exact Sequence.noConfusion

/-- Whatever has been read, a term can follow it. -/
theorem reads_held (reads : Reads progress tokens) :
    ∃ front link, Joins front link ∧ progress = held front link ∧
      tokens = front.tokens ++ (link.map Link.token).toList := by
  cases reads with
  | start => exact ⟨.empty, none, fun _ => rfl, rfl, rfl⟩
  | term front link joins last =>
    exact ⟨front.add link last, none, fun _ => rfl, rfl, (List.append_nil _).symm⟩
  | linked front filled link =>
    exact ⟨front, some link, fun empty => absurd empty filled, rfl, rfl⟩

theorem reads_base (reads : Reads progress tokens) (base : Base) :
    Reads (progress.addTerm base.entity) (tokens ++ base.tokens) := by
  obtain ⟨front, link, joins, rfl, rfl⟩ := reads_held reads
  have term := Reads.term front link joins (.repeated base [])
  have plain : (Term.repeated base []).tokens = base.tokens := by
    rw [Term.tokens, List.map_nil, List.append_nil]
  have entity : (Term.repeated base []).entity = base.entity := by rw [Term.entity, repeatedBy]
  rw [← held_add joins, entity, add_tokens joins, plain, ← List.append_assoc] at term
  exact term

private theorem repeated_again (entity : Entity) (plain : entity.multiplier? = none)
    (multipliers : List Repeat) (repeated : Repeat) :
    addMultiplier repeated.multiplier (repeatedBy entity multipliers) =
      repeatedBy entity (multipliers ++ [repeated]) := by
  rw [← add_multipliers entity plain, ← add_multipliers entity plain, List.foldl_append]
  rfl

theorem reads_repeat (reads : Reads progress tokens) (ends : progress.endsWithTerm = true)
    (repeated : Repeat) :
    Reads (progress.repeatLast repeated.multiplier) (tokens ++ [repeated.token]) := by
  cases reads with
  | start => cases ends
  | linked front filled link => simp [Progress.endsWithTerm, held] at ends
  | term front link joins last =>
    obtain ⟨base, multipliers⟩ := last
    have term := Reads.term front link joins (.repeated base (multipliers ++ [repeated]))
    have entity : (Term.repeated base (multipliers ++ [repeated])).entity =
        addMultiplier repeated.multiplier (Term.repeated base multipliers).entity := by
      rw [Term.entity, Term.entity, repeated_again _ (base_multiplier base)]
    rw [← held_add joins, entity, ← repeat_add_term, held_add joins, add_tokens joins] at term
    rw [add_tokens joins]
    simpa only [Term.tokens, List.map_append, List.map_cons, List.map_nil,
      List.append_assoc] using term

theorem reads_link (reads : Reads progress tokens) (ends : progress.endsWithTerm = true)
    (link : Link) :
    Reads { progress with pending := some (link.combinator, link.token.span) }
      (tokens ++ [link.token]) := by
  cases reads with
  | start => cases ends
  | linked front filled link => simp [Progress.endsWithTerm, held] at ends
  | term front before joins last => exact .linked _ (add_ne_empty front before last) link

/-- What has been read of a text stands for these tokens. -/
inductive Taken : Reading → List Token → Prop where
  | top (reads : Reads progress tokens) : Taken ⟨progress, [], none⟩ tokens
  | group (around : Taken ⟨enclosing, outer, none⟩ before)
    (opens : opening.kind = .bracketOpen) (reads : Reads progress tokens) :
    Taken ⟨progress, (opening.span, enclosing) :: outer, none⟩ (before ++ opening :: tokens)
  | call (around : Taken ⟨progress, outer, none⟩ before)
    (opens : opening.kind = .functionOpen) (arguments : List Token) (depth : Nat)
    (count : closings arguments + depth = openings arguments)
    (covered : ∀ first, first <+: arguments → closings first ≤ openings first) :
    Taken ⟨progress, outer, some ⟨String.ofList opening.text.toList.dropLast, opening.span,
      depth⟩⟩ (before ++ opening :: arguments)

/-- The innermost sequence can be read further while the sequences around it
stay as they are. -/
theorem taken_current (taken : Taken ⟨progress, outer, none⟩ tokens) :
    ∃ before part, tokens = before ++ part ∧ Reads progress part ∧
      ∀ {later further}, Reads later further →
        Taken ⟨later, outer, none⟩ (before ++ further) := by
  cases taken with
  | top reads => exact ⟨[], tokens, rfl, reads, .top⟩
  | group around opens reads =>
    refine ⟨_ ++ [_], _, List.append_cons .., reads, fun further => ?_⟩
    simpa using Taken.group around opens further

theorem taken_base (taken : Taken ⟨progress, outer, none⟩ tokens) (base : Base) :
    Taken ⟨progress.addTerm base.entity, outer, none⟩ (tokens ++ base.tokens) := by
  obtain ⟨before, part, rfl, reads, further⟩ := taken_current taken
  rw [List.append_assoc]
  exact further (reads_base reads base)

/-- A token among the arguments of a function either belongs to them or ends them. -/
theorem taken_argument (taken : Taken ⟨progress, outer, some call⟩ tokens)
    (stepped : Reading.step ⟨progress, outer, some call⟩ token = .ok next) :
    Taken next (tokens ++ [token]) := by
  cases taken with
  | @call _ _ before opening around opens arguments depth count covered =>
    by_cases stays : closings [token] ≤ depth + openings [token]
    · rw [step_argument stays] at stepped
      cases stepped
      have opened := openings_append arguments [token]
      have closed := closings_append arguments [token]
      rw [List.append_assoc, List.cons_append]
      refine .call around opens (arguments ++ [token]) _ ?_ ?_
      · dsimp only
        omega
      · intro first shorter
        rcases List.prefix_concat_iff.mp shorter with rfl | shorter
        · omega
        · exact covered first shorter
    · have ends : token.kind = .parenClose ∧ depth = 0 := by
        by_cases closes : token.kind = .parenClose
        · simp [closings, openings, closes] at stays
          exact ⟨closes, stays⟩
        · simp [closings, closes] at stays
      obtain ⟨closes, rfl⟩ := ends
      simp only [Reading.step, Reading.skip, closes, Except.ok.injEq] at stepped
      cases stepped
      have base := taken_base around (.call opening arguments token opens ⟨by omega, covered⟩ closes)
      simp only [Base.entity, Base.tokens] at base
      rw [List.append_assoc]
      exact base

private theorem taken_repeat (taken : Taken ⟨progress, outer, none⟩ tokens)
    (kind : token.kind.isMultiplier = true)
    (stepped : Reading.step ⟨progress, outer, none⟩ token = .ok next) :
    Taken next (tokens ++ [token]) := by
  obtain ⟨before, part, rfl, reads, further⟩ := taken_current taken
  rw [step_read, read_multiplier kind, Reading.readMultiplier] at stepped
  split at stepped
  · rename_i ends
    split at stepped
    · rename_i multiplier found
      cases stepped
      rw [List.append_assoc]
      exact further (reads_repeat reads ends ⟨token, multiplier, repeats_iff.mp found⟩)
    · cases stepped
  · cases stepped

private theorem taken_link (taken : Taken ⟨progress, outer, none⟩ tokens)
    (written : token.kind.combinator? = some joint)
    (stepped : Reading.step ⟨progress, outer, none⟩ token = .ok next) :
    Taken next (tokens ++ [token]) := by
  obtain ⟨before, part, rfl, reads, further⟩ := taken_current taken
  rw [step_read, read_combinator written, Reading.readCombinator] at stepped
  split at stepped
  · rename_i ends
    cases stepped
    rw [List.append_assoc]
    exact further (reads_link reads ends ⟨token, joint, written⟩)
  · cases stepped

/-- A bracket closes the innermost group, which is a term of the sequence around it. -/
private theorem taken_close (taken : Taken ⟨progress, outer, none⟩ tokens)
    (closes : token.kind = .bracketClose)
    (stepped : Reading.step ⟨progress, outer, none⟩ token = .ok next) :
    Taken next (tokens ++ [token]) := by
  simp only [Reading.step, Reading.read, closes, Reading.readClose] at stepped
  cases taken with
  | top reads => cases stepped
  | @group _ _ before _ part opening around opens reads =>
    obtain ⟨front, link, joins, rfl, rfl⟩ := reads_held reads
    cases link with
    | some link => cases stepped
    | none =>
      cases stepped
      have base := taken_base around (.group opening front token opens closes)
      rw [Base.entity, Base.tokens] at base
      simpa [held, Progress.entities] using base

/-- Every token that is accepted leaves the reader standing for one token more. -/
theorem taken_step (taken : Taken reading tokens) (stepped : reading.step token = .ok next) :
    Taken next (tokens ++ [token]) := by
  obtain ⟨progress, outer, call⟩ := reading
  cases call with
  | some call => exact taken_argument taken stepped
  | none =>
    cases kind : token.kind with
    | dataType | keyword | quotedKeyword | parenOpen | parenClose =>
      have plain : isWord token.kind = true := by rw [kind]; rfl
      rw [step_word plain] at stepped
      cases stepped
      exact taken_base taken (.word token plain)
    | asterisk | plusSign | questionMark | hashMark | exclamationPoint | curlyRange =>
      exact taken_repeat taken (by rw [kind]; rfl) stepped
    | doubleAmpersand | doubleBar | singleBar =>
      exact taken_link taken (by rw [kind]; rfl) stepped
    | bracketClose => exact taken_close taken kind stepped
    | bracketOpen =>
      simp only [Reading.step, Reading.read, kind] at stepped
      cases stepped
      exact .group taken kind .start
    | functionOpen =>
      simp only [Reading.step, Reading.read, kind] at stepped
      cases stepped
      refine .call taken kind [] 0 rfl fun first shorter => ?_
      rw [List.prefix_nil.mp shorter]
      exact Nat.le_refl 0
    | unexpected =>
      simp only [Reading.step, Reading.read, kind] at stepped
      cases stepped

theorem taken_run (taken : Taken reading tokens) (more : List Token)
    (ran : reading.run more = .ok next) : Taken next (tokens ++ more) := by
  induction more generalizing reading tokens with
  | nil =>
    cases ran
    rw [List.append_nil]
    exact taken
  | cons token more ih =>
    rw [Reading.run] at ran
    split at ran
    · rename_i stepped
      rw [List.append_cons]
      exact ih (taken_step taken stepped) ran
    · cases ran

/-- Whatever is read as a sequence is a derivation of that sequence. -/
theorem read_derivation (read : ofTokens tokens = .ok entities) :
    ∃ sequence : Sequence, sequence.tokens = tokens ∧ sequence.entities = entities := by
  rw [ofTokens] at read
  split at read
  · rename_i reading ran
    have taken := taken_run (.top .start) tokens ran
    cases taken with
    | call around opens arguments depth count covered => cases read
    | group around opens reads =>
      obtain ⟨front, link, joins, rfl, rfl⟩ := reads_held reads
      cases link <;> cases read
    | top reads =>
      obtain ⟨front, link, joins, rfl, whole⟩ := reads_held reads
      cases link with
      | some link => cases read
      | none =>
        refine ⟨front, by simpa using whole.symm, ?_⟩
        simpa [Reading.finish, held, Progress.entities, Sequence.entities] using read
  · cases read

/-- The reader and the grammar agree on all lists of tokens. -/
theorem of_tokens_iff (tokens : List Token) (entities : List Entity) :
    ofTokens tokens = .ok entities ↔
      ∃ sequence : Sequence, sequence.tokens = tokens ∧ sequence.entities = entities := by
  constructor
  · exact read_derivation
  · rintro ⟨sequence, rfl, rfl⟩
    exact derivation_read sequence

end ValueGrammar.Grammar
