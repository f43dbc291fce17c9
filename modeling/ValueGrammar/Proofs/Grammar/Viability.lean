import ValueGrammar.Proofs.Grammar.Completeness

/-! Where a list of tokens goes wrong. Whatever has been read without an error
can be completed, so reading stops at the first token that leaves nothing to
hope for, and no later token has a say in the error. -/
namespace ValueGrammar.Viability
open Entity Grammar

variable {progress : Progress} {outer : List (Span × Progress)} {reading : Reading}
  {tokens part more : List Token} {error : ParseError}

/-- The tokens can be completed to a value definition. -/
def Viable (tokens : List Token) : Prop :=
  ∃ more entities, ofTokens (tokens ++ more) = .ok entities

/-- The shortest beginning of the tokens that cannot be completed. -/
structure DeadEnd (tokens part : List Token) : Prop where
  start : part <+: tokens
  dead : ¬ Viable part
  shortest : ∀ shorter, shorter <+: tokens → ¬ Viable shorter → part.length ≤ shorter.length

/-- The parts of a definition that can be missing at its end. -/
inductive Unfinished : ParseError.Cause → Prop where
  | group : Unfinished .unclosedGroup
  | function (name : String) : Unfinished (.unclosedFunction name)
  | combinator (kind : Combinator) : Unfinished (.danglingCombinator kind)

/-- Tokens that complete what has been read, at no place in particular. -/
private def operand : Token := ⟨.keyword, "a", ⟨0, 0⟩⟩

private def bracket : Token := ⟨.bracketClose, "]", ⟨0, 0⟩⟩

private def parenthesis : Token := ⟨.parenClose, ")", ⟨0, 0⟩⟩

/-- Some tokens bring the reading to an end without an error. -/
def Completes (reading : Reading) : Prop :=
  ∃ more entities, (reading.run more).bind Reading.finish = .ok entities

private theorem completes_step {token : Token} {next : Reading}
    (stepped : reading.step token = .ok next) (completes : Completes next) :
    Completes reading := by
  obtain ⟨more, entities, finished⟩ := completes
  exact ⟨token :: more, entities, by rw [run_step stepped, finished]⟩

/-- Open groups are completed by their brackets, the innermost one first. A
group is the operand that the sequence around it may have waited for. -/
private theorem completes_groups (settled : progress.pending = none) :
    Completes ⟨progress, outer, none⟩ := by
  induction outer generalizing progress with
  | nil =>
    refine ⟨[], progress.entities, ?_⟩
    simp only [Reading.run, Except.bind, Reading.finish, settled]
  | cons frame outer ih =>
    obtain ⟨span, enclosing⟩ := frame
    have stepped : Reading.step ⟨progress, (span, enclosing) :: outer, none⟩ bracket =
        .ok ⟨enclosing.addTerm (group progress.entities none), outer, none⟩ := by
      simp only [Reading.step, Reading.read, bracket, Reading.readClose, settled]
    exact completes_step stepped (ih (add_term_pending enclosing _))

/-- A function is completed by the parentheses that are open in its arguments
and one more. -/
private theorem completes_call (call : Call) : Completes ⟨progress, outer, some call⟩ := by
  obtain ⟨name, span, depth⟩ := call
  induction depth with
  | zero =>
    have stepped : Reading.step ⟨progress, outer, some ⟨name, span, 0⟩⟩ parenthesis =
        .ok ⟨progress.addTerm (function name), outer, none⟩ := rfl
    exact completes_step stepped (completes_groups (add_term_pending progress _))
  | succ depth ih =>
    have stepped : Reading.step ⟨progress, outer, some ⟨name, span, depth + 1⟩⟩ parenthesis =
        .ok ⟨progress, outer, some ⟨name, span, depth⟩⟩ := rfl
    exact completes_step stepped ih

/-- Whatever has been read can be completed. -/
theorem completes_reading (reading : Reading) : Completes reading := by
  obtain ⟨progress, outer, call⟩ := reading
  cases call with
  | some call => exact completes_call call
  | none =>
    have stepped : Reading.step ⟨progress, outer, none⟩ operand =
        .ok ⟨progress.addTerm (keyword "a" none), outer, none⟩ := rfl
    exact completes_step stepped (completes_groups (add_term_pending progress _))

/-- An error while reading is there to stay, whatever follows. -/
theorem error_stays (ran : Reading.run {} tokens = .error error) (more : List Token) :
    ofTokens (tokens ++ more) = .error error := by
  rw [of_tokens_eq, run_append, ran]
  rfl

/-- Tokens can be completed exactly if they can be read without an error. -/
theorem viable_iff : Viable tokens ↔ ∃ reading, Reading.run {} tokens = .ok reading := by
  constructor
  · rintro ⟨more, entities, parsed⟩
    cases ran : Reading.run {} tokens with
    | ok reading => exact ⟨reading, rfl⟩
    | error error =>
      rw [error_stays ran] at parsed
      cases parsed
  · rintro ⟨reading, ran⟩
    obtain ⟨more, entities, finished⟩ := completes_reading reading
    exact ⟨more, entities, by rw [of_tokens_eq, run_append, ran]; exact finished⟩

/-- Tokens that cannot be completed fail with an error that nothing behind them
can change. -/
theorem dead_error (dead : ¬ Viable part) :
    ∃ error, ∀ more, ofTokens (part ++ more) = .error error := by
  cases ran : Reading.run {} part with
  | ok reading => exact absurd (viable_iff.mpr ⟨reading, ran⟩) dead
  | error error => exact ⟨error, error_stays ran⟩

/-- At the end of the tokens only something that is unfinished is an error. -/
theorem finish_error (failed : reading.finish = .error error) : Unfinished error.cause := by
  obtain ⟨⟨items, pending⟩, outer, call⟩ := reading
  cases call with
  | some call =>
    cases failed
    exact .function call.name
  | none =>
    cases pending with
    | some waiting =>
      cases failed
      exact .combinator waiting.1
    | none =>
      cases outer with
      | cons frame outer =>
        cases failed
        exact .group
      | nil => cases failed

/-- Tokens that cannot be completed have a shortest beginning like that. -/
theorem dead_end_exists {tokens : List Token} (dead : ¬ Viable tokens) :
    ∃ part, DeadEnd tokens part := by
  by_cases least : ∀ shorter, shorter <+: tokens → ¬ Viable shorter →
      tokens.length ≤ shorter.length
  · exact ⟨tokens, List.prefix_rfl, dead, least⟩
  · simp only [Classical.not_forall, Nat.not_le] at least
    obtain ⟨shorter, start, dead', less⟩ := least
    obtain ⟨part, start', dead'', shortest⟩ := dead_end_exists dead'
    refine ⟨part, start'.trans start, dead'', fun other begins without => ?_⟩
    rcases List.prefix_or_prefix_of_prefix begins start with within | beyond
    · exact shortest other within without
    · exact Nat.le_trans start'.length_le beyond.length_le
termination_by tokens.length

/-- Tokens that are refused are unfinished, if anything completes them. If not,
the error is that of their shortest beginning which nothing completes, and all
tokens with this beginning have it. -/
theorem error_at_dead_end (failed : ofTokens tokens = .error error) :
    (Viable tokens → Unfinished error.cause) ∧
      (¬ Viable tokens → (∃ part, DeadEnd tokens part) ∧
        ∀ part, DeadEnd tokens part → ∀ more, ofTokens (part ++ more) = .error error) := by
  constructor
  · intro viable
    obtain ⟨reading, ran⟩ := viable_iff.mp viable
    rw [of_tokens_eq, ran] at failed
    exact finish_error failed
  · intro dead
    refine ⟨dead_end_exists dead, ?_⟩
    rintro part ⟨⟨rest, rfl⟩, hopeless, -⟩
    obtain ⟨other, stays⟩ := dead_error hopeless
    rw [stays rest] at failed
    cases failed
    exact stays

/-- The bar lacks an operand, which is certain at the bracket only: without the
bracket the tokens could go on. -/
theorem bar_fails_at_bracket :
    ∃ hopeful refused, hopeful = Token.lex "[ a |" ∧ refused = Token.lex "[ a | ] b" ∧
      ∀ tokens ∈ [hopeful, refused],
        ofTokens tokens = .error ⟨.danglingCombinator .singleBar, ⟨4, 5⟩⟩ ∧
        (Viable tokens → Unfinished (.danglingCombinator .singleBar)) ∧
        (¬ Viable tokens → (∃ part, DeadEnd tokens part) ∧
          ∀ part, DeadEnd tokens part → ∀ more,
            ofTokens (part ++ more) = .error ⟨.danglingCombinator .singleBar, ⟨4, 5⟩⟩) := by
  have hopeful : ofTokens (Token.lex "[ a |") =
      .error ⟨.danglingCombinator .singleBar, ⟨4, 5⟩⟩ := by
    decide +kernel
  have refused : ofTokens (Token.lex "[ a | ] b") =
      .error ⟨.danglingCombinator .singleBar, ⟨4, 5⟩⟩ := by
    decide +kernel
  refine ⟨_, _, rfl, rfl, ?_⟩
  intro tokens member
  simp only [List.mem_cons, List.not_mem_nil, or_false] at member
  rcases member with rfl | rfl
  · exact ⟨hopeful, error_at_dead_end hopeful⟩
  · exact ⟨refused, error_at_dead_end refused⟩

end ValueGrammar.Viability
