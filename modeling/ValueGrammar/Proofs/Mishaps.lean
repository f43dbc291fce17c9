import ValueGrammar.Proofs.Grammar.Completeness
import ValueGrammar.Proofs.Mishaps.Texts
import ValueGrammar.Proofs.WellFormed

/-! A reading by descent never meets what it takes for impossible. It goes through the
tokens in step with the reading that keeps its own stack: what a descent into a group
has read is what that reading adds to the sequence around the group. -/
namespace ValueGrammar.Mishaps
open Entity Descent

/-- What is read in the end, from the state of the reading and the tokens that are left. -/
def ends (reading : Reading) (tokens : List Token) : Except ParseError (List Entity) :=
  (reading.run tokens).bind Reading.finish

/-- A descent through the first of the tokens agrees with what is read in the end: it
has no mishap, it refuses what is refused, and what it has done holds of its value
and of the tokens that it leaves. -/
def Agrees {α : Type} (tokens : List Token) (whole : Except ParseError (List Entity))
    (done : α → List Token → Prop) : Except Halt (α × List Mark) → Prop
  | .ok (value, rest) => ∃ tail, tail <:+ tokens ∧ rest = tail.map Mark.ofToken ∧ done value tail
  | .error (.refused error) => whole = .error error
  | .error (.mishap _) => False

variable {α β : Type} {source : List Char} {token : Token} {tokens tail rest : List Token}
  {whole : Except ParseError (List Entity)}
  {done : α → List Token → Prop} {done' : β → List Token → Prop}
  {result : Except Halt (α × List Mark)} {reading next : Reading} {progress : Progress}
  {outer : List (Span × Progress)}

theorem agrees_within (agrees : Agrees tail whole done result) (within : tail <:+ tokens) :
    Agrees tokens whole done result := by
  match result, agrees with
  | .ok (value, others), agrees =>
    obtain ⟨last, suffix, same, holds⟩ := agrees
    exact ⟨last, suffix.trans within, same, holds⟩
  | .error (.refused error), agrees => exact agrees

theorem agrees_bind {next : α × List Mark → Except Halt (β × List Mark)}
    (agrees : Agrees tokens whole done result)
    (follows : ∀ value tail, tail <:+ tokens → done value tail →
      Agrees tail whole done' (next (value, tail.map Mark.ofToken))) :
    Agrees tokens whole done' (result >>= next) := by
  match result, agrees with
  | .ok (value, others), agrees =>
    obtain ⟨last, suffix, rfl, holds⟩ := agrees
    exact agrees_within (follows value last suffix holds) suffix
  | .error (.refused error), agrees => exact agrees

theorem ends_step (stepped : reading.step token = .ok next) :
    ends reading (token :: rest) = ends next rest := by
  rw [ends, Grammar.run_step stepped, ends]

theorem ends_refused {error : ParseError} (refused : reading.step token = .error error) :
    ends reading (token :: rest) = .error error := by
  simp only [ends, Reading.run, refused]
  rfl

/-- No multiplier comes next. -/
def Unrepeated (tokens : List Token) : Prop :=
  ∀ token, tokens.head? = some token → token.kind.isMultiplier = false

/-- An entity with a multiplier, if there is one for it. -/
def repeated (entity : Entity) : Option Multiplier → Entity
  | some multiplier => entity.withMultiplier multiplier
  | none => entity

private theorem repeated_again {entity : Entity} (plain : entity.multiplier? = none)
    (found : Option Multiplier) (multiplier : Multiplier) :
    addMultiplier multiplier (repeated entity found) =
      repeated entity (found.or (some multiplier)) := by
  cases found with
  | none => simp [addMultiplier, repeated, plain]
  | some first => cases entity <;> rfl

/-- The multipliers behind a term are read until there is none. -/
theorem multipliers_agree (lexed : ∀ token ∈ tokens, Lexed source token) {entity : Entity}
    (plain : entity.multiplier? = none) (found : Option Multiplier)
    (reads : whole = ends ⟨progress.addTerm (repeated entity found), outer, none⟩ tokens) :
    Agrees tokens whole (fun multiplier tail => Unrepeated tail ∧
        whole = ends ⟨progress.addTerm (repeated entity multiplier), outer, none⟩ tail)
      (multipliers source found (tokens.map Mark.ofToken)) := by
  induction tokens generalizing found with
  | nil => exact ⟨[], List.suffix_refl _, rfl, by simp [Unrepeated], reads⟩
  | cons token rest ih =>
    have here := lexed token List.mem_cons_self
    rw [List.map_cons, multipliers]
    split
    next kind =>
      rw [multiplier_read here kind]
      have read : Reading.step ⟨progress.addTerm (repeated entity found), outer, none⟩ token =
          Reading.readMultiplier _ token := Grammar.read_multiplier kind
      rw [Reading.readMultiplier, if_pos (Grammar.add_term_ends _ _)] at read
      cases written : Entity.multiplierOf token with
      | none =>
        rw [written] at read
        exact reads.trans (ends_refused read)
      | some multiplier =>
        simp only [written, Grammar.repeat_add_term, repeated_again plain] at read
        rw [ends_step read] at reads
        have further := ih (fun other member => lexed other (List.mem_cons_of_mem _ member)) _ reads
        exact agrees_within further (List.suffix_cons token rest)
    next kind =>
      refine ⟨token :: rest, List.suffix_refl _, rfl, ?_, reads⟩
      intro other first
      cases first
      exact Bool.eq_false_iff.mpr kind

/-- The arguments of a function are skipped up to the parenthesis that closes it. -/
theorem arguments_agree (name : String) (span : Span) (depth : Nat)
    (reads : whole = ends ⟨progress, outer, some ⟨name, span, depth⟩⟩ tokens) :
    Agrees tokens whole (fun entity tail => entity.multiplier? = none ∧
        whole = ends ⟨progress.addTerm entity, outer, none⟩ tail)
      (skipArguments name span (depth + 1) (tokens.map Mark.ofToken) >>=
        fun rest => pure (function name, rest)) := by
  induction tokens generalizing depth with
  | nil => exact reads
  | cons token rest ih =>
    have within : rest <:+ token :: rest := List.suffix_cons token rest
    rw [List.map_cons, skipArguments]
    obtain ⟨kind, text, place⟩ := token
    cases kind with
    | functionOpen | parenOpen =>
      rw [ends_step rfl] at reads
      exact agrees_within (ih (depth + 1) reads) within
    | parenClose =>
      cases depth with
      | zero =>
        rw [ends_step rfl] at reads
        exact ⟨rest, within, rfl, rfl, reads⟩
      | succ depth =>
        rw [ends_step rfl] at reads
        exact agrees_within (ih depth reads) within
    | _ =>
      rw [ends_step rfl] at reads
      exact agrees_within (ih depth reads) within

/-- A sequence has been read to its end: the top one with all of the tokens, and
another one as the group that it is in the sequence around it. -/
def Closed (whole : Except ParseError (List Entity)) :
    List (Span × Progress) → List Entity → List Token → Prop
  | [], entities, tail => tail = [] ∧ whole = .ok entities
  | (_, enclosing) :: outer, entities, tail =>
    whole = ends ⟨enclosing.addTerm (group entities none), outer, none⟩ tail

/-- The bracket that has opened the innermost of the groups. -/
def opening (outer : List (Span × Progress)) : Option Span := outer.head?.map Prod.fst

/-- The end of a sequence is the same for the descent. -/
theorem close_agrees (ended : tokens = [] ∨ ∃ token rest, tokens = token :: rest ∧
      token.kind = .bracketClose ∧ outer ≠ [])
    (reads : whole = ends ⟨progress, outer, none⟩ tokens) :
    Agrees tokens whole (Closed whole outer)
      (close (opening outer) progress (tokens.map Mark.ofToken)) := by
  obtain ⟨items, pending⟩ := progress
  rcases ended with rfl | ⟨token, rest, rfl, closes, inner⟩
  · match pending, outer with
    | some (kind, span), _ => exact reads
    | none, [] => exact ⟨[], List.suffix_refl _, rfl, rfl, reads⟩
    | none, (span, enclosing) :: outer => exact reads
  · match pending, outer, inner with
    | some (kind, span), (start, enclosing) :: outer, _ =>
      refine reads.trans (ends_refused ?_)
      simp only [Reading.step, Reading.read, closes, Reading.readClose]
    | none, (span, enclosing) :: outer, _ =>
      have step : Reading.step ⟨⟨items, none⟩, (span, enclosing) :: outer, none⟩ token =
          .ok ⟨enclosing.addTerm (group (Progress.mk items none).entities none), outer, none⟩ := by
        simp only [Reading.step, Reading.read, closes, Reading.readClose]
      rw [ends_step step] at reads
      have closed : Agrees (token :: rest) whole (Closed whole ((span, enclosing) :: outer))
          (.ok ((Progress.mk items none).entities, rest.map Mark.ofToken)) :=
        ⟨rest, List.suffix_cons token rest, rfl, reads⟩
      simpa only [close, opening, List.map_cons, List.head?_cons, Option.map_some, Mark.ofToken,
        closes, if_true] using closed

/-- The kinds of the tokens that a term can start with. -/
def Starts (kind : TokenKind) : Prop :=
  kind ≠ .bracketClose ∧ kind ≠ .unexpected ∧ kind.isCombinator = false ∧ kind.isMultiplier = false

private theorem term_read {entity : Entity} (plain : entity.multiplier? = none)
    (step : Reading.step ⟨progress, outer, none⟩ token =
      .ok ⟨progress.addTerm entity, outer, none⟩)
    (reads : whole = ends ⟨progress, outer, none⟩ (token :: rest)) :
    Agrees rest whole (fun entity tail => entity.multiplier? = none ∧
        whole = ends ⟨progress.addTerm entity, outer, none⟩ tail)
      (.ok (entity, rest.map Mark.ofToken)) :=
  ⟨rest, List.suffix_refl _, rfl, plain, reads.trans (ends_step step)⟩

/-- A term without its multipliers is added to the sequence. -/
theorem base_agrees (here : Lexed source token) (starts : Starts token.kind)
    (inner : ∀ whole outer, whole = ends ⟨{}, outer, none⟩ rest →
      Agrees rest whole (Closed whole outer)
        (Descent.sequence source (opening outer) {} (rest.map Mark.ofToken)))
    (reads : whole = ends ⟨progress, outer, none⟩ (token :: rest)) :
    Agrees rest whole (fun entity tail => entity.multiplier? = none ∧
        whole = ends ⟨progress.addTerm entity, outer, none⟩ tail)
      (base source (.ofToken token) (rest.map Mark.ofToken)) := by
  obtain ⟨cut, accepts⟩ := here
  obtain ⟨closing, unexpected, combinator, multiplier⟩ := starts
  rw [base, cut]
  simp only [bind, Except.bind]
  obtain ⟨kind, text, span⟩ := token
  cases kind with
  | dataType =>
    have whole := data_type_text (accepts TokenKind.noConfusion)
    rw [String.ofList_toList] at whole
    simp only [Mark.ofToken, whole]
    exact term_read rfl rfl reads
  | keyword | parenOpen | parenClose =>
    simp only [Mark.ofToken, String.ofList_toList]
    exact term_read rfl rfl reads
  | quotedKeyword =>
    have read := inside_accepted (accepts TokenKind.noConfusion) (.inr (.inr rfl))
    simp only [Mark.ofToken, read]
    exact term_read rfl rfl reads
  | bracketOpen =>
    rw [ends_step rfl] at reads
    have body := inner whole ((span, progress) :: outer) reads
    refine agrees_bind body fun entities tail within closed => ?_
    exact ⟨tail, List.suffix_refl _, rfl, rfl, closed⟩
  | functionOpen =>
    rw [ends_step rfl] at reads
    simp only [Mark.ofToken, name_accepted (accepts TokenKind.noConfusion)]
    exact arguments_agree _ span 0 reads
  | bracketClose => exact absurd rfl closing
  | unexpected => exact absurd rfl unexpected
  | doubleAmpersand | doubleBar | singleBar => cases combinator
  | asterisk | plusSign | questionMark | hashMark | exclamationPoint | curlyRange =>
    cases multiplier

/-- A term is added to the sequence with its multipliers. -/
theorem term_agrees (lexed : ∀ other ∈ token :: rest, Lexed source other)
    (starts : Starts token.kind)
    (inner : ∀ whole outer, whole = ends ⟨{}, outer, none⟩ rest →
      Agrees rest whole (Closed whole outer)
        (Descent.sequence source (opening outer) {} (rest.map Mark.ofToken)))
    (reads : whole = ends ⟨progress, outer, none⟩ (token :: rest)) :
    Agrees rest whole (fun entity tail => Unrepeated tail ∧
        whole = ends ⟨progress.addTerm entity, outer, none⟩ tail)
      (term source ((token :: rest).map Mark.ofToken)) := by
  have behind : ∀ other ∈ rest, Lexed source other :=
    fun other member => lexed other (List.mem_cons_of_mem token member)
  rw [List.map_cons, term]
  refine agrees_bind (base_agrees (lexed token List.mem_cons_self) starts inner reads) ?_
  rintro entity tail within ⟨plain, reads⟩
  have among : ∀ other ∈ tail, Lexed source other :=
    fun other member => behind other (within.subset member)
  refine agrees_bind (multipliers_agree among plain none reads) ?_
  rintro found last within ⟨unrepeated, reads⟩
  cases found with
  | none => exact ⟨last, List.suffix_refl _, rfl, unrepeated, reads⟩
  | some multiplier => exact ⟨last, List.suffix_refl _, rfl, unrepeated, reads⟩

private theorem combinator_read {kind : TokenKind} (written : kind.isCombinator = true) :
    ∃ joint, kind.combinator? = some joint ∧ combinatorOf kind = .ok joint := by
  cases kind <;> first | exact ⟨_, rfl, rfl⟩ | cases written

/-- A sequence is read to its end. -/
theorem sequence_agrees {whole : Except ParseError (List Entity)} {progress : Progress}
    {outer : List (Span × Progress)} (tokens : List Token)
    (lexed : ∀ token ∈ tokens, Lexed source token)
    (settled : progress.endsWithTerm = true → Unrepeated tokens)
    (reads : whole = ends ⟨progress, outer, none⟩ tokens) :
    Agrees tokens whole (Closed whole outer)
      (Descent.sequence source (opening outer) progress (tokens.map Mark.ofToken)) := by
  match tokens with
  | [] =>
    rw [List.map_nil, Descent.sequence]
    exact close_agrees (.inl rfl) reads
  | token :: rest =>
    have here := lexed token List.mem_cons_self
    have behind : ∀ other ∈ rest, Lexed source other :=
      fun other member => lexed other (List.mem_cons_of_mem token member)
    rw [List.map_cons, Descent.sequence]
    split
    next closes =>
      refine close_agrees (.inr ⟨token, rest, rfl, closes.1, ?_⟩) reads
      rintro rfl
      cases closes.2
    next inside =>
    split
    next stray =>
      rw [here.cut]
      refine reads.trans (ends_refused ?_)
      rw [String.ofList_toList]
      rcases stray with closes | unknown
      · have top : outer = [] := by
          cases outer with
          | nil => rfl
          | cons frame outer => exact absurd ⟨closes, rfl⟩ inside
        have kind : token.kind = .bracketClose := closes
        simp only [Reading.step, Reading.read, kind, Reading.readClose, top]
        rfl
      · have kind : token.kind = .unexpected := unknown
        simp only [Reading.step, Reading.read, kind]
        rfl
    next ordinary =>
    split
    next joins =>
      obtain ⟨joint, written, read⟩ := combinator_read joins
      have step : Reading.step ⟨progress, outer, none⟩ token =
          Reading.readCombinator _ joint token.span := Grammar.read_combinator written
      rw [Reading.readCombinator] at step
      have same : (progress.items.isEmpty || progress.pending.isSome) = !progress.endsWithTerm := by
        rw [Progress.endsWithTerm, Bool.not_and, Bool.not_not, Option.not_isNone]
      rw [read, same]
      cases ends : progress.endsWithTerm with
      | false =>
        rw [ends] at step
        exact reads.trans (ends_refused step)
      | true =>
        rw [ends] at step
        rw [ends_step step] at reads
        exact agrees_within (sequence_agrees rest behind (by simp [Progress.endsWithTerm]) reads)
          (List.suffix_cons token rest)
    next single =>
    split
    next repeats =>
      have step : Reading.step ⟨progress, outer, none⟩ token = Reading.readMultiplier _ token :=
        Grammar.read_multiplier repeats
      -- The multipliers behind a term were read with it, so none is at this place.
      have free : progress.endsWithTerm = false := by
        rw [Bool.eq_false_iff]
        intro ends
        have unrepeated := settled ends token rfl
        exact Bool.noConfusion (unrepeated.symm.trans repeats)
      rw [here.cut]
      refine reads.trans (ends_refused ?_)
      simp only [step, Reading.readMultiplier, free, String.ofList_toList]
      rfl
    next plain =>
      rw [not_or] at ordinary
      have starts : Starts token.kind := ⟨ordinary.1, ordinary.2, Bool.eq_false_iff.mpr single,
        Bool.eq_false_iff.mpr plain⟩
      have inner : ∀ whole outer, whole = ends ⟨{}, outer, none⟩ rest →
          Agrees rest whole (Closed whole outer)
            (Descent.sequence source (opening outer) {} (rest.map Mark.ofToken)) :=
        fun whole outer reads => sequence_agrees rest behind Bool.noConfusion reads
      refine agrees_within (agrees_bind (term_agrees lexed starts inner reads) ?_)
        (List.suffix_cons token rest)
      -- The term has taken its first token at least, and the turn goes on with fewer.
      rintro entity tail within ⟨unrepeated, reads⟩
      have shorter : tail.length ≤ rest.length := within.length_le
      have among : ∀ other ∈ tail, Lexed source other :=
        fun other member => behind other (within.subset member)
      simp only [List.length_map, List.length_cons, Nat.lt_succ_of_le shorter, if_true]
      exact sequence_agrees tail among (fun _ => unrepeated) reads
termination_by tokens.length

/-- Read by descent, tokens come to what they are read as otherwise, and none is left
over. Their texts are cut out of a source, but it need not have these tokens only, or
in this order. -/
theorem sequence_reads (lexed : ∀ token ∈ tokens, Lexed source token) :
    Descent.sequence source none {} (tokens.map Mark.ofToken) =
      match ofTokens tokens with
      | .ok entities => .ok (entities, [])
      | .error error => .error (.refused error) := by
  have agrees : Agrees tokens (ofTokens tokens) (Closed (ofTokens tokens) [])
      (Descent.sequence source none {} (tokens.map Mark.ofToken)) :=
    sequence_agrees tokens lexed Bool.noConfusion (Grammar.of_tokens_eq tokens)
  cases read : Descent.sequence source none {} (tokens.map Mark.ofToken) with
  | error halt =>
    rw [read] at agrees
    cases halt with
    | refused error =>
      have refused : ofTokens tokens = .error error := agrees
      rw [refused]
    | mishap mishap => exact absurd agrees id
  | ok result =>
    obtain ⟨entities, rest⟩ := result
    rw [read] at agrees
    obtain ⟨tail, within, rfl, rfl, accepted⟩ := agrees
    rw [accepted]
    rfl

/-- A reading by descent has no mishap, whatever the source is. It accepts what is
accepted, and then it leaves no token over, and it refuses what is refused with the
same error. -/
theorem descent_has_no_mishap (source : String) :
    (∀ mishap, Descent.parse source ≠ .error (.mishap mishap)) ∧
    (∀ entities, Entity.parse source = .ok entities →
      Descent.parse source = .ok (entities, [])) ∧
    ∀ error, Entity.parse source = .error error →
      Descent.parse source = .error (.refused error) := by
  have reads := sequence_reads fun token (member : token ∈ Token.lex source) => lexed_member member
  have same : ofTokens (Token.lex source) = Entity.parse source := rfl
  unfold Descent.parse
  rw [reads, same]
  cases parsed : Entity.parse source with
  | error error =>
    refine ⟨fun mishap met => ?_, fun entities accepted => ?_, fun other refused => ?_⟩
    · cases met
    · cases accepted
    · cases refused
      rfl
  | ok entities =>
    have formed := (WellFormed.parsed_is_canonical parsed).2
    simp only [bind, Except.bind, formed]
    refine ⟨fun mishap met => ?_, fun others accepted => ?_, fun error refused => ?_⟩
    · cases met
    · cases accepted
      rfl
    · cases refused

end ValueGrammar.Mishaps
