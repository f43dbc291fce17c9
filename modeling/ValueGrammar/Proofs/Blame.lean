import ValueGrammar.Proofs.Grammar.Completeness
import ValueGrammar.Proofs.Tiling

/-! What an error says of its source. Reading keeps the place of every token that
has opened something until it is closed. An error is about such a token or the
one being read, so that its span cuts out of the source the very text that the
error tells of. -/
namespace ValueGrammar.Blame
open Entity Grammar Rules Slices

/-- A token of this kind and text can be the cause of an error. -/
def Gives (token : Token) : ParseError.Cause → Prop
  | .unexpectedToken text | .misplacedMultiplier text | .invalidRange text => token.text = text
  | .danglingCombinator kind => token.kind.combinator? = some kind
  | .unclosedGroup => token.kind = .bracketOpen
  | .unclosedFunction name =>
    token.kind = .functionOpen ∧ name = String.ofList token.text.toList.dropLast

/-- The error is about one of the tokens, at its place. -/
def Blames (tokens : List Token) (error : ParseError) : Prop :=
  ∃ token ∈ tokens, token.span = error.span ∧ Gives token error.cause

/-- One of the tokens has opened what is still open: the combinator that waits
for an operand, each of the groups and the function. -/
structure Traced (tokens : List Token) (reading : Reading) : Prop where
  pending : ∀ kind span, reading.current.pending = some (kind, span) →
    Blames tokens ⟨.danglingCombinator kind, span⟩
  outer : ∀ frame ∈ reading.outer, Blames tokens ⟨.unclosedGroup, frame.1⟩
  call : ∀ call, reading.call = some call →
    Blames tokens ⟨.unclosedFunction call.name, call.span⟩

/-- What is open or what is wrong goes back to one of the tokens. -/
inductive Accounted (tokens : List Token) : Except ParseError Reading → Prop where
  | ok {reading : Reading} (traced : Traced tokens reading) : Accounted tokens (.ok reading)
  | error {error : ParseError} (blames : Blames tokens error) : Accounted tokens (.error error)

variable {tokens rest : List Token} {token : Token} {reading next : Reading} {error : ParseError}
  {kind : Combinator} {cause : ParseError.Cause} {source : String}

private theorem blames_member (member : token ∈ tokens) (gives : Gives token cause) :
    Blames tokens ⟨cause, token.span⟩ :=
  ⟨token, member, rfl, gives⟩

theorem traced_start (tokens : List Token) : Traced tokens {} where
  pending _ _ waiting := by cases waiting
  outer _ member := by cases member
  call _ opened := by cases opened

/-- A term is an operand for the combinator that waits, and opens nothing. -/
private theorem traced_term (traced : Traced tokens reading) (term : Entity) :
    Traced tokens (reading.addTerm term) where
  pending kind span waiting := by
    rw [Reading.addTerm, add_term_pending] at waiting
    cases waiting
  outer := traced.outer
  call := traced.call

private theorem repeat_pending (progress : Progress) (multiplier : Multiplier) :
    (progress.repeatLast multiplier).pending = progress.pending := by
  obtain ⟨items, pending⟩ := progress
  cases items <;> rfl

private theorem accounted_combinator (traced : Traced tokens reading) (member : token ∈ tokens)
    (written : token.kind.combinator? = some kind) :
    Accounted tokens (reading.readCombinator kind token.span) := by
  have blames : Blames tokens ⟨.danglingCombinator kind, token.span⟩ :=
    blames_member member written
  unfold Reading.readCombinator
  split
  · refine .ok ⟨fun other span waiting => ?_, traced.outer, traced.call⟩
    obtain ⟨rfl, rfl⟩ := Prod.mk.inj (Option.some.inj waiting)
    exact blames
  · exact .error blames

private theorem accounted_multiplier (traced : Traced tokens reading) (member : token ∈ tokens) :
    Accounted tokens (reading.readMultiplier token) := by
  unfold Reading.readMultiplier
  split
  · split
    · rename_i multiplier _
      refine .ok ⟨fun kind span waiting => ?_, traced.outer, traced.call⟩
      rw [repeat_pending] at waiting
      exact traced.pending kind span waiting
    · exact .error (blames_member member rfl)
  · exact .error (blames_member member rfl)

private theorem accounted_close (traced : Traced tokens reading) (member : token ∈ tokens) :
    Accounted tokens (reading.readClose token) := by
  obtain ⟨⟨items, pending⟩, outer, call⟩ := reading
  cases outer with
  | nil => exact .error (blames_member member rfl)
  | cons frame outer =>
    cases pending with
    | some waiting => exact .error (traced.pending waiting.1 waiting.2 rfl)
    | none =>
      have around : ∀ frame ∈ outer, Blames tokens ⟨.unclosedGroup, frame.1⟩ :=
        fun other among => traced.outer other (List.mem_cons_of_mem frame among)
      refine .ok ⟨fun kind span waiting => ?_, around, fun call opened => ?_⟩
      · rw [add_term_pending] at waiting
        cases waiting
      · cases opened

private theorem accounted_read (traced : Traced tokens reading) (member : token ∈ tokens) :
    Accounted tokens (reading.read token) := by
  unfold Reading.read
  split
  · exact .error (blames_member member rfl)
  · rename_i opens
    refine .ok ⟨fun _ _ waiting => ?_, fun frame among => ?_, traced.call⟩
    · cases waiting
    · rcases List.mem_cons.mp among with rfl | among
      · exact blames_member member opens
      · exact traced.outer frame among
  · exact accounted_close traced member
  · rename_i joins
    exact accounted_combinator traced member (congrArg TokenKind.combinator? joins)
  · rename_i joins
    exact accounted_combinator traced member (congrArg TokenKind.combinator? joins)
  · rename_i joins
    exact accounted_combinator traced member (congrArg TokenKind.combinator? joins)
  iterate 6 · exact accounted_multiplier traced member
  iterate 5 · exact .ok (traced_term traced _)
  · rename_i opens
    refine .ok ⟨traced.pending, traced.outer, fun call opened => ?_⟩
    obtain rfl := Option.some.inj opened
    exact blames_member member ⟨opens, rfl⟩

/-- The arguments of a function open and close nothing but the function. -/
private theorem traced_skip (traced : Traced tokens reading) {call : Call}
    (opened : reading.call = some call) (token : Token) :
    Traced tokens (reading.skip call token) := by
  have deeper : ∀ depth, Traced tokens { reading with call := some { call with depth } } := by
    intro depth
    refine ⟨traced.pending, traced.outer, fun other same => ?_⟩
    obtain rfl := Option.some.inj same
    exact traced.call call opened
  unfold Reading.skip
  split
  · exact deeper _
  · exact deeper _
  · exact deeper _
  · have closed : Traced tokens { current := reading.current, outer := reading.outer } :=
      ⟨traced.pending, traced.outer, fun _ opened => by cases opened⟩
    exact traced_term closed _
  · exact traced

/-- One more of the tokens adds nothing that goes back to another one. -/
theorem accounted_step (traced : Traced tokens reading) (member : token ∈ tokens) :
    Accounted tokens (reading.step token) := by
  unfold Reading.step
  split
  · rename_i call opened
    exact .ok (traced_skip traced opened token)
  · exact accounted_read traced member

theorem accounted_run (traced : Traced tokens reading) (among : ∀ token ∈ rest, token ∈ tokens) :
    Accounted tokens (reading.run rest) := by
  induction rest generalizing reading with
  | nil => exact .ok traced
  | cons token rest ih =>
    obtain ⟨member, among⟩ := List.forall_mem_cons.mp among
    have stepped := accounted_step traced member
    unfold Reading.run
    generalize reading.step token = outcome at stepped ⊢
    cases stepped with
    | ok traced => exact ih traced among
    | error blames => exact .error blames

/-- At the end only what is still open is an error. -/
private theorem finish_blames (traced : Traced tokens reading)
    (failed : reading.finish = .error error) : Blames tokens error := by
  obtain ⟨⟨items, pending⟩, outer, call⟩ := reading
  cases call with
  | some call =>
    cases failed
    exact traced.call call rfl
  | none =>
    cases pending with
    | some waiting =>
      cases failed
      exact traced.pending waiting.1 waiting.2 rfl
    | none =>
      cases outer with
      | cons frame outer =>
        cases failed
        exact traced.outer frame List.mem_cons_self
      | nil => cases failed

/-- Every error is about one of the tokens that are read. -/
theorem of_tokens_blames (failed : ofTokens tokens = .error error) : Blames tokens error := by
  have ran := accounted_run (traced_start tokens) (fun _ member => member)
  unfold ofTokens at failed
  generalize Reading.run {} tokens = outcome at ran failed
  cases ran with
  | ok traced => exact finish_blames traced failed
  | error blames =>
    cases failed
    exact blames

/-- The text that an error tells of. -/
def told : ParseError.Cause → String
  | .unexpectedToken text | .misplacedMultiplier text | .invalidRange text => text
  | .danglingCombinator kind => kind.text
  | .unclosedGroup => "["
  | .unclosedFunction name => name ++ "("

/-- The token of a combinator is written as the combinator is. -/
private theorem combinator_text (accepts : Accepts token.kind token.text.toList)
    (written : token.kind.combinator? = some kind) :
    token.text = kind.text ∧ kind ≠ .juxtaposition := by
  obtain ⟨sort, text, span⟩ := token
  dsimp only at accepts written ⊢
  rw [← String.toList_inj]
  generalize text.toList = chars at accepts ⊢
  cases accepts with
  | doubleAmpersand | doubleBar | singleBar =>
    obtain rfl := Option.some.inj written
    exact ⟨rfl, by decide⟩
  | _ => cases written

/-- What opens a group is a bracket. -/
private theorem bracket_text (accepts : Accepts .bracketOpen token.text.toList) :
    token.text = "[" := by
  rw [← String.toList_inj]
  generalize token.text.toList = chars at accepts ⊢
  cases accepts
  rfl

/-- What opens a function is its name with a parenthesis. -/
private theorem opener_text (accepts : Accepts .functionOpen token.text.toList) :
    token.text = String.ofList token.text.toList.dropLast ++ "(" := by
  rw [← String.toList_inj, String.toList_append, String.toList_ofList]
  generalize token.text.toList = chars at accepts ⊢
  cases accepts
  rw [List.dropLast_concat]
  rfl

/-- A token with a text of its rule has the text that an error about it tells of. -/
theorem gives_text (gives : Gives token cause)
    (accepts : token.kind ≠ .unexpected → Accepts token.kind token.text.toList) :
    token.text = told cause ∧ cause ≠ .danglingCombinator .juxtaposition := by
  cases cause with
  | unexpectedToken text | misplacedMultiplier text | invalidRange text =>
    exact ⟨gives, by simp⟩
  | danglingCombinator kind =>
    have known : token.kind ≠ .unexpected := by
      intro unknown
      rw [Gives, unknown] at gives
      cases gives
    obtain ⟨text, written⟩ := combinator_text (accepts known) gives
    exact ⟨text, by simpa using written⟩
  | unclosedGroup =>
    have opens : token.kind = .bracketOpen := gives
    rw [opens] at accepts
    exact ⟨bracket_text (accepts (by simp)), by simp⟩
  | unclosedFunction name =>
    obtain ⟨opens, rfl⟩ := gives
    rw [opens] at accepts
    exact ⟨opener_text (accepts (by simp)), by simp⟩

/-- A source that does not parse has a token at the place of the error. The span
of the error cuts out of the source the text that the error tells of, and
juxtaposition, which is not written, is never said to lack an operand. -/
theorem errors_tell_of_the_source (failed : parse source = .error error) :
    (∃ token ∈ Token.lex source, token.span = error.span) ∧
      Cuts source error.span (told error.cause) ∧
      error.cause ≠ .danglingCombinator .juxtaposition := by
  obtain ⟨token, member, place, gives⟩ := of_tokens_blames failed
  obtain ⟨text, written⟩ := gives_text gives (LongestMatch.lexed_accepts member)
  refine ⟨⟨token, member, place⟩, ?_, written⟩
  rw [← place, ← text]
  exact Tiling.lexed_cut member

/-- The bar is found to lack an operand at the bracket, and the function to be
open at the end; both errors tell of where they began. -/
theorem bar_and_function_are_told :
    ∃ bar function : String × ParseError,
      bar = ("[ \u00e9 || ] a", ⟨.danglingCombinator .doubleBar, ⟨5, 7⟩⟩) ∧
      function = ("\u00e9 [ <\u00fc> && calc( [ ]", ⟨.unclosedFunction "calc", ⟨13, 18⟩⟩) ∧
      ∀ failure ∈ [bar, function], parse failure.1 = .error failure.2 ∧
        (∃ token ∈ Token.lex failure.1, token.span = failure.2.span) ∧
        Cuts failure.1 failure.2.span (told failure.2.cause) ∧
        failure.2.cause ≠ .danglingCombinator .juxtaposition := by
  have bar : parse "[ \u00e9 || ] a" = .error ⟨.danglingCombinator .doubleBar, ⟨5, 7⟩⟩ := by
    decide +kernel
  have function : parse "\u00e9 [ <\u00fc> && calc( [ ]" =
      .error ⟨.unclosedFunction "calc", ⟨13, 18⟩⟩ := by
    decide +kernel
  refine ⟨_, _, rfl, rfl, fun failure member => ?_⟩
  simp only [List.mem_cons, List.not_mem_nil, or_false] at member
  rcases member with rfl | rfl
  · exact ⟨bar, errors_tell_of_the_source bar⟩
  · exact ⟨function, errors_tell_of_the_source function⟩

end ValueGrammar.Blame
