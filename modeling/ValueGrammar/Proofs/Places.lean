import Mathlib.Data.List.Forall2
import ValueGrammar.Entity.OfTokens

/-! Where a token stands decides nothing but where an error is reported. Two
lists of tokens with the same kinds and texts, at any places, are read alike. -/
namespace ValueGrammar.Places
open Entity

variable {places : Span → Span → Prop}

/-- Tokens of one kind and text, at related places. -/
structure SameToken (places : Span → Span → Prop) (left right : Token) : Prop where
  kind : left.kind = right.kind
  text : left.text = right.text
  span : places left.span right.span

/-- Two outcomes are related results, or errors of one cause at related places. -/
inductive SameOutcome (places : Span → Span → Prop) (same : α → β → Prop) :
    Except ParseError α → Except ParseError β → Prop where
  | ok (results : same a b) : SameOutcome places same (.ok a) (.ok b)
  | error (cause : ParseError.Cause) (spans : places start stop) :
      SameOutcome places same (.error ⟨cause, start⟩) (.error ⟨cause, stop⟩)

/-- What is made of the result leaves the errors as they are. -/
theorem same_map {left right : Except ParseError α} (same : SameOutcome places Eq left right)
    (f : α → β) :
    SameOutcome places Eq (left.map f) (right.map f) := by
  cases same with
  | ok results => exact .ok (congrArg f results)
  | error cause spans => exact .error cause spans

structure SameProgress (places : Span → Span → Prop) (left right : Progress) : Prop where
  items : left.items = right.items
  pending : Option.Rel (fun a b => a.1 = b.1 ∧ places a.2 b.2) left.pending right.pending

structure SameCall (places : Span → Span → Prop) (left right : Call) : Prop where
  name : left.name = right.name
  span : places left.span right.span
  depth : left.depth = right.depth

structure SameReading (places : Span → Span → Prop) (left right : Reading) : Prop where
  current : SameProgress places left.current right.current
  outer : List.Forall₂ (fun a b => places a.1 b.1 ∧ SameProgress places a.2 b.2)
    left.outer right.outer
  call : Option.Rel (SameCall places) left.call right.call

private theorem same_start : SameReading places {} {} := ⟨⟨rfl, .none⟩, .nil, .none⟩

private theorem same_ends (same : SameProgress places left right) :
    left.endsWithTerm = right.endsWithTerm := by
  obtain ⟨items, pending⟩ := left
  obtain ⟨others, waiting⟩ := right
  obtain ⟨rfl, joint⟩ := same
  cases joint <;> rfl

private theorem same_entities (same : SameProgress places left right) :
    left.entities = right.entities := by
  unfold Progress.entities
  rw [same.items]

private theorem same_add (same : SameProgress places left right) (term : Entity) :
    SameProgress places (left.addTerm term) (right.addTerm term) := by
  obtain ⟨items, pending⟩ := left
  obtain ⟨others, waiting⟩ := right
  obtain ⟨rfl, joint⟩ := same
  cases items with
  | nil => exact ⟨rfl, .none⟩
  | cons last items =>
    cases joint with
    | none => exact ⟨rfl, .none⟩
    | some kinds =>
      rename_i a b
      obtain ⟨kind, span⟩ := a
      obtain ⟨rfl, spans⟩ := kinds
      exact ⟨rfl, .none⟩

private theorem same_repeat (same : SameProgress places left right) (multiplier : Multiplier) :
    SameProgress places (left.repeatLast multiplier) (right.repeatLast multiplier) := by
  obtain ⟨items, pending⟩ := left
  obtain ⟨others, waiting⟩ := right
  obtain ⟨rfl, joint⟩ := same
  cases items with
  | nil => exact ⟨rfl, joint⟩
  | cons last items => exact ⟨rfl, joint⟩

private theorem same_read_combinator (same : SameReading places left right)
    (spans : places start stop) (kind : Combinator) :
    SameOutcome places (SameReading places) (left.readCombinator kind start)
      (right.readCombinator kind stop) := by
  unfold Reading.readCombinator
  rw [same_ends same.current]
  split
  · exact .ok ⟨⟨same.current.items, .some ⟨rfl, spans⟩⟩, same.outer, same.call⟩
  · exact .error _ spans

private theorem same_read_multiplier (same : SameReading places left right)
    (tokens : SameToken places token other) :
    SameOutcome places (SameReading places) (left.readMultiplier token)
      (right.readMultiplier other) := by
  have repeats : multiplierOf token = multiplierOf other := by
    unfold multiplierOf
    rw [tokens.kind, tokens.text]
  unfold Reading.readMultiplier
  rw [same_ends same.current, repeats, tokens.text]
  split
  · cases multiplierOf other with
    | some multiplier => exact .ok ⟨same_repeat same.current _, same.outer, same.call⟩
    | none => exact .error _ tokens.span
  · exact .error _ tokens.span

private theorem same_read_close (same : SameReading places left right)
    (tokens : SameToken places token other) :
    SameOutcome places (SameReading places) (left.readClose token) (right.readClose other) := by
  obtain ⟨current, outer, call⟩ := left
  obtain ⟨current', outer', call'⟩ := right
  obtain ⟨progresses, frames, calls⟩ := same
  unfold Reading.readClose
  dsimp only at progresses frames calls ⊢
  cases frames with
  | nil =>
    rw [tokens.text]
    exact .error _ tokens.span
  | cons frame frames =>
    have groups := same_entities progresses
    obtain ⟨items, pending⟩ := current
    obtain ⟨others, waiting⟩ := current'
    obtain ⟨rfl, joint⟩ := progresses
    cases joint with
    | none =>
      dsimp only
      rw [groups]
      exact .ok ⟨same_add frame.2 _, frames, .none⟩
    | some kinds =>
      obtain ⟨kinds, spans⟩ := kinds
      dsimp only
      rw [kinds]
      exact .error _ spans

private theorem same_read (same : SameReading places left right)
    (tokens : SameToken places token other) :
    SameOutcome places (SameReading places) (left.read token) (right.read other) := by
  have spans := tokens.span
  unfold Reading.read
  rw [← tokens.kind, ← tokens.text]
  split
  · exact .error _ spans
  · exact .ok ⟨⟨rfl, .none⟩, .cons ⟨spans, same.current⟩ same.outer, same.call⟩
  · exact same_read_close same tokens
  · exact same_read_combinator same spans _
  · exact same_read_combinator same spans _
  · exact same_read_combinator same spans _
  iterate 6 · exact same_read_multiplier same tokens
  iterate 5 · exact .ok ⟨same_add same.current _, same.outer, same.call⟩
  · exact .ok ⟨same.current, same.outer, .some ⟨rfl, spans, rfl⟩⟩

private theorem same_skip (same : SameReading places left right)
    (calls : SameCall places call calling) (tokens : SameToken places token other) :
    SameReading places (left.skip call token) (right.skip calling other) := by
  obtain ⟨name, span, depth⟩ := call
  obtain ⟨name', span', depth'⟩ := calling
  obtain ⟨rfl, spans, rfl⟩ := calls
  unfold Reading.skip
  rw [← tokens.kind]
  dsimp only
  split
  · exact ⟨same.current, same.outer, .some ⟨rfl, spans, rfl⟩⟩
  · exact ⟨same.current, same.outer, .some ⟨rfl, spans, rfl⟩⟩
  · exact ⟨same.current, same.outer, .some ⟨rfl, spans, rfl⟩⟩
  · exact ⟨same_add same.current _, same.outer, .none⟩
  · exact same

/-- One step over alike tokens leaves two alike readings alike. -/
theorem same_step (same : SameReading places left right)
    (tokens : SameToken places token other) :
    SameOutcome places (SameReading places) (left.step token) (right.step other) := by
  obtain ⟨current, outer, call⟩ := left
  obtain ⟨current', outer', call'⟩ := right
  have calls := same.call
  unfold Reading.step
  dsimp only at calls ⊢
  cases calls with
  | none => exact same_read same tokens
  | some calls => exact .ok (same_skip same calls tokens)

theorem same_run (same : SameReading places left right)
    (tokens : List.Forall₂ (SameToken places) first second) :
    SameOutcome places (SameReading places) (left.run first) (right.run second) := by
  induction tokens generalizing left right with
  | nil => exact .ok same
  | @cons token other _ _ tokens _ ih =>
    have stepped := same_step same tokens
    unfold Reading.run
    generalize left.step token = outcome at stepped ⊢
    generalize right.step other = result at stepped ⊢
    cases stepped with
    | ok results => exact ih results
    | error cause spans => exact .error cause spans

private theorem same_finish (same : SameReading places left right) :
    SameOutcome places Eq left.finish right.finish := by
  obtain ⟨⟨items, pending⟩, outer, call⟩ := left
  obtain ⟨⟨others, waiting⟩, outer', call'⟩ := right
  obtain ⟨progresses, frames, calls⟩ := same
  have groups := same_entities progresses
  obtain ⟨rfl, joint⟩ := progresses
  unfold Reading.finish
  dsimp only at joint frames calls ⊢
  cases calls with
  | some calls =>
    dsimp only
    rw [calls.name]
    exact .error _ calls.span
  | none =>
    cases joint with
    | some kinds =>
      obtain ⟨kinds, spans⟩ := kinds
      dsimp only
      rw [kinds]
      exact .error _ spans
    | none =>
      cases frames with
      | nil => exact .ok groups
      | cons frame frames => exact .error _ frame.1

/-- Tokens that are alike but for their places write the same sequence, or are
refused for the same cause at related places. -/
theorem of_tokens_alike (tokens : List.Forall₂ (SameToken places) left right) :
    SameOutcome places Eq (ofTokens left) (ofTokens right) := by
  have ran := same_run same_start tokens
  unfold ofTokens
  generalize Reading.run {} left = outcome at ran ⊢
  generalize Reading.run {} right = result at ran ⊢
  cases ran with
  | ok results => exact same_finish results
  | error cause spans => exact .error cause spans

end ValueGrammar.Places
