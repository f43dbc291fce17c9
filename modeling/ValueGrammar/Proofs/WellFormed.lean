import ValueGrammar.Entity.Shape
import ValueGrammar.Proofs.Canonical
import ValueGrammar.Proofs.Grammar.Joining
import ValueGrammar.Proofs.LongestMatch

/-! Parsed sequences are canonical. The tokens of a source have the texts of
their rules, so every term of a derivation is a canonical term; nesting by
precedence turns any sequence of such terms into one that has a single kind of
combinator at every depth. -/
namespace ValueGrammar.WellFormed
open Entity Text Nesting Canonical Grammar Rules

variable {separator joint : Combinator} {kinds tighter : List Combinator} {term : Entity}
  {entities before : List Entity} {token : Token} {text : List Char}

/-- Canonical terms with combinators of these kinds between them. -/
inductive Alternates (kinds : List Combinator) : List Entity → Prop where
  | last {term : Entity} (canonical : CanonicalTerm term) : Alternates kinds [term]
  | more {term : Entity} {kind : Combinator} {rest : List Entity}
    (canonical : CanonicalTerm term) (among : kind ∈ kinds) (others : Alternates kinds rest) :
    Alternates kinds (term :: combinator kind :: rest)

private theorem term_stays (canonical : CanonicalTerm term) : term ≠ combinator separator := by
  rintro rfl
  cases canonical

/-- Cut at one kind of combinator, every part alternates with the other kinds. -/
theorem runs_alternate (alternates : Alternates (separator :: tighter) entities) :
    Alternates tighter (runs separator entities).1 ∧
      ∀ run ∈ (runs separator entities).2, Alternates tighter run := by
  induction alternates with
  | last canonical =>
    simp only [runs, term_stays canonical, if_false]
    exact ⟨.last canonical, by simp⟩
  | @more term kind rest canonical among others ih =>
    obtain ⟨front, parts⟩ := ih
    by_cases separates : kind = separator
    · subst separates
      simp only [runs, term_stays canonical, if_true, if_false, List.forall_mem_cons]
      exact ⟨.last canonical, front, parts⟩
    · have other : combinator kind ≠ combinator separator := fun same =>
        separates (combinator.inj same)
      have stays : kind ∈ tighter := (List.mem_cons.mp among).resolve_left separates
      simp only [runs, term_stays canonical, other, if_false]
      exact ⟨.more canonical stays front, parts⟩

/-- A part that is closed to one term is a canonical term. -/
theorem close_canonical {nested : List Entity → List Entity}
    (canonical : ∀ run, Alternates tighter run → CanonicalSequence (nested run))
    {run : List Entity} (alternates : Alternates tighter run) :
    CanonicalTerm (closeRun nested run) := by
  have plain : Repeated none := by
    rintro multiplier ⟨⟩
  cases alternates with
  | last alone => exact alone
  | more first among others =>
    exact .group (canonical _ (.more first among others)) plain

theorem join_canonical {first : Entity} {rest : List Entity} (canonical : CanonicalTerm first)
    (others : ∀ term ∈ rest, CanonicalTerm term) : Joined joint (join joint first rest) := by
  induction rest generalizing first with
  | nil => exact .last canonical
  | cons next rest ih =>
    rw [List.forall_mem_cons] at others
    exact .more canonical (ih others.1 others.2)

/-- Nesting leaves one kind of combinator at every depth, if all kinds that
occur are nested by. -/
theorem nest_by_canonical (alternates : Alternates kinds entities) :
    CanonicalSequence (nestBy kinds entities) := by
  induction kinds generalizing entities with
  | nil =>
    cases alternates with
    | last canonical => exact .terms .singleBar (.last canonical)
    | more canonical among others => cases among
  | cons separator tighter ih =>
    have uncut : (runs separator entities).2 = [] → (runs separator entities).1 = entities :=
      runs_uncut
    obtain ⟨front, parts⟩ := runs_alternate alternates
    rw [nestBy]
    rcases cut : runs separator entities with ⟨run, more⟩
    rw [cut] at uncut front parts
    cases more with
    | nil =>
      obtain rfl : run = entities := uncut rfl
      exact ih front
    | cons next more =>
      have closes : ∀ {part}, Alternates tighter part →
          CanonicalTerm (closeRun (nestBy tighter) part) := fun alternates =>
        close_canonical (fun _ => ih) alternates
      refine .terms separator (join_canonical (closes front) ?_)
      intro term member
      obtain ⟨part, among, rfl⟩ := List.mem_map.mp member
      exact closes (parts part among)

/-- Every combinator has its place in the order of precedence. -/
theorem nest_alternates (alternates : Alternates Combinator.loosestFirst entities) :
    CanonicalSequence (nest entities) :=
  nest_by_canonical alternates

private theorem trim_end_starts (text : List Char) : trimEnd text <+: text := by
  have shorter := List.dropWhile_suffix isWhiteSpace (l := text.reverse)
  rw [← List.reverse_prefix, List.reverse_reverse] at shorter
  exact shorter

private theorem trim_member {c : Char} (member : c ∈ trim text) : c ∈ text :=
  (List.dropWhile_sublist isWhiteSpace).subset ((trim_end_starts _).subset member)

private theorem trim_first {c : Char} (first : (trim text).head? = some c) :
    isWhiteSpace c = false := by
  obtain ⟨rest, trimmed⟩ := List.head?_eq_some_iff.mp first
  obtain ⟨tail, whole⟩ := trim_end_starts (text.dropWhile isWhiteSpace)
  rw [trim] at trimmed
  rw [trimmed] at whole
  exact Runs.run_ends whole.symm

private theorem trim_last {c : Char} (last : (trim text).getLast? = some c) :
    isWhiteSpace c = false := by
  rw [trim, trimEnd, List.getLast?_reverse] at last
  obtain ⟨rest, stops⟩ := List.head?_eq_some_iff.mp last
  exact Runs.run_ends stops

/-- What is kept of a data type is a reference: a range is cut off, and then
the white space around the name. -/
theorem data_type_reference {inner : List Char} (plain : ∀ c ∈ inner, c ≠ '<' ∧ c ≠ '>') :
    ∃ kept, Reference kept ∧
      dataTypeText (String.ofList ('<' :: inner ++ ['>'])) =
        String.ofList ('<' :: kept ++ ['>']) := by
  have stripped : ((String.ofList ('<' :: inner ++ ['>'])).toList.drop 1).dropLast = inner := by
    simp
  unfold dataTypeText
  simp only [stripped]
  split
  · exact ⟨_, ⟨plain, .inl rfl⟩, rfl⟩
  · refine ⟨_, ⟨?_, .inr ⟨?_, fun c => trim_first, fun c => trim_last⟩⟩, rfl⟩
    · intro c member
      exact plain c ((List.takeWhile_sublist _).subset (trim_member member))
    · intro ranged
      have outside := List.mem_takeWhile_imp (trim_member ranged)
      cases outside

/-- A token that is a term by itself is a canonical term. -/
theorem word_canonical (plain : isWord token.kind = true)
    (accepts : Accepts token.kind token.text.toList) : CanonicalTerm (wordEntity token) := by
  have alone : Repeated none := by
    rintro multiplier ⟨⟩
  obtain ⟨kind, word, span⟩ := token
  obtain ⟨text, rfl⟩ : ∃ text, word = String.ofList text :=
    ⟨word.toList, String.ofList_toList.symm⟩
  dsimp only at plain accepts
  rw [String.toList_ofList] at accepts
  cases accepts with
  | dataType filled inside =>
    obtain ⟨kept, reference, text⟩ := data_type_reference inside
    rw [wordEntity]
    dsimp only
    rw [text]
    exact .dataType reference alone
  | @quotedKeyword inner unquoted =>
    have stripped : inside (String.ofList ('\x27' :: inner ++ ['\x27'])) = inner := by
      simp [inside]
    rw [wordEntity]
    dsimp only
    rw [stripped]
    exact .keyword (by simpa using fun member => unquoted _ member rfl) alone
  | keyword filled plain =>
    refine .keyword ?_ alone
    rw [String.toList_ofList]
    intro member
    exact plain _ member (by decide)
  | parenOpen | parenClose => exact .keyword (by simp) alone
  | _ => cases plain

/-- The bounds of a range are read only if they are in order. -/
theorem repeats_in_order {multiplier : Multiplier} (written : Repeats token multiplier) :
    multiplier.InOrder := by
  cases written with
  | asterisk | plusSign | questionMark | hashMark | exclamationPoint => trivial
  | curlyRange kind bounds =>
    generalize inside token.text = inner at bounds
    cases bounds with
    | exactly count => exact UInt32.le_refl _
    | atLeast low => trivial
    | between low high ordered => exact ordered

theorem repeated_canonical (canonical : CanonicalTerm term) (multipliers : List Repeat) :
    CanonicalTerm (repeatedBy term multipliers) := by
  cases multipliers with
  | nil => exact canonical
  | cons first later =>
    have repeated : Repeated (some first.multiplier) := by
      rintro multiplier ⟨⟩
      exact repeats_in_order first.written
    cases canonical with
    | keyword unquoted => exact .keyword unquoted repeated
    | dataType reference => exact .dataType reference repeated
    | group body => exact .group body repeated
    | function named => exact .function named

/-- The tokens have texts of their rules, those apart that have no rule. -/
def Spelled (tokens : List Token) : Prop :=
  ∀ token ∈ tokens, token.kind ≠ .unexpected → Accepts token.kind token.text.toList

private theorem spelled_append {first second : List Token} :
    Spelled (first ++ second) ↔ Spelled first ∧ Spelled second :=
  List.forall_mem_append

private theorem spelled_cons {rest : List Token} :
    Spelled (token :: rest) ↔
      (token.kind ≠ .unexpected → Accepts token.kind token.text.toList) ∧ Spelled rest :=
  List.forall_mem_cons

private theorem call_canonical (opens : token.kind = .functionOpen)
    (accepts : Accepts token.kind token.text.toList) :
    CanonicalTerm (function (String.ofList token.text.toList.dropLast)) := by
  rw [opens] at accepts
  generalize token.text.toList = text at accepts ⊢
  cases accepts with
  | functionOpen starts named =>
    refine .function ?_
    rw [List.dropLast_concat, String.toList_ofList]
    exact name_cons_iff.mpr ⟨starts, named⟩

mutual

/-- A base of well-spelled tokens is a canonical term. -/
theorem base_canonical (base : Base) (spelled : Spelled base.tokens) :
    CanonicalTerm base.entity := by
  match base with
  | .word token plain =>
    rw [Base.tokens, spelled_cons] at spelled
    have known : token.kind ≠ .unexpected := by
      intro stray
      rw [stray] at plain
      cases plain
    exact word_canonical plain (spelled.1 known)
  | .group opening body closing opens closes =>
    rw [Base.tokens, spelled_append, spelled_cons] at spelled
    exact .group (sequence_canonical body spelled.1.2) (by rintro multiplier ⟨⟩)
  | .call opening arguments closing opens balanced closes =>
    rw [Base.tokens, spelled_append, spelled_cons] at spelled
    exact call_canonical opens (spelled.1.1 (by simp [opens]))

theorem term_canonical (term : Grammar.Term) (spelled : Spelled term.tokens) :
    CanonicalTerm term.entity := by
  match term with
  | .repeated base multipliers =>
    rw [Term.tokens, spelled_append] at spelled
    exact repeated_canonical (base_canonical base spelled.1) multipliers

/-- Nesting the items of a well-spelled sequence makes them canonical. -/
theorem sequence_canonical (sequence : Sequence) (spelled : Spelled sequence.tokens) :
    CanonicalSequence (nest sequence.items) := by
  match sequence with
  | .empty => exact .empty
  | .terms first rest =>
    rw [Sequence.tokens, spelled_append] at spelled
    exact nest_alternates (rest_alternates (term_canonical first spelled.1) rest spelled.2)

theorem rest_alternates {term : Entity} (canonical : CanonicalTerm term) (rest : Rest)
    (spelled : Spelled rest.tokens) : Alternates Combinator.loosestFirst (term :: rest.items) := by
  match rest with
  | .done => exact .last canonical
  | .next link next others =>
    rw [Rest.tokens, spelled_append, spelled_append] at spelled
    have among : joining link ∈ Combinator.loosestFirst := by
      cases joining link <;> decide
    exact .more canonical among
      (rest_alternates (term_canonical next spelled.2.1) others spelled.2.2)

end

private theorem unmixed (same : ∀ kind ∈ entities.filterMap combinator?, kind = joint) :
    mixture? entities = none := by
  unfold mixture?
  cases kinds : entities.filterMap combinator? with
  | nil => rfl
  | cons first others =>
    rw [kinds, List.forall_mem_cons] at same
    have alike : others.find? (· ≠ first) = none := by
      rw [List.find?_eq_none]
      intro kind member
      simp [same.1, same.2 kind member]
    simp only [alike, Option.map_none]

/-- A sequence that a term ends, all of whose combinators are alike, is in order. -/
private theorem closes (same : ∀ kind ∈ before.filterMap combinator?, kind = joint)
    (plain : term.isCombinator = false) : malformationFrom? (term :: before) [] = none := by
  have alike : ∀ kind ∈ (term :: before).reverse.filterMap combinator?, kind = joint := by
    intro kind member
    rw [List.filterMap_reverse, List.mem_reverse] at member
    cases term with
    | combinator other => cases plain
    | keyword | dataType | group | function => exact same kind member
  have finished : unfinished? (term :: before).reverse = none := by
    simp [unfinished?, plain]
  rw [malformationFrom?, unmixed alike, finished]
  rfl

mutual

theorem inner_canonical {term : Entity} (canonical : CanonicalTerm term) : inner? term = none := by
  match canonical with
  | .keyword .. | .dataType .. | .function _ => rfl
  | .group body _ => exact malformation_canonical body

/-- Nothing is wrong with the shape of a canonical sequence. -/
theorem malformation_canonical {entities : List Entity} (canonical : CanonicalSequence entities) :
    malformation? entities = none := by
  match canonical with
  | .empty => rfl
  | .terms joint joined => exact joined_canonical joined rfl (by simp)

theorem joined_canonical {joint : Combinator} {entities before : List Entity}
    (joined : Joined joint entities) (even : before.length % 2 = 0)
    (same : ∀ kind ∈ before.filterMap combinator?, kind = joint) :
    malformationFrom? before entities = none := by
  match joined with
  | .last canonical =>
    have plain := canonical_plain canonical
    rw [malformationFrom?, plain, even, inner_canonical canonical]
    exact closes same plain
  | @Joined.more _ term rest canonical others =>
    have plain := canonical_plain canonical
    have odd : (before.length + 1) % 2 = 1 := by omega
    have alike : ∀ kind ∈ (combinator joint :: term :: before).filterMap combinator?,
        kind = joint := by
      cases term with
      | combinator other => cases plain
      | keyword | dataType | group | function =>
        intro kind member
        rcases List.mem_cons.mp member with rfl | member
        · rfl
        · exact same kind member
    have again : (combinator joint :: term :: before).length % 2 = 0 := by
      simp only [List.length_cons]
      omega
    have next := joined_canonical others again alike
    rw [malformationFrom?, plain, even, inner_canonical canonical, malformationFrom?,
      List.length_cons, odd, next]
    rfl

end

/-- A parsed sequence is canonical. -/
theorem parse_canonical {source : String} (parsed : parse source = .ok entities) :
    CanonicalSequence entities := by
  obtain ⟨derivation, whole, rfl⟩ := (of_tokens_iff _ _).mp parsed
  refine sequence_canonical derivation ?_
  intro token member known
  rw [whole] at member
  exact LongestMatch.lexed_accepts member known

/-- Every sequence that is parsed has, at every depth, the shape that sequences
are checked for and texts that can be read back. -/
theorem parsed_is_canonical {source : String} (parsed : parse source = .ok entities) :
    CanonicalSequence entities ∧ malformation? entities = none := by
  have canonical := parse_canonical parsed
  exact ⟨canonical, malformation_canonical canonical⟩

/-- Three kinds of combinators are nested here, and a range is cut off. -/
theorem mixed_source_is_canonical :
    ∃ entities, parse "a <b [0,1]>\x7b0,2\x7d && \x27[\x27 | [ f(*) ]#" = .ok entities ∧
      entities = [group [group [keyword "a" none, combinator .juxtaposition,
          dataType "<b>" (some (.range 0 (some 2)))] none, combinator .doubleAmpersand,
          keyword "[" none] none,
        combinator .singleBar, group [function "f"] (some .hashMark)] ∧
      CanonicalSequence entities ∧ malformation? entities = none := by
  have parsed : parse "a <b [0,1]>\x7b0,2\x7d && \x27[\x27 | [ f(*) ]#" =
      .ok [group [group [keyword "a" none, combinator .juxtaposition,
          dataType "<b>" (some (.range 0 (some 2)))] none, combinator .doubleAmpersand,
          keyword "[" none] none,
        combinator .singleBar, group [function "f"] (some .hashMark)] := by
    decide +kernel
  exact ⟨_, parsed, rfl, parsed_is_canonical parsed⟩

end ValueGrammar.WellFormed
