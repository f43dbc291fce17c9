import ValueGrammar.Proofs.Canonical
import ValueGrammar.Proofs.Grammar.Soundness
import ValueGrammar.Proofs.Spelling

/-! Canonical sequences are written so that they can be read back. Every word of
the text is spelled as the tokens of one derivation, and nesting finds the
sequence as it was written. -/
namespace ValueGrammar.Rendering
open Entity Grammar Canonical Lexing Lexemes Spelling

variable {kind sign : TokenKind} {word last other : String} {inner : List Char}
  {entity : Entity} {entities : List Entity} {multiplier : Option Multiplier}

/-- The text that a data type is written as. Nothing between the brackets would
be no data type, so a space is written there. -/
def dataTypeWord (value : String) : String := if value = "<>" then "< >" else value

/-- The last word of a component and its multiplier, which may be set apart. -/
def closing (spaced : Bool) (last : String) : Option Multiplier → List String
  | none => [last]
  | some multiplier => if spaced then [last, multiplier.text] else [last ++ multiplier.text]

mutual

/-- The words of an entity. Juxtaposition has none. -/
def entityWords (spaced : Bool) : Entity → List String
  | .keyword value multiplier => closing spaced ("\x27" ++ value ++ "\x27") multiplier
  | .dataType value multiplier => closing spaced (dataTypeWord value) multiplier
  | .group entities multiplier =>
    "[" :: sequenceWords spaced entities ++ closing spaced "]" multiplier
  | .combinator .juxtaposition => []
  | .combinator kind => [kind.text]
  | .function name => [name ++ "(", ")"]

def sequenceWords (spaced : Bool) : List Entity → List String
  | [] => []
  | entity :: rest => entityWords spaced entity ++ sequenceWords spaced rest

end

/-- A sequence as text: its words with single spaces between them. -/
def render (spaced : Bool) (entities : List Entity) : String :=
  " ".intercalate (sequenceWords spaced entities)

/-- A token at no place in particular. -/
private def written (kind : TokenKind) (text : String) : Token := ⟨kind, text, ⟨0, 0⟩⟩

/-- A finished lexeme is a word of its own. -/
private theorem spells_closed (closed : Closed kind word.toList) (accepted : kind ≠ .unexpected) :
    Spells [word] [written kind word] := by
  have alone := closed_spelling closed []
  rw [List.append_nil, lex_nil, String.ofList_toList] at alone
  refine ⟨?_, by simpa [written] using accepted⟩
  rw [List.flatMap_singleton]
  exact alone

/-- Behind a finished lexeme another one may follow without a space. -/
private theorem spells_attached (closed : Closed kind word.toList)
    (closed' : Closed sign other.toList) (accepted : kind ≠ .unexpected)
    (accepted' : sign ≠ .unexpected) :
    Spells [word ++ other] [written kind word, written sign other] := by
  have first := closed_spelling closed other.toList
  have second := closed_spelling closed' []
  rw [List.append_nil, lex_nil] at second
  rw [second, String.ofList_toList, String.ofList_toList, ← String.toList_append] at first
  refine ⟨?_, by simp [written, accepted, accepted']⟩
  rw [List.flatMap_singleton]
  exact first

/-- The end of a component is spelled as its last lexeme and its multiplier. -/
private theorem spells_closing (spaced : Bool) (closed : Closed kind last.toList)
    (accepted : kind ≠ .unexpected) (repeated : Repeated multiplier) :
    ∃ multipliers : List Repeat,
      (∀ entity, repeatedBy entity multipliers =
        multiplier.elim entity (entity.withMultiplier ·)) ∧
      Spells (closing spaced last multiplier)
        (written kind last :: multipliers.map Repeat.token) := by
  cases multiplier with
  | none => exact ⟨[], fun _ => rfl, spells_closed closed accepted⟩
  | some multiplier =>
    obtain ⟨sign, closed', repeats⟩ := multiplier.text_repeats (repeated multiplier rfl)
    have sure : Repeats (written sign multiplier.text) multiplier := repeats ⟨0, 0⟩
    have accepted' : sign ≠ .unexpected := by
      rintro rfl
      cases repeats_kind sure
    refine ⟨[⟨_, multiplier, sure⟩], fun _ => rfl, ?_⟩
    cases spaced with
    | true =>
      exact spells_append (spells_closed closed accepted) (spells_closed closed' accepted')
    | false => exact spells_attached closed closed' accepted accepted'

/-- A combinator is spelled as its link, and juxtaposition as none. -/
private theorem spells_link (spaced : Bool) (joint : Combinator) :
    ∃ link : Option Link, joining link = joint ∧
      Spells (entityWords spaced (.combinator joint)) (link.map Link.token).toList := by
  cases joint with
  | juxtaposition => exact ⟨none, rfl, spells_nil⟩
  | doubleAmpersand =>
    refine ⟨some ⟨written .doubleAmpersand "&&", .doubleAmpersand, rfl⟩, rfl, ?_⟩
    exact spells_closed ⟨'&', ['&'], rfl, fun _ => rfl⟩ (by decide)
  | doubleBar =>
    refine ⟨some ⟨written .doubleBar "||", .doubleBar, rfl⟩, rfl, ?_⟩
    exact spells_closed ⟨'|', ['|'], rfl, fun _ => rfl⟩ (by decide)
  | singleBar =>
    refine ⟨some ⟨written .singleBar "|", .singleBar, rfl⟩, rfl, ?_, ?_⟩
    · rw [entityWords, List.flatMap_singleton]
      · change (Token.lex "|").map spelling = _
        rw [lex_single_bar]
        rfl
      · rintro ⟨⟩
    · simp [written]

/-- The word of a data type is one lexeme, and is read as the data type. -/
private theorem data_type_word (reference : Reference inner) :
    Closed .dataType (dataTypeWord (String.ofList ('<' :: inner ++ ['>']))).toList ∧
      dataTypeText (dataTypeWord (String.ofList ('<' :: inner ++ ['>']))) =
        String.ofList ('<' :: inner ++ ['>']) := by
  by_cases empty : inner = []
  · subst empty
    refine ⟨?_, by decide⟩
    exact angled_closed (List.cons_ne_nil ' ' []) (by simp)
  · have kept : dataTypeWord (String.ofList ('<' :: inner ++ ['>'])) =
        String.ofList ('<' :: inner ++ ['>']) := by
      unfold dataTypeWord
      rw [if_neg]
      intro same
      have letters : ('<' :: inner ++ ['>']).length = 2 := by
        rw [← String.length_ofList, same]
        rfl
      exact empty (by simpa using letters)
    rw [kept, String.toList_ofList]
    exact ⟨angled_closed empty reference.1, reference_text reference⟩

/-- A component of one word is spelled as a term of one token. -/
private theorem spells_component (spaced : Bool) (closed : Closed kind word.toList)
    (plain : isWord kind = true) (base : wordEntity (written kind word) = entity)
    (repeated : Repeated multiplier) :
    ∃ term : Grammar.Term, term.entity = multiplier.elim entity (entity.withMultiplier ·) ∧
      Spells (closing spaced word multiplier) term.tokens := by
  have accepted : kind ≠ .unexpected := by
    rintro rfl
    cases plain
  obtain ⟨multipliers, repeats, spells⟩ := spells_closing spaced closed accepted repeated
  refine ⟨.repeated (.word (written kind word) plain) multipliers, ?_, spells⟩
  rw [Term.entity, repeats, Base.entity.eq_def]
  dsimp only
  rw [base]

/-- A group is spelled as its brackets around the tokens of its sequence. -/
private theorem spells_group (spaced : Bool) {sequence : Sequence}
    (spells : Spells (sequenceWords spaced sequence.items) sequence.tokens)
    (nested : nest sequence.items = sequence.items) (repeated : Repeated multiplier) :
    ∃ term : Grammar.Term, term.entity = group sequence.items multiplier ∧
      Spells (entityWords spaced (.group sequence.items multiplier)) term.tokens := by
  have closed : Closed .bracketClose "]".toList := ⟨']', [], rfl, fun _ => rfl⟩
  have opens : Spells ["["] [written .bracketOpen "["] :=
    spells_closed ⟨'[', [], rfl, fun _ => rfl⟩ (by decide)
  obtain ⟨multipliers, repeats, ends⟩ := spells_closing spaced closed (by decide) repeated
  refine ⟨.repeated (.group (written .bracketOpen "[") sequence (written .bracketClose "]")
    rfl rfl) multipliers, ?_, ?_⟩
  · rw [Term.entity, repeats, Base.entity.eq_def]
    dsimp only
    rw [nested]
    cases multiplier <;> rfl
  · have whole := spells_append opens (spells_append spells ends)
    simpa [Term.tokens, Base.tokens, entityWords] using whole

/-- A function is spelled as a call without arguments. -/
private theorem spells_function (spaced : Bool) {name : String}
    (named : Piece.isName name.toList = true) :
    ∃ term : Grammar.Term, term.entity = function name ∧
      Spells (entityWords spaced (.function name)) term.tokens := by
  have closed : Closed .functionOpen (name ++ "(").toList := by
    simpa using function_closed named
  have opens := spells_closed closed (by decide)
  have ends : Spells [")"] [written .parenClose ")"] :=
    spells_closed ⟨')', [], rfl, fun _ => rfl⟩ (by decide)
  have balanced : Balanced [] := by
    refine ⟨rfl, fun before part => ?_⟩
    rw [List.prefix_nil.mp part]
    exact le_rfl
  refine ⟨.repeated (.call (written .functionOpen (name ++ "(")) [] (written .parenClose ")")
    rfl balanced rfl) [], ?_, spells_append opens ends⟩
  simp [Term.entity, Base.entity, repeatedBy, written]

mutual

/-- A canonical term is spelled as the tokens of a derivation of it. -/
theorem spells_term (spaced : Bool) {entity : Entity} (canonical : CanonicalTerm entity) :
    ∃ term : Grammar.Term, term.entity = entity ∧
      Spells (entityWords spaced entity) term.tokens := by
  match canonical with
  | @CanonicalTerm.keyword value multiplier unquoted repeated =>
    have closed : Closed .quotedKeyword ("\x27" ++ value ++ "\x27").toList := by
      simpa using quoted_closed fun c member same => unquoted (same ▸ member)
    have base : wordEntity (written .quotedKeyword ("\x27" ++ value ++ "\x27")) =
        keyword value none := by
      simp [wordEntity, written, inside]
    obtain ⟨term, entity, spells⟩ := spells_component spaced closed rfl base repeated
    refine ⟨term, entity.trans ?_, spells⟩
    cases multiplier <;> rfl
  | @CanonicalTerm.dataType inner multiplier reference repeated =>
    obtain ⟨closed, text⟩ := data_type_word reference
    have base : wordEntity (written .dataType
        (dataTypeWord (String.ofList ('<' :: inner ++ ['>'])))) =
          dataType (String.ofList ('<' :: inner ++ ['>'])) none := by
      simp only [wordEntity, written, text]
    obtain ⟨term, entity, spells⟩ := spells_component spaced closed rfl base repeated
    refine ⟨term, entity.trans ?_, spells⟩
    cases multiplier <;> rfl
  | .group body repeated =>
    obtain ⟨sequence, rfl, spells⟩ := spells_sequence spaced body
    exact spells_group spaced spells (nest_canonical body) repeated
  | .function named => exact spells_function spaced named

/-- A canonical sequence is spelled as the tokens of a derivation of it. -/
theorem spells_sequence (spaced : Bool) {entities : List Entity}
    (canonical : CanonicalSequence entities) :
    ∃ sequence : Sequence, sequence.items = entities ∧
      Spells (sequenceWords spaced entities) sequence.tokens := by
  match canonical with
  | .empty => exact ⟨.empty, rfl, spells_nil⟩
  | .terms joint joined =>
    obtain ⟨first, rest, items, spells⟩ := spells_joined spaced joined
    exact ⟨.terms first rest, items, spells⟩

theorem spells_joined (spaced : Bool) {joint : Combinator} {entities : List Entity}
    (joined : Joined joint entities) :
    ∃ first rest, (Sequence.terms first rest).items = entities ∧
      Spells (sequenceWords spaced entities) (Sequence.terms first rest).tokens := by
  match joined with
  | .last canonical =>
    obtain ⟨term, entity, spells⟩ := spells_term spaced canonical
    refine ⟨term, .done, by rw [Sequence.items, entity, Rest.items], ?_⟩
    simpa [sequenceWords, Sequence.tokens, Rest.tokens] using spells
  | .more canonical others =>
    obtain ⟨term, entity, spells⟩ := spells_term spaced canonical
    obtain ⟨first, rest, items, following⟩ := spells_joined spaced others
    obtain ⟨link, joins, between⟩ := spells_link spaced joint
    refine ⟨term, .next link first rest, ?_, ?_⟩
    · rw [Sequence.items] at items ⊢
      rw [Rest.items, entity, joins, items]
    · have whole := spells_append spells (spells_append between following)
      simpa [sequenceWords, Sequence.tokens, Rest.tokens] using whole

end

/-- Every canonical sequence is read back from its text, with or without spaces
in front of the multipliers. -/
theorem parse_render (spaced : Bool) (canonical : CanonicalSequence entities) :
    parse (render spaced entities) = .ok entities := by
  obtain ⟨sequence, items, spells⟩ := spells_sequence spaced canonical
  apply of_tokens_spelling (spells_spaced spells).symm
  refine (of_tokens_iff _ _).mpr ⟨sequence, rfl, ?_⟩
  rw [Sequence.entities, items, nest_canonical canonical]

/-- A combinator inside of quotes is text, and an empty data type is written
with a space. -/
theorem quoted_and_empty_are_read_back :
    ∃ entities, CanonicalSequence entities ∧
      entities = [keyword "a || b" (some .hashMark), combinator .doubleAmpersand,
        group [dataType "<>" (some (.range 0 (some 4))), combinator .juxtaposition,
          function "fit"] (some (.range 2 none))] ∧
      render false entities = "\x27a || b\x27# && [ < >\x7b0,4\x7d fit( ) ]\x7b2,\x7d" ∧
      parse (render false entities) = .ok entities := by
  have body : CanonicalSequence [dataType "<>" (some (.range 0 (some 4))),
      combinator .juxtaposition, function "fit"] := by
    have reference : Reference [] := ⟨by simp, .inr (by simp)⟩
    have repeated : Repeated (some (.range 0 (some 4))) := by simp [Repeated, Multiplier.InOrder]
    exact .terms _ (.more (.dataType reference repeated) (.last (.function (by decide))))
  have whole : CanonicalSequence [keyword "a || b" (some .hashMark),
      combinator .doubleAmpersand, group [dataType "<>" (some (.range 0 (some 4))),
        combinator .juxtaposition, function "fit"] (some (.range 2 none))] := by
    have repeated : Repeated (some .hashMark) := by simp [Repeated, Multiplier.InOrder]
    have repeated' : Repeated (some (.range 2 none)) := by simp [Repeated, Multiplier.InOrder]
    exact .terms _ (.more (.keyword (by decide) repeated) (.last (.group body repeated')))
  have range : (Multiplier.range 0 (some 4)).text = "\x7b0,4\x7d" := by
    simp [Multiplier.text, Multiplier.boundText, Text.digits, Text.digit]
  have range' : (Multiplier.range 2 none).text = "\x7b2,\x7d" := by
    simp [Multiplier.text, Multiplier.boundText, Text.digits, Text.digit]
  refine ⟨_, whole, rfl, ?_, parse_render false whole⟩
  simp only [render, sequenceWords, entityWords, closing, range, range']
  decide

end ValueGrammar.Rendering
