import ValueGrammar.Proofs.Contributions
import ValueGrammar.Proofs.Meaning
import ValueGrammar.Proofs.WellFormed

/-! Typing leaves no value out. Every value that a parsed definition generates
is described by one of its descriptors, as long as nothing is repeated that
typing takes for a single value. -/
namespace ValueGrammar.Coverage
open Entity Typing TypeSet Contributions Canonical Meaning

variable {catalog : Catalog} {term : Entity} {entities whole : List Entity} {value : List Atom}
  {words : Language Atom} {multiplier : Option Multiplier} {kind : Combinator}

/-- The reference to a data type of this name. -/
def referenceTo (name : String) : Atom := .reference ("<" ++ name ++ ">")

/-- The values that a descriptor describes. A primitive kind has the references
that the catalog maps to it, and a data type those that it does not map at all. -/
def Describes (catalog : Catalog) (value : List Atom) : Descriptor → Prop
  | .string => True
  | .number => ∃ name, value = [referenceTo name] ∧ catalog.get? name = some .number
  | .length => ∃ name, value = [referenceTo name] ∧ catalog.get? name = some .length
  | .stringLiteral literal => value = [.keyword literal]
  | .numericLiteral number => value = [.keyword (Numeral.text number)]
  | .dataType name => value = [referenceTo name] ∧ catalog.get? name = none
  | .named .. => False

/-- The multipliers that can ask for more than one round. -/
def isRepeating : Multiplier → Bool
  | .asterisk | .plusSign | .hashMark | .range .. => true
  | .questionMark | .exclamationPoint => false

/-- The ranges that start at one round or none and do not end at one. -/
def isLoose : Multiplier → Bool
  | .range min max => min ≤ 1 && max ≠ some 1
  | _ => false

mutual

/-- No keyword and no data type is repeated, and no group has a loose range. -/
def singleTerm : Entity → Bool
  | .keyword _ multiplier | .dataType _ multiplier => !multiplier.any isRepeating
  | .group entities multiplier => !multiplier.any isLoose && single entities
  | .combinator _ | .function _ => true

def single : List Entity → Bool
  | [] => true
  | entity :: rest => singleTerm entity && single rest

end

/-- Without a combinator that asks for all of its terms everything counts. -/
theorem free_contributions
    (free : ∀ entity ∈ whole, entity.combinator?.any Combinator.isMandatory = false)
    (index : Nat) (entities : List Entity) :
    contributionsFrom catalog whole index entities =
      entities.flatMap (contribution catalog true) := by
  have nowhere : ∀ place, mandatoryAt whole place = false := by
    intro place
    unfold mandatoryAt
    cases found : whole[place]? with
    | none => rfl
    | some entity => exact free entity (List.mem_of_getElem? found)
  have counted : ∀ place, included whole place = true := by
    intro place
    simp [included, nowhere]
  induction entities generalizing index with
  | nil => rfl
  | cons entity rest ih => rw [contributionsFrom, counted, ih, List.flatMap_cons]

/-- Every combinator but the bar has its terms described as text. -/
theorem combinator_contributes (member : combinator kind ∈ entities) (other : kind ≠ .singleBar)
    (index : Nat) : .string ∈ contributionsFrom catalog whole index entities := by
  induction entities generalizing index with
  | nil => cases member
  | cons entity rest ih =>
    rw [contributionsFrom, List.mem_append]
    rcases List.mem_cons.mp member with rfl | member
    · left
      cases kind with
      | singleBar => exact absurd rfl other
      | juxtaposition | doubleAmpersand | doubleBar => exact List.mem_singleton.mpr rfl
    · exact .inr (ih member (index + 1))

/-- A component that is not repeated has the values that it has by itself. -/
private theorem once_repeated (once : multiplier.any isRepeating = false)
    (generated : value ∈ repeated words multiplier) (filled : value ≠ []) : value ∈ words := by
  cases multiplier with
  | none => exact generated
  | some multiplier =>
    cases multiplier with
    | questionMark => exact generated.resolve_left filled
    | exclamationPoint => exact generated.1
    | asterisk | plusSign | hashMark | range => cases once

private theorem keyword_described (text : String) :
    Describes catalog [.keyword text] (keywordType text) := by
  unfold keywordType
  cases read : Numeral.canonical? text with
  | none => rfl
  | some number =>
    have canonical : Numeral.text number = text := by
      unfold Numeral.canonical? at read
      simpa using (Option.filter_eq_some_iff.mp read).2
    change [Atom.keyword text] = [Atom.keyword (Numeral.text number)]
    rw [canonical]

private theorem reference_described (inner : List Char) :
    Describes catalog [.reference (String.ofList ('<' :: inner ++ ['>']))]
      (dataTypeType catalog (String.ofList ('<' :: inner ++ ['>']))) := by
  have named : dataTypeName (String.ofList ('<' :: inner ++ ['>'])) = String.ofList inner := by
    simp [dataTypeName]
  have refers : Atom.reference (String.ofList ('<' :: inner ++ ['>'])) =
      referenceTo (String.ofList inner) := by
    have text : String.ofList ('<' :: inner ++ ['>']) = "<" ++ String.ofList inner ++ ">" := by
      apply String.toList_injective
      simp
    rw [text, referenceTo]
  unfold dataTypeType
  rw [named, refers]
  dsimp only
  split
  · trivial
  · cases found : catalog.get? (String.ofList inner) with
    | none => exact ⟨rfl, found⟩
    | some primitive =>
      cases primitive with
      | number => exact ⟨_, rfl, found⟩
      | length => exact ⟨_, rfl, found⟩
      | string => trivial

private theorem term_languages_cons (plain : term.isCombinator = false) (rest : List Entity) :
    termLanguages (term :: rest) = termLanguage term :: termLanguages rest := by
  cases term with
  | combinator kind => cases plain
  | keyword | dataType | group | function => rfl

private theorem no_combinator (plain : term.isCombinator = false) : term.combinator? = none := by
  cases term with
  | combinator kind => cases plain
  | keyword | dataType | group | function => rfl

private theorem language_last (plain : term.isCombinator = false) :
    language [term] = termLanguage term := by
  rw [language, term_languages_cons plain]
  exact combined_singleton _ _

private theorem joint_more (plain : term.isCombinator = false) (rest : List Entity) :
    joint (term :: combinator kind :: rest) = kind := by
  rw [joint, List.findSome?_cons, no_combinator plain]
  rfl

/-- Terms with bars between them are free of combinators that ask for all terms. -/
private theorem bars_free (uniform : Nesting.Uniform .singleBar entities) :
    ∀ entity ∈ entities, entity.combinator?.any Combinator.isMandatory = false := by
  induction uniform with
  | last plain =>
    intro entity member
    rw [List.mem_singleton.mp member, no_combinator plain]
    rfl
  | more plain others ih =>
    intro entity member
    rcases List.mem_cons.mp member with rfl | member
    · rw [no_combinator plain]
      rfl
    rcases List.mem_cons.mp member with rfl | member
    · rfl
    · exact ih entity member

/-- Where no combinator has its terms described as text, a value is one of some
term, and all terms count. -/
theorem generated_by_term (joined : Joined kind entities)
    (plain : combinator kind ∈ entities → kind = .singleBar)
    (generated : value ∈ language entities) :
    (∀ entity ∈ entities, entity.combinator?.any Combinator.isMandatory = false) ∧
      ∃ words ∈ termLanguages entities, value ∈ words := by
  cases joined with
  | last canonical =>
    have term := canonical_plain canonical
    rw [language_last term] at generated
    rw [term_languages_cons term]
    refine ⟨?_, _, List.mem_cons_self, generated⟩
    intro entity member
    rw [List.mem_singleton.mp member, no_combinator term]
    rfl
  | more canonical others =>
    obtain rfl := plain (List.mem_cons_of_mem _ List.mem_cons_self)
    rw [language, joint_more (canonical_plain canonical)] at generated
    exact ⟨bars_free (joined_uniform (.more canonical others)), generated⟩

/-- A group that does not collapse has the values of its sequence. -/
private theorem group_unrepeated (bounded : multiplier.any isLoose = false)
    (plain : multiplier.any isCollapsing = false) (generated : value ∈ repeated words multiplier)
    (filled : value ≠ []) : value ∈ words := by
  cases multiplier with
  | none => exact generated
  | some multiplier =>
    cases multiplier with
    | questionMark => exact generated.resolve_left filled
    | asterisk | plusSign | hashMark | exclamationPoint => cases plain
    | range min max =>
      simp only [Option.any_some, isLoose, isCollapsing, Bool.and_eq_false_iff,
        Bool.or_eq_false_iff, decide_eq_false_iff_not] at bounded plain
      rcases bounded with above | ends
      · exact absurd (UInt32.not_le.mp above) plain.1
      · exact absurd (by simpa using ends) plain.2

mutual

/-- A term that counts contributes a descriptor for each of its values. -/
theorem term_described {term : Entity} {value : List Atom} (catalog : Catalog)
    (canonical : CanonicalTerm term) (once : singleTerm term = true)
    (generated : value ∈ termLanguage term) (filled : value ≠ []) :
    ∃ type ∈ contribution catalog true term, Describes catalog value type := by
  match canonical with
  | @CanonicalTerm.keyword text multiplier unquoted _ =>
    obtain rfl := once_repeated (by simpa [singleTerm] using once) generated filled
    exact ⟨_, List.mem_singleton.mpr rfl, keyword_described text⟩
  | @CanonicalTerm.dataType inner multiplier _ _ =>
    obtain rfl := once_repeated (by simpa [singleTerm] using once) generated filled
    exact ⟨_, List.mem_singleton.mpr rfl, reference_described inner⟩
  | @CanonicalTerm.group entities multiplier body _ =>
    rw [singleTerm, Bool.and_eq_true, Bool.not_eq_true'] at once
    rw [contribution, if_pos rfl]
    by_cases collapses : multiplier.any isCollapsing = true
    · exact ⟨.string, by simp [collapses], trivial⟩
    · have plain : multiplier.any isCollapsing = false := by simpa using collapses
      have nested := group_unrepeated once.1 plain generated filled
      obtain ⟨type, among, describes⟩ := sequence_described catalog body once.2 nested filled
      exact ⟨type, List.mem_append_right _ among, describes⟩
  | .function _ => exact ⟨.string, List.mem_singleton.mpr rfl, trivial⟩

theorem sequence_described {entities : List Entity} {value : List Atom} (catalog : Catalog)
    (canonical : CanonicalSequence entities) (once : single entities = true)
    (generated : value ∈ language entities) (filled : value ≠ []) :
    ∃ type ∈ contributions catalog entities, Describes catalog value type := by
  match canonical with
  | .empty => exact absurd generated filled
  | .terms kind joined =>
    by_cases plain : combinator kind ∈ entities → kind = .singleBar
    · obtain ⟨free, words, among, generated⟩ := generated_by_term joined plain generated
      obtain ⟨entity, member, type, contributed, describes⟩ :=
        some_described catalog joined once among generated filled
      refine ⟨type, ?_, describes⟩
      rw [contributions, free_contributions free]
      exact List.mem_flatMap.mpr ⟨entity, member, contributed⟩
    · simp only [Classical.not_imp] at plain
      exact ⟨.string, combinator_contributes plain.1 plain.2 0, trivial⟩

/-- A value of some term of a sequence is described by what that term contributes. -/
theorem some_described {kind : Combinator} {entities : List Entity} {words : Language Atom}
    {value : List Atom} (catalog : Catalog) (joined : Joined kind entities)
    (once : single entities = true) (among : words ∈ termLanguages entities)
    (generated : value ∈ words) (filled : value ≠ []) :
    ∃ entity ∈ entities, ∃ type ∈ contribution catalog true entity,
      Describes catalog value type := by
  match joined with
  | .last canonical =>
    rw [single, Bool.and_eq_true] at once
    rw [term_languages_cons (canonical_plain canonical)] at among
    obtain rfl := List.mem_singleton.mp among
    exact ⟨_, List.mem_cons_self, term_described catalog canonical once.1 generated filled⟩
  | .more canonical others =>
    rw [single, Bool.and_eq_true, single, Bool.and_eq_true] at once
    rw [term_languages_cons (canonical_plain canonical), termLanguages, List.mem_cons] at among
    rcases among with rfl | among
    · exact ⟨_, List.mem_cons_self, term_described catalog canonical once.1 generated filled⟩
    · obtain ⟨entity, member, found⟩ :=
        some_described catalog others once.2.2 among generated filled
      exact ⟨entity, List.mem_cons_of_mem _ (List.mem_cons_of_mem _ member), found⟩

end

/-- Every value of a parsed definition, apart from the empty one, is described
by one of its descriptors. -/
theorem values_are_described (catalog : Catalog) {source : String} {entities : List Entity}
    {value : List Atom} (parsed : parse source = .ok entities) (once : single entities = true)
    (generated : value ∈ language entities) (filled : value ≠ []) :
    ∃ type ∈ (typeEntities catalog entities).toList, Describes catalog value type := by
  have canonical := WellFormed.parse_canonical parsed
  obtain ⟨type, contributed, describes⟩ :=
    sequence_described catalog canonical once generated filled
  have listed := (holds_mem (holds_contributions catalog entities) type).mpr contributed
  exact ⟨type, listed, describes⟩

/-- A number is a value of a group that may be left out, beside a call. -/
theorem optional_number_is_described :
    ∃ entities, parse "[ <number> | auto ]? | f()" = .ok entities ∧
      single entities = true ∧ [referenceTo "number"] ∈ language entities ∧
      ∃ type ∈ (typeEntities .builtin entities).toList,
        Describes .builtin [referenceTo "number"] type := by
  have parsed : parse "[ <number> | auto ]? | f()" =
      .ok [group [dataType "<number>" none, combinator .singleBar, keyword "auto" none]
        (some .questionMark), combinator .singleBar, function "f"] := by
    decide +kernel
  have once : single [group [dataType "<number>" none, combinator .singleBar,
      keyword "auto" none] (some .questionMark), combinator .singleBar, function "f"] = true := by
    decide
  have generated : [referenceTo "number"] ∈ language [group [dataType "<number>" none,
      combinator .singleBar, keyword "auto" none] (some .questionMark), combinator .singleBar,
      function "f"] := by
    have inner : [referenceTo "number"] ∈ combined .singleBar
        (termLanguages [dataType "<number>" none, combinator .singleBar, keyword "auto" none]) :=
      ⟨{[referenceTo "number"]}, List.mem_cons_self, rfl⟩
    exact ⟨_, List.mem_cons_self, .inr inner⟩
  exact ⟨_, parsed, once, generated,
    values_are_described .builtin parsed once generated (by simp)⟩

end ValueGrammar.Coverage
