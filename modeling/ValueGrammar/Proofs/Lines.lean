import Mathlib.Algebra.GroupWithZero.Nat
import ValueGrammar.Command
import ValueGrammar.Proofs.Outline
import ValueGrammar.Proofs.Printing

/-! How many lines are shown. An outline has a line for every entity, and a list
of descriptors one for every descriptor, as long as no data type holds a line
feed: the texts of data types are shown as they stand, and all others cannot
break a line. -/
namespace ValueGrammar.Lines
open Entity Text Typing Outline Canonical Command

variable {entity : Entity} {entities : List Entity} {types : List Descriptor}
  {options : Options}

/-- The lines of a text: the stretches between its line feeds. -/
def linesOf (text : String) : List (List Char) := text.toList.splitOn '\n'

/-- The outline consists of a line for every entity, in order, each ended by a
line feed and indented by two spaces for every group around the entity. -/
def LinePerEntity (entities : List Entity) : Prop :=
  ∃ lines, linesOf (outline entities) = lines ++ [[]] ∧
    List.Forall₂ (fun place line => (line.takeWhile (· == ' ')).length = 2 * place.1)
      (sequencePlacesAt 0 entities) lines

/-- The descriptors are shown on as many lines as there are. -/
def LinePerDescriptor (options : Options) (types : List Descriptor) : Prop :=
  (linesOf (typesText options types)).length = types.length

instance : Decidable (LinePerDescriptor options types) :=
  inferInstanceAs (Decidable (_ = _))

/-- A text has one line more than line feeds. -/
theorem line_count (text : List Char) : (text.splitOn '\n').length = text.count '\n' + 1 := by
  induction text with
  | nil => rfl
  | cons c text ih =>
    rw [List.splitOn_cons_eq_if_modifyHead, List.count_cons]
    split
    · rw [List.length_cons, ih]
    · rw [List.length_modifyHead, ih]

/-- Lines that are ended by line feeds are found again. -/
theorem ended_lines {lines : List (List Char)} (unbroken : ∀ line ∈ lines, '\n' ∉ line) :
    (lines.flatMap (· ++ ['\n'])).splitOn '\n' = lines ++ [[]] := by
  induction lines with
  | nil => rfl
  | cons line lines ih =>
    rw [List.forall_mem_cons] at unbroken
    have first := List.splitOn_eq_singleton unbroken.1
    rw [List.flatMap_cons, List.append_assoc, List.singleton_append, List.splitOn_eq_splitOnP,
      List.splitOnP_append_cons _ _ (by simp), ← List.splitOn_eq_splitOnP,
      ← List.splitOn_eq_splitOnP, first, ih unbroken.2]
    rfl

/-- With a line for every text, and one more for every line feed in it, there are
as many lines as texts exactly if no text holds a line feed. -/
theorem lines_of_texts (texts : List (List Char)) :
    (texts.map fun text => text.count '\n' + 1).sum = texts.length ↔
      ∀ text ∈ texts, '\n' ∉ text := by
  have split : (texts.map fun text => text.count '\n' + 1).sum =
      (texts.map fun text => text.count '\n').sum + texts.length := by
    induction texts with
    | nil => rfl
    | cons text texts ih =>
      simp only [List.map_cons, List.sum_cons, List.length_cons, ih]
      omega
  rw [split, Nat.add_eq_right, List.sum_eq_zero_iff_forall_eq_nat]
  simp [List.count_eq_zero]

/-- A data type whose text goes on in another line. -/
def Broken : Entity → Prop
  | .dataType value _ => '\n' ∈ value.toList
  | .keyword .. | .group .. | .combinator _ | .function _ => False

instance (entity : Entity) : Decidable (Broken entity) := by
  unfold Broken
  split <;> infer_instance

/-- Only a broken data type breaks its heading. -/
theorem heading_broken_iff (plain : Plain entity) :
    '\n' ∈ (heading entity).toList ↔ Broken entity := by
  have ends := suffix_one_line
  rcases plain with canonical | ⟨kind, rfl⟩
  · cases canonical with
    | @keyword value => simp [heading, Broken, Quoting.quote_one_line value, ends]
    | dataType => simp [heading, Broken, ends]
    | group => simp [heading, Broken, ends]
    | @function name named =>
      have parts : '\n' ∉ name.toList := Rules.name_lacks named rfl
      simp [heading, Broken, parts]
  · cases kind <;> simp [heading, Combinator.name, Broken]

/-- An entity in an outline, without the line feed that ends it. -/
def line (place : Nat × Entity) : List Char :=
  List.replicate (2 * place.1) ' ' ++ (heading place.2).toList

theorem line_broken_iff (place : Nat × Entity) :
    '\n' ∈ line place ↔ '\n' ∈ (heading place.2).toList := by
  simp [line]

theorem line_indented (place : Nat × Entity) :
    ((line place).takeWhile (· == ' ')).length = 2 * place.1 := by
  obtain ⟨c, rest, starts, inked⟩ := heading_starts place.2
  have spaces : ∀ d ∈ List.replicate (2 * place.1) ' ', (d == ' ') = true :=
    List.forall_mem_replicate.mpr (.inr rfl)
  rw [line, starts, Runs.run_taken spaces (Runs.stops_cons inked), List.length_replicate]

theorem outline_lines (entities : List Entity) :
    (outline entities).toList =
      ((sequencePlacesAt 0 entities).map line).flatMap (· ++ ['\n']) := by
  rw [outline_rows, rows, List.flatMap_map]
  congr 1
  funext place
  simp [row, line]

/-- An outline has a line for every entity exactly if no data type is broken. -/
theorem line_per_entity_iff (canonical : CanonicalSequence entities) :
    LinePerEntity entities ↔ ∀ place ∈ sequencePlacesAt 0 entities, ¬ Broken place.2 := by
  have plain := plain_places canonical 0
  have whole : ∀ place ∈ sequencePlacesAt 0 entities, '\n' ∉ line place ↔ ¬ Broken place.2 :=
    fun place member => by rw [line_broken_iff, heading_broken_iff (plain place member)]
  constructor
  · rintro ⟨lines, found, indented⟩
    have count := line_count (outline entities).toList
    rw [← linesOf, found, List.length_append, List.length_singleton, ← indented.length_eq,
      Nat.add_right_cancel_iff, outline_lines, List.count_flatMap] at count
    have unbroken := (lines_of_texts ((sequencePlacesAt 0 entities).map line)).mp (by
      rw [List.length_map, count]
      congr 1
      simp)
    intro place member
    exact (whole place member).mp (unbroken _ (List.mem_map_of_mem member))
  · intro unbroken
    refine ⟨(sequencePlacesAt 0 entities).map line, ?_, ?_⟩
    · rw [linesOf, outline_lines]
      refine ended_lines ?_
      intro text member
      obtain ⟨place, among, rfl⟩ := List.mem_map.mp member
      exact (whole place among).mpr (unbroken place among)
    · rw [List.forall₂_map_right_iff, List.forall₂_same]
      exact fun place _ => line_indented place

/-- Only a data type breaks the text of a descriptor. -/
theorem shown_broken_iff {type : Descriptor} (typed : Printing.Typed type) :
    '\n' ∈ type.text.toList ↔ ∃ name, type = .dataType name ∧ '\n' ∈ name.toList := by
  cases type with
  | string | number | length => simp [Descriptor.text]
  | stringLiteral literal => simp [Descriptor.text, Quoting.quote_one_line literal]
  | numericLiteral x =>
    have numeral : '\n' ∉ (Numeral.text x).toList := fun member =>
      absurd (Numerals.numeral_text x _ member) (by decide)
    simp [Descriptor.text, numeral]
  | dataType name => simp [Descriptor.text]
  | named => exact typed.elim

/-- Texts with a line feed between each two. -/
theorem separated_count (texts : List String) (filled : texts ≠ []) :
    (Json.separated "\n" texts).toList.count '\n' + 1 =
      ((texts.map String.toList).map fun text => text.count '\n' + 1).sum := by
  match texts with
  | [text] => simp [Json.separated]
  | first :: next :: rest =>
    have others := separated_count (next :: rest) (by simp)
    rw [Json.separated_cons_cons, String.toList_append, String.toList_append, List.count_append,
      List.count_append, List.map_cons, List.map_cons, List.sum_cons, ← others]
    have feed : ("\n" : String).toList.count '\n' = 1 := rfl
    omega

/-- Descriptors are shown on a line each exactly if no data type among them is
broken. -/
theorem line_per_descriptor_iff (plain : options.format ≠ some .json) (filled : types ≠ [])
    (typed : ∀ type ∈ types, Printing.Typed type) :
    LinePerDescriptor options types ↔ ∀ name, .dataType name ∈ types → '\n' ∉ name.toList := by
  have text : typesText options types = Json.separated "\n" (types.map Descriptor.text) := by
    unfold typesText
    split
    · contradiction
    · rfl
  have count := separated_count (types.map Descriptor.text) (by simpa using filled)
  have unbroken := lines_of_texts ((types.map Descriptor.text).map String.toList)
  rw [List.length_map, List.length_map] at unbroken
  rw [LinePerDescriptor, linesOf, line_count, text, count, unbroken]
  simp only [List.forall_mem_map]
  constructor
  · intro whole name member breaks
    exact whole _ member ((shown_broken_iff (typed _ member)).mpr ⟨name, rfl, breaks⟩)
  · intro whole type member breaks
    obtain ⟨name, rfl, inside⟩ := (shown_broken_iff (typed _ member)).mp breaks
    exact whole name member inside

/-- What is shown for a source has a line for each of its parts but for the data
types with a line feed in them: those alone break the outline, wherever they
stand, and those of them that are described by their name break the list of
descriptors. -/
theorem lines_are_broken_by_data_types {source : String} (parsed : parse source = .ok entities) :
    (LinePerEntity entities ↔ ∀ place ∈ sequencePlacesAt 0 entities, ¬ Broken place.2) ∧
      ∀ catalog options, options.format ≠ some .json →
        (typeEntities catalog entities).toList ≠ [] →
        (LinePerDescriptor options (typeEntities catalog entities).toList ↔
          ∀ name, .dataType name ∈ (typeEntities catalog entities).toList → '\n' ∉ name.toList) :=
  ⟨line_per_entity_iff (WellFormed.parse_canonical parsed), fun _ _ plain filled =>
    line_per_descriptor_iff plain filled fun _ => Printing.types_typed⟩

/-- A reference to a property is described as text, so its line feed breaks the
outline alone. -/
theorem property_breaks_outline :
    ∃ entities, parse "[ <\x27a\nb\x27> ]# | c" = .ok entities ∧ ¬ LinePerEntity entities ∧
      LinePerDescriptor {} (typeEntities .builtin entities).toList := by
  have parsed : parse "[ <\x27a\nb\x27> ]# | c" =
      .ok [group [dataType "<\x27a\nb\x27>" none] (some .hashMark), combinator .singleBar,
        keyword "c" none] := by
    decide +kernel
  have typed : (typeEntities .builtin [group [dataType "<\x27a\nb\x27>" none] (some .hashMark),
      combinator .singleBar, keyword "c" none]).toList = [.string, .stringLiteral "c"] := by
    decide +kernel
  obtain ⟨outlined, shown⟩ := lines_are_broken_by_data_types parsed
  refine ⟨_, parsed, ?_, (shown .builtin {} (by decide) (by rw [typed]; simp)).mpr ?_⟩
  · rw [outlined]
    intro whole
    exact whole (1, dataType "<\x27a\nb\x27>" none) (by simp [sequencePlacesAt, placesAt])
      (by decide)
  · rw [typed]
    simp

/-- A source whose outline, and whose descriptors, have more lines than parts. -/
theorem data_type_breaks_lines :
    ∃ entities, parse "<a\nb>" = .ok entities ∧ ¬ LinePerEntity entities ∧
      (typeEntities .builtin entities).toList ≠ [] ∧
      ¬ LinePerDescriptor {} (typeEntities .builtin entities).toList := by
  have parsed : parse "<a\nb>" = .ok [dataType "<a\nb>" none] := by decide +kernel
  have typed : (typeEntities .builtin [dataType "<a\nb>" none]).toList = [.dataType "a\nb"] := by
    decide +kernel
  refine ⟨_, parsed, ?_, by rw [typed]; simp, ?_⟩
  · rw [line_per_entity_iff (WellFormed.parse_canonical parsed)]
    intro whole
    exact whole (0, dataType "<a\nb>" none) (by simp [sequencePlacesAt, placesAt]) (by decide)
  · rw [typed]
    decide

end ValueGrammar.Lines
