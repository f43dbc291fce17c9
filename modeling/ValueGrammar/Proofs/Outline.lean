import ValueGrammar.Entity.Outline
import ValueGrammar.Proofs.Canonical
import ValueGrammar.Proofs.Quoting
import ValueGrammar.Proofs.WellFormed

/-! The outline of a canonical sequence tells the sequence. It is read from the
left: the indentation of a line tells how many groups are around its entity, the
heading tells the entity but for its members, and a group ends in front of the
first line that is not indented below it. A data type may go on over several
lines, but it only ends behind its bracket. -/
namespace ValueGrammar.Outline
open Entity Text Runs Canonical Quoting

variable {depth : Nat} {entity other : Entity} {entities others : List Entity}
  {text tail after after' : List Char} {multiplier multiplier' : Option Multiplier}

mutual

/-- An entity and everything inside it in order, each with the number of groups
around it. -/
def placesAt (depth : Nat) : Entity → List (Nat × Entity)
  | .group entities multiplier =>
    (depth, .group entities multiplier) :: sequencePlacesAt (depth + 1) entities
  | entity => [(depth, entity)]

/-- The entities of a sequence and everything inside them. -/
def sequencePlacesAt (depth : Nat) : List Entity → List (Nat × Entity)
  | [] => []
  | entity :: rest => placesAt depth entity ++ sequencePlacesAt depth rest

end

/-- What a group holds. -/
def members : Entity → List Entity
  | .group entities _ => entities
  | .keyword .. | .dataType .. | .combinator _ | .function _ => []

/-- The entity without what it holds. -/
def shell : Entity → Entity
  | .group _ multiplier => .group [] multiplier
  | entity => entity

theorem places_cons (depth : Nat) (entity : Entity) (rest : List Entity) :
    sequencePlacesAt depth (entity :: rest) =
      (depth, entity) :: sequencePlacesAt (depth + 1) (members entity) ++
        sequencePlacesAt depth rest := by
  cases entity <;> rfl

theorem shell_members (same : shell entity = shell other)
    (alike : members entity = members other) : entity = other := by
  cases entity <;> cases other <;> simp_all [shell, members]

mutual

private theorem lines_at (depth : Nat) (entity : Entity) :
    outlineLinesAt depth entity =
      (placesAt depth entity).map fun place => outlineLine place.1 place.2 := by
  match entity with
  | .group entities multiplier =>
    rw [outlineLinesAt, placesAt, List.map_cons, lines_places]
  | .keyword .. | .dataType .. | .combinator _ | .function _ => rfl

/-- The outline has a heading for every entity, in order. -/
theorem lines_places (depth : Nat) (entities : List Entity) :
    sequenceLinesAt depth entities =
      (sequencePlacesAt depth entities).map fun place => outlineLine place.1 place.2 := by
  match entities with
  | [] => rfl
  | entity :: rest =>
    rw [sequenceLinesAt, sequencePlacesAt, List.map_append, lines_at, lines_places]

end

/-- An entity as the outline shows it, without its members. -/
def row (place : Nat × Entity) : List Char :=
  List.replicate (2 * place.1) ' ' ++ ((heading place.2).toList ++ ['\n'])

/-- A sequence as an outline shows it at a depth. -/
def rows (depth : Nat) (entities : List Entity) : List Char :=
  (sequencePlacesAt depth entities).flatMap row

theorem outline_rows (entities : List Entity) : (outline entities).toList = rows 0 entities := by
  unfold outline rows
  rw [String.toList_join, lines_places, List.map_map, List.flatMap_map]
  congr 1
  funext place
  simp [row, outlineLine, indentation]

/-- The first line of an outline, then what is below it, and then the rest. -/
theorem rows_cons (depth : Nat) (entity : Entity) (rest : List Entity) (after : List Char) :
    rows depth (entity :: rest) ++ after = List.replicate (2 * depth) ' ' ++
      ((heading entity).toList ++
        '\n' :: (rows (depth + 1) (members entity) ++ (rows depth rest ++ after))) := by
  simp [rows, places_cons, row]

/-- An entity of a canonical sequence. -/
def Plain (entity : Entity) : Prop :=
  CanonicalTerm entity ∨ ∃ kind, entity = combinator kind

mutual

private theorem canonical_places {entity : Entity} (canonical : CanonicalTerm entity)
    (depth : Nat) :
    ∀ place ∈ placesAt depth entity, Plain place.2 := by
  match canonical with
  | .group body repeated =>
    exact List.forall_mem_cons.mpr ⟨.inl (.group body repeated), plain_places body (depth + 1)⟩
  | .keyword unquoted repeated =>
    exact List.forall_mem_singleton.mpr (.inl (.keyword unquoted repeated))
  | .dataType reference repeated =>
    exact List.forall_mem_singleton.mpr (.inl (.dataType reference repeated))
  | .function named => exact List.forall_mem_singleton.mpr (.inl (.function named))

/-- Everything in a canonical sequence is a canonical term or a combinator. -/
theorem plain_places {entities : List Entity} (canonical : CanonicalSequence entities)
    (depth : Nat) :
    ∀ place ∈ sequencePlacesAt depth entities, Plain place.2 := by
  match canonical with
  | .empty => exact List.forall_mem_nil _
  | .terms joint joined => exact joined_places joined depth

private theorem joined_places {joint : Combinator} {entities : List Entity}
    (joined : Joined joint entities) (depth : Nat) :
    ∀ place ∈ sequencePlacesAt depth entities, Plain place.2 := by
  match joined with
  | .last canonical =>
    rw [sequencePlacesAt, sequencePlacesAt, List.append_nil]
    exact canonical_places canonical depth
  | @Joined.more _ term rest canonical others =>
    change ∀ place ∈ placesAt depth term ++ (depth, combinator joint) ::
      sequencePlacesAt depth rest, Plain place.2
    exact List.forall_mem_append.mpr ⟨canonical_places canonical depth,
      List.forall_mem_cons.mpr ⟨.inr ⟨joint, rfl⟩, joined_places others depth⟩⟩

end

/-- A multiplier that is in order can be told from its written form. -/
theorem multiplier_text_apart {multiplier multiplier' : Multiplier}
    (ordered : multiplier.InOrder) (ordered' : multiplier'.InOrder)
    (same : multiplier.text = multiplier'.text) : multiplier = multiplier' := by
  obtain ⟨kind, closed, repeats⟩ := multiplier.text_repeats ordered
  obtain ⟨kind', closed', repeats'⟩ := multiplier'.text_repeats ordered'
  obtain ⟨c, rest, starts, lexed⟩ := closed
  obtain ⟨c', rest', starts', lexed'⟩ := closed'
  rw [← same, starts] at starts'
  cases starts'
  have alike := (lexed []).symm.trans (lexed' [])
  simp only [Prod.mk.injEq, Piece.mk.injEq, Role.lexeme.injEq, and_true] at alike
  obtain ⟨rfl, -⟩ := alike
  rw [← same] at repeats'
  have read := Grammar.repeats_iff.mpr (repeats ⟨0, 0⟩)
  rw [Grammar.repeats_iff.mpr (repeats' ⟨0, 0⟩)] at read
  exact (Option.some.inj read).symm

theorem multiplier_one_line (multiplier : Multiplier) : '\n' ∉ multiplier.text.toList := by
  have decimal : ∀ n : UInt32, '\n' ∉ Multiplier.boundText n := fun n member =>
    absurd (Digits.digits_decimal _ _ member) (by decide)
  cases multiplier with
  | asterisk | plusSign | questionMark | hashMark | exclamationPoint => decide
  | range min max =>
    cases max with
    | none => simp [Multiplier.text, decimal]
    | some max =>
      by_cases equal : min = max <;> simp [Multiplier.text, equal, decimal]

theorem suffix_one_line (multiplier : Option Multiplier) :
    '\n' ∉ (multiplierSuffix multiplier).toList := by
  cases multiplier with
  | none => decide
  | some multiplier =>
    have line := multiplier_one_line multiplier
    simpa [multiplierSuffix] using line

/-- What ends the heading of a component tells its multiplier. -/
theorem suffix_apart (repeated : Repeated multiplier) (repeated' : Repeated multiplier')
    (same : (multiplierSuffix multiplier).toList ++ '\n' :: after =
      (multiplierSuffix multiplier').toList ++ '\n' :: after') :
    multiplier = multiplier' ∧ after = after' := by
  obtain ⟨written, behind⟩ := mark_apart (suffix_one_line _) (suffix_one_line _) same
  refine ⟨?_, behind⟩
  cases multiplier with
  | none =>
    cases multiplier' with
    | none => rfl
    | some multiplier' => simp [multiplierSuffix] at written
  | some multiplier =>
    cases multiplier' with
    | none => simp [multiplierSuffix] at written
    | some multiplier' =>
      have text : multiplier.text = multiplier'.text :=
        String.toList_injective (by simpa [multiplierSuffix] using written)
      rw [multiplier_text_apart (repeated _ rfl) (repeated' _ rfl) text]

private theorem reference_closed {inner : List Char} (reference : Reference inner) : '>' ∉ inner :=
  fun member => (reference.1 '>' member).2 rfl

/-- The heading of an entity tells the entity but for its members. -/
theorem heading_apart (plain : Plain entity) (plain' : Plain other)
    (same : (heading entity).toList ++ '\n' :: after = (heading other).toList ++ '\n' :: after') :
    shell entity = shell other ∧ after = after' := by
  rcases plain with canonical | ⟨kind, rfl⟩ <;> rcases plain' with canonical' | ⟨kind', rfl⟩
  · cases canonical with
    | @keyword value multiplier unquoted repeated =>
      cases canonical' with
      | @keyword value' multiplier' unquoted' repeated' =>
        have quoted : value.toList.flatMap quoteChar ++
              '"' :: ((multiplierSuffix multiplier).toList ++ '\n' :: after) =
            value'.toList.flatMap quoteChar ++
              '"' :: ((multiplierSuffix multiplier').toList ++ '\n' :: after') := by
          simpa [heading, quote_list] using same
        obtain ⟨text, ends⟩ := quoted_apart quoted
        obtain rfl := String.toList_injective text
        obtain ⟨rfl, rfl⟩ := suffix_apart repeated repeated' ends
        exact ⟨rfl, rfl⟩
      | dataType | group | function => simp [heading] at same
    | @dataType inner multiplier reference repeated =>
      cases canonical' with
      | @dataType inner' multiplier' reference' repeated' =>
        have angled : inner ++ '>' :: ((multiplierSuffix multiplier).toList ++ '\n' :: after) =
            inner' ++ '>' :: ((multiplierSuffix multiplier').toList ++ '\n' :: after') := by
          simpa [heading] using same
        obtain ⟨rfl, ends⟩ := mark_apart (reference_closed reference) (reference_closed reference')
          angled
        obtain ⟨rfl, rfl⟩ := suffix_apart repeated repeated' ends
        exact ⟨rfl, rfl⟩
      | keyword | group | function => simp [heading] at same
    | @group entities multiplier body repeated =>
      cases canonical' with
      | @group entities' multiplier' body' repeated' =>
        have ends : (multiplierSuffix multiplier).toList ++ '\n' :: after =
            (multiplierSuffix multiplier').toList ++ '\n' :: after' := by
          simpa [heading] using same
        obtain ⟨rfl, rfl⟩ := suffix_apart repeated repeated' ends
        exact ⟨rfl, rfl⟩
      | keyword | dataType | function => simp [heading] at same
    | @function name named =>
      cases canonical' with
      | @function name' named' =>
        have opened : name.toList ++ '(' :: ')' :: '\n' :: after =
            name'.toList ++ '(' :: ')' :: '\n' :: after' := by
          simpa [heading] using same
        obtain ⟨text, ends⟩ := mark_apart (Rules.name_lacks named rfl)
          (Rules.name_lacks named' rfl) opened
        obtain rfl := String.toList_injective text
        cases ends
        exact ⟨rfl, rfl⟩
      | keyword | dataType | group => simp [heading] at same
  · cases canonical <;> cases kind' <;> simp [heading, Combinator.name] at same
  · cases canonical' <;> cases kind <;> simp [heading, Combinator.name] at same
  · cases kind <;> cases kind' <;> simp [heading, Combinator.name] at same <;>
      exact ⟨rfl, same⟩

/-- No heading starts with a space. -/
theorem heading_starts (entity : Entity) :
    ∃ c rest, (heading entity).toList = c :: rest ∧ (c == ' ') = false := by
  have letter : ∃ c, (heading entity).toList.head? = some c ∧ (c == ' ') = false := by
    cases entity with
    | keyword => exact ⟨'K', by simp [heading], rfl⟩
    | dataType => exact ⟨'D', by simp [heading], rfl⟩
    | group => exact ⟨'G', by simp [heading], rfl⟩
    | combinator kind => cases kind <;> exact ⟨_, rfl, rfl⟩
    | function => exact ⟨'F', by simp [heading], rfl⟩
  obtain ⟨c, first, inked⟩ := letter
  obtain ⟨rest, starts⟩ := List.head?_eq_some_iff.mp first
  exact ⟨c, rest, starts, inked⟩

/-- The text starts with no line of this depth or below it. -/
def Ends (depth : Nat) (text : List Char) : Prop :=
  ∀ level c rest, (c == ' ') = false → text = List.replicate (2 * level) ' ' ++ c :: rest →
    level < depth

theorem ends_nil (depth : Nat) : Ends depth [] := by
  intro level c rest inked empty
  simp at empty

/-- The indentation of a line, and what it says, can be told from the line. -/
theorem indentation_apart {level : Nat} {c c' : Char} (inked : (c == ' ') = false)
    (inked' : (c' == ' ') = false)
    (same : List.replicate (2 * depth) ' ' ++ c :: text =
      List.replicate (2 * level) ' ' ++ c' :: tail) : depth = level ∧ c :: text = c' :: tail := by
  have spaces : ∀ n, ∀ d ∈ List.replicate n ' ', (d == ' ') = true := fun _ =>
    List.forall_mem_replicate.mpr (.inr rfl)
  obtain ⟨front, behind⟩ := run_apart (spaces _) (spaces _) (Runs.stops_cons inked)
    (stops_cons inked') same
  have lengths := congrArg List.length front
  rw [List.length_replicate, List.length_replicate] at lengths
  exact ⟨by omega, behind⟩

private theorem rows_start (depth : Nat) (entity : Entity) (rest : List Entity)
    (after : List Char) :
    ∃ c text, rows depth (entity :: rest) ++ after =
      List.replicate (2 * depth) ' ' ++ c :: text ∧ (c == ' ') = false := by
  obtain ⟨c, text, starts, inked⟩ := heading_starts entity
  exact ⟨c, _, by rw [rows_cons, starts]; rfl, inked⟩

/-- A group ends in front of what follows it at its own depth. -/
theorem ends_rows (entities : List Entity) (ends : Ends depth after) :
    Ends (depth + 1) (rows depth entities ++ after) := by
  intro level c text inked starts
  cases entities with
  | nil => exact Nat.lt_succ_of_lt (ends level c text inked starts)
  | cons entity rest =>
    obtain ⟨c', text', starts', inked'⟩ := rows_start depth entity rest after
    rw [starts'] at starts
    obtain ⟨rfl, -⟩ := indentation_apart inked' inked starts
    exact Nat.lt_succ_self depth

private theorem rows_not_ended (entity : Entity) (rest : List Entity)
    (ends : Ends depth after') : rows depth (entity :: rest) ++ after ≠ after' := by
  intro same
  obtain ⟨c, text, starts, inked⟩ := rows_start depth entity rest after
  exact absurd (ends depth c text inked (same ▸ starts)) (Nat.lt_irrefl depth)

private theorem members_smaller (entity : Entity) (rest : List Entity) :
    sizeOf (members entity) < sizeOf (entity :: rest) := by
  cases entity <;> simp [members] <;> omega

/-- A sequence, and what follows its outline, can be told from the whole. -/
theorem rows_apart {depth : Nat} {entities others : List Entity} {after after' : List Char}
    (plain : ∀ place ∈ sequencePlacesAt depth entities, Plain place.2)
    (plain' : ∀ place ∈ sequencePlacesAt depth others, Plain place.2)
    (ends : Ends depth after) (ends' : Ends depth after')
    (same : rows depth entities ++ after = rows depth others ++ after') :
    entities = others ∧ after = after' := by
  match entities, others with
  | [], [] => exact ⟨rfl, same⟩
  | [], other :: others => exact absurd same.symm (rows_not_ended other others ends)
  | entity :: rest, [] => exact absurd same (rows_not_ended entity rest ends')
  | entity :: rest, other :: others =>
    rw [places_cons, List.cons_append, List.forall_mem_cons, List.forall_mem_append] at plain plain'
    rw [rows_cons, rows_cons, List.append_right_inj] at same
    obtain ⟨alike, below⟩ := heading_apart plain.1 plain'.1 same
    obtain ⟨inside, behind⟩ := rows_apart plain.2.1 plain'.2.1 (ends_rows rest ends)
      (ends_rows others ends') below
    obtain ⟨rfl, rfl⟩ := rows_apart plain.2.2 plain'.2.2 ends ends' behind
    obtain rfl := shell_members alike inside
    exact ⟨rfl, rfl⟩
termination_by sizeOf entities
decreasing_by
  · exact members_smaller entity rest
  · simp only [List.cons.sizeOf_spec]
    omega

/-- Two canonical sequences with one outline are the same. -/
theorem outline_apart (canonical : CanonicalSequence entities)
    (canonical' : CanonicalSequence others) (same : outline entities = outline others) :
    entities = others := by
  have chars := congrArg String.toList same
  rw [outline_rows, outline_rows, ← List.append_nil (rows 0 entities),
    ← List.append_nil (rows 0 others)] at chars
  exact (rows_apart (plain_places canonical 0) (plain_places canonical' 0) (ends_nil 0)
    (ends_nil 0) chars).1

/-- The outline of what a source writes tells the sequence, whatever its texts
look like. -/
theorem outline_tells_sequence {source source' : String} (parsed : parse source = .ok entities)
    (parsed' : parse source' = .ok others) (same : outline entities = outline others) :
    entities = others :=
  outline_apart (WellFormed.parse_canonical parsed) (WellFormed.parse_canonical parsed') same

/-- A data type may hold what looks like a line of an outline; ranges and quotes
do not count. -/
theorem lookalike_line_is_told :
    ∃ entities others, parse "[<a\nKeyword \"b\">]# b" = .ok entities ∧
      parse "[ <a\nKeyword \"b\" [1,2]> ]# \x27b\x27" = .ok others ∧
      outline entities = outline others ∧ entities = others := by
  have parsed : parse "[<a\nKeyword \"b\">]# b" =
      .ok [group [dataType "<a\nKeyword \"b\">" none] (some .hashMark),
        combinator .juxtaposition, keyword "b" none] := by
    decide +kernel
  have parsed' : parse "[ <a\nKeyword \"b\" [1,2]> ]# \x27b\x27" =
      .ok [group [dataType "<a\nKeyword \"b\">" none] (some .hashMark),
        combinator .juxtaposition, keyword "b" none] := by
    decide +kernel
  exact ⟨_, _, parsed, parsed', rfl, outline_tells_sequence parsed parsed' rfl⟩

end ValueGrammar.Outline
