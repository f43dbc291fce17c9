import ValueGrammar.Proofs.Contributions
import ValueGrammar.Proofs.Grammar.Joining
import ValueGrammar.Proofs.Nesting

/-! Alternatives are typed apart. Nothing next to a bar depends on what stands
on its other side, so two definitions with a bar between them accept what the
first one accepts and then what only the second one does. -/
namespace ValueGrammar.Alternation
open Entity Typing TypeSet Contributions Nesting Grammar

variable {entities items others : List Entity} {term : Entity}

/-- The combinators that bind tighter than a bar. -/
def tighter : List Combinator := [.doubleBar, .doubleAmpersand, .juxtaposition]

/-- What stands between the bars, each part closed to one term. -/
def alternatives (entities : List Entity) : List Entity :=
  let (run, more) := runs .singleBar entities
  (run :: more).map (closeRun (nestBy tighter))

/-- A bar between two sequences parts their alternatives. -/
theorem alternatives_join (front back : List Entity) :
    alternatives (front ++ combinator .singleBar :: back) =
      alternatives front ++ alternatives back := by
  simp only [alternatives, runs_join, List.map_cons, List.map_append, List.cons_append]

/-- Behind a bar, or at the start, terms with bars between them all count. -/
private theorem alternatives_counted (catalog : Catalog) (first : Entity) (rest before : List Entity)
    (free : mandatoryAt before 0 = false) :
    contributionsFrom catalog (before.reverse ++ join .singleBar first rest) before.length
        (join .singleBar first rest) =
      (first :: rest).flatMap (contribution catalog true) := by
  induction rest generalizing first before with
  | nil =>
    have counted : counts before [] = true := by
      rw [counts_eq, free]
      rfl
    rw [join, contributionsFrom, ← counts_included, counted]
    simp [contributionsFrom]
  | cons next rest ih =>
    have counted :
        counts before (combinator .singleBar :: join .singleBar next rest) = true := by
      rw [counts_eq, free]
      rfl
    have others := ih next (combinator .singleBar :: first :: before) rfl
    rw [join, contributionsFrom, ← counts_included, counted, contributionsFrom, contribution]
    simpa using others

/-- Terms with bars between them contribute what each of them does. -/
theorem contributions_join (catalog : Catalog) (first : Entity) (rest : List Entity) :
    contributions catalog (join .singleBar first rest) =
      (first :: rest).flatMap (contribution catalog true) :=
  alternatives_counted catalog first rest [] rfl

/-- A sequence contributes the same when it is closed to one term. -/
theorem contributions_close (catalog : Catalog) (starts : StartsTerm items) :
    contributions catalog (nestBy tighter items) =
      contribution catalog true (closeRun (nestBy tighter) items) := by
  obtain ⟨term, rest, rfl, plain⟩ := starts
  cases rest with
  | nil =>
    have alone : Uniform .singleBar [term] := .last plain
    rw [nest_by_uniform alone]
    simp [contributions, contributionsFrom, included, mandatoryAt, closeRun]
  | cons next rest => simp [contribution, contributions, closeRun]

/-- A nested sequence contributes what its alternatives do, one after the other. -/
theorem contributions_nest (catalog : Catalog) (starts : StartsTerm items) :
    contributions catalog (nest items) =
      (alternatives items).flatMap (contribution catalog true) := by
  have uncut : (runs .singleBar items).2 = [] → (runs .singleBar items).1 = items := runs_uncut
  change contributions catalog (nestBy (.singleBar :: tighter) items) = _
  rw [nestBy, alternatives]
  rcases parts : runs .singleBar items with ⟨run, more⟩
  rw [parts] at uncut
  cases more with
  | nil =>
    obtain rfl : run = items := uncut rfl
    simp [contributions_close catalog starts]
  | cons next more => exact contributions_join catalog _ _

/-- With a bar between them two sequences contribute what each of them does by
itself, whatever precedence makes of either of them. -/
theorem contributions_bar (catalog : Catalog) (starts : StartsTerm items)
    (starts' : StartsTerm others) :
    contributions catalog (nest (items ++ combinator .singleBar :: others)) =
      contributions catalog (nest items) ++ contributions catalog (nest others) := by
  have joined : StartsTerm (items ++ combinator .singleBar :: others) := by
    obtain ⟨term, rest, rfl, plain⟩ := starts
    exact ⟨term, _, rfl, plain⟩
  rw [contributions_nest catalog joined, contributions_nest catalog starts,
    contributions_nest catalog starts', alternatives_join, List.flatMap_append]

/-- Typing two sources with a bar between them merges the second set into the
first. -/
private theorem bar_merges (catalog : Catalog) (parsed : parse left = .ok first)
    (filled : first ≠ []) (parsed' : parse right = .ok second) (filled' : second ≠ []) :
    ∃ both, typeSource catalog (left ++ " | " ++ right) = .ok both ∧
      Holds both (contributions catalog first ++ contributions catalog second) := by
  obtain ⟨items, others, rfl, rfl, starts, starts', joined⟩ :=
    parse_bar parsed filled parsed' filled'
  refine ⟨_, by rw [typeSource, joined]; rfl, ?_⟩
  rw [← contributions_bar catalog starts starts']
  exact holds_contributions catalog _

/-- A source of two alternatives lists the descriptors of the first and then
those that only the second has. The order of the alternatives decides nothing
but the order of the list. -/
theorem alternatives_are_merged (catalog : Catalog) (parsed : parse left = .ok first)
    (filled : first ≠ []) (parsed' : parse right = .ok second) (filled' : second ≠ []) :
    ∃ leftTypes rightTypes both swapped,
      typeSource catalog left = .ok leftTypes ∧ typeSource catalog right = .ok rightTypes ∧
      typeSource catalog (left ++ " | " ++ right) = .ok both ∧
      typeSource catalog (right ++ " | " ++ left) = .ok swapped ∧
      both.toList = (leftTypes.merge rightTypes).toList ∧
      ∀ type, type ∈ both.toList ↔ type ∈ swapped.toList := by
  obtain ⟨both, typed, holds⟩ := bar_merges catalog parsed filled parsed' filled'
  obtain ⟨swapped, typed', holds'⟩ := bar_merges catalog parsed' filled' parsed filled
  have merged := holds_merge (holds_contributions catalog first) (holds_contributions catalog second)
  refine ⟨_, _, both, swapped, by rw [typeSource, parsed]; rfl, by rw [typeSource, parsed']; rfl,
    typed, typed', ?_, ?_⟩
  · rw [holds.listed, merged.listed]
  · intro type
    rw [holds_mem holds, holds_mem holds', List.mem_append, List.mem_append, or_comm]

/-- The first source here is wrapped by the bar, and the second is spliced in. -/
theorem wrapped_and_spliced_are_merged :
    ∃ first second,
      parse "<length> && a? || b" = .ok first ∧ first ≠ [] ∧
      parse "[ c d ]# | f()" = .ok second ∧ second ≠ [] ∧
      ∃ leftTypes rightTypes both swapped,
        typeSource .builtin "<length> && a? || b" = .ok leftTypes ∧
        typeSource .builtin "[ c d ]# | f()" = .ok rightTypes ∧
        typeSource .builtin ("<length> && a? || b" ++ " | " ++ "[ c d ]# | f()") = .ok both ∧
        typeSource .builtin ("[ c d ]# | f()" ++ " | " ++ "<length> && a? || b") = .ok swapped ∧
        both.toList = (leftTypes.merge rightTypes).toList ∧
        ∀ type, type ∈ both.toList ↔ type ∈ swapped.toList := by
  have parsed : parse "<length> && a? || b" = .ok
      [group [dataType "<length>" none, combinator .doubleAmpersand,
        keyword "a" (some .questionMark)] none, combinator .doubleBar, keyword "b" none] := by
    decide +kernel
  have parsed' : parse "[ c d ]# | f()" = .ok
      [group [keyword "c" none, combinator .juxtaposition, keyword "d" none] (some .hashMark),
        combinator .singleBar, function "f"] := by
    decide +kernel
  refine ⟨_, _, parsed, by simp, parsed', by simp, ?_⟩
  exact alternatives_are_merged .builtin parsed (by simp) parsed' (by simp)

end ValueGrammar.Alternation
