import ValueGrammar.Entity.Nesting

/-! What nesting by precedence does to a sequence. A sequence is cut at every
combinator of the loosest kind, wherever two sequences were joined, and one that
has a single kind of combinator already is left as it is. -/
namespace ValueGrammar.Nesting
open Entity

variable {separator joint : Combinator} {entities : List Entity}

/-- The parts of a joined sequence are those of the two that were joined. -/
theorem runs_join (separator : Combinator) (front back : List Entity) :
    runs separator (front ++ combinator separator :: back) =
      ((runs separator front).1,
        (runs separator front).2 ++ (runs separator back).1 :: (runs separator back).2) := by
  induction front with
  | nil => simp [runs]
  | cons entity front ih =>
    rw [List.cons_append, runs, ih, runs]
    by_cases separates : entity = combinator separator
    · simp [separates]
    · simp [separates]

/-- A sequence without the combinator is one part. -/
theorem runs_whole (absent : ∀ entity ∈ entities, entity ≠ combinator separator) :
    runs separator entities = (entities, []) := by
  induction entities with
  | nil => rfl
  | cons entity rest ih =>
    rw [runs, ih fun other member => absent other (List.mem_cons_of_mem entity member)]
    simp [absent entity List.mem_cons_self]

/-- What is not cut is the whole sequence. -/
theorem runs_uncut (uncut : (runs separator entities).2 = []) :
    (runs separator entities).1 = entities := by
  induction entities with
  | nil => rfl
  | cons entity rest ih =>
    rw [runs] at uncut ⊢
    by_cases separates : entity = combinator separator
    · simp [separates] at uncut
    · simp only [separates, if_false] at uncut ⊢
      rw [ih uncut]

/-- Terms with the same combinator between each two. -/
inductive Uniform (joint : Combinator) : List Entity → Prop where
  | last {term : Entity} (plain : term.isCombinator = false) : Uniform joint [term]
  | more {term : Entity} {rest : List Entity} (plain : term.isCombinator = false)
    (others : Uniform joint rest) : Uniform joint (term :: combinator joint :: rest)

private theorem uniform_runs (uniform : Uniform joint entities) :
    ∃ first rest, join joint first rest = entities ∧
      runs joint entities = ([first], rest.map fun term => [term]) := by
  induction uniform with
  | @last term plain =>
    have other : term ≠ combinator joint := by
      rintro rfl
      cases plain
    exact ⟨term, [], rfl, by simp [runs, other]⟩
  | @more term rest plain others ih =>
    obtain ⟨first, following, joined, parts⟩ := ih
    have other : term ≠ combinator joint := by
      rintro rfl
      cases plain
    refine ⟨term, first :: following, by rw [join, joined], ?_⟩
    simp [runs, parts, other]

private theorem uniform_absent (uniform : Uniform joint entities) (differ : joint ≠ separator) :
    ∀ entity ∈ entities, entity ≠ combinator separator := by
  induction uniform with
  | last plain =>
    intro entity member same
    rw [← List.mem_singleton.mp member, same] at plain
    cases plain
  | more plain others ih =>
    intro entity member same
    rcases List.mem_cons.mp member with rfl | member
    · rw [same] at plain
      cases plain
    rcases List.mem_cons.mp member with rfl | member
    · exact differ (combinator.inj same)
    · exact ih entity member same

/-- A sequence with a single kind of combinator is nested already. -/
theorem nest_by_uniform (uniform : Uniform joint entities) (kinds : List Combinator) :
    nestBy kinds entities = entities := by
  induction kinds with
  | nil => rfl
  | cons kind kinds ih =>
    unfold nestBy
    by_cases same : joint = kind
    · subst same
      obtain ⟨first, rest, joined, parts⟩ := uniform_runs uniform
      rw [parts]
      cases rest with
      | nil => exact ih
      | cons next rest =>
        have kept : (closeRun (nestBy kinds) ∘ fun term => [term]) = id := rfl
        simp only [List.map_cons, List.map_map, kept, List.map_id]
        exact joined
    · rw [runs_whole (uniform_absent uniform same)]
      exact ih

theorem nest_uniform (uniform : Uniform joint entities) : nest entities = entities :=
  nest_by_uniform uniform Combinator.loosestFirst

end ValueGrammar.Nesting
