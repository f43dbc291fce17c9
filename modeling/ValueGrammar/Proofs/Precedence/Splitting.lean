import ValueGrammar.Proofs.Grammar.Joining
import ValueGrammar.Proofs.Precedence

/-! Nesting by precedence, one step at a time. A step finds the loosest of the
combinators of a sequence, cuts the sequence at each of that kind, and closes the
parts, which are nested in the same way. A sequence with a single kind of combinator
is left as it is. Nesting level by level, from the loosest combinator to the tightest,
comes to the same for every sequence of a value definition. -/
namespace ValueGrammar.Precedence
open Entity Grammar Nesting
open Item (kept isTerm)

variable {entities run : List Entity} {kind first : Combinator}
  {others kinds tighter : List Combinator}

/-- The looser one of two combinators, and the first if they bind alike. -/
def looser (found other : Combinator) : Combinator :=
  if tightness other < tightness found then other else found

/-- The loosest of some combinators. -/
def loosest (first : Combinator) (others : List Combinator) : Combinator :=
  others.foldl looser first

/-- Cuts a sequence at each combinator of a kind and closes the parts. The part that is
being gathered goes in front of what is left. -/
def splitAt (kind : Combinator) (close : List Entity → Entity) (run : List Entity) :
    List Entity → List Entity
  | [] => [close run]
  | entity :: rest =>
    if entity.combinator? = some kind then close run :: entity :: splitAt kind close [] rest
    else splitAt kind close (run ++ [entity]) rest

/-- One step of nesting, where it is known how the parts are nested. -/
def nestStep (nested : List Entity → List Entity) (entities : List Entity) : List Entity :=
  match entities.filterMap Entity.combinator? with
  | [] => entities
  | first :: others =>
    let kind := loosest first others
    if (first :: others).all (· = kind) then entities
    else splitAt kind (closeRun nested) [] entities

/-! ### The loosest combinator -/

theorem loosest_mem : loosest first others ∈ first :: others := by
  induction others generalizing first with
  | nil => exact List.mem_singleton.mpr rfl
  | cons next others ih =>
    have member : loosest first (next :: others) ∈ looser first next :: others := ih
    rcases List.mem_cons.mp member with same | member
    · rw [same, looser]
      split <;> simp
    · exact List.mem_cons_of_mem first (List.mem_cons_of_mem next member)

theorem loosest_least :
    ∀ other ∈ first :: others, tightness (loosest first others) ≤ tightness other := by
  induction others generalizing first with
  | nil =>
    intro other member
    rw [List.mem_singleton.mp member]
    exact Nat.le_refl _
  | cons next others ih =>
    have least : ∀ other ∈ looser first next :: others,
        tightness (loosest first (next :: others)) ≤ tightness other := ih
    have bound := least _ List.mem_cons_self
    have found : tightness (looser first next) ≤ tightness first ∧
        tightness (looser first next) ≤ tightness next := by
      unfold looser
      split <;> omega
    intro other member
    rcases List.mem_cons.mp member with rfl | member
    · exact Nat.le_trans bound found.1
    rcases List.mem_cons.mp member with rfl | member
    · exact Nat.le_trans bound found.2
    · exact least other (List.mem_cons_of_mem _ member)

/-! ### The parts of a sequence -/

private theorem is_combinator {entity : Entity} :
    entity.combinator? = some kind ↔ entity = combinator kind := by
  cases entity <;> simp [Entity.combinator?]

private theorem mem_kinds :
    kind ∈ entities.filterMap Entity.combinator? ↔ combinator kind ∈ entities := by
  simp [List.mem_filterMap, is_combinator]

/-- The parts of a sequence between the combinators of a kind. -/
def parts (kind : Combinator) (entities : List Entity) : List (List Entity) :=
  (runs kind entities).1 :: (runs kind entities).2

theorem parts_cut (kind : Combinator) (rest : List Entity) :
    parts kind (combinator kind :: rest) = [] :: parts kind rest := by
  simp [parts, runs]

theorem parts_uncut {entity : Entity} (other : entity ≠ combinator kind) (rest : List Entity) :
    parts kind (entity :: rest) = (entity :: (runs kind rest).1) :: (runs kind rest).2 := by
  simp [parts, runs, other]

/-- Cutting a sequence by going through it gives the parts with the combinator between
each two. -/
theorem split_at_eq (kind : Combinator) (close : List Entity → Entity)
    (run entities : List Entity) :
    splitAt kind close run entities =
      join kind (close (run ++ (runs kind entities).1)) ((runs kind entities).2.map close) := by
  induction entities generalizing run with
  | nil => simp [splitAt, runs, join]
  | cons entity rest ih =>
    rw [splitAt, runs]
    by_cases cut : entity = combinator kind
    · rw [if_pos (is_combinator.mpr cut), ih []]
      simp [cut, join]
    · rw [if_neg (mt is_combinator.mp cut), ih (run ++ [entity])]
      simp [cut]

/-- The parts are what is left of the sequence without the combinators that it is cut at. -/
theorem part_spec (among : run ∈ parts kind entities) :
    run.Sublist entities ∧ combinator kind ∉ run := by
  induction entities generalizing run with
  | nil =>
    obtain rfl := List.mem_singleton.mp among
    exact ⟨List.Sublist.refl [], List.not_mem_nil⟩
  | cons next rest ih =>
    by_cases cut : next = combinator kind
    · rw [cut, parts_cut, List.mem_cons] at among
      rcases among with rfl | among
      · exact ⟨List.nil_sublist _, List.not_mem_nil⟩
      · obtain ⟨inside, free⟩ := ih among
        exact ⟨inside.cons next, free⟩
    · rw [parts_uncut cut, List.mem_cons] at among
      rcases among with rfl | among
      · obtain ⟨inside, free⟩ := ih List.mem_cons_self
        exact ⟨inside.cons_cons next, by simp [free, Ne.symm cut]⟩
      · obtain ⟨inside, free⟩ := ih (List.mem_cons_of_mem _ among)
        exact ⟨inside.cons next, free⟩

/-- A part is shorter than a sequence that is cut at all. -/
theorem part_shorter (present : combinator kind ∈ entities) (among : run ∈ parts kind entities) :
    run.length < entities.length := by
  obtain ⟨inside, free⟩ := part_spec among
  apply Nat.lt_of_le_of_ne inside.length_le
  intro same
  rw [inside.eq_of_length same] at free
  exact free present

/-- A level whose combinator is absent does nothing. -/
theorem nest_by_skip (absent : ∀ kind ∈ kinds, combinator kind ∉ entities) :
    nestBy (kinds ++ tighter) entities = nestBy tighter entities := by
  induction kinds with
  | nil => rfl
  | cons kind kinds ih =>
    rw [List.cons_append, nestBy, runs_whole fun entity member same => ?_]
    · exact ih fun kind member => absent kind (List.mem_cons_of_mem _ member)
    · exact absent kind List.mem_cons_self (same ▸ member)

/-- A part is closed in the same way by what nests it in the same way. -/
private theorem close_congr {nested nested' : List Entity → List Entity}
    (same : nested run = nested' run) : closeRun nested run = closeRun nested' run := by
  rcases run with _ | ⟨term, _ | ⟨next, rest⟩⟩
  · exact congrArg (group · none) same
  · rfl
  · exact congrArg (group · none) same

/-! ### The step -/

/-- Entities that take turns are a first term, and what takes turns behind a combinator. -/
@[elab_as_elim]
private theorem turns_induction {motive : List Entity → Prop}
    (last : ∀ term : Entity, term.isCombinator = false → motive [term])
    (more : ∀ (term : Entity) (joint : Combinator) (rest : List Entity),
      term.isCombinator = false → motive rest → motive (term :: combinator joint :: rest))
    (turns : TakesTurns (entities.map kept)) : motive entities := by
  generalize whole : entities.map kept = items at turns
  induction turns generalizing entities with
  | last plain =>
    obtain ⟨term, rfl, rfl⟩ := List.map_eq_singleton_iff.mp whole
    exact last term (by simpa [isTerm] using plain)
  | more plain joint others ih =>
    obtain ⟨term, behind, rfl, rfl, whole'⟩ := List.map_eq_cons_iff.mp whole
    obtain ⟨separator, rest, rfl, same, rfl⟩ := List.map_eq_cons_iff.mp whole'
    cases same
    exact more term joint rest (by simpa [isTerm] using plain) (ih rfl)

private theorem term_uncut {term : Entity} (plain : term.isCombinator = false) :
    term ≠ combinator kind := by
  rintro rfl
  cases plain

/-- Each of the parts starts and ends with a term again. -/
private theorem part_turns (turns : TakesTurns (entities.map kept)) :
    ∀ run ∈ parts kind entities, TakesTurns (run.map kept) := by
  refine turns_induction (fun term plain => ?_) (fun term joint rest plain ih => ?_) turns
  · intro run among
    rw [parts_uncut (term_uncut plain)] at among
    rw [List.mem_singleton.mp among]
    exact .last (by simp [isTerm, plain])
  · obtain ⟨front, behind⟩ := List.forall_mem_cons.mp ih
    intro run among
    rw [parts_uncut (term_uncut plain)] at among
    by_cases cut : joint = kind
    · simp only [runs, cut, if_true, List.mem_cons] at among
      rcases among with rfl | among
      · exact .last (by simp [isTerm, plain])
      · exact ih run (List.mem_cons.mpr among)
    · have apart : combinator joint ≠ combinator kind := fun same => cut (combinator.inj same)
      simp only [runs, apart, if_false, List.mem_cons] at among
      rcases among with rfl | among
      · exact .more (by simp [isTerm, plain]) joint front
      · exact behind run among

/-- Terms with one kind of combinator between them. -/
private theorem turns_uniform (turns : TakesTurns (entities.map kept)) :
    (∀ other, combinator other ∈ entities → other = kind) → Uniform kind entities := by
  refine turns_induction (fun term plain => ?_) (fun term joint rest plain ih => ?_) turns
  · intro alike
    exact .last plain
  · intro alike
    obtain rfl := alike joint (by simp)
    exact .more plain (ih fun other member => alike other (by simp [member]))

/-- A sequence is cut at its loosest combinator. The levels before that one do nothing,
and those up to it do nothing to the parts. -/
private theorem nest_cut (present : combinator kind ∈ entities)
    (least : ∀ other, combinator other ∈ entities → tightness kind ≤ tightness other) :
    nest entities = splitAt kind (closeRun nest) [] entities := by
  obtain ⟨front, tighter, levels⟩ := List.append_of_mem (mem_loosest_first kind)
  have ordered := loosest_first_ordered
  rw [levels, Ordered, List.pairwise_append] at ordered
  have absent : ∀ other ∈ front, combinator other ∉ entities := by
    intro other looser member
    have binds := ordered.2.2 other looser kind List.mem_cons_self
    exact absurd (least other member) (Nat.not_le_of_lt binds)
  have inside : ∀ run ∈ parts kind entities,
      closeRun (nestBy tighter) run = closeRun nest run := by
    intro run among
    apply close_congr
    rw [nest, levels, List.append_cons, nest_by_skip]
    intro other looser member
    obtain ⟨inside, free⟩ := part_spec among
    rcases List.mem_append.mp looser with looser | here
    · exact absent other looser (inside.subset member)
    · rw [List.mem_singleton.mp here] at member
      exact free member
  rw [nest, levels, nest_by_skip absent, split_at_eq, List.nil_append, nestBy]
  rcases cut : runs kind entities with ⟨run, more⟩
  rw [parts, cut] at inside
  cases more with
  | nil =>
    have uncut := runs_uncut (congrArg Prod.snd cut)
    have whole : entities ∈ parts kind entities := by simp [parts, uncut]
    exact absurd present (part_spec whole).2
  | cons next more =>
    have first := inside run List.mem_cons_self
    have closed : (next :: more).map (closeRun (nestBy tighter)) =
        (next :: more).map (closeRun nest) :=
      List.map_congr_left fun part member => inside part (List.mem_cons_of_mem run member)
    simp only [first, closed]

/-- Nesting goes one step and nests the parts in the same way. There may be nothing to
nest. -/
theorem nest_eq_step (turns : entities ≠ [] → TakesTurns (entities.map kept)) :
    nest entities = nestStep nest entities := by
  unfold nestStep
  split
  next none =>
    have absent : ∀ kind ∈ Combinator.loosestFirst, combinator kind ∉ entities := by
      intro kind _ member
      rw [← mem_kinds, none] at member
      cases member
    have skipped : nestBy (Combinator.loosestFirst ++ []) entities = entities := nest_by_skip absent
    exact skipped
  next first others found =>
    have among : ∀ kind, combinator kind ∈ entities ↔ kind ∈ first :: others := by
      intro kind
      rw [← found, mem_kinds]
    have filled : entities ≠ [] := by
      rintro rfl
      cases found
    dsimp only
    split
    next single =>
      have uniform : Uniform (loosest first others) entities := by
        refine turns_uniform (turns filled) fun other member => ?_
        simpa using List.all_eq_true.mp single other ((among other).mp member)
      exact nest_uniform uniform
    next mixed =>
      exact nest_cut ((among _).mpr loosest_mem) fun other member =>
        loosest_least other ((among other).mp member)

/-- Whatever goes by this step nests a sequence as the levels do. -/
theorem nest_by_steps {nested : List Entity → List Entity}
    (steps : ∀ entities, (entities ≠ [] → TakesTurns (entities.map kept)) →
      nested entities = nestStep nested entities)
    (turns : entities ≠ [] → TakesTurns (entities.map kept)) : nested entities = nest entities := by
  -- The parts of a sequence are shorter than it is, and take turns as it does.
  induction size : entities.length using Nat.strongRecOn generalizing entities with
  | _ count ih =>
    rw [steps entities turns, nest_eq_step turns]
    unfold nestStep
    split
    next none => rfl
    next first others found =>
      dsimp only
      split
      next single => rfl
      next mixed =>
        have present : combinator (loosest first others) ∈ entities := by
          rw [← mem_kinds, found]
          exact loosest_mem
        have closed : ∀ run ∈ parts (loosest first others) entities,
            closeRun nested run = closeRun nest run := by
          intro run among
          have shorter := part_shorter present among
          have turns' := part_turns (turns (List.ne_nil_of_mem present)) run among
          exact close_congr (ih run.length (size ▸ shorter) (fun _ => turns') rfl)
        obtain ⟨front, behind⟩ := List.forall_mem_cons.mp closed
        rw [split_at_eq, split_at_eq, List.nil_append, front, List.map_congr_left behind]

/-! ### What is nested -/

private theorem rest_turns (first : Term) :
    ∀ rest : Rest, TakesTurns ((first.entity :: rest.items).map kept)
  | .done => .last (by simp [isTerm, term_is_no_combinator])
  | .next link term rest => .more (by simp [isTerm, term_is_no_combinator]) _ (rest_turns term rest)

/-- The sequences of a value definition take turns, those of its groups included, so
each of them is nested by this step. -/
theorem denoted_by_step (sequence : Sequence) :
    sequence.entities = nestStep nest sequence.items := by
  apply nest_eq_step
  intro filled
  cases sequence with
  | empty => exact absurd rfl filled
  | terms first rest => exact rest_turns first rest

end ValueGrammar.Precedence
