import ValueGrammar.Proofs.Precedence

/-! Nesting by precedence is determined by what it has to achieve. The grammar of
the levels derives one nesting of each sequence, and that one is computed. -/
namespace ValueGrammar.Precedence
open Entity Nesting Item

variable {top items others : List Item} {entities rest : List Entity} {joint : Combinator}
  {tighter kinds : List Combinator}

/-- A sequence is cut at a combinator into two sequences. -/
private theorem turns_apart {front back : List Item}
    (turns : TakesTurns (front ++ kept (combinator joint) :: back)) :
    TakesTurns front ∧ TakesTurns back := by
  generalize whole : front ++ kept (combinator joint) :: back = sequence at turns
  induction turns generalizing front with
  | last term =>
    cases front with
    | nil =>
      cases whole
      cases term
    | cons first front => simp at whole
  | @more item rest term kind others ih =>
    match front, whole with
    | [], whole =>
      cases whole
      cases term
    | [first], whole =>
      cases whole
      exact ⟨.last term, others⟩
    | first :: second :: front, whole =>
      cases whole
      obtain ⟨turns, turns'⟩ := ih rfl
      exact ⟨.more term kind turns, turns'⟩

private theorem operands_exist {entities : List Entity} (turns : TakesTurns (entities.map kept))
    (among : ∀ kind, combinator kind ∈ entities → kind = joint ∨ kind ∈ tighter)
    (parts : ∀ part : List Entity, TakesTurns (part.map kept) →
      (∀ kind, combinator kind ∈ part → kind ∈ tighter) →
      ∃ items, Expression tighter part items) :
    ∃ items, Operands joint tighter entities items := by
  by_cases parted : combinator joint ∈ entities
  · obtain ⟨front, back, whole, apart⟩ := List.eq_append_cons_of_mem parted
    rw [whole, List.map_append, List.map_cons] at turns
    obtain ⟨turns, turns'⟩ := turns_apart turns
    obtain ⟨items, first⟩ := parts front turns fun kind member => by
      refine (among kind (by simp [whole, member])).resolve_left ?_
      rintro rfl
      exact apart member
    obtain ⟨others, more⟩ := operands_exist turns'
      (fun kind member => among kind (by simp [whole, member])) parts
    refine ⟨operand items :: kept (combinator joint) :: others, ?_⟩
    rw [whole]
    exact .more first more
  · obtain ⟨items, only⟩ := parts entities turns fun kind member => by
      refine (among kind member).resolve_left ?_
      rintro rfl
      exact parted member
    exact ⟨_, .last only⟩
termination_by entities.length
decreasing_by
  rw [whole, List.length_append, List.length_cons]
  omega

/-- Entities that take turns are an expression. -/
theorem expression_exists (turns : TakesTurns (entities.map kept))
    (among : ∀ kind, combinator kind ∈ entities → kind ∈ kinds) :
    ∃ items, Expression kinds entities items := by
  induction kinds generalizing entities with
  | nil =>
    generalize whole : entities.map kept = items at turns
    cases turns with
    | last term =>
      obtain ⟨entity, rfl, rfl⟩ := List.map_eq_singleton_iff.mp whole
      exact ⟨_, .term (by simpa [isTerm] using term)⟩
    | more term kind others =>
      have member : kept (combinator kind) ∈ entities.map kept := by simp [whole]
      obtain ⟨entity, member, same⟩ := List.mem_map.mp member
      obtain rfl := Item.kept.inj same
      exact absurd (among kind member) List.not_mem_nil
  | cons joint tighter ih =>
    have operands : ∃ items, Operands joint tighter entities items :=
      operands_exist turns (fun kind member => List.mem_cons.mp (among kind member))
        fun part turns among => ih turns among
    obtain ⟨items, operands⟩ := operands
    cases operands with
    | last only => exact ⟨_, .single only⟩
    | more first more => exact ⟨_, .several first more⟩

namespace Item

/-- A part with one term stands for itself, and the others are put into a group. -/
def closeRun (nested : List Entity → List Item) : List Entity → Item
  | [term] => kept term
  | run => wrapped (nested run) none

def join (separator : Combinator) (first : Item) : List Item → List Item
  | [] => [first]
  | next :: rest => first :: kept (combinator separator) :: join separator next rest

/-- What nesting does, with a mark at the groups that it puts. -/
def nestBy : List Combinator → List Entity → List Item
  | [], entities => entities.map kept
  | separator :: tighter, entities =>
    match runs separator entities with
    | (_, []) => nestBy tighter entities
    | (run, more) =>
      let close := closeRun (nestBy tighter)
      join separator (close run) (more.map close)

theorem entities_map (items : List Item) : Item.entities items = items.map Item.entity := by
  induction items with
  | nil => rfl
  | cons item rest ih => rw [Item.entities, ih, List.map_cons]

theorem entities_join (separator : Combinator) (first : Item) (rest : List Item) :
    Item.entities (join separator first rest) =
      Entity.join separator first.entity (Item.entities rest) := by
  induction rest generalizing first with
  | nil => rfl
  | cons next rest ih =>
    rw [join, Item.entities, Item.entities, ih]
    rfl

/-- Without the marks it is the nested sequence. -/
theorem entities_nest (kinds : List Combinator) (entities : List Entity) :
    Item.entities (nestBy kinds entities) = Entity.nestBy kinds entities := by
  induction kinds generalizing entities with
  | nil =>
    rw [nestBy, entities_map, List.map_map]
    exact List.map_id entities
  | cons separator tighter ih =>
    have closed : ∀ run, (closeRun (nestBy tighter) run).entity =
        Entity.closeRun (Entity.nestBy tighter) run := by
      rintro (_ | ⟨term, _ | ⟨next, rest⟩⟩)
      · exact congrArg (group · none) (ih [])
      · rfl
      · exact congrArg (group · none) (ih (term :: next :: rest))
    rw [nestBy, Entity.nestBy]
    rcases runs separator entities with ⟨run, _ | ⟨next, more⟩⟩
    · exact ih entities
    · have others : Item.entities ((next :: more).map (closeRun (nestBy tighter))) =
          (next :: more).map (Entity.closeRun (Entity.nestBy tighter)) := by
        rw [entities_map, List.map_map]
        exact List.map_congr_left fun run _ => closed run
      exact (entities_join separator _ _).trans (by rw [closed, others])

end Item

private theorem mem_joined {kind : Combinator}
    (member : combinator kind ∈ entities ++ combinator joint :: rest) :
    combinator kind ∈ entities ∨ kind = joint ∨ combinator kind ∈ rest := by
  simpa using member

mutual

/-- An expression of these levels has their combinators only. -/
private theorem expression_kinds {kinds : List Combinator} {entities : List Entity}
    {items : List Item} (expression : Expression kinds entities items) {kind : Combinator}
    (member : combinator kind ∈ entities) : kind ∈ kinds := by
  cases expression with
  | term plain =>
    obtain rfl := List.mem_singleton.mp member
    cases plain
  | single only => exact List.mem_cons_of_mem _ (expression_kinds only member)
  | several first more =>
    rcases mem_joined member with member | rfl | member
    · exact List.mem_cons_of_mem _ (expression_kinds first member)
    · exact List.mem_cons_self
    · exact operands_kinds more member

private theorem operands_kinds {joint : Combinator} {tighter : List Combinator}
    {entities : List Entity} {items : List Item} (operands : Operands joint tighter entities items)
    {kind : Combinator} (member : combinator kind ∈ entities) : kind ∈ joint :: tighter := by
  cases operands with
  | last only => exact List.mem_cons_of_mem _ (expression_kinds only member)
  | more first more =>
    rcases mem_joined member with member | rfl | member
    · exact List.mem_cons_of_mem _ (expression_kinds first member)
    · exact List.mem_cons_self
    · exact operands_kinds more member

end

/-- An expression is one term, or goes on behind its first operand. -/
private theorem expression_cases (expression : Expression kinds entities items) :
    (∃ entity, entities = [entity] ∧ items = [kept entity]) ∨
      ∃ first next rest, entities = first :: next :: rest ∧ operand items = wrapped items none := by
  induction kinds generalizing entities items with
  | nil =>
    cases expression with
    | term plain => exact .inl ⟨_, rfl, rfl⟩
  | cons joint tighter ih =>
    cases expression with
    | single only => exact ih only
    | several first more =>
      rcases ih first with ⟨entity, rfl, rfl⟩ | ⟨term, next, rest, rfl, -⟩
      · exact .inr ⟨_, _, _, rfl, rfl⟩
      · exact .inr ⟨_, _, _, rfl, rfl⟩

section Marked

variable (apart : joint ∉ tighter)

include apart in
private theorem runs_expression (expression : Expression tighter entities items) :
    runs joint entities = (entities, []) := by
  refine runs_whole fun entity member same => ?_
  subst same
  exact apart (expression_kinds expression member)

variable
  (parts : ∀ {entities items}, Expression tighter entities items →
    Item.nestBy tighter entities = items)

include parts in
private theorem close_expression (expression : Expression tighter entities items) :
    Item.closeRun (Item.nestBy tighter) entities = operand items := by
  have nested := parts expression
  rcases expression_cases expression with ⟨entity, rfl, rfl⟩ | ⟨first, next, rest, rfl, group⟩
  · rfl
  · rw [group, ← nested]
    rfl

include apart parts in
private theorem operands_marked (operands : Operands joint tighter entities items) :
    Item.join joint (Item.closeRun (Item.nestBy tighter) (runs joint entities).1)
      ((runs joint entities).2.map (Item.closeRun (Item.nestBy tighter))) = items := by
  -- Each operand is shorter than the row, and the operands behind it are a row again.
  induction size : entities.length using Nat.strongRecOn generalizing entities items with
  | _ count ih =>
    cases operands with
    | last only =>
      rw [runs_expression apart only, close_expression parts only]
      rfl
    | @more _ _ _ rest _ _ first more =>
      have shorter : rest.length < count := by
        rw [← size, List.length_append, List.length_cons]
        omega
      rw [runs_join, runs_expression apart first, close_expression parts first, List.nil_append,
        List.map_cons, Item.join, ih rest.length shorter more rfl]

/-- The grammar derives nothing but what nesting puts. -/
theorem expression_marked (ordered : Ordered kinds) (expression : Expression kinds entities items) :
    Item.nestBy kinds entities = items := by
  induction kinds generalizing entities items with
  | nil =>
    cases expression with
    | term plain => rfl
  | cons joint tighter ih =>
    obtain ⟨loosest, ordered⟩ := List.pairwise_cons.mp ordered
    have apart : joint ∉ tighter := fun member => absurd (loosest joint member) (Nat.lt_irrefl _)
    have parts : ∀ {entities items}, Expression tighter entities items →
        Item.nestBy tighter entities = items := fun expression => ih ordered expression
    -- Whether anything is cut tells which of the two rules has been used.
    cases expression with
    | single only =>
      rw [Item.nestBy, runs_expression apart only]
      exact parts only
    | several first more =>
      have marked := operands_marked apart parts (.more first more)
      rw [runs_join, runs_expression apart first] at marked
      rw [Item.nestBy, runs_join, runs_expression apart first]
      exact marked

end Marked

/-- There is exactly one way to put groups into a sequence such that each sequence
has one kind of combinator and each group has its use, and nesting finds it. The
well nested sequences are those that the grammar derives. The nestings that are
compared are those whose sequences take turns, that of every group included. -/
theorem nest_is_the_only_nesting (turns : TakesTurns (entities.map kept)) :
    (∃ top, IsNesting entities top ∧ Item.entities top = nest entities ∧
      ∀ other, IsNesting entities other → other = top) ∧
    ∀ top, IsNesting entities top ↔ Expression Combinator.loosestFirst entities top := by
  have marked : ∀ {top}, Expression Combinator.loosestFirst entities top →
      Item.nestBy Combinator.loosestFirst entities = top :=
    fun expression => expression_marked loosest_first_ordered expression
  obtain ⟨top, expression⟩ := expression_exists turns fun kind _ => mem_loosest_first kind
  refine ⟨⟨top, nesting_iff_expression.mpr expression, ?_, fun other nesting => ?_⟩,
    fun top => nesting_iff_expression⟩
  · rw [← marked expression]
    exact Item.entities_nest Combinator.loosestFirst entities
  · rw [← marked expression, marked (nesting_iff_expression.mp nesting)]

/-- A group and four terms, with each of the combinators between two of them. -/
def everyLevel : List Entity :=
  [group [keyword "a" none, combinator .singleBar, keyword "b" none] (some .asterisk),
    combinator .juxtaposition, function "c", combinator .doubleAmpersand, dataType "<d>" none,
    combinator .doubleBar, keyword "e" none, combinator .singleBar, keyword "f" none]

/-- The group that was there before is a term like the others. -/
theorem every_level_nests_in_one_way :
    TakesTurns (everyLevel.map kept) ∧
    (∃ top, IsNesting everyLevel top ∧
      Item.entities top =
        [group [group [group [group [keyword "a" none, combinator .singleBar, keyword "b" none]
          (some .asterisk), combinator .juxtaposition, function "c"] none,
          combinator .doubleAmpersand, dataType "<d>" none] none,
          combinator .doubleBar, keyword "e" none] none, combinator .singleBar, keyword "f" none] ∧
      ∀ other, IsNesting everyLevel other → other = top) ∧
    ∀ top, IsNesting everyLevel top ↔ Expression Combinator.loosestFirst everyLevel top := by
  have turns : TakesTurns (everyLevel.map kept) :=
    .more rfl _ (.more rfl _ (.more rfl _ (.more rfl _ (.last rfl))))
  exact ⟨turns, nest_is_the_only_nesting turns⟩

end ValueGrammar.Precedence
