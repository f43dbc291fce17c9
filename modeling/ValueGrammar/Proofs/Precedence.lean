import ValueGrammar.Proofs.Nesting

/-! What nesting by precedence has to achieve. Groups are put around parts of a
sequence until every sequence has one kind of combinator, and a group binds
tighter than the sequence that it stands in. The sequences that are nested in this
way are those that a grammar with a level for each combinator derives. -/
namespace ValueGrammar.Precedence
open Entity Nesting

/-- An item of a nested sequence: an entity that stood in the sequence before, or
a group that nesting has put around some of the items. -/
inductive Item where
  | kept (entity : Entity)
  | wrapped (items : List Item) (multiplier : Option Multiplier)

namespace Item

mutual

/-- The entity that the item is once nobody asks where the groups come from. -/
def entity : Item → Entity
  | kept entity => entity
  | wrapped items multiplier => .group (entities items) multiplier

def entities : List Item → List Entity
  | [] => []
  | item :: rest => item.entity :: entities rest

end

mutual

/-- What the item was before nesting put groups around it. -/
def inlined : Item → List Entity
  | kept entity => [entity]
  | wrapped items _ => inlinedAll items

def inlinedAll : List Item → List Entity
  | [] => []
  | item :: rest => item.inlined ++ inlinedAll rest

end

/-- Whether the item is a term. Every group is one. -/
def isTerm : Item → Bool
  | kept entity => !entity.isCombinator
  | wrapped .. => true

def combinator? : Item → Option Combinator
  | kept entity => entity.combinator?
  | wrapped .. => none

end Item

open Item

/-- The combinators that stand in a sequence, outside of its groups. -/
def combinators (sequence : List Item) : List Combinator := sequence.filterMap Item.combinator?

/-- How tightly a combinator binds: juxtaposition before `&&` before `||` before `|`. -/
def tightness : Combinator → Nat
  | .singleBar => 0
  | .doubleBar => 1
  | .doubleAmpersand => 2
  | .juxtaposition => 3

/-- Terms and combinators take turns, from a first term to a last one. -/
inductive TakesTurns : List Item → Prop where
  | last {item : Item} (term : item.isTerm = true) : TakesTurns [item]
  | more {item : Item} {rest : List Item} (term : item.isTerm = true) (kind : Combinator)
    (others : TakesTurns rest) : TakesTurns (item :: kept (combinator kind) :: rest)

/-- Somewhere in the sequence, at any depth, a group with these items and this
multiplier was put into a sequence, which is called the outer one. -/
inductive Stands (top : List Item) : List Item → List Item → Option Multiplier → Prop where
  | atTop {inner : List Item} {multiplier : Option Multiplier}
    (member : wrapped inner multiplier ∈ top) : Stands top top inner multiplier
  | deeper {outer inner innermost : List Item} {multiplier other : Option Multiplier}
    (around : Stands top outer inner multiplier) (member : wrapped innermost other ∈ inner) :
    Stands top inner innermost other

/-- The sequence itself, or that of a group that was put somewhere into it. -/
def Occurs (top sequence : List Item) : Prop :=
  sequence = top ∨ ∃ outer multiplier, Stands top outer sequence multiplier

/-- A group has its use in a sequence: it holds several terms apart from others,
and binds tighter than the sequence does. -/
structure Fits (outer inner : List Item) (multiplier : Option Multiplier) : Prop where
  plain : multiplier = none
  several : 2 ≤ inner.countP isTerm
  joined : combinators outer ≠ []
  tighter : ∀ joint ∈ combinators outer, ∀ kind ∈ combinators inner,
    tightness joint < tightness kind

/-- Each of the sequences has one kind of combinator, and each of the groups that
were put into them has its use. -/
structure WellNested (top : List Item) : Prop where
  turns : ∀ sequence, Occurs top sequence → TakesTurns sequence
  uniform : ∀ sequence, Occurs top sequence →
    ∀ kind ∈ combinators sequence, ∀ other ∈ combinators sequence, kind = other
  fits : ∀ outer inner multiplier, Stands top outer inner multiplier → Fits outer inner multiplier

/-- Groups were put into the sequence, and nothing else was done to it. -/
structure IsNesting (entities : List Entity) (top : List Item) : Prop extends WellNested top where
  inlined : inlinedAll top = entities

/-- An operand of a sequence. One term stands for itself, and several are made a
group. -/
def operand : List Item → Item
  | [item] => item
  | items => wrapped items none

mutual

/-- The grammar with a level for each of the combinators, the loosest first. An
expression of a level is one of the next level, or several of them with the
combinator of the level between each two. Below the last level are the terms. -/
inductive Expression : List Combinator → List Entity → List Item → Prop where
  | term {entity : Entity} (plain : entity.isCombinator = false) :
    Expression [] [entity] [kept entity]
  | single {joint : Combinator} {tighter : List Combinator} {entities : List Entity}
    {items : List Item} (only : Expression tighter entities items) :
    Expression (joint :: tighter) entities items
  | several {joint : Combinator} {tighter : List Combinator} {entities rest : List Entity}
    {items others : List Item} (first : Expression tighter entities items)
    (more : Operands joint tighter rest others) :
    Expression (joint :: tighter) (entities ++ combinator joint :: rest)
      (operand items :: kept (combinator joint) :: others)

/-- One or more expressions of the levels below a combinator, with the combinator
between each two. -/
inductive Operands : Combinator → List Combinator → List Entity → List Item → Prop where
  | last {joint : Combinator} {tighter : List Combinator} {entities : List Entity}
    {items : List Item} (only : Expression tighter entities items) :
    Operands joint tighter entities [operand items]
  | more {joint : Combinator} {tighter : List Combinator} {entities rest : List Entity}
    {items others : List Item} (first : Expression tighter entities items)
    (more : Operands joint tighter rest others) :
    Operands joint tighter (entities ++ combinator joint :: rest)
      (operand items :: kept (combinator joint) :: others)

end

variable {top outer inner items others sequence : List Item} {multiplier : Option Multiplier}
  {item : Item} {entities rest : List Entity} {joint : Combinator} {tighter kinds : List Combinator}

theorem stands_inside (member : wrapped inner multiplier ∈ top) {innermost : List Item}
    {other : Option Multiplier} (stands : Stands inner outer innermost other) :
    Stands top outer innermost other := by
  induction stands with
  | atTop within => exact .deeper (.atTop member) within
  | deeper around within ih => exact .deeper ih within

/-- What is put into a group has its use there too. -/
theorem well_nested_inside (nested : WellNested top) (member : wrapped inner multiplier ∈ top) :
    WellNested inner := by
  have occurs : ∀ sequence, Occurs inner sequence → Occurs top sequence := by
    rintro sequence (rfl | ⟨outer, other, stands⟩)
    · exact .inr ⟨top, multiplier, .atTop member⟩
    · exact .inr ⟨outer, other, stands_inside member stands⟩
  constructor
  · intro sequence among
    exact nested.turns sequence (occurs sequence among)
  · intro sequence among
    exact nested.uniform sequence (occurs sequence among)
  · intro outer innermost other stands
    exact nested.fits outer innermost other (stands_inside member stands)

/-- A group somewhere in a sequence stands in the sequence or in one of its groups. -/
private theorem stands_cases {innermost : List Item} {other : Option Multiplier}
    (stands : Stands top outer innermost other) :
    (outer = top ∧ wrapped innermost other ∈ top) ∨
      ∃ inner multiplier, wrapped inner multiplier ∈ top ∧ Stands inner outer innermost other := by
  induction stands with
  | atTop member => exact .inl ⟨rfl, member⟩
  | deeper around member ih =>
    rcases ih with ⟨rfl, among⟩ | ⟨inner, multiplier, among, stands⟩
    · exact .inr ⟨_, _, among, .atTop member⟩
    · exact .inr ⟨inner, multiplier, among, .deeper stands member⟩

/-- A sequence is well nested if it is uniform and each of its groups has its use
and is well nested. -/
theorem well_nested_of_groups (turns : TakesTurns top)
    (uniform : ∀ kind ∈ combinators top, ∀ other ∈ combinators top, kind = other)
    (groups : ∀ inner multiplier, wrapped inner multiplier ∈ top →
      Fits top inner multiplier ∧ WellNested inner) : WellNested top := by
  have occurs : ∀ sequence, Occurs top sequence → sequence = top ∨
      ∃ inner multiplier, wrapped inner multiplier ∈ top ∧ Occurs inner sequence := by
    rintro sequence (rfl | ⟨outer, multiplier, stands⟩)
    · exact .inl rfl
    · rcases stands_cases stands with ⟨rfl, member⟩ | ⟨inner, other, member, stands⟩
      · exact .inr ⟨sequence, multiplier, member, .inl rfl⟩
      · exact .inr ⟨inner, other, member, .inr ⟨outer, multiplier, stands⟩⟩
  constructor
  · intro sequence among
    rcases occurs sequence among with rfl | ⟨inner, multiplier, member, among⟩
    · exact turns
    · exact (groups inner multiplier member).2.turns sequence among
  · intro sequence among
    rcases occurs sequence among with rfl | ⟨inner, multiplier, member, among⟩
    · exact uniform
    · exact (groups inner multiplier member).2.uniform sequence among
  · intro outer innermost other stands
    rcases stands_cases stands with ⟨rfl, member⟩ | ⟨inner, multiplier, member, stands⟩
    · exact (groups innermost other member).1
    · exact (groups inner multiplier member).2.fits outer innermost other stands

private theorem turns_count (turns : TakesTurns sequence) : 1 ≤ sequence.countP isTerm := by
  cases turns with
  | last term => simp [term]
  | more term kind others => simp [term]

/-- A well nested sequence is one term that was there before, or makes a group. -/
private theorem operand_cases (nested : WellNested items) :
    (∃ entity, items = [kept entity] ∧ entity.isCombinator = false) ∨
      operand items = wrapped items none ∧ 2 ≤ items.countP isTerm := by
  have turns := nested.turns items (.inl rfl)
  cases turns with
  | @last item term =>
    cases item with
    | kept entity => exact .inl ⟨entity, rfl, by simpa [isTerm] using term⟩
    | wrapped inner multiplier =>
      have fits := nested.fits _ _ _ (.atTop List.mem_cons_self)
      exact absurd rfl fits.joined
  | @more item rest term kind others =>
    refine .inr ⟨rfl, ?_⟩
    have count := turns_count others
    have combinator : (kept (combinator kind)).isTerm = false := rfl
    simp only [List.countP_cons, term, combinator, if_true]
    omega

private theorem operand_term (nested : WellNested items) : (operand items).isTerm = true := by
  rcases operand_cases nested with ⟨entity, rfl, plain⟩ | ⟨group, -⟩
  · simp [operand, isTerm, plain]
  · rw [group]
    rfl

private theorem operand_inlined (items : List Item) :
    (operand items).inlined = inlinedAll items := by
  unfold operand
  split
  · simp [inlinedAll]
  · rfl

private theorem operand_combinator (nested : WellNested items) :
    (operand items).combinator? = none := by
  rcases operand_cases nested with ⟨entity, rfl, plain⟩ | ⟨group, -⟩
  · cases entity <;> first | rfl | cases plain
  · rw [group]
    rfl

/-- The combinators of an operand are not those of the sequence around it. -/
private theorem combinators_more (nested : WellNested items) :
    combinators (operand items :: kept (combinator joint) :: others) =
      joint :: combinators others := by
  rw [combinators, List.filterMap_cons_none (operand_combinator nested)]
  rfl

/-- Operands in a row, with the same combinator between each two. The groups
among them bind tighter. -/
structure Row (joint : Combinator) (tighter : List Combinator) (entities : List Entity)
    (row : List Item) : Prop where
  inlined : inlinedAll row = entities
  turns : TakesTurns row
  alike : ∀ kind ∈ combinators row, kind = joint
  groups : ∀ inner multiplier, wrapped inner multiplier ∈ row →
    multiplier = none ∧ 2 ≤ inner.countP isTerm ∧ (∀ kind ∈ combinators inner, kind ∈ tighter) ∧
      WellNested inner

private theorem operand_group (nested : WellNested items)
    (among : ∀ kind ∈ combinators items, kind ∈ tighter)
    (group : wrapped inner multiplier = operand items) :
    multiplier = none ∧ 2 ≤ inner.countP isTerm ∧ (∀ kind ∈ combinators inner, kind ∈ tighter) ∧
      WellNested inner := by
  rcases operand_cases nested with ⟨entity, rfl, plain⟩ | ⟨whole, several⟩
  · cases group
  · rw [whole] at group
    obtain ⟨rfl, rfl⟩ := Item.wrapped.inj group
    exact ⟨rfl, several, among, nested⟩

theorem row_last (nesting : IsNesting entities items)
    (among : ∀ kind ∈ combinators items, kind ∈ tighter) :
    Row joint tighter entities [operand items] := by
  have nested := nesting.toWellNested
  constructor
  · rw [inlinedAll, operand_inlined, nesting.inlined]
    exact List.append_nil entities
  · exact .last (operand_term nested)
  · simp [combinators, operand_combinator nested]
  · intro inner multiplier member
    exact operand_group nested among (List.mem_singleton.mp member)

theorem row_more (nesting : IsNesting entities items)
    (among : ∀ kind ∈ combinators items, kind ∈ tighter) (row : Row joint tighter rest others) :
    Row joint tighter (entities ++ combinator joint :: rest)
      (operand items :: kept (combinator joint) :: others) := by
  have nested := nesting.toWellNested
  constructor
  · rw [inlinedAll, operand_inlined, nesting.inlined, inlinedAll, row.inlined]
    rfl
  · exact .more (operand_term nested) joint row.turns
  · rw [combinators_more nested]
    exact List.forall_mem_cons.mpr ⟨rfl, row.alike⟩
  · intro inner multiplier member
    rcases List.mem_cons.mp member with group | member
    · exact operand_group nested among group
    rcases List.mem_cons.mp member with group | member
    · cases group
    · exact row.groups inner multiplier member

/-- The combinators are in order: each binds tighter than those before it. -/
abbrev Ordered (kinds : List Combinator) : Prop :=
  kinds.Pairwise fun joint kind => tightness joint < tightness kind

/-- Several operands in a row are well nested. -/
theorem row_nests (ordered : Ordered (joint :: tighter)) (row : Row joint tighter entities items)
    (joined : combinators items ≠ []) : IsNesting entities items := by
  refine ⟨well_nested_of_groups row.turns ?_ ?_, row.inlined⟩
  · intro kind among other among'
    rw [row.alike kind among, row.alike other among']
  · intro inner multiplier member
    obtain ⟨plain, several, inside, nested⟩ := row.groups inner multiplier member
    refine ⟨⟨plain, several, joined, ?_⟩, nested⟩
    intro kind among other among'
    rw [row.alike kind among]
    exact (List.pairwise_cons.mp ordered).1 other (inside other among')

mutual

/-- Expressions are well nested. -/
theorem expression_nests {kinds : List Combinator} {entities : List Entity} {items : List Item}
    (expression : Expression kinds entities items) (ordered : Ordered kinds) :
    IsNesting entities items ∧ ∀ kind ∈ combinators items, kind ∈ kinds := by
  cases expression with
  | @term entity plain =>
    have none : entity.combinator? = none := by
      cases entity <;> first | rfl | cases plain
    have free : combinators [kept entity] = [] := by
      simp [combinators, Item.combinator?, none]
    refine ⟨⟨well_nested_of_groups (.last (by simp [isTerm, plain])) ?_ ?_, rfl⟩, ?_⟩
    · simp [free]
    · simp
    · simp [free]
  | single only =>
    obtain ⟨nesting, among⟩ := expression_nests only ordered.of_cons
    exact ⟨nesting, fun kind member => List.mem_cons_of_mem _ (among kind member)⟩
  | several first more =>
    obtain ⟨nesting, among⟩ := expression_nests first ordered.of_cons
    have row := row_more nesting among (operands_row more ordered)
    refine ⟨row_nests ordered row ?_, fun kind member => ?_⟩
    · rw [combinators_more nesting.toWellNested]
      exact List.cons_ne_nil _ _
    · rw [row.alike kind member]
      exact List.mem_cons_self

theorem operands_row {joint : Combinator} {tighter : List Combinator} {entities : List Entity}
    {items : List Item} (operands : Operands joint tighter entities items)
    (ordered : Ordered (joint :: tighter)) : Row joint tighter entities items := by
  cases operands with
  | last only =>
    obtain ⟨nesting, among⟩ := expression_nests only ordered.of_cons
    exact row_last nesting among
  | more first more =>
    obtain ⟨nesting, among⟩ := expression_nests first ordered.of_cons
    exact row_more nesting among (operands_row more ordered)

end

theorem mem_combinators {kind : Combinator} :
    kind ∈ combinators items ↔ kept (combinator kind) ∈ items := by
  have only : ∀ item : Item, item.combinator? = some kind ↔ item = kept (combinator kind) := by
    rintro (entity | ⟨inner, multiplier⟩)
    · cases entity <;> simp [Item.combinator?, Entity.combinator?]
    · simp [Item.combinator?]
  simp [combinators, List.mem_filterMap, only]

/-- What a nesting puts between combinators of the loosest kind is a row of
operands. -/
private theorem row_operands (turns : TakesTurns items)
    (alike : ∀ kind, kept (combinator kind) ∈ items → kind = joint)
    (operands : ∀ item ∈ items, item.isTerm = true →
      ∃ inner, Expression tighter item.inlined inner ∧ operand inner = item) :
    Operands joint tighter (inlinedAll items) items := by
  induction turns with
  | @last item term =>
    obtain ⟨inner, expression, same⟩ := operands item List.mem_cons_self term
    have only : Operands joint tighter item.inlined [operand inner] := .last expression
    rwa [same, ← List.append_nil item.inlined] at only
  | @more item rest term kind others ih =>
    obtain ⟨inner, expression, same⟩ := operands item List.mem_cons_self term
    have behind : ∀ {other}, other ∈ rest → other ∈ item :: kept (combinator kind) :: rest :=
      fun member => List.mem_cons_of_mem _ (List.mem_cons_of_mem _ member)
    have more := ih (fun other member => alike other (behind member))
      fun other member => operands other (behind member)
    obtain rfl : kind = joint := alike kind (List.mem_cons_of_mem _ List.mem_cons_self)
    have whole := Operands.more expression more
    rw [same] at whole
    exact whole

/-- An entity that is a term is an expression of every level. -/
private theorem expression_term {entity : Entity} (plain : entity.isCombinator = false)
    (kinds : List Combinator) : Expression kinds [entity] [kept entity] := by
  induction kinds with
  | nil => exact .term plain
  | cons kind kinds ih => exact .single ih

/-- Several operands in a row are an expression of the level of their combinator. -/
private theorem operands_expression (ordered : Ordered tighter)
    (row : Operands joint tighter entities items) (joined : joint ∈ combinators items) :
    Expression (joint :: tighter) entities items := by
  cases row with
  | last only =>
    have nested := (expression_nests only ordered).1.toWellNested
    simp [combinators, operand_combinator nested] at joined
  | more first more => exact .several first more

/-- What stands in a nesting by itself is an operand. -/
private theorem nesting_operand (nested : WellNested top) (member : item ∈ top)
    (term : item.isTerm = true) (groups : ∀ inner, Fits top inner none → WellNested inner →
      Expression tighter (inlinedAll inner) inner) :
    ∃ inner, Expression tighter item.inlined inner ∧ operand inner = item := by
  cases item with
  | kept entity => exact ⟨_, expression_term (by simpa [isTerm] using term) tighter, rfl⟩
  | wrapped inner multiplier =>
    have fits := nested.fits top inner multiplier (.atTop member)
    have inside := well_nested_inside nested member
    obtain rfl := fits.plain
    refine ⟨inner, groups inner fits inside, ?_⟩
    rcases operand_cases inside with ⟨entity, rfl, plain⟩ | ⟨group, -⟩
    · have several := fits.several
      rw [List.countP_singleton] at several
      split at several <;> omega
    · exact group

/-- A nesting with combinators of these levels is derived by the grammar of the
levels. -/
theorem nesting_expression (ordered : Ordered kinds)
    (all : ∀ joint ∈ kinds, ∀ kind, tightness joint < tightness kind → kind ∈ kinds)
    (nested : WellNested top) (among : ∀ kind ∈ combinators top, kind ∈ kinds) :
    Expression kinds (inlinedAll top) top := by
  induction kinds generalizing top with
  | nil =>
    have turns := nested.turns top (.inl rfl)
    rcases operand_cases nested with ⟨entity, rfl, plain⟩ | ⟨-, several⟩
    · exact .term plain
    cases turns with
    | last term => simp [term] at several
    | more term kind others =>
      exact absurd (among kind (mem_combinators.mpr (by simp))) List.not_mem_nil
  | cons joint tighter ih =>
    obtain ⟨loosest, ordered⟩ := List.pairwise_cons.mp ordered
    have below : ∀ kind, tightness joint < tightness kind → kind ∈ tighter := by
      intro kind binds
      rcases List.mem_cons.mp (all joint List.mem_cons_self kind binds) with rfl | member
      · exact absurd binds (Nat.lt_irrefl _)
      · exact member
    have closed : ∀ other ∈ tighter, ∀ kind, tightness other < tightness kind → kind ∈ tighter :=
      fun other member kind binds => below kind (Nat.lt_trans (loosest other member) binds)
    -- A group binds tighter than the sequence around it, so it is of a level below.
    by_cases used : joint ∈ combinators top
    · have turns := nested.turns top (.inl rfl)
      refine operands_expression ordered (row_operands turns ?_ ?_) used
      · intro kind member
        exact nested.uniform top (.inl rfl) kind (mem_combinators.mpr member) joint used
      · intro item member term
        refine nesting_operand nested member term fun inner fits inside => ?_
        refine ih ordered closed inside fun kind member => ?_
        exact below kind (fits.tighter joint used kind member)
    · refine .single (ih ordered closed nested fun kind member => ?_)
      rcases List.mem_cons.mp (among kind member) with rfl | member
      · exact absurd member used
      · exact member

/-- All the combinators, the loosest first, are in order. -/
theorem loosest_first_ordered : Ordered Combinator.loosestFirst := by decide

theorem mem_loosest_first (kind : Combinator) : kind ∈ Combinator.loosestFirst := by
  cases kind <;> decide

/-- The well nested sequences are those of the grammar. -/
theorem nesting_iff_expression :
    IsNesting entities top ↔ Expression Combinator.loosestFirst entities top := by
  constructor
  · intro nesting
    obtain rfl := nesting.inlined
    exact nesting_expression loosest_first_ordered (fun _ _ kind _ => mem_loosest_first kind)
      nesting.toWellNested fun kind _ => mem_loosest_first kind
  · intro expression
    exact (expression_nests expression loosest_first_ordered).1

end ValueGrammar.Precedence
