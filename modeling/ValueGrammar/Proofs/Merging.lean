import Mathlib.Data.List.Basic
import ValueGrammar.Proofs.Histories

/-! Merging sets of descriptors. What a set lists and finds is decided by the
descriptors that it was given, one after the other, so merging obeys the laws of
joining lists: the order of the steps leaves no trace, and a set takes nothing
from one that has nothing new. -/
namespace ValueGrammar.Merging
open TypeSet FirstOccurrences Histories

variable {set other : TypeSet} {types more : List Descriptor}

/-- The sets list the same members in the same order and find the same descriptors. -/
structure Agree (left right : TypeSet) : Prop where
  listed : left.toList = right.toList
  found : ∀ type, left.contains type = right.contains type

/-- Sets that were given the same descriptors in the same order agree, whatever
the steps were. -/
theorem holds_agree (holds : Holds set types) (holds' : Holds other types) : Agree set other where
  listed := holds.listed.trans holds'.listed.symm
  found type := by rw [Bool.eq_iff_iff, holds.found, holds'.found]

/-- The second set adds those of its members that the first one does not find. -/
theorem merged_listed (holds : Holds set types) (holds' : Holds other more) :
    (set.merge other).toList =
      set.toList ++ other.toList.filter fun type => !set.contains type := by
  have new : (fun type => !types.elem type) = fun type => !set.contains type := by
    funext type
    rw [Bool.not_inj_iff, Bool.eq_iff_iff, holds.found, List.elem_eq_mem, decide_eq_true_iff]
  rw [(holds_merge holds holds').listed, List.eraseDups_append, holds.listed, holds'.listed,
    ← erase_dups_filter, ← new]
  rfl

/-- Descriptors that are all found already change nothing. -/
theorem extend_known (known : ∀ type ∈ types, set.contains type = true) :
    set.extend types = set := by
  induction types with
  | nil => rfl
  | cons type types ih =>
    obtain ⟨present, others⟩ := List.forall_mem_cons.mp known
    have kept : set.add type = set := by rw [add, insert_known present]
    rw [extend, List.foldl_cons, kept]
    exact ih others

/-- A set takes nothing from itself. -/
theorem merge_self (holds : Holds set types) : set.merge set = set := by
  apply extend_known
  intro type member
  exact (holds_contains holds type).mpr member

/-- A merged set finds what either of the two finds. -/
theorem merged_contains (holds : Holds set types) (holds' : Holds other more) (type : Descriptor) :
    (set.merge other).contains type = (set.contains type || other.contains type) := by
  rw [Bool.eq_iff_iff, Bool.or_eq_true, (holds_merge holds holds').found, holds.found,
    holds'.found, List.mem_append]

theorem listed_nodup (holds : Holds set types) : set.toList.Nodup := by
  rw [holds.listed]
  exact erase_dups_nodup types

/-- Which of two sets is merged into the other decides the order of the members
alone. -/
theorem merged_perm (holds : Holds set types) (holds' : Holds other more) :
    (set.merge other).toList.Perm (other.merge set).toList := by
  have merged := holds_merge holds holds'
  have swapped := holds_merge holds' holds
  apply (List.perm_ext_iff_of_nodup (listed_nodup merged) (listed_nodup swapped)).mpr
  intro type
  rw [holds_mem merged, holds_mem swapped, List.mem_append, List.mem_append, or_comm]

/-- The laws of merging. -/
structure Laws (first second third : TypeSet) : Prop where
  /-- The members of the first set, and then what the second one has that is new. -/
  listed : (first.merge second).toList =
    first.toList ++ second.toList.filter fun type => !first.contains type
  assoc : Agree ((first.merge second).merge third) (first.merge (second.merge third))
  empty_merge : Agree (TypeSet.empty.merge first) first
  merge_empty : first.merge .empty = first
  idempotent : first.merge first = first
  found : ∀ type, (first.merge second).contains type = (second.merge first).contains type
  reordered : (first.merge second).toList.Perm (second.merge first).toList

/-- However three sets were made, merging them is associative, the empty set is
neutral on both sides, and a set that is merged with itself stays as it is. The
order of two sets decides nothing but the order in which members are listed. -/
theorem merging_is_an_ordered_monoid (first second third : History) :
    Laws first.run second.run third.run := by
  have holds := holds_run first
  have holds' := holds_run second
  have holds'' := holds_run third
  have nested := holds_merge (holds_merge holds holds') holds''
  rw [List.append_assoc] at nested
  exact {
    listed := merged_listed holds holds'
    assoc := holds_agree nested (holds_merge holds (holds_merge holds' holds''))
    empty_merge := holds_agree (holds_merge holds_empty holds) holds
    merge_empty := rfl
    idempotent := merge_self holds
    found := by
      intro type
      rw [merged_contains holds holds', merged_contains holds' holds, Bool.or_comm]
    reordered := merged_perm holds holds' }

end ValueGrammar.Merging
