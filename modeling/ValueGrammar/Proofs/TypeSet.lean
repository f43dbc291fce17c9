import Std.Data.TreeSet.Lemmas
import ValueGrammar.Proofs.FirstOccurrences
import ValueGrammar.TypeSet

/-! What a set of descriptors stands for. However it was built, it lists the
descriptors that it was given, each where it came first, and the flags and the
search trees answer exactly as the list does. -/
namespace ValueGrammar.TypeSet
open FirstOccurrences

variable {set other : TypeSet} {types more : List Descriptor} {type : Descriptor}

/-- The set was given these descriptors in this order. -/
structure Holds (set : TypeSet) (types : List Descriptor) : Prop where
  listed : set.toList = types.eraseDups
  found : ∀ type, set.contains type = true ↔ type ∈ types

theorem insert_known (present : set.contains type = true) : set.insert type = (false, set) :=
  if_pos present

theorem insert_new (absent : ¬ set.contains type = true) :
    set.insert type = (true, { set.remember type with types := set.types.push type }) :=
  if_neg absent

/-- Lookup sees what has been remembered, and nothing else changes. A named
type is looked up among the members. -/
theorem contains_push (set : TypeSet) (type probe : Descriptor) :
    ({ set.remember type with types := set.types.push type } : TypeSet).contains probe = true ↔
      set.contains probe = true ∨ probe = type := by
  cases type <;> cases probe <;>
    simp [contains, remember] <;> rw [or_comm, eq_comm]

theorem holds_empty : Holds empty [] where
  listed := rfl
  found type := by cases type <;> simp [empty, contains]

/-- Adding a member that is there already changes nothing, and a new one comes
behind all others. -/
theorem holds_add (holds : Holds set types) (type : Descriptor) :
    Holds (set.add type) (types ++ [type]) := by
  unfold add
  by_cases present : set.contains type = true
  · have known := (holds.found type).mp present
    rw [insert_known present]
    refine ⟨?_, fun probe => ?_⟩
    · rw [erase_dups_known known]
      exact holds.listed
    · rw [holds.found]
      simp only [List.mem_append, List.mem_singleton]
      constructor
      · exact Or.inl
      · rintro (member | rfl)
        · exact member
        · exact known
  · have new := mt (holds.found type).mpr present
    rw [insert_new present]
    refine ⟨?_, fun probe => ?_⟩
    · rw [erase_dups_new new, ← holds.listed]
      exact Array.toList_push
    · rw [contains_push, holds.found]
      simp only [List.mem_append, List.mem_singleton]

theorem holds_extend (holds : Holds set types) (more : List Descriptor) :
    Holds (set.extend more) (types ++ more) := by
  induction more generalizing set types with
  | nil =>
    rw [List.append_nil]
    exact holds
  | cons type more ih =>
    rw [List.append_cons]
    exact ih (holds_add holds type)

/-- Merging gives the first set what the second one was given. -/
theorem holds_merge (holds : Holds set types) (others : Holds other more) :
    Holds (set.merge other) (types ++ more) := by
  have merged := holds_extend holds other.toList
  rw [others.listed] at merged
  refine ⟨?_, fun type => ?_⟩
  · rw [← erase_dups_append_erased, ← others.listed]
    have listed := merged.listed
    rw [← others.listed] at listed
    exact listed
  · rw [merge, others.listed, merged.found]
    simp only [List.mem_append, List.mem_eraseDups]

theorem holds_mem (holds : Holds set types) (type : Descriptor) :
    type ∈ set.toList ↔ type ∈ types := by
  rw [holds.listed, List.mem_eraseDups]

end ValueGrammar.TypeSet
