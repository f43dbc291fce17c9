import ValueGrammar.Proofs.Contributions

/-! Every set of descriptors that can be made. Whatever it was given and merged
with, its flags and its search trees tell what its list of members tells, and
no member is listed twice. -/
namespace ValueGrammar.Histories
open TypeSet Contributions

/-- How a set was made. A set that is merged has a history of its own. -/
inductive History where
  | empty
  | ofList (types : List Descriptor)
  | insert (history : History) (type : Descriptor)
  | extend (history : History) (types : List Descriptor)
  | merge (history other : History)

variable {set : TypeSet} {types : List Descriptor} {type : Descriptor}

namespace History

/-- The set that was made. -/
def run : History → TypeSet
  | empty => TypeSet.empty
  | ofList types => TypeSet.ofList types
  | insert history type => (history.run.insert type).2
  | extend history types => history.run.extend types
  | merge history other => history.run.merge other.run

/-- Everything that the set was given, in order, repetitions included. -/
def given : History → List Descriptor
  | empty => []
  | ofList types => types
  | insert history type => history.given ++ [type]
  | extend history types => history.given ++ types
  | merge history other => history.given ++ other.given

end History

/-- Each operation keeps what the set stands for in step with what it was given. -/
theorem holds_run (history : History) : Holds history.run history.given := by
  induction history with
  | empty => exact holds_empty
  | ofList types => exact holds_extend holds_empty types
  | insert history type ih => exact holds_add ih type
  | extend history types ih => exact holds_extend ih types
  | merge history other ih ih' => exact holds_merge ih ih'

/-- The flags and the search trees of a set are in step with its members. -/
structure Consistent (set : TypeSet) : Prop where
  string : set.hasString = true ↔ .string ∈ set.toList
  number : set.hasNumber = true ↔ .number ∈ set.toList
  length : set.hasLength = true ↔ .length ∈ set.toList
  stringLiterals : ∀ literal, set.stringLiterals.contains literal = true ↔
    .stringLiteral literal ∈ set.toList
  /-- Literals are found by their bits. -/
  numericLiterals : ∀ literal, set.numericLiterals.contains literal = true ↔
    ∃ member, .numericLiteral member ∈ set.toList ∧ member.toBits = literal.toBits
  dataTypes : ∀ name, set.dataTypes.contains name = true ↔ .dataType name ∈ set.toList
  distinct : set.toList.Pairwise fun left right => identical left right = false
  contains : ∀ type, set.contains type = true ↔ ∃ member ∈ set.toList, identical member type

/-- What giving a descriptor to a set does: a new one comes behind the members
and is looked up from then on, and nothing changes for one that is known. -/
structure Inserts (set : TypeSet) (type : Descriptor) : Prop where
  added : (set.insert type).1 = true ↔ ∀ member ∈ set.toList, identical member type = false
  appended : (set.insert type).1 = true → (set.insert type).2.toList = set.toList ++ [type]
  noted : (set.insert type).1 = true → ∀ probe, (set.insert type).2.contains probe = true ↔
    set.contains probe = true ∨ identical probe type = true
  kept : (set.insert type).1 = false → (set.insert type).2 = set

private theorem not_identical (left right : Descriptor) :
    identical left right = false ↔ left ≠ right := by
  rw [Bool.eq_false_iff, ne_eq, identical_iff]

/-- The members answer every lookup. -/
theorem holds_contains (holds : Holds set types) (type : Descriptor) :
    set.contains type = true ↔ type ∈ set.toList :=
  (holds.found type).trans (holds_mem holds type).symm

theorem holds_consistent (holds : Holds set types) : Consistent set where
  string := holds_contains holds .string
  number := holds_contains holds .number
  length := holds_contains holds .length
  stringLiterals literal := holds_contains holds (.stringLiteral literal)
  numericLiterals literal := by
    have looked := holds_contains holds (.numericLiteral literal)
    constructor
    · intro found
      exact ⟨literal, looked.mp found, rfl⟩
    · rintro ⟨member, listed, same⟩
      rw [Binary64.toBits_injective same] at listed
      exact looked.mpr listed
  dataTypes name := holds_contains holds (.dataType name)
  distinct := by
    simp only [not_identical]
    rw [holds.listed]
    exact FirstOccurrences.erase_dups_nodup types
  contains type := by
    simp only [identical_iff, exists_eq_right]
    exact holds_contains holds type

private theorem inserts_known (present : set.contains type = true) (listed : type ∈ set.toList) :
    Inserts set type where
  added := by
    rw [insert_known present]
    refine ⟨nofun, fun absent => ?_⟩
    exact absurd rfl ((not_identical type type).mp (absent type listed))
  appended := by
    rw [insert_known present]
    exact nofun
  noted := by
    rw [insert_known present]
    exact nofun
  kept _ := by rw [insert_known present]

private theorem inserts_new (absent : ¬ set.contains type = true) (new : type ∉ set.toList) :
    Inserts set type where
  added := by
    rw [insert_new absent]
    refine ⟨fun _ member listed => ?_, fun _ => rfl⟩
    rw [not_identical]
    rintro rfl
    exact new listed
  appended _ := by
    rw [insert_new absent]
    exact Array.toList_push
  noted _ probe := by
    rw [insert_new absent, identical_iff]
    exact contains_push set type probe
  kept := by
    rw [insert_new absent]
    exact nofun

/-- Whether a descriptor is new is looked up, and the members agree. -/
theorem holds_inserts (holds : Holds set types) (type : Descriptor) : Inserts set type := by
  have looked := holds_contains holds type
  by_cases present : set.contains type = true
  · exact inserts_known present (looked.mp present)
  · exact inserts_new present (mt looked.mpr present)

/-- However a set was made, its flags and its search trees are in step with its
members, and one more descriptor is added to it only if it is new. -/
theorem histories_are_consistent (history : History) :
    Consistent history.run ∧ ∀ type, Inserts history.run type :=
  ⟨holds_consistent (holds_run history), holds_inserts (holds_run history)⟩

/-- Both zeros are kept, and so are two types of one name with other parameters;
a NaN is found again. -/
example : (History.merge (.insert (.ofList [.numericLiteral (.nan false),
      .numericLiteral (.zero false)]) (.named "Globals" []))
    (.extend .empty [.numericLiteral (.zero true), .numericLiteral (.nan false),
      .named "Globals" [⟨"T", none⟩], .named "Globals" []])).run.toList =
    [.numericLiteral (.nan false), .numericLiteral (.zero false), .named "Globals" [],
      .numericLiteral (.zero true), .named "Globals" [⟨"T", none⟩]] := by
  decide +kernel

end ValueGrammar.Histories
