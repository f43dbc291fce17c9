import Mathlib.Data.List.Basic
import ValueGrammar.Catalog
import ValueGrammar.Proofs.FirstOccurrences

/-! What a catalog holds that was built from lists of names. It lists the names that
have a kind, each where it comes first, and for every name the lookups agree with the
list. Of the names that have a syntax it only matters which ones they are. -/
namespace ValueGrammar.Building
open Catalog FirstOccurrences

variable {types syntaxes names : List String} {catalog : Catalog} {name : String}

/-- Whether the name is kept out of no catalog, whatever has a syntax. -/
def isPrimitive (name : String) : Bool := name = "number" || name = "integer" || name = "length"

/-- Whether the name has a kind, given the names that have a syntax. -/
def isBasic (syntaxes : List String) (name : String) : Bool :=
  isPrimitive name || !syntaxes.contains name

/-- The kind of a name that has one. -/
def kindOf (name : String) : Primitive :=
  if name = "number" ∨ name = "integer" then .number
  else if name = "length" then .length
  else .string

/-- The names in a catalog, in its order. -/
def keys (catalog : Catalog) : List String := catalog.entries.map Prod.fst

/-- The catalog has been asked to hold these names in this order. -/
def Holds (syntaxes names : List String) (catalog : Catalog) : Prop :=
  catalog.entries =
    ((names.filter (isBasic syntaxes)).eraseDups).map fun name => (name, kindOf name)

theorem classify_eq (syntaxes : List String) (name : String) :
    classify syntaxes name = if isBasic syntaxes name then some (kindOf name) else none := by
  unfold classify isBasic isPrimitive kindOf
  by_cases number : name = "number" ∨ name = "integer"
  · rcases number with rfl | rfl <;> simp
  · rw [not_or] at number
    by_cases length : name = "length"
    · subst length
      simp
    · cases listed : syntaxes.contains name <;> simp [number, length]

theorem holds_keys (holds : Holds syntaxes names catalog) :
    keys catalog = (names.filter (isBasic syntaxes)).eraseDups := by
  rw [keys, holds, List.map_map]
  exact List.map_id _

theorem holds_get (holds : Holds syntaxes names catalog) (name : String) :
    catalog.get? name = if name ∈ keys catalog then some (kindOf name) else none := by
  rw [holds_keys holds, get?, holds]
  split
  · next listed => exact List.lookup_graph kindOf listed
  · next absent =>
    rw [List.lookup_eq_none_iff]
    intro entry member
    obtain ⟨other, listed, rfl⟩ := List.mem_map.mp member
    rw [bne_iff_ne]
    rintro rfl
    exact absent listed

theorem holds_contains (holds : Holds syntaxes names catalog) (name : String) :
    catalog.contains name = true ↔ name ∈ keys catalog := by
  rw [Catalog.contains, holds_get holds]
  split <;> simp_all

/-- A name that has a kind comes behind the others unless it is there already. -/
theorem holds_add (holds : Holds syntaxes names catalog) (name : String) :
    Holds syntaxes (names ++ [name]) (add syntaxes catalog name) := by
  rw [add, classify_eq, Holds, List.filter_append]
  by_cases basic : isBasic syntaxes name = true
  · have known := (holds_contains holds name).trans (holds_keys holds ▸ List.mem_eraseDups)
    rw [List.filter_cons_of_pos basic, List.filter_nil]
    simp only [basic, if_true]
    by_cases present : catalog.contains name = true
    · rw [if_pos present, erase_dups_known (known.mp present)]
      exact holds
    · rw [if_neg present, erase_dups_new (mt known.mpr present), List.map_append, ← holds]
      rfl
  · rw [List.filter_cons_of_neg basic, List.filter_nil, List.append_nil]
    simp only [basic]
    exact holds

/-- All of the names are asked for, from the first to the last. -/
theorem holds_all (holds : Holds syntaxes names catalog) (more : List String) :
    Holds syntaxes (names ++ more) (more.foldl (add syntaxes) catalog) := by
  induction more generalizing names catalog with
  | nil =>
    rw [List.append_nil]
    exact holds
  | cons name more ih =>
    rw [List.append_cons]
    exact ih (holds_add holds name)

theorem holds_build (types syntaxes : List String) :
    Holds syntaxes (types ++ ["hex-color"]) (build types syntaxes) :=
  holds_all (show Holds syntaxes [] ⟨[]⟩ from rfl) (types ++ extraNames)

private theorem entries_decide {left right : Catalog} (same : left.entries = right.entries) :
    left = right := by
  cases left
  cases right
  exact congrArg Catalog.mk same

/-- Which names have a syntax decides, and not how they are listed. -/
theorem build_syntaxes {other : List String} (same : ∀ name, name ∈ other ↔ name ∈ syntaxes)
    (types : List String) : build types other = build types syntaxes := by
  have basic : isBasic other = isBasic syntaxes := by
    funext name
    have listed : other.contains name = syntaxes.contains name := by
      rw [Bool.eq_iff_iff, List.contains_iff_mem, List.contains_iff_mem]
      exact same name
    rw [isBasic, isBasic, listed]
  apply entries_decide
  rw [holds_build types other, holds_build types syntaxes, basic]

/-- Which names come first decides, and not how often they come again. -/
theorem build_types {other : List String} (same : other.eraseDups = types.eraseDups)
    (syntaxes : List String) : build other syntaxes = build types syntaxes := by
  have members : ∀ name, name ∈ other ↔ name ∈ types := by
    intro name
    rw [← List.mem_eraseDups, same, List.mem_eraseDups]
  have extended : (other ++ ["hex-color"]).eraseDups = (types ++ ["hex-color"]).eraseDups := by
    by_cases known : "hex-color" ∈ types
    · rw [erase_dups_known known, erase_dups_known ((members _).mpr known), same]
    · rw [erase_dups_new known, erase_dups_new (mt (members _).mp known), same]
  apply entries_decide
  rw [holds_build other syntaxes, holds_build types syntaxes, erase_dups_filter, extended,
    erase_dups_filter]

/-- What the catalog of these names has to be. -/
structure Rule (types syntaxes : List String) (catalog : Catalog) : Prop where
  /-- The names that have a kind are listed where they come first, each once. -/
  keys_listed : keys catalog = ((types ++ ["hex-color"]).filter (isBasic syntaxes)).eraseDups
  keys_once : (keys catalog).Nodup
  kinds : ∀ name ∈ keys catalog, catalog.get? name = some (kindOf name)
  others : ∀ name ∉ keys catalog, catalog.get? name = none
  contained : ∀ name, catalog.contains name = true ↔ ∃ kind, catalog.get? name = some kind
  counted : catalog.size = (keys catalog).length
  /-- The entries are the names with what is found under them. -/
  paired : catalog.entries.map (fun entry => (entry.1, some entry.2)) =
    (keys catalog).map fun name => (name, catalog.get? name)

/-- Whatever names a catalog is built from, it lists those that have a kind and finds
exactly these. The names that have a syntax can be repeated and listed in any order. -/
theorem catalog_follows_rule (types syntaxes : List String) :
    Rule types syntaxes (build types syntaxes) ∧
      ∀ other : List String, (∀ name, name ∈ other ↔ name ∈ syntaxes) →
        build types other = build types syntaxes := by
  have holds := holds_build types syntaxes
  have found := holds_get holds
  constructor
  · exact {
      keys_listed := holds_keys holds
      keys_once := by
        rw [holds_keys holds]
        exact erase_dups_nodup _
      kinds := by
        intro name listed
        rw [found, if_pos listed]
      others := by
        intro name absent
        rw [found, if_neg absent]
      contained := by
        intro name
        rw [Catalog.contains, Option.isSome_iff_exists]
      counted := (List.length_map _).symm
      paired := by
        have entries : (build types syntaxes).entries =
            (keys (build types syntaxes)).map fun name => (name, kindOf name) := by
          rw [holds_keys holds]
          exact holds
        rw [entries, List.map_map]
        apply List.map_congr_left
        intro name listed
        rw [found, if_pos listed]
        rfl }
  · intro other same
    exact build_syntaxes same types

/-- A length is kept though it has a syntax, and a colour is not, asked for or not. -/
theorem overlapping_names_are_built :
    ∃ types syntaxes other : List String,
      types = ["length", "angle", "color", "angle", "hex-color"] ∧
        syntaxes = ["hex-color", "length", "color"] ∧
        other = ["color", "length", "color", "hex-color"] ∧
        keys (build types syntaxes) = ["length", "angle"] ∧
        (build types syntaxes).get? "length" = some .length ∧
        build types other = build types syntaxes := by
  refine ⟨_, _, _, rfl, rfl, rfl, ?_⟩
  obtain ⟨rule, same⟩ := catalog_follows_rule ["length", "angle", "color", "angle", "hex-color"]
    ["hex-color", "length", "color"]
  have listed := rule.keys_listed
  rw [show ((["length", "angle", "color", "angle", "hex-color"] ++ ["hex-color"]).filter
    (isBasic ["hex-color", "length", "color"])).eraseDups = ["length", "angle"] by decide] at listed
  refine ⟨listed, ?_, ?_⟩
  · exact rule.kinds "length" (by rw [listed]; exact List.mem_cons_self)
  · apply same
    intro name
    simp only [List.mem_cons, List.not_mem_nil, or_false]
    tauto

end ValueGrammar.Building
