import ValueGrammar.Combinator
import ValueGrammar.Multiplier

/-! The tree of a value definition. A sequence alternates terms with the
combinators that join them; a term is a keyword, a reference to a data type,
a bracketed group with a sequence of its own, or a function call whose
arguments are not described. -/
namespace ValueGrammar

/-- One element of a sequence. Keywords, data types and groups are its
components, the elements that can carry a multiplier. -/
inductive Entity where
  | keyword (value : String) (multiplier : Option Multiplier)
  /-- The value keeps its angle brackets. -/
  | dataType (value : String) (multiplier : Option Multiplier)
  | group (entities : List Entity) (multiplier : Option Multiplier)
  | combinator (kind : Combinator)
  | function (name : String)
deriving Repr, Inhabited

namespace Entity

mutual

/-- Equality of entities is structural. -/
def decEq : (left right : Entity) → Decidable (left = right)
  | .keyword v m, .keyword v' m' =>
    if h : v = v' ∧ m = m' then .isTrue (by simp [h]) else .isFalse (by simpa using h)
  | .dataType v m, .dataType v' m' =>
    if h : v = v' ∧ m = m' then .isTrue (by simp [h]) else .isFalse (by simpa using h)
  | .group es m, .group es' m' =>
    match decEqList es es' with
    | .isTrue same =>
      if h : m = m' then .isTrue (by simp [same, h]) else .isFalse (by simp [h])
    | .isFalse differ => .isFalse (by simp [differ])
  | .combinator c, .combinator c' =>
    if h : c = c' then .isTrue (by simp [h]) else .isFalse (by simpa using h)
  | .function n, .function n' =>
    if h : n = n' then .isTrue (by simp [h]) else .isFalse (by simpa using h)
  | .keyword .., .dataType .. | .keyword .., .group .. | .keyword .., .combinator ..
  | .keyword .., .function .. | .dataType .., .keyword .. | .dataType .., .group ..
  | .dataType .., .combinator .. | .dataType .., .function .. | .group .., .keyword ..
  | .group .., .dataType .. | .group .., .combinator .. | .group .., .function ..
  | .combinator .., .keyword .. | .combinator .., .dataType .. | .combinator .., .group ..
  | .combinator .., .function .. | .function .., .keyword .. | .function .., .dataType ..
  | .function .., .group .. | .function .., .combinator .. => .isFalse (by simp)

/-- Equality of sequences is equality of their elements in order. -/
def decEqList : (left right : List Entity) → Decidable (left = right)
  | [], [] => .isTrue rfl
  | [], _ :: _ | _ :: _, [] => .isFalse (by simp)
  | e :: es, e' :: es' =>
    match decEq e e', decEqList es es' with
    | .isTrue head, .isTrue tail => .isTrue (by rw [head, tail])
    | .isFalse head, _ => .isFalse (by simp [head])
    | _, .isFalse tail => .isFalse (by simp [tail])

end

instance : DecidableEq Entity := decEq

/-- Whether the entity is a keyword, a data type or a group. -/
def isComponent : Entity → Bool
  | keyword .. | dataType .. | group .. => true
  | combinator _ | function _ => false

/-- Whether the entity joins two terms and is no term itself. -/
def isCombinator : Entity → Bool
  | combinator _ => true
  | _ => false

/-- The combinator that the entity is, if it is one. -/
def combinator? : Entity → Option Combinator
  | combinator kind => some kind
  | _ => none

/-- The multiplier that the entity carries; only components can carry one. -/
def multiplier? : Entity → Option Multiplier
  | keyword _ multiplier | dataType _ multiplier | group _ multiplier => multiplier
  | combinator _ | function _ => none

/-- Gives a component this multiplier in place of its own; the other entities
stay as they are. -/
def withMultiplier (multiplier : Multiplier) : Entity → Entity
  | keyword value _ => keyword value (some multiplier)
  | dataType value _ => dataType value (some multiplier)
  | group entities _ => group entities (some multiplier)
  | other => other

end Entity
end ValueGrammar
