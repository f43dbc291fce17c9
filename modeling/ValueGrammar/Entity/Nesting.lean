import ValueGrammar.Entity

/-! Nesting by precedence. A sequence that mixes combinators is split at its
loosest one, and every part with more than one term becomes a group of its own,
so that each sequence of the result uses a single combinator. -/
namespace ValueGrammar.Entity

/-- The parts of a sequence between the places where this combinator stands. -/
def runs (separator : Combinator) : List Entity → List Entity × List (List Entity)
  | [] => ([], [])
  | entity :: rest =>
    let (run, more) := runs separator rest
    if entity = combinator separator then ([], run :: more) else (entity :: run, more)

/-- Joins terms with a combinator between each two. -/
def join (separator : Combinator) (first : Entity) : List Entity → List Entity
  | [] => [first]
  | next :: rest => first :: combinator separator :: join separator next rest

/-- A part with one term stands for itself; the others become a group without
a multiplier. -/
def closeRun (nested : List Entity → List Entity) : List Entity → Entity
  | [term] => term
  | run => group (nested run) none

/-- Nests a sequence whose combinators are all among the given ones, which run
from the loosest to the tightest. -/
def nestBy : List Combinator → List Entity → List Entity
  | [], entities => entities
  | separator :: tighter, entities =>
    match runs separator entities with
    | (_, []) => nestBy tighter entities
    | (run, more) =>
      let close := closeRun (nestBy tighter)
      join separator (close run) (more.map close)

/-- The sequence nested by precedence: `|` is looser than `||`, which is looser
than `&&`, and juxtaposition binds tightest. -/
def nest (entities : List Entity) : List Entity := nestBy Combinator.loosestFirst entities

end ValueGrammar.Entity
