/-! Places in a source text, counted in UTF-8 bytes. -/
namespace ValueGrammar

/-- A range of byte offsets that takes in its start and leaves out its stop. -/
structure Span where
  start : Nat
  stop : Nat
deriving DecidableEq, Repr, Inhabited

namespace Span

/-- The form `start..stop`. -/
def text (span : Span) : String := s!"{span.start}..{span.stop}"

end Span

/-- The number of bytes that the characters take in UTF-8. -/
def Text.byteLength (text : List Char) : Nat :=
  text.foldr (fun c length => c.utf8Size + length) 0

end ValueGrammar
