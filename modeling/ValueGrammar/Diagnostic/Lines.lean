import ValueGrammar.Diagnostic.Styled
import ValueGrammar.Span

/-! The lines of a source text, and the line and the column where a byte offset
lies. A line break belongs to the line that it ends, together with a carriage
return in front of it. -/
namespace ValueGrammar.Diagnostic
open Text

structure Line where
  /-- The line without its break. -/
  text : List Char
  /-- The offset of its first byte. -/
  start : Nat
  /-- The offset behind its break. -/
  stop : Nat

/-- The offset behind the last character of a line, in front of its break. -/
def Line.textStop (line : Line) : Nat := line.start + byteLength line.text

/-- The line that these characters make, given backwards, with a break behind. -/
def brokenLine (start : Nat) : List Char → Line
  | '\r' :: read => ⟨read.reverse, start, start + byteLength read + 2⟩
  | read => ⟨read.reverse, start, start + byteLength read + 1⟩

/-- The lines of a text that starts at this offset, given what was read of the
first one backwards. An empty rest makes no line. -/
def linesFrom (start : Nat) (read : List Char) : List Char → List Line
  | [] => if read.isEmpty then [] else [⟨read.reverse, start, start + byteLength read⟩]
  | c :: rest =>
    if c = '\n' then
      let line := brokenLine start read
      line :: linesFrom line.stop [] rest
    else linesFrom start (c :: read) rest

/-- The lines of a text; an empty one has one empty line. -/
def linesOf (text : List Char) : List Line :=
  if text.isEmpty then [⟨[], 0, 0⟩] else linesFrom 0 [] text

/-- A place in a text. -/
structure Location where
  /-- The index of the line, from zero. -/
  line : Nat
  /-- How many characters of the line lie in front. -/
  char : Nat
  /-- How many columns they take. -/
  column : Nat
deriving Inhabited

/-- The characters that make up the first so many bytes. -/
def takeBytes : Nat → List Char → List Char
  | _, [] => []
  | bytes, c :: rest => if bytes = 0 then [] else c :: takeBytes (bytes - c.utf8Size) rest

/-- The index of the line in which an offset lies, or of the last one. -/
def lineIndex (lines : List Line) (offset : Nat) : Nat :=
  (lines.findIdx? fun line => line.start ≤ offset && offset < line.stop).getD (lines.length - 1)

/-- The place of an offset. Inside a line break one more character lies in
front. -/
def startLocation (lines : List Line) (offset : Nat) : Location :=
  let index := lineIndex lines offset
  match lines[index]? with
  | none => ⟨index, 0, 0⟩
  | some line =>
    let before := takeBytes (offset - line.start) line.text
    let extra := if line.textStop < offset then 1 else 0
    ⟨index, before.length + extra, columns before⟩

/-- The place of the end of a stretch that starts in this line. Inside the break
of another line one more character and column lie in front. -/
def stopLocation (lines : List Line) (first offset : Nat) : Location :=
  let index := lineIndex lines offset
  match lines[index]? with
  | none => ⟨index, 0, 0⟩
  | some line =>
    let before := takeBytes (offset - line.start) line.text
    let extra := if index ≠ first && line.textStop < offset then 1 else 0
    ⟨index, before.length + extra, columns before + extra⟩

/-- The number of lines that a text shows; a break at its end starts no other. -/
def lineCount (text : List Char) : Nat :=
  if text.isEmpty then 0
  else text.dropLast.count '\n' + 1

end ValueGrammar.Diagnostic
