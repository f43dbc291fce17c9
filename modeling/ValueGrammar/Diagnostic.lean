import ValueGrammar.Diagnostic.Lines
import ValueGrammar.Diagnostic.Window
import ValueGrammar.Json
import ValueGrammar.ParseError
import ValueGrammar.Text.Digits

/-! Errors as they are shown to people: the sentence, and below it the source
lines with the stretch at fault underlined or, over several lines, drawn round
by a line. -/
namespace ValueGrammar.Diagnostic
open Text

/-- The columns of the screen. -/
def screenWidth : Nat := 140

/-- The sentence in rows. All but the first are indented to where it starts. -/
def titleRows (message : List Char) : List (List Stretch) :=
  match (shown message).splitOn '\n' with
  | [] => []
  | first :: rest =>
    let word := "error".toList
    let indent := List.replicate (word.length + 2) ' '
    [⟨0, .mark, word⟩, ⟨word.length, .title, ':' :: ' ' :: first⟩]
      :: rest.map fun line => [⟨0, .plain, indent⟩, ⟨indent.length, .title, line⟩]

/-- The columns of the parts of a snippet. -/
structure Layout where
  /-- The width of the largest line number. -/
  numbers : Nat
  /-- Where the source starts. -/
  code : Nat

namespace Layout

/-- The bar between the line numbers and the source. -/
def bar (layout : Layout) : Stretch := ⟨layout.numbers + 1, .gutter, ['|']⟩

/-- The column of the line drawn round several lines. -/
def side (layout : Layout) : Nat := layout.numbers + 3

/-- The beginning of a row that shows a line of the source. -/
def numbered (layout : Layout) (index : Nat) : List Stretch :=
  let number := digits (index + 1)
  let indent := List.replicate (layout.numbers - number.length) ' '
  [⟨0, .gutter, indent ++ number⟩, layout.bar]

/-- The line that runs down beside the lines of the stretch. -/
def down (layout : Layout) : Stretch := ⟨layout.side, .mark, ['|']⟩

/-- A line from beside the source to a column, where a mark ends it. -/
def across (layout : Layout) (column : Nat) : List Stretch :=
  let first := layout.side + 1
  [⟨first, .mark, List.replicate (column - first) '_'⟩, ⟨column, .mark, ['^']⟩]

end Layout

/-- The blank space at the start of lines, without those that are all blank. -/
def commonBlank (lines : List (List Char)) : Nat :=
  let indented := lines.filter fun line => line.any fun c => !isWhiteSpace c
  let widths := indented.map fun line =>
    (line.takeWhile isWhiteSpace).foldl (fun width c => width + if c = '\t' then 4 else 1) 0
  widths.min?.getD 0

/-- A mark that is more than twice as wide as the room for the source is shown
without its middle, both in the source and below it. A third of the room is kept
at each end of it. -/
def hideMiddle (room first count : Nat) (row : Row) : Row :=
  if 2 * room < count then row.hide (first + room / 3) (first + count - room / 3) else row

/-- The rows for a stretch inside one line. No column is marked if it stops before
it starts. -/
def singleLine (numbers : Nat) (line : Line) (index start stop : Nat) (label : List Char) :
    List Row :=
  let layout : Layout := ⟨numbers, numbers + 3⟩
  let window := Window.fit (screenWidth - layout.code)
    { blank := min (commonBlank [line.text]) (min start stop)
      markStart := min start stop
      markStop := max start stop
      labelStop := stop + columns label + 1
      longest := columns line.text }
  let (code, left) := window.line layout.code (shown line.text)
  let first := layout.code + start - left
  let labelColumn := layout.code + (if stop = 0 then 2 else stop + 1) - left
  let rows := [layout.numbered index ++ code,
    [layout.bar, ⟨first, .mark, List.replicate (stop - start) '^'⟩,
      ⟨labelColumn, .mark, label⟩]]
  rows.map fun row => hideMiddle window.room first (stop - start) (.draw row)

/-- Whether a line says nothing that matters: it is blank, a single bracket or a
comment that is no documentation. -/
def isIdle (line : Line) : Bool :=
  let text := trim line.text
  let isComment := text.take 2 = ['/', '/']
    && text.take 3 ≠ ['/', '/', '/'] && text.take 3 ≠ ['/', '/', '!']
  isComment || text.isEmpty
    || [['\x7b'], ['\x7d'], ['('], [')'], ['['], [']']].contains text

/-- Of the lines from the first one up to another, how many to show: up to the
last that is not idle. -/
def leading (lines : List Line) (first middle : Nat) : Nat :=
  let candidates := (lines.drop first).take (middle - first)
  first + max 1 (candidates.reverse.dropWhile isIdle).length

/-- The lines between the first and the last of a stretch that are shown for
their own sake: the next ones, at most three, and the last but one. -/
def inner (lines : List Line) (first last : Nat) : List Nat :=
  let middle := min (first + 4) last
  let near := (List.range (leading lines first middle)).filter fun index => first < index
  let isFar := middle < last - 1 && !(lines[last - 1]?).all isIdle
  if isFar then near ++ [last - 1] else near

/-- The row that shows a line of the source, with what stands beside it. -/
def sourceRow (layout : Layout) (lines : List Line) (window : Window) (beside : List Stretch)
    (index : Nat) : List Stretch :=
  let text := ((lines[index]?).map Line.text).getD []
  layout.numbered index ++ beside ++ (window.line layout.code (shown text)).1

/-- The rows of the lines from one that is shown to the next one. A single line
between them is shown too, and several are left out. -/
def between (layout : Layout) (lines : List Line) (window : Window) (beside : List Stretch)
    (previous next : Nat) : List (List Stretch) :=
  if next - previous = 2 then [sourceRow layout lines window beside (previous + 1)]
  else if 2 < next - previous then [⟨0, .gutter, ellipsis⟩ :: beside]
  else []

/-- The rows after a line that is shown, to the last line. -/
def follow (layout : Layout) (lines : List Line) (window : Window) (previous : Nat) :
    List Nat → List (List Stretch)
  | [] => []
  | next :: rest =>
    between layout lines window [layout.down] previous next
      ++ sourceRow layout lines window [layout.down] next
      :: follow layout lines window next rest

/-- The rows for a stretch over several lines. A line runs from its start, which
is marked unless only blank space lies in front of it, down to its end. If the end
lies in an earlier line, it is drawn before the start, and nothing joins the two. -/
def severalLines (numbers : Nat) (lines : List Line) (start stop : Location)
    (label : List Char) : List (List Stretch) :=
  let layout : Layout := ⟨numbers, numbers + 5⟩
  let textOf (index : Nat) : List Char := ((lines[index]?).map Line.text).getD []
  let indices := inner lines start.line stop.line ++ [stop.line]
  let texts := (start.line :: indices).map textOf
  let tip := stop.column - 1
  let first := min start.column tip
  let window := Window.fit (screenWidth - layout.code)
    { blank := min (commonBlank texts) first
      markStart := first
      markStop := max (start.column + 1) stop.column
      labelStop := max (start.column + 1) (stop.column + columns label + 1)
      longest := (texts.map columns).foldl max 0 }
  let text := shown (textOf start.line)
  let (code, left) := window.line layout.code text
  let opening :=
    if (text.take start.column).all isWhiteSpace then
      [layout.numbered start.line ++ code ++ [⟨layout.side, .mark, ['/']⟩]]
    else
      [layout.numbered start.line ++ code,
        layout.bar :: ⟨layout.side, .mark, [' ']⟩
          :: layout.across (layout.code + start.column - left)]
  let left := (window.line layout.code (shown (textOf stop.line))).2
  let labelColumn := layout.code + (if stop.column = 0 then 2 else stop.column + 1) - left
  let ending := layout.bar :: layout.down :: layout.across (layout.code + tip - left)
    ++ [⟨labelColumn, .mark, label⟩]
  if start.line < stop.line then
    opening ++ follow layout lines window start.line indices ++ [ending]
  else
    sourceRow layout lines window [layout.down] stop.line :: ending
      :: between layout lines window [] stop.line start.line ++ opening

/-- The rows below the sentence, for a stretch of the source and its label. -/
def snippetRows (source : List Char) (span : Span) (label : List Char) : List Row :=
  let lines := linesOf source
  let start := startLocation lines span.start
  let stop := if span.start = span.stop then start else stopLocation lines start.line span.stop
  let numbers := (digits (max 1 (lineCount (takeBytes span.stop source)))).length
  let bar := Row.draw [(⟨numbers, 0⟩ : Layout).bar]
  if start.line = stop.line then
    let stopColumn := if start.column = stop.column then stop.column + 1 else stop.column
    match lines[start.line]? with
    | none => [bar]
    | some line => bar :: singleLine numbers line start.line start.column stopColumn label
  else bar :: (severalLines numbers lines start stop label).map Row.draw

/-- The stretch that is marked. An empty one takes in the byte behind it, if
there is one. -/
def markedSpan (span : Span) (length : Nat) : Span :=
  if span.start = span.stop then ⟨span.start, min (span.start + 1) length⟩ else span

/-- The error with its place in the source; no line break ends the text. -/
def render (error : ParseError) (source : String) (colored : Bool) : String :=
  let message := error.message.toList
  let text := source.toList
  let rows := (titleRows message).map Row.draw
    ++ snippetRows text (markedSpan error.span (byteLength text)) message
  Json.separated "\n" (rows.map (Row.text colored))

end ValueGrammar.Diagnostic
