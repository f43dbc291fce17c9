import ValueGrammar.Diagnostic.Styled

/-! The part of long lines that is shown. Blank space that all lines start with
is cut down when there is much of it, and lines wider than the screen are cut
so that the marked stretch and its label stay in sight. -/
namespace ValueGrammar.Diagnostic

/-- What has to be known about lines to choose the part that is shown; all of it
in columns. -/
structure Extent where
  /-- The blank space that every line starts with, up to the first mark. -/
  blank : Nat
  /-- Where the marked stretch starts. -/
  markStart : Nat
  /-- Where the marked stretch stops. -/
  markStop : Nat
  /-- Where its label stops. -/
  labelStop : Nat
  /-- The longest line. -/
  longest : Nat

/-- The part of the lines that is shown. -/
structure Window where
  left : Nat
  right : Nat
  /-- The room for the source on the screen. -/
  room : Nat

/-- Space that is left on both sides of the marked stretch. -/
def Window.slack : Nat := 6

/-- The window for lines of this extent. -/
def Window.fit (room : Nat) (extent : Extent) : Window :=
  let blank := extent.blank - slack
  let start := extent.markStart - slack
  let stop := extent.markStop + slack
  let label := extent.labelStop + slack
  let left := if 20 < blank then blank - 16 else 0
  let right := max extent.longest left
  if right - left ≤ room then ⟨left, right, room⟩
  else if label - blank ≤ room then ⟨blank, blank + room, room⟩
  else if label - start ≤ room then
    let left := start - (room - (label - start)) / 2
    ⟨left, left + room, room⟩
  else if stop - start ≤ room then
    let left := start - (room - (stop - start)) / 5 * 2
    ⟨left, left + room, room⟩
  else ⟨start, stop, room⟩

/-- Characters without the first ones that take so many columns, and how many
columns those took. -/
def dropColumns (limit : Nat) (dropped : Nat) : List Char → List Char × Nat
  | [] => ([], dropped)
  | c :: rest =>
    if dropped < limit then dropColumns limit (dropped + columnsOf c) rest
    else (c :: rest, dropped)

/-- The first characters that fit so many columns. -/
def takeColumns (limit : Nat) : List Char → List Char
  | [] => []
  | c :: rest =>
    if columnsOf c ≤ limit then c :: takeColumns (limit - columnsOf c) rest else []

/-- How many of the first characters take up so many columns, and how many
columns they take; all of them if they take fewer. -/
def coverColumns (limit : Nat) (taken : Nat × Nat) : List Char → Nat × Nat
  | [] => taken
  | c :: rest =>
    let next := (taken.1 + 1, taken.2 + columnsOf c)
    if limit ≤ next.2 then next else coverColumns limit next rest

/-- A line of source text from a column on, with a sign in the place of what is
cut, and how many columns are missing at its start. -/
def Window.line (window : Window) (column : Nat) (text : List Char) : List Stretch × Nat :=
  let length := columns text
  let left := min window.left length
  let right :=
    if length - window.left ≤ window.room then length else min length window.right
  let (visible, dropped) := dropColumns left 0 text
  let code := takeColumns (right - left) visible
  let (hidden, width) :=
    if 0 < window.left then coverColumns ellipsis.length (0, 0) code else (0, 0)
  let body := code.drop hidden
  let opening : List Stretch := if 0 < window.left then [⟨column, .gutter, ellipsis⟩] else []
  let closing : List Stretch :=
    if right < length then
      let covered := (coverColumns ellipsis.length (0, 0) code.reverse).1
      [⟨column + width + body.length - covered, .gutter, ellipsis⟩]
    else []
  (opening ++ ⟨column + width, .plain, body⟩ :: closing, max left dropped)

end ValueGrammar.Diagnostic
