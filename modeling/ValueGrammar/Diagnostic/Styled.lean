import ValueGrammar.Text.Blank
import ValueGrammar.Text.Width

/-! Text in styled cells. A row is drawn from stretches of one style each, which
start at given columns. Coloured output puts the escape sequences of a style in
front of each run of cells and resets the style behind it. -/
namespace ValueGrammar.Diagnostic

inductive Style where
  | plain
  /-- The word and the marks that tell the error. -/
  | mark
  /-- The sentence that tells the error. -/
  | title
  /-- Line numbers and the bar beside the source. -/
  | gutter
deriving DecidableEq, Repr

/-- The escape sequences that switch a style on. -/
def Style.opening : Style → String
  | plain => ""
  | mark => "\x1b[1m\x1b[91m"
  | title => "\x1b[1m"
  | gutter => "\x1b[1m\x1b[94m"

/-- The escape sequence that resets a style. -/
def Style.closing : Style → String
  | plain => ""
  | _ => "\x1b[0m"

/-- A character and the style that it is drawn in. -/
structure Cell where
  style : Style
  char : Char
deriving DecidableEq, Repr

abbrev Row := List Cell

/-- A stretch of one style, from a column on. -/
structure Stretch where
  column : Nat
  style : Style
  text : List Char

/-- The cells of a stretch. -/
def Stretch.cells (stretch : Stretch) : Row := stretch.text.map (Cell.mk stretch.style)

/-- A stretch laid over a row; blank cells fill the space up to it. One without
text changes nothing. -/
def Stretch.over (row : Row) (stretch : Stretch) : Row :=
  if stretch.text.isEmpty then row
  else
    let padded := row ++ List.replicate (stretch.column - row.length) ⟨.plain, ' '⟩
    padded.take stretch.column ++ stretch.cells
      ++ padded.drop (stretch.column + stretch.text.length)

/-- The row of stretches that are laid down in order, the later ones over the
earlier. -/
def Row.draw (stretches : List Stretch) : Row := stretches.foldl Stretch.over []

/-- The sign for what is not shown. -/
def ellipsis : List Char := ['.', '.', '.']

/-- A row without the cells from one column up to another, and a sign in their
place. A row that is too short keeps all its cells. -/
def Row.hide (row : Row) (first last : Nat) : Row :=
  if row.length < last then row
  else row.take first ++ ellipsis.map (Cell.mk .gutter) ++ row.drop last

/-- Cells in their styles, given the style that is on. -/
def paintFrom (current : Style) : Row → String
  | [] => current.closing
  | cell :: rest =>
    if cell.style = current then cell.char.toString ++ paintFrom current rest
    else
      current.closing ++ cell.style.opening ++ cell.char.toString ++ paintFrom cell.style rest

/-- The text of a row, with or without its colours. -/
def Row.text (colored : Bool) (row : Row) : String :=
  if colored then paintFrom .plain row else String.ofList (row.map Cell.char)

/-- Characters that change the direction of the text around them. -/
def isDirectional (c : Char) : Bool :=
  let n := c.toNat
  (0x202a ≤ n && n ≤ 0x202e) || (0x2066 ≤ n && n ≤ 0x2069)

/-- A character as it is shown: a tab as four spaces, another control as its
picture, a joiner not at all. Line breaks are kept. -/
def shownChar (c : Char) : List Char :=
  if c = '\n' then [c]
  else if c = '\t' then [' ', ' ', ' ', ' ']
  else if c.toNat < 0x20 then [Char.ofNat (0x2400 + c.toNat)]
  else if c.toNat = 0x7f then [Char.ofNat 0x2421]
  else if c.toNat = 0x200d then []
  else if isDirectional c then [Char.ofNat 0xfffd]
  else [c]

/-- A text as it is shown. -/
def shown (text : List Char) : List Char := text.flatMap shownChar

/-- The columns that a character takes when it is shown. -/
def columnsOf (c : Char) : Nat :=
  if c = '\t' then 4
  else if c.toNat < 0x20 || c.toNat = 0x7f || isDirectional c then 1
  else Text.charWidth c

/-- The columns that a text takes when it is shown. -/
def columns (text : List Char) : Nat := text.foldl (fun width c => width + columnsOf c) 0

end ValueGrammar.Diagnostic
