/-! JSON values as they are written. Numbers keep their digits and strings the
text between their quotes, so that printing a value that was read gives back
the same literals. -/
namespace ValueGrammar

inductive Json where
  | null
  | bool (value : Bool)
  /-- The digits as written. -/
  | number (literal : String)
  /-- The text between the quotes, with its escapes. -/
  | string (literal : String)
  | array (items : List Json)
  /-- Keys are written like strings; order and repetitions are kept. -/
  | object (members : List (String × Json))
deriving Inhabited, Repr

namespace Json

/-- A string literal in its quotes. -/
def quoted (literal : String) : String := "\"" ++ literal ++ "\""

/-- Pieces of text with a separator between each two. -/
def separated (separator : String) : List String → String
  | [] => ""
  | first :: rest => rest.foldl (fun text piece => text ++ separator ++ piece) first

private theorem foldl_append (separator before first : String) (rest : List String) :
    rest.foldl (fun text piece => text ++ separator ++ piece) (before ++ first)
      = before ++ rest.foldl (fun text piece => text ++ separator ++ piece) first := by
  induction rest generalizing first with
  | nil => rfl
  | cons piece rest ih =>
    simpa only [List.foldl_cons, String.append_assoc] using ih (first ++ separator ++ piece)

/-- The first piece comes first, and the separator behind it. -/
theorem separated_cons_cons (separator first next : String) (rest : List String) :
    separated separator (first :: next :: rest)
      = first ++ separator ++ separated separator (next :: rest) := by
  simp only [separated, List.foldl_cons, foldl_append]

mutual

/-- The value without any space. -/
def compact : Json → String
  | null => "null"
  | bool value => if value then "true" else "false"
  | number literal => literal
  | string literal => quoted literal
  | array items => "[" ++ separated "," (compactItems items) ++ "]"
  | object members => "\x7b" ++ separated "," (compactMembers members) ++ "\x7d"

/-- Each item without any space. -/
def compactItems : List Json → List String
  | [] => []
  | item :: rest => item.compact :: compactItems rest

/-- Each member without any space. -/
def compactMembers : List (String × Json) → List String
  | [] => []
  | (key, value) :: rest => (quoted key ++ ":" ++ value.compact) :: compactMembers rest

end

/-- A line break and the indentation of a depth, two spaces each. -/
def newline (depth : Nat) : String := String.ofList ('\n' :: List.replicate (2 * depth) ' ')

/-- The lines between two brackets; nothing between them stays on one line. -/
def enclosed (opening closing : String) (depth : Nat) (lines : List String) : String :=
  if lines.isEmpty then opening ++ closing
  else opening ++ newline (depth + 1) ++ separated ("," ++ newline (depth + 1)) lines
    ++ newline depth ++ closing

mutual

/-- The value with each item and member on a line of its own. -/
def prettyAt (depth : Nat) : Json → String
  | null => "null"
  | bool value => if value then "true" else "false"
  | number literal => literal
  | string literal => quoted literal
  | array items => enclosed "[" "]" depth (prettyItems (depth + 1) items)
  | object members => enclosed "\x7b" "\x7d" depth (prettyMembers (depth + 1) members)

/-- Each item in lines. -/
def prettyItems (depth : Nat) : List Json → List String
  | [] => []
  | item :: rest => item.prettyAt depth :: prettyItems depth rest

/-- Each member in lines. -/
def prettyMembers (depth : Nat) : List (String × Json) → List String
  | [] => []
  | (key, value) :: rest => (quoted key ++ ": " ++ value.prettyAt depth) :: prettyMembers depth rest

end

/-- The value in lines, indented by two spaces. -/
def pretty (value : Json) : String := value.prettyAt 0

end Json
end ValueGrammar
