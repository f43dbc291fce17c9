import ValueGrammar.Token.Piece

/-! The tokens of a source text. Lexemes become tokens, blanks are left out,
and stray pieces with no lexeme between them become one unexpected token that
runs to the next lexeme or to the end of the source. -/
namespace ValueGrammar.Token
open Text

/-- The unexpected token for a stray stretch that starts at this offset; there
is none when the stretch is empty. -/
def ofStray (start : Nat) (stray : List Char) : List Token :=
  if stray.isEmpty then []
  else [⟨.unexpected, String.ofList stray, ⟨start, start + byteLength stray⟩⟩]

/-- The tokens of the pieces that follow a stray stretch, which may be empty,
at this offset. -/
def ofPieces (start : Nat) (stray : List Char) : List Piece → List Token
  | [] => ofStray start stray
  | ⟨.blank, text⟩ :: rest =>
    if stray.isEmpty then ofPieces (start + byteLength text) [] rest
    else ofPieces start (stray ++ text) rest
  | ⟨.stray, text⟩ :: rest => ofPieces start (stray ++ text) rest
  | ⟨.lexeme kind, text⟩ :: rest =>
    let offset := start + byteLength stray
    ofStray start stray ++ ⟨kind, String.ofList text, ⟨offset, offset + byteLength text⟩⟩
      :: ofPieces (offset + byteLength text) [] rest

/-- The tokens of a source text, in order. -/
def lex (source : String) : List Token :=
  ofPieces 0 [] (Piece.split source.toList)

end ValueGrammar.Token
