import ValueGrammar.Catalog
import ValueGrammar.Files
import ValueGrammar.Json.Table

/-! Catalogs from two JSON tables: the keys of the first one name the data types,
and the keys of the second one those with a syntax of their own. -/
namespace ValueGrammar.Catalog

/-- What keeps a catalog from being loaded. -/
inductive LoadError where
  /-- A table is no JSON object; the place is given by line and column. -/
  | malformed (cause : Json.Fault.Cause) (line column : Nat)
  | unreadable (path : String) (fault : FileFault)
deriving DecidableEq, Repr

/-- The sentence that tells the error. -/
def LoadError.message : LoadError → String
  | malformed cause line column =>
    s!"JSON parse error: {cause.message} at line {line} column {column}"
  | unreadable path fault => "failed to read " ++ path ++ ": " ++ fault.message

/-- The keys of a table. -/
def tableNames (text : String) : Except LoadError (List String) :=
  match Json.Table.keys text with
  | .ok names => .ok names
  | .error fault =>
    let (line, column) := Json.Fault.position fault.offset text.toList
    .error (.malformed fault.cause line column)

/-- The catalog of two tables; the first one is read first. -/
def ofJson (types syntaxes : String) : Except LoadError Catalog :=
  match tableNames types, tableNames syntaxes with
  | .error error, _ => .error error
  | .ok _, .error error => .error error
  | .ok typeNames, .ok syntaxNames => .ok (build typeNames syntaxNames)

/-- The place of a table in a directory. -/
def tablePath (directory name : String) : String :=
  joinPath (joinPath directory "css") name

/-- The catalog of the tables in a directory. Both are read before either is
taken apart. -/
def load {m : Type → Type} [Monad m] (surroundings : Surroundings m) (directory : String) :
    m (Except LoadError Catalog) := do
  let typesPath := tablePath directory "types.json"
  match ← surroundings.readFile typesPath with
  | .error fault => return .error (.unreadable typesPath fault)
  | .ok types =>
    let syntaxesPath := tablePath directory "syntaxes.json"
    match ← surroundings.readFile syntaxesPath with
    | .error fault => return .error (.unreadable syntaxesPath fault)
    | .ok syntaxes => return ofJson types syntaxes

end ValueGrammar.Catalog
