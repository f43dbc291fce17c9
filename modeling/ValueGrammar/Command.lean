import ValueGrammar.Catalog.Loading
import ValueGrammar.Command.Arguments
import ValueGrammar.Diagnostic
import ValueGrammar.Entity.Encoding
import ValueGrammar.Entity.Outline
import ValueGrammar.Typing

/-! The commands, from their arguments to what they print. A command reads all
that it needs, and only then prints or writes; a failing one prints nothing but
the error. A standard stream that does not take what is printed breaks the program
off, and so does not count as an error of the command. -/
namespace ValueGrammar.Command
open Text

/-- What is left of a run: the exit status, and what the standard streams were given. -/
structure Outcome where
  status : Nat
  output : String := ""
  errors : String := ""
deriving DecidableEq, Repr

/-- The outcome of a run that gives this text to a stream, and nothing else. -/
def Outcome.printing (stream : Stream) (text : String) (status : Nat) : Outcome :=
  match stream with
  | .output => { status, output := text }
  | .errors => { status, errors := text }

/-- The status of a program that has broken off. -/
def brokenOff : Nat := 101

/-- What keeps a command from finishing. -/
inductive Failure where
  | input (fault : FileFault)
  | catalog (error : Catalog.LoadError)
  | definition (error : ParseError) (source : String)
  | unwritable (path : String) (fault : FileFault)

/-- The text that is printed for a failure. -/
def Failure.text (colored : Bool) : Failure → String
  | input fault => "error: failed to read syntax from stdin: " ++ fault.message ++ "\n"
  | catalog error => "error: " ++ error.message ++ "\n"
  | definition error source => Diagnostic.render error source colored
  | unwritable path fault => "error: failed to write " ++ path ++ ": " ++ fault.message ++ "\n"

/-- JSON in the layout that is asked for. -/
def layout (options : Options) (value : Json) : String :=
  if options.compact then value.compact else value.pretty

/-- Descriptors in the format that is asked for; as text, each on a line. -/
def typesText (options : Options) (types : List Descriptor) : String :=
  match options.format with
  | some .json => layout options (.array (types.map Descriptor.json))
  | _ => Json.separated "\n" (types.map Descriptor.text)

/-- A sequence in the format that is asked for; as text, its outline. -/
def entitiesText (options : Options) (entities : List Entity) : String :=
  match options.format with
  | some .json => layout options (Entity.sequenceJson entities)
  | _ => String.ofList (trimEnd (Entity.outline entities).toList)

variable {m : Type → Type} [Monad m]

/-- The value definition: the argument itself, or for a hyphen the standard input
without the white space at its ends. -/
def readSource (surroundings : Surroundings m) (options : Options) :
    m (Except Failure String) := do
  let source := options.source.getD ""
  if source = "-" then
    match ← surroundings.readInput with
    | .ok text => return .ok (String.ofList (trim text.toList))
    | .error fault => return .error (.input fault)
  else return .ok source

/-- The catalog of the tables that are asked for, or the one without tables. -/
def readCatalog (surroundings : Surroundings m) (options : Options) :
    m (Except Failure Catalog) := do
  match options.tables with
  | none => return .ok .builtin
  | some directory =>
    match ← Catalog.load surroundings directory with
    | .ok catalog => return .ok catalog
    | .error error => return .error (.catalog error)

/-- The sequence of a value definition. -/
def parseSource (source : String) : Except Failure (List Entity) :=
  match Entity.parse source with
  | .ok entities => .ok entities
  | .error error => .error (.definition error source)

/-- Prints a text and ends with this status. Where the stream does not take the text,
the program breaks off. -/
def finish (surroundings : Surroundings m) (stream : Stream) (text : String) (status : Nat) :
    m Outcome := do
  match ← surroundings.print stream text with
  | .ok () => return .printing stream text status
  | .error fault =>
    surroundings.breakOff ("failed printing to " ++ stream.name ++ ": " ++ fault.message)
    return .printing stream text brokenOff

/-- Prints a text with a line break behind it, or puts it into the file that is
asked for. -/
def deliver (surroundings : Surroundings m) (options : Options) (text : String) :
    m (Except Failure Outcome) := do
  let line := text ++ "\n"
  match options.output with
  | none => return .ok (← finish surroundings .output line 0)
  | some path =>
    match ← surroundings.writeFile path line with
    | .ok () => return .ok { status := 0 }
    | .error fault => return .error (.unwritable path fault)

/-- Shows the descriptors of a value definition. -/
def runTypes (surroundings : Surroundings m) (options : Options) :
    m (Except Failure Outcome) := do
  match ← readSource surroundings options with
  | .error failure => return .error failure
  | .ok source =>
    match ← readCatalog surroundings options with
    | .error failure => return .error failure
    | .ok catalog =>
      match parseSource source with
      | .error failure => return .error failure
      | .ok entities =>
        deliver surroundings options
          (typesText options (Typing.typeEntities catalog entities).toList)

/-- Shows the sequence of a value definition. -/
def runParse (surroundings : Surroundings m) (options : Options) :
    m (Except Failure Outcome) := do
  match ← readSource surroundings options with
  | .error failure => return .error failure
  | .ok source =>
    match parseSource source with
    | .error failure => return .error failure
    | .ok entities =>
      return .ok (← finish surroundings .output (entitiesText options entities ++ "\n") 0)

/-- Runs a command with its options. A failing one tells its failure and ends with
status 1. -/
def execute (surroundings : Surroundings m) (verb : Verb) (options : Options) : m Outcome := do
  let result ← match verb with
    | .types => runTypes surroundings options
    | .parse => runParse surroundings options
  match result with
  | .ok outcome => return outcome
  | .error failure =>
    finish surroundings .errors (failure.text (options.coloring = some .always)) 1

/-- Runs the program. Wrong arguments end it with status 2, and help is asked for where
nothing else is. Neither cares whether the stream takes its text. -/
def run (surroundings : Surroundings m) (arguments : List String) : m Outcome := do
  match Request.ofArguments? arguments with
  | some (.help topic) =>
    let _ ← surroundings.print .output topic.text
    return .printing .output topic.text 0
  | some (.execute verb options) => execute surroundings verb options
  | none =>
    let _ ← surroundings.print .errors Topic.program.text
    return .printing .errors Topic.program.text 2

end ValueGrammar.Command
