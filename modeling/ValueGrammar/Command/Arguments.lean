import ValueGrammar.Command.Help

/-! The arguments of the command line. They are read from left to right; the
first one that is wrong ends the reading, and so does the first one that asks
for help. -/
namespace ValueGrammar.Command

inductive Format where
  | text
  | json
deriving DecidableEq, Repr

/-- When error messages have colours. They are never written to a terminal, so
`auto` asks for none. -/
inductive Coloring where
  | auto
  | always
  | never
deriving DecidableEq, Repr

/-- What the two commands are asked for. -/
structure Options where
  /-- The value definition, or `-` for the standard input. -/
  source : Option String := none
  /-- The directory of the tables of data types. -/
  tables : Option String := none
  format : Option Format := none
  compact : Bool := false
  /-- The file to write to. -/
  output : Option String := none
  coloring : Option Coloring := none
deriving DecidableEq, Repr

/-- The two commands that read a value definition. -/
inductive Verb where
  | types
  | parse
deriving DecidableEq, Repr

/-- What the command line asks for. -/
inductive Request where
  | help (topic : Topic)
  | execute (verb : Verb) (options : Options)
deriving DecidableEq, Repr

def Verb.topic : Verb → Topic
  | types => .types
  | parse => .parse

/-- Options that take a value. -/
inductive ValueOption where
  | tables
  | format
  | output
  | coloring
deriving DecidableEq, Repr

/-- The option of a long name, if the command has it. -/
def ValueOption.ofName? (verb : Verb) (name : String) : Option ValueOption :=
  if name = "format" then some format
  else if name = "color" then some coloring
  else if verb = .types ∧ name = "mdn-data" then some tables
  else if verb = .types ∧ name = "output" then some output
  else none

/-- Fills a field that is empty. -/
private def fill {α : Type} (field : Option α) (value : Option α) : Option (Option α) :=
  match field, value with
  | none, some value => some (some value)
  | _, _ => none

/-- A path, which is not empty. -/
private def path? (value : String) : Option String := if value.isEmpty then none else some value

private def format? (value : String) : Option Format :=
  if value = "text" then some .text else if value = "json" then some .json else none

private def coloring? (value : String) : Option Coloring :=
  if value = "auto" then some .auto
  else if value = "always" then some .always
  else if value = "never" then some .never
  else none

/-- Sets an option, unless it is set already or does not take the value. -/
def Options.set? (options : Options) (option : ValueOption) (value : String) : Option Options :=
  match option with
  | .tables => (fill options.tables (path? value)).map fun tables => { options with tables }
  | .format => (fill options.format (format? value)).map fun format => { options with format }
  | .output => (fill options.output (path? value)).map fun output => { options with output }
  | .coloring =>
    (fill options.coloring (coloring? value)).map fun coloring => { options with coloring }

/-- Sets the value definition, unless there is one. -/
def Options.addSource? (options : Options) (source : String) : Option Options :=
  if options.source.isSome then none else some { options with source := some source }

/-- Turns compact output on, unless it is on already. -/
def Options.setCompact? (options : Options) : Option Options :=
  if options.compact then none else some { options with compact := true }

/-- Arguments behind a double hyphen, none of which is an option. -/
def Options.addSources? (options : Options) : List String → Option Options
  | [] => some options
  | source :: rest =>
    match options.addSource? source with
    | some options => options.addSources? rest
    | none => none

/-- What one argument says. -/
inductive Word where
  | plain (text : String)
  /-- Two hyphens alone. -/
  | terminator
  | flag (name : String)
  /-- A long option with its value behind an equals sign. -/
  | assignment (name value : String)
  /-- Letters behind one hyphen. -/
  | letters (first : Char) (rest : List Char)

/-- Sorts an argument by the hyphens that it starts with. One hyphen alone is
plain text. -/
def Word.ofString (argument : String) : Word :=
  match argument.toList with
  | ['-', '-'] => .terminator
  | '-' :: '-' :: name =>
    match name.dropWhile (· != '=') with
    | [] => .flag (String.ofList name)
    | _ :: value => .assignment (String.ofList (name.takeWhile (· != '='))) (String.ofList value)
  | '-' :: first :: rest => .letters first rest
  | _ => .plain argument

/-- Reads the arguments of a command. An option without an equals sign takes the
next argument, unless that starts with a hyphen and more. -/
def readOptions (verb : Verb) (options : Options) : List String → Option Request
  | [] => if options.source.isSome then some (.execute verb options) else none
  | argument :: rest =>
    match Word.ofString argument with
    | .plain text => (options.addSource? text).bind fun options => readOptions verb options rest
    | .terminator =>
      match options.addSources? rest with
      | some options => if options.source.isSome then some (.execute verb options) else none
      | none => none
    | .flag name =>
      if name = "help" then some (.help verb.topic)
      else if name = "compact" then
        options.setCompact?.bind fun options => readOptions verb options rest
      else match ValueOption.ofName? verb name with
        | some option => readValue option rest
        | none => none
    | .assignment name value =>
      match ValueOption.ofName? verb name with
      | some option =>
        (options.set? option value).bind fun options => readOptions verb options rest
      | none => none
    | .letters first letters =>
      if first = 'h' then some (.help verb.topic)
      else if first = 'o' ∧ verb = .types then
        match letters with
        | [] => readValue .output rest
        | '=' :: value =>
          (options.set? .output (String.ofList value)).bind fun options =>
            readOptions verb options rest
        | value =>
          (options.set? .output (String.ofList value)).bind fun options =>
            readOptions verb options rest
      else none
termination_by arguments => arguments.length
where
  readValue (option : ValueOption) : List String → Option Request
    | [] => none
    | argument :: rest =>
      match Word.ofString argument with
      | .plain value =>
        (options.set? option value).bind fun options => readOptions verb options rest
      | _ => none
  termination_by arguments => arguments.length

/-- What the command line asks for; nothing if an argument is wrong. -/
def Request.ofArguments? : List String → Option Request
  | [] => none
  | argument :: rest =>
    match Word.ofString argument with
    | .plain name =>
      if name = "types" then readOptions .types {} rest
      else if name = "parse" then readOptions .parse {} rest
      else if name = "help" then
        match rest with
        | [] => some (.help .program)
        | ["types"] => some (.help .types)
        | ["parse"] => some (.help .parse)
        | ["help"] => some (.help .help)
        | _ => none
      else none
    | .flag name => if name = "help" then some (.help .program) else none
    | .letters first _ => if first = 'h' then some (.help .program) else none
    | .terminator | .assignment .. => none

end ValueGrammar.Command
