/-! The help texts of the command line. -/
namespace ValueGrammar.Command

/-- What help is asked for. -/
inductive Topic where
  | program
  | types
  | parse
  | help
deriving DecidableEq, Repr

private def programHelp : String :=
  "Value types from CSS value-definition syntax

Usage: csstyper <COMMAND>

Commands:
  types  Show the value types a syntax accepts
  parse  Show the entity tree of a syntax
  help   Print this message or the help of the given subcommand(s)

Options:
  -h, --help  Print help
"

private def typesHelp : String :=
  "Show the value types a syntax accepts

Usage: csstyper types <SYNTAX>
  csstyper types <SYNTAX> --mdn-data <DIR>

Arguments:
  <SYNTAX>  Value-definition syntax, or - to read it from stdin

Options:
      --mdn-data <DIR>   mdn-data directory containing css/types.json and css/syntaxes.json
      --format <FORMAT>  Output format [default: text] [possible values: text, json]
      --compact          Output compact JSON
  -o, --output <FILE>    Write output to file
      --color <WHEN>     Colorize diagnostics [default: auto] [possible values: auto, always, never]
  -h, --help             Print help

EXAMPLES:
  csstyper types 'auto | <length>'                       # built-in catalog
  csstyper types '<color>' --mdn-data node_modules/mdn-data
  csstyper types '[ <length> | auto ]\x7b1,4\x7d' --format json
  echo 'none | <integer>' | csstyper types -             # from stdin

NOTE: Without --mdn-data only number, integer, length and hex-color are
known; other data types are printed as <name> references.
"

private def parseHelp : String :=
  "Show the entity tree of a syntax

Usage:   csstyper parse <SYNTAX>

Arguments:
  <SYNTAX>  Value-definition syntax, or - to read it from stdin

Options:
      --format <FORMAT>  Output format [default: text] [possible values: text, json]
      --compact          Output compact JSON
      --color <WHEN>     Colorize diagnostics [default: auto] [possible values: auto, always, never]
  -h, --help             Print help

EXAMPLES:
  csstyper parse '<line-width> || <line-style>'          # outline
  csstyper parse 'auto | <length>' --format json         # serialized entities
"

private def helpHelp : String :=
  "Print this message or the help of the given subcommand(s)

Usage: csstyper help [COMMAND]...

Arguments:
  [COMMAND]...  Print help for the subcommand(s)
"

/-- The help text of a topic. -/
def Topic.text : Topic → String
  | program => programHelp
  | types => typesHelp
  | parse => parseHelp
  | help => helpHelp

end ValueGrammar.Command
