/-!
# What the command line takes

The program is called with options, then a command, then the options and operands of that command.
This module describes them; reading, help and messages follow from the description.
-/

namespace TextQuery.CommandLine

/-- What an option does. -/
inductive Effect where
  /-- It counts how often it is given. -/
  | count
  /-- It is on when given, which it may be once. -/
  | switch
  /-- It takes a text, shown by a placeholder. -/
  | text (placeholder : String)
  /-- It takes the name of an output format, shown by a placeholder. -/
  | format (placeholder : String)
  /-- It asks for help. -/
  | help
  /-- It asks for the version. -/
  | version
  deriving DecidableEq, Repr

/-- The placeholder of the value that an option takes. -/
def Effect.placeholder? : Effect → Option String
  | .text p | .format p => some p
  | _ => none

/-- An option. -/
structure OptionSpec where
  /-- The name after two dashes. -/
  long : String
  /-- The letter after one dash. -/
  short : Option Char := none
  effect : Effect
  about : String
  /-- Where help lists it: by this number, and in the order of declaration within the same one. -/
  row : Nat := 0
  /-- Options that it cannot be used with. -/
  excludes : List String := []
  deriving DecidableEq, Repr

/-- The option as messages show it. -/
def OptionSpec.shown (o : OptionSpec) : String :=
  "--" ++ o.long ++
    match o.effect with
    | .text p | .format p => " <" ++ p ++ ">"
    | .count => "..."
    | _ => ""

/-- Whether two options cannot be used together. -/
def OptionSpec.conflicts (a b : OptionSpec) : Bool :=
  a.excludes.contains b.long || b.excludes.contains a.long

/-- The operands of a command. They may start with a dash. -/
structure OperandSpec where
  placeholder : String
  /-- Whether every argument after the first one is an operand too. -/
  many : Bool := false
  required : Bool := true
  about : String
  deriving DecidableEq, Repr

/-- The operands as messages show them. -/
def OperandSpec.shown (o : OperandSpec) : String :=
  (if o.required then "<" ++ o.placeholder ++ ">" else "[" ++ o.placeholder ++ "]") ++
    if o.many then "..." else ""

/-- A command, or the program as a whole. -/
structure CommandSpec where
  /-- The words that call it. -/
  name : String
  about : String
  operand : Option OperandSpec := none
  options : List OptionSpec := []
  /-- The commands below it, with what they are about. -/
  commands : List (String × String) := []
  /-- Lines at the end of its help. -/
  epilogue : List String := []
  deriving DecidableEq, Repr

namespace CommandSpec

/-- The option with a name. -/
def byLong? (c : CommandSpec) (name : String) : Option OptionSpec :=
  c.options.find? fun o => o.long == name

/-- The option with a letter. -/
def byShort? (c : CommandSpec) (letter : Char) : Option OptionSpec :=
  c.options.find? fun o => o.short == some letter

/-- The names of the commands below it. -/
def commandNames (c : CommandSpec) : List String := c.commands.map (·.1)

end CommandSpec

/-! ### The commands of the program -/

/-- The name of the program. -/
def programName : String := "quarry"

/-- The version of the program. -/
def programVersion : String := "0.1.0"

/-- How much is logged. -/
def verboseOption : OptionSpec where
  long := "verbose"
  short := some 'v'
  effect := .count
  about := "Log verbosity (-v for debug, -vv for trace)"

/-- Help on a command. -/
def helpOption : OptionSpec where
  long := "help"
  short := some 'h'
  effect := .help
  about := "Print help"
  row := 999

/-- The version of the program. -/
def versionOption : OptionSpec where
  long := "version"
  short := some 'V'
  effect := .version
  about := "Print version"
  row := 999

/-- The commands. -/
inductive Verb where
  | tokenize
  | parse
  | init
  | status
  | config
  deriving DecidableEq, Repr

namespace Verb

/-- Every command, in the order of help. -/
def all : List Verb := [.tokenize, .parse, .init, .status, .config]

/-- The word that calls the command. -/
def name : Verb → String
  | .tokenize => "tokenize"
  | .parse => "parse"
  | .init => "init"
  | .status => "status"
  | .config => "config"

/-- The command that a word calls. -/
def ofName? (word : String) : Option Verb := all.find? fun v => v.name == word

/-- What the command is about. -/
def about : Verb → String
  | .tokenize => "Split text into positioned tokens"
  | .parse => "Parse a query and print the compiled tree"
  | .init => "Initialize quarry configuration in current directory"
  | .status => "Show configuration files and validation warnings"
  | .config => "Show effective configuration settings"

/-- The operands of the command. -/
def operand : Verb → Option OperandSpec
  | .tokenize => some {
      placeholder := "TEXT"
      many := true
      about := "Text to tokenize; multiple arguments are joined with spaces" }
  | .parse => some { placeholder := "QUERY", about := "Query to parse" }
  | _ => none

/-- The options that only this command has. -/
def ownOptions : Verb → List OptionSpec
  | .tokenize => [
      { long := "field", short := some 'f', effect := .text "FIELD",
        about := "Field name passed to the tokenizer [default: query.default_field]" },
      { long := "json", effect := .switch, about := "Output in JSON format", row := 1 }]
  | .parse => [
      { long := "json", effect := .switch, about := "Output the tree as JSON",
        excludes := ["string"] },
      { long := "string", effect := .switch, about := "Output the tree as query syntax", row := 1 },
      { long := "format", effect := .format "FORMAT",
        about := "Output format: tree, string or json [default: output.format]", row := 2,
        excludes := ["json", "string"] }]
  | .init => [
      { long := "global", effect := .switch, about := "Create global ~/.quarry.toml instead" },
      { long := "force", effect := .switch, about := "Overwrite existing configuration file",
        row := 1 }]
  | .status | .config => []

/-- The lines at the end of the command's help. -/
def epilogue : Verb → List String
  | .tokenize => [
      "EXAMPLES:",
      "  quarry tokenize 'word1 word2 word3. word4 5.6'",
      "  quarry tokenize -f title state-of-the-art",
      "  quarry tokenize --json 'e-mail 1,000.25'"]
  | .parse => [
      "QUERY SYNTAX:",
      "  term              Term must appear",
      "  term1 term2       Either term (implicit OR)",
      "  \"phrase\"          Terms at consecutive positions",
      "  foo-bar           Same as \"foo bar\"",
      "  +term             Term is required",
      "  -term, NOT term   Term must NOT appear",
      "  a AND b, a && b   Both sides must match",
      "  a OR b, a || b    Either side",
      "  (expr)            Grouping",
      "",
      "  AND binds tighter than OR: 'a b AND c' means a OR (b AND c).",
      "",
      "EXAMPLES:",
      "  quarry parse 'rust async'",
      "  quarry parse '\"error handling\" -deprecated'",
      "  quarry parse --string 'foo bar AND (foobar OR barfoo)'",
      "  quarry parse --json '+rust (tokio OR smol)'",
      "  quarry parse --format string 'a && (b || c)'"]
  | _ => []

/-- The description of the command. -/
def spec (v : Verb) : CommandSpec where
  name := programName ++ " " ++ v.name
  about := v.about
  operand := v.operand
  options := v.ownOptions ++ [verboseOption, helpOption]
  epilogue := v.epilogue

end Verb

/-- The word that asks for help on a command. -/
def helpWord : String := "help"

/-- The description of the command that gives help. -/
def helpSpec : CommandSpec where
  name := programName ++ " " ++ helpWord
  about := "Print this message or the help of the given subcommand(s)"
  operand := some {
    placeholder := "COMMAND"
    many := true
    required := false
    about := "Print help for the subcommand(s)" }

/-- The description of the program. -/
def programSpec : CommandSpec where
  name := programName
  about := "Query front end and field tokenizer for full-text search"
  options := [verboseOption, helpOption, versionOption]
  commands := Verb.all.map (fun v => (v.name, v.about)) ++ [(helpWord, helpSpec.about)]

end TextQuery.CommandLine
