import TextQuery.Text.Blank
import TextQuery.Toml.Quoted

/-!
# Settings

The settings that a configuration decides about, their defaults, what is worth a warning, and the
text in which they are written out.
-/

namespace TextQuery.Config

/-- How a compiled query is printed. -/
inductive OutputFormat where
  /-- An indented outline of the tree. -/
  | tree
  /-- A query that compiles to the same tree. -/
  | string
  /-- A JSON document. -/
  | json
  deriving DecidableEq, Repr

namespace OutputFormat

/-- The name of the format in configuration files and on the command line. -/
def name : OutputFormat → String
  | .tree => "tree"
  | .string => "string"
  | .json => "json"

/-- Every format. -/
def all : List OutputFormat := [.tree, .string, .json]

/-- The format with a name. -/
def ofName? (name : String) : Option OutputFormat := all.find? fun f => f.name == name

theorem ofName?_name (f : OutputFormat) : ofName? f.name = some f := by
  cases f <;> decide

end OutputFormat

/-- Settings for reading queries. -/
structure QuerySettings where
  /-- The field that terms without a field of their own search. -/
  defaultField : String := "text"
  /-- The longest accepted query in bytes; 0 is no limit. -/
  maxLength : Nat := 8192
  deriving DecidableEq, Repr

/-- Settings for printing. -/
structure OutputSettings where
  format : OutputFormat := .tree
  deriving DecidableEq, Repr

/-- All settings. -/
structure Settings where
  query : QuerySettings := {}
  output : OutputSettings := {}
  deriving DecidableEq, Repr

/-- Something about the settings that is allowed but hardly meant. -/
inductive Warning where
  /-- Terms without a field of their own search no field. -/
  | emptyDefaultField
  /-- Queries of any length are accepted. -/
  | unboundedQueryLength
  deriving DecidableEq, Repr

namespace Warning

/-- The warning in words. -/
def message : Warning → String
  | .emptyDefaultField => "query.default_field is empty"
  | .unboundedQueryLength => "query.max_length is 0, query length is not limited"

/-- How to get rid of the warning. -/
def hint : Warning → String
  | .emptyDefaultField => "Hint: set [query] default_field to the field queries should search"
  | .unboundedQueryLength => "Hint: set [query] max_length to a positive byte count"

end Warning

namespace Settings

/-- The warnings that settings give rise to. -/
def warnings (s : Settings) : List Warning :=
  (if Text.allBlank s.query.defaultField then [.emptyDefaultField] else []) ++
    (if s.query.maxLength == 0 then [.unboundedQueryLength] else [])

/-- The settings as the characters of a configuration file. -/
def tomlChars (s : Settings) : List Char :=
  "[query]\ndefault_field = ".toList ++ Toml.writeString s.query.defaultField.toList ++
    "\nmax_length = ".toList ++ Nat.toDigits 10 s.query.maxLength ++
    "\n\n[output]\nformat = ".toList ++ Toml.writeString s.output.format.name.toList ++ ['\n']

/-- The settings as a configuration file. -/
def toToml (s : Settings) : String := String.ofList s.tomlChars

end Settings

end TextQuery.Config
