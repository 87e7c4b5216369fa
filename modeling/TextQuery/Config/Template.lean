/-!
# Templates

A new configuration file shows every setting with its default, commented out, so that it changes
nothing until a line is uncommented.
-/

namespace TextQuery.Config.Template

/-- A line of a template, commented out unless it is empty or a comment already. -/
def commentOut (line : List Char) : List Char :=
  match line with
  | [] => []
  | '#' :: _ => line
  | _ => '#' :: ' ' :: line

/-- The text of a template with its settings commented out. -/
def render (lines : List String) : String :=
  String.ofList ((lines.map fun line => commentOut line.toList ++ ['\n']).flatten)

/-- The settings that every file can hold. -/
def settings : List String := [
  "[query]",
  "# Field that unqualified query terms target.",
  "default_field = \"text\"",
  "",
  "# Reject queries longer than this many bytes. 0 disables the limit.",
  "max_length = 8192",
  "",
  "[output]",
  "# How `quarry parse` prints a query tree: \"tree\", \"string\" or \"json\".",
  "format = \"tree\""]

/-- The file of a directory. -/
def forDirectory : List String := [
  "# quarry project configuration",
  "#",
  "# Settings in this file apply to this directory and everything below it.",
  "# Closer files take precedence over files further up the tree, and all of",
  "# them take precedence over ~/.quarry.toml.",
  "",
  "# Stop looking for configuration in parent directories and ~/.quarry.toml.",
  "root = false",
  ""] ++ settings

/-- The global file. -/
def forHome : List String := [
  "# quarry global configuration",
  "#",
  "# Defaults for every directory. Any .quarry.toml found between the working",
  "# directory and the filesystem root takes precedence over this file.",
  ""] ++ settings

end TextQuery.Config.Template
