import TextQuery.CommandLine.Spec

/-!
# Usage and help

The line that shows how a command is called, and its help page.
-/

namespace TextQuery.CommandLine

namespace CommandSpec

/-- What follows the options in a call. -/
def tail (c : CommandSpec) : String :=
  c.operand.elim "" (fun o => " " ++ o.shown) ++ if c.commands.isEmpty then "" else " <COMMAND>"

/-- How the command is called in general. -/
def usage (c : CommandSpec) : String :=
  c.name ++ (if c.options.isEmpty then "" else " [OPTIONS]") ++ c.tail

/-- How the command is called with the given options. Without any it is the general line. -/
def usageWith (c : CommandSpec) (options : List OptionSpec) : String :=
  if options.isEmpty then c.usage
  else c.name ++ String.join (options.map fun o => " " ++ o.shown) ++ c.tail

end CommandSpec

/-- Rows of two columns, the second one `gap` blanks after the widest entry of the first. -/
def columns (gap : Nat) (rows : List (String × String)) : String :=
  let width := (rows.map fun r => r.1.length).foldl max 0
  String.join (rows.map fun r =>
    "  " ++ r.1 ++ String.ofList (List.replicate (width + gap - r.1.length) ' ') ++ r.2 ++ "\n")

/-- The first column of an option in help. -/
def OptionSpec.entry (o : OptionSpec) : String :=
  (match o.short with
    | some c => String.ofList ['-', c, ',', ' ']
    | none => "    ") ++ o.shown

/-- A titled list, nothing if it is empty. -/
def sheet (title : String) (gap : Nat) (rows : List (String × String)) : List String :=
  if rows.isEmpty then [] else [title ++ ":\n" ++ columns gap rows]

/-- The help page of a command, with its commands `gap` blanks from what they are about. -/
def CommandSpec.help (c : CommandSpec) (gap : Nat) : String :=
  let options := c.options.mergeSort fun a b => a.row ≤ b.row
  let parts := [c.about ++ "\n", "Usage: " ++ c.usage ++ "\n"] ++
    sheet "Commands" gap c.commands ++
    sheet "Arguments" 2 (c.operand.toList.map fun o => (o.shown, o.about)) ++
    sheet "Options" 2 (options.map fun o => (o.entry, o.about)) ++
    if c.epilogue.isEmpty then [] else [String.join (c.epilogue.map (· ++ "\n"))]
  String.intercalate "\n" parts

end TextQuery.CommandLine
