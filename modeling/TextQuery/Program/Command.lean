import TextQuery.CommandLine.Invocation
import TextQuery.Config.Template
import TextQuery.Program.Context
import TextQuery.Program.Report
import TextQuery.Terminal.Grid
import TextQuery.Text.Json
import TextQuery.Token

/-!
# Commands

What each command does, given the context and the files. Only `writeTemplate` changes a file.
-/

namespace TextQuery.Program

open TextQuery.Terminal (Tone)
open TextQuery.Text (Json)

/-! ### Tokens -/

/-- A token as JSON. -/
def tokenJson (t : Token) : Json := .object [
  ("text", .string t.text), ("position", .number t.position), ("start", .number t.start),
  ("end", .number t.stop), ("joined", .boolean t.joined)]

/-- A table of tokens, one a row. -/
def tokenGrid (ts : List Token) : Terminal.Grid where
  heading := ["Pos", "Token", "Bytes", "Joined"]
  rows := ts.map fun t => [toString t.position, t.text,
    toString t.start ++ ".." ++ toString t.stop, if t.joined then "yes" else ""]

/-- Splits texts, joined by blanks, into tokens and prints these. -/
def tokenize (ctx : Context) (tree : FileTree) (texts : List String) (field : Option String)
    (json : Bool) : Report :=
  let name := field.getD ctx.config.settings.query.defaultField
  let text := String.intercalate " " texts
  let ts := (TokenStream.ofText name text).toList
  let out :=
    if json then
      (Json.object [("field", .string name), ("text", .string text),
        ("tokens", .array (ts.map tokenJson))]).render ++ "\n"
    else if ts.isEmpty then Tone.muted.paint "No tokens." ++ "\n"
    else unlines (tokenGrid ts).draw
  (Report.success tree out).after [{
    level := .debug, target := "quarry::cli::commands::tokenize", message := "tokenized text"
    fields := [("field", Text.quote name), ("count", toString ts.length)] }]

/-! ### Queries -/

/-- A value with the kind of node it belongs to. -/
def tagged (kind : String) (value : Json) : Json :=
  .object [("type", .string kind), ("value", value)]

mutual

/-- A tree as JSON. -/
def nodeJson : Query.Node → Json
  | .term text => tagged "term" (.string text)
  | .phrase words => tagged "phrase" (.array (words.map .string))
  | .and children => tagged "and" (.array (nodesJson children))
  | .or children => tagged "or" (.array (nodesJson children))
  | .not child => tagged "not" (nodeJson child)
  | .required child => tagged "required" (nodeJson child)

/-- Trees as JSON. -/
def nodesJson : List Query.Node → List Json
  | [] => []
  | n :: ns => nodeJson n :: nodesJson ns

end

/-- A compiled query in a format. -/
def showNode (parser : Query.Parser) (query : String) (n : Query.Node) :
    Config.OutputFormat → String
  | .tree => n.display
  | .string => n.toQueryString ++ "\n"
  | .json =>
    (Json.object [("query", .string query), ("default_field", .string parser.defaultField),
      ("terms", .array (n.terms.map .string)), ("tree", nodeJson n)]).render ++ "\n"

/-- The format asked for on the command line, or else the configured one. -/
def chooseFormat (json string : Bool) (format : Option Config.OutputFormat)
    (configured : Config.OutputFormat) : Config.OutputFormat :=
  format.getD (if json then .json else if string then .string else configured)

/-- Compiles a query and prints its tree. -/
def parse (ctx : Context) (tree : FileTree) (query : String) (format : Config.OutputFormat) :
    Report :=
  let parser := ctx.parser
  let limit := parser.maxLength.elim "None" fun n => "Some(" ++ toString n ++ ")"
  let report : Report := match parser.parse query with
    | .ok n => Report.success tree (showNode parser query n format)
    | .error e => Report.failure tree (problem e.report)
  report.after [{
    level := .debug, target := "quarry::cli::commands::parse", message := "parsing query"
    fields := [("default_field", Text.quote parser.defaultField), ("max_length", limit)] }]

/-! ### Configuration -/

/-- The lines that tell where the configuration comes from. -/
def sourceLines (ctx : Context) (home : Option Path) : List String :=
  Tone.heading.paint "Config files (highest precedence first):" ::
    ctx.config.sources.map fun p =>
      "   " ++ (ctx.displayPath p).toText ++
        if Config.isGlobal home p then " " ++ Tone.muted.paint "(global)" else ""

/-- The lines that tell the query settings. -/
def queryLines (s : Config.QuerySettings) : List String := [
  Tone.heading.paint "Query:",
  "   default field  " ++ s.defaultField,
  "   max length     " ++
    if s.maxLength == 0 then "unlimited" else toString s.maxLength ++ " bytes"]

/-- The lines that tell the warnings and what to do about them. -/
def warningLines (ws : List Config.Warning) : List String :=
  [Tone.heading.paint ("Warnings (" ++ toString ws.length ++ "):")] ++
    ws.map (fun w => "   " ++ Tone.caution.paint w.message) ++ [""] ++
    ws.map fun w => Tone.muted.paint w.hint

/-- Shows the configuration files and warnings. Warnings make it a failure. -/
def status (ctx : Context) (tree : FileTree) (home : Option Path) : Report :=
  if ctx.config.sources.isEmpty then
    .success tree (unlines [
      Tone.muted.paint "No configuration files found, using defaults.", "",
      "Run " ++ Tone.heading.paint "quarry init" ++ " to create a configuration file."])
  else
    let told := sourceLines ctx home ++ [""] ++ queryLines ctx.config.settings.query ++ [""]
    match ctx.config.settings.warnings with
    | [] => .success tree (unlines (told ++ ["No issues found."]))
    | ws => { code := 1, out := unlines (told ++ warningLines ws), tree }

/-- Shows the settings in force as a configuration file. -/
def showSettings (ctx : Context) (tree : FileTree) : Report :=
  .success tree (Terminal.present ctx.config.settings.toToml)

/-! ### New configuration files -/

/-- The file that a new configuration goes to, and whether it is the global one. In the home
directory it always is. None if the home directory is needed and not known. -/
def templateTarget (env : Environment) (global : Bool) : Option (Path × Bool) :=
  let inHome := (env.home.bind fun h => (Config.globalFile h).parent?).any fun h =>
    h.location == env.cwd.location
  if global || inHome then env.home.map fun h => (Config.globalFile h, true)
  else some (env.cwd.join Config.fileName, false)

/-- The text of a new configuration file. -/
def templateText (global : Bool) : String :=
  Config.Template.render
    (if global then Config.Template.forHome else Config.Template.forDirectory)

/-- Writes a new configuration file. One that is there is replaced only by force. -/
def writeTemplate (env : Environment) (tree : FileTree) (device : Device) (global force : Bool) :
    Report :=
  match templateTarget env global with
  | none => .failure tree (problem Config.Error.noHome.message)
  | some (path, global) =>
    if tree.exists? path && !force then
      .failure tree (problem (path.toText ++ " already exists") ++ "use --force to overwrite\n")
    else
      let text := templateText global
      let report : Report := match tree.write path text device with
        | (tree, some e) =>
          .failure tree (problem ("could not write " ++ path.toText ++ ": " ++ e.message))
        | (tree, none) => .success tree (unlines
            ["Created " ++ path.toText, "", Tone.heading.paint "Template:"] ++
            Terminal.indent (Terminal.present text))
      report.after [{
        level := .debug, target := "quarry::cli::commands::init"
        message := "writing config template"
        fields := [("path", path.toText), ("global", toString global)] }]

end TextQuery.Program
