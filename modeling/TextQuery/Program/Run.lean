import TextQuery.Log.Filter
import TextQuery.Program.Command

/-!
# Running the program

A run is a function of the environment, the files, the arguments and of what disk and output let
through. What it does to the world is part of its outcome: the files afterwards, an exit code and
what is printed.
-/

namespace TextQuery.Program

open TextQuery.CommandLine (Halt Invocation)

/-- What a run comes to. -/
structure Outcome where
  code : Nat
  out : String
  err : String
  /-- The log lines that are shown. -/
  log : List String
  tree : FileTree
  deriving DecidableEq, Repr

/-! ### Loading the configuration -/

/-- The records of a search for configuration files. -/
def searchRecords (s : Config.Search) : List Log.Record :=
  let target := "quarry_config::discovery"
  s.marked.map (fun p => {
    level := .debug, target, message := "found config file"
    fields := [("path", p.1.toText), ("is_root", toString p.2)] }) ++
  s.global.toList.map fun p => {
    level := .debug, target, message := "found global config file"
    fields := [("path", p.toText)] }

/-- The records of a configuration being put together, the least important file first. -/
def loadRecords (cwd : Path) (config : Config) : List Log.Record :=
  let applied : List Log.Record := config.sources.reverse.map fun p => {
    level := .debug, target := "quarry_config::merge", message := "applying config file"
    fields := [("path", p.toText)] }
  let loaded : Log.Record := {
    level := .debug, target := "quarry::cli::context", message := "configuration loaded"
    fields := [("cwd", cwd.toText), ("sources", toString config.sources.length)] }
  let warned : List Log.Record := config.settings.warnings.map fun w => {
    level := .warn, target := "quarry::cli::context", message := "configuration: " ++ w.message }
  applied ++ [loaded] ++ warned

/-- Carries out a command in the configuration that applies in the working directory. -/
def withConfig (env : Environment) (tree : FileTree) (command : Context → Report) : Report :=
  let search := Config.Search.run tree env.home env.cwd
  let report : Report := match Config.loadFiles tree search.paths with
    | .error e =>
      .failure tree ("error: failed to load configuration: " ++ e.message ++ "\n")
    | .ok config => (command ⟨env.cwd, config⟩).after (loadRecords env.cwd config)
  report.after (searchRecords search)

/-- Carries out a command. A new configuration file needs none to be loaded. -/
def perform (env : Environment) (tree : FileTree) (device : Device) : CommandLine.Command → Report
  | .tokenize texts field json =>
    withConfig env tree fun ctx => tokenize ctx tree texts field json
  | .parse query json string format =>
    withConfig env tree fun ctx =>
      parse ctx tree query (chooseFormat json string format ctx.config.settings.output.format)
  | .init global force => writeTemplate env tree device global force
  | .status => withConfig env tree fun ctx => status ctx tree env.home
  | .config => withConfig env tree fun ctx => showSettings ctx tree

/-! ### Runs -/

/-- What is printed when no command is carried out. A single argument that asks for help gets the
list of commands, set a little wider; only that list has to be printed whole. -/
def halt (tree : FileTree) (arguments : List String) (h : Halt) (device : Device := {}) : Report :=
  match h with
  | .help c =>
    if arguments.length ≤ 1 then
      (Report.success tree (CommandLine.programSpec.help 3)).printed device
    else (Report.success tree (c.help 2)).shown device
  | .version =>
    (Report.success tree
      (CommandLine.programName ++ " " ++ CommandLine.programVersion ++ "\n")).shown device
  | .nothing =>
    Report.shown device { code := 2, err := CommandLine.programSpec.help 2, tree }
  | .refused r => Report.shown device { code := 2, err := r.message, tree }

/-- The outcome of a report, with the records that the filter admits. -/
def outcome (env : Environment) (verbosity : Nat) (r : Report) : Outcome where
  code := r.code
  out := r.out
  err := r.err
  log :=
    let filter := Log.Filter.select verbosity env.logSetting
    (r.records.filter filter.admits).map fun record => record.line (verbosity > 1)
  tree := r.tree

/-- A run of the program. -/
def run (env : Environment) (tree : FileTree) (arguments : List String) (device : Device := {}) :
    Outcome :=
  match Invocation.ofArguments arguments with
  | .error h => outcome env 0 (halt tree arguments h device)
  | .ok i => outcome env i.verbosity ((perform env tree device i.command).printed device)

end TextQuery.Program
