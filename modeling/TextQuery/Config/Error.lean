import TextQuery.Config.Layer
import TextQuery.Files.Tree
import TextQuery.Text.Excerpt

/-!
# Configuration errors

What can go wrong between the name of a configuration file or format and the settings, and how it
is told.
-/

namespace TextQuery.Config

/-- Why there is no configuration. -/
inductive Error where
  /-- A file cannot be read. -/
  | unreadable (path : Path) (cause : FileError)
  /-- The text of a file is no configuration. -/
  | rejected (path : Path) (text : String) (cause : Rejection)
  /-- A name is no output format. -/
  | unknownFormat (name : String)
  /-- Nobody knows where the home directory is. -/
  | noHome
  deriving DecidableEq, Repr

/-- A rejection with the line of the text that it is about. -/
def Rejection.report (text : String) (r : Rejection) : String :=
  let (start, stop) := r.offsets (Text.byteLength text.toList)
  let place := Text.Place.ofOffset text.toList start
  "TOML parse error at line " ++ toString (place.line + 1) ++ ", column " ++
    toString (place.column + 1) ++ "\n" ++ Text.excerpt text start stop ++ r.message ++ "\n"

/-- The error in words. -/
def Error.message : Error → String
  | .unreadable path cause =>
    "failed to read config file " ++ path.toText ++ ": " ++ cause.message
  | .rejected path text cause =>
    "failed to parse config file " ++ path.toText ++ ": " ++ cause.report text
  | .unknownFormat name =>
    "unknown output format '" ++ name ++ "' (expected tree, string or json)"
  | .noHome => "could not determine home directory"

/-- The format with a name, or the error that there is none. -/
def OutputFormat.ofName (name : String) : Except Error OutputFormat :=
  match OutputFormat.ofName? name with
  | some f => .ok f
  | none => .error (.unknownFormat name)

end TextQuery.Config
