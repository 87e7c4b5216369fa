import TextQuery.Text.Quoted

/-!
# Log records

What the program says about its own work: a level, the part of the program that speaks, a message
and named values.
-/

namespace TextQuery.Log

/-- How much a record matters. -/
inductive Level where
  | error
  | warn
  | info
  | debug
  | trace
  deriving DecidableEq, Repr

namespace Level

/-- The level as records show it. -/
def label : Level → String
  | .error => "ERROR"
  | .warn => "WARN"
  | .info => "INFO"
  | .debug => "DEBUG"
  | .trace => "TRACE"

/-- The name of the level in filters. -/
def name : Level → String
  | .error => "error"
  | .warn => "warn"
  | .info => "info"
  | .debug => "debug"
  | .trace => "trace"

/-- How much is told at this level and the more important ones: 1 for errors only, 5 for all. -/
def verbosity : Level → Nat
  | .error => 1
  | .warn => 2
  | .info => 3
  | .debug => 4
  | .trace => 5

/-- Every level, the most important first. -/
def all : List Level := [.error, .warn, .info, .debug, .trace]

end Level

/-- A record. -/
structure Record where
  level : Level
  /-- The part of the program that speaks. -/
  target : String
  message : String
  /-- Named values, as they are shown. -/
  fields : List (String × String) := []
  deriving DecidableEq, Repr

namespace Record

/-- The line that shows a record, with the part of the program if asked for. -/
def line (r : Record) (withTarget : Bool) : String :=
  r.level.label ++ " " ++ (if withTarget then r.target ++ ": " else "") ++ r.message ++
    String.join (r.fields.map fun f => " " ++ f.1 ++ "=" ++ f.2)

end Record

end TextQuery.Log
