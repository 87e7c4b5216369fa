import TextQuery.Config.Discovery
import TextQuery.Query.Parser

/-!
# Context

What a command finds when it starts: where the program runs, and the configuration in force there.
-/

namespace TextQuery.Program

/-- What surrounds a run of the program. -/
structure Environment where
  /-- The working directory. -/
  cwd : Path
  /-- The home directory, if it is known. -/
  home : Option Path
  /-- The log filter asked for, if any. -/
  logSetting : Option String := none
  deriving DecidableEq, Repr

/-- The working directory and the configuration in force. -/
structure Context where
  cwd : Path
  config : Config := {}
  deriving DecidableEq, Repr

namespace Context

/-- The query parser with the configured settings. -/
def parser (c : Context) : Query.Parser :=
  let parser : Query.Parser := { defaultField := c.config.settings.query.defaultField }
  parser.withMaxLength c.config.settings.query.maxLength

/-- A path as it is shown: from the working directory where it lies below that. -/
def displayPath (c : Context) (p : Path) : Path := (p.relativeTo? c.cwd).getD p

end Context

end TextQuery.Program
