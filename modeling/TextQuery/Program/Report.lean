import TextQuery.Files.Tree
import TextQuery.Log.Record
import TextQuery.Terminal.Style

/-!
# Reports

What a command leaves behind: an exit code, text for its reader, text about problems, log records
and the files as they are then. A command whose text cannot be printed is broken off.
-/

namespace TextQuery.Program

/-- What a command leaves behind. -/
structure Report where
  code : Nat := 0
  out : String := ""
  err : String := ""
  records : List Log.Record := []
  tree : FileTree
  deriving DecidableEq, Repr

namespace Report

/-- A success that prints something and leaves the files alone. -/
def success (tree : FileTree) (out : String) : Report := { out, tree }

/-- A failure with a message, which leaves the files alone. -/
def failure (tree : FileTree) (err : String) : Report := { code := 1, err, tree }

/-- The report with records made before it. -/
def after (r : Report) (records : List Log.Record) : Report :=
  { r with records := records ++ r.records }

/-- The report as far as it can be printed, by a command that does not mind. -/
def shown (device : Device) (r : Report) : Report :=
  { r with
    out := Limit.taken device.output r.out
    err := if device.messages.isSome then "" else r.err }

/-- The exit code of a command that is broken off. -/
def brokenOff : Nat := 101

/-- The report as far as it can be printed, by a command that is broken off where printing fails. It
is told why, unless messages are what cannot be printed; what was done to the files stays done. -/
def printed (device : Device) (r : Report) : Report :=
  let told := r.shown device
  match Limit.failure? device.output r.out, device.messages with
  | some e, none =>
    { told with
      code := brokenOff
      err := told.err ++ "failed printing to stdout: " ++ e.message ++ "\n" }
  | some _, some _ => { told with code := brokenOff }
  | none, some _ => if r.err.isEmpty then told else { told with code := brokenOff }
  | none, none => told

end Report

/-- Lines as text. -/
def unlines (lines : List String) : String := String.join (lines.map (· ++ "\n"))

/-- A message about a problem. -/
def problem (message : String) : String :=
  Terminal.Tone.failure.paint "error" ++ ": " ++ message ++ "\n"

end TextQuery.Program
