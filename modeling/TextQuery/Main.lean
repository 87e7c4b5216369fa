import TextQuery.Program.Run

/-!
# The program

Reads the configuration files that a run can depend on, runs the program on them, writes back the
files that changed and prints the rest of the outcome.
-/

section

open TextQuery TextQuery.Program

/-- What an error of the system comes to. -/
def fileErrorOf : IO.Error → FileError
  | .noFileOrDirectory .. => .notFound
  | .permissionDenied _ number description | .resourceExhausted _ number description
  | .hardwareFault number description | .otherError number description =>
    .system number.toNat description
  | e => .system 0 (toString e)

/-- Runs the program with the given arguments. -/
def main (arguments : List String) : IO UInt32 := do
  let here ← IO.currentDir
  let cwd := Path.ofText here.toString
  let home := ((← IO.getEnv "HOME").filter fun h => !h.isEmpty).map Path.ofText
  let env : Environment := ⟨cwd, home, ← IO.getEnv "RUST_LOG"⟩
  let candidates := cwd.ancestors.map (·.join Config.fileName) ++ (home.map Config.globalFile).toList
  let mut tree : FileTree := {}
  -- the directories on the way come first, from the outside in
  for path in candidates.flatMap fun p => p.ancestors.reverse do
    let file := here / path.toText
    if let .ok place := tree.place path then
      if ← file.isDir then tree := tree.set place .directory
      else if ← file.pathExists then
        let entry ← try
            let bytes ← IO.FS.readBinFile file
            pure (Entry.file (match String.fromUTF8? bytes with
              | some text => .text text
              | none => .binary bytes.toList))
          catch e => pure (.file (.binary []) (some (fileErrorOf e)))
        tree := tree.set place entry
  let result := run env tree arguments
  let write : IO Unit := do
    for (location, content) in result.tree.files do
      if let .text text := content then
        if !tree.files.contains (location, content) then
          let path : Path := ⟨location.absolute, location.names⟩
          IO.FS.writeFile (here / path.toText) text
  -- a file that cannot be written is told of by a run that cannot open it
  let result ← try write; pure result
    catch e => pure (run env tree arguments { opening := some (fileErrorOf e) })
  for line in result.log do
    IO.eprintln line
  IO.print result.out
  IO.eprint result.err
  return result.code.toUInt32

end
