import TextQuery.Config.Error
import TextQuery.Config.Merge

/-!
# Finding configuration files

A directory is configured by the files in it and in the directories above it, closest first, and
last by the global file in the home directory. A file that declares itself the root ends the search,
and the global file is left out as well.
-/

namespace TextQuery.Config

/-- The name of every configuration file. -/
def fileName : String := ".quarry.toml"

/-- The global configuration file of a home directory. -/
def globalFile (home : Path) : Path := home.join fileName

/-- Whether a path is the global configuration file. -/
def isGlobal (home : Option Path) (p : Path) : Bool :=
  home.any fun h => p.location == (globalFile h).location

/-- Reads the layer that a file defines. -/
def Layer.load (t : FileTree) (p : Path) : Except Error Layer :=
  match t.read p with
  | .error e => .error (.unreadable p e)
  | .ok text =>
    match Layer.parse text with
    | .error r => .error (.rejected p text r)
    | .ok l => .ok l

/-- Whether a file can be read and declares itself the root. -/
def isRoot (t : FileTree) (p : Path) : Bool :=
  match Layer.load t p with
  | .ok l => l.root == some true
  | .error _ => false

/-- What a search for configuration files comes to. -/
structure Search where
  /-- The files of the directories, closest first. -/
  nearby : List Path
  /-- Whether the last of these is the root. -/
  rooted : Bool
  /-- The global file, if it is there and not one of the others. -/
  global : Option Path
  deriving DecidableEq, Repr

namespace Search

/-- The configuration files of directories up to the root, and whether a root was met. -/
def walk (t : FileTree) : List Path → List Path × Bool
  | [] => ([], false)
  | dir :: dirs =>
    let p := dir.join fileName
    if t.isFile p then
      if isRoot t p then ([p], true)
      else
        let (ps, rooted) := walk t dirs
        (p :: ps, rooted)
    else walk t dirs

/-- The global file, if it is there and not among the files already found. -/
def globalBeside (t : FileTree) (home : Option Path) (found : List Path) : Option Path :=
  (home.map globalFile).filter fun g =>
    t.isFile g && !found.any fun p => p.location == g.location

/-- The search that starts in a directory. -/
def run (t : FileTree) (home : Option Path) (cwd : Path) : Search :=
  let (nearby, rooted) := walk t cwd.ancestors
  ⟨nearby, rooted, if rooted then none else globalBeside t home nearby⟩

/-- Every file found, closest first. -/
def paths (s : Search) : List Path := s.nearby ++ s.global.toList

/-- The files of the directories, each with whether it is the root. -/
def marked (s : Search) : List (Path × Bool) :=
  if s.rooted then
    s.nearby.dropLast.map (·, false) ++ s.nearby.getLast?.toList.map (·, true)
  else s.nearby.map (·, false)

end Search

/-- The configuration files that apply in a directory, closest first. -/
def discover (t : FileTree) (home : Option Path) (cwd : Path) : List Path :=
  (Search.run t home cwd).paths

/-- The configuration that the given files make up, closest first. The first file that cannot be
read or is no configuration decides the error. -/
def loadFiles (t : FileTree) (paths : List Path) : Except Error Config :=
  match paths.mapM fun p => (Layer.load t p).map (p, ·) with
  | .ok files => .ok (merge files)
  | .error e => .error e

/-- The configuration that applies in a directory. -/
def load (t : FileTree) (home : Option Path) (cwd : Path) : Except Error Config :=
  loadFiles t (discover t home cwd)

end TextQuery.Config
