/-!
# Paths

A path is kept as written, split at slashes, since it is shown as written. Two paths are the same
when they have the same location: empty pieces do not count, and neither does a dot other than one
at the very start of a relative path. Where a path leads is another matter, since two dots lead back
out of a directory: that takes a tree of files (`FileTree.place`) and goes by `Location.enter`.
-/

namespace TextQuery

/-- A path: whether it starts at the root, and the pieces between the slashes after that. -/
structure Path where
  absolute : Bool
  body : List String
  deriving DecidableEq, Repr

/-- The names to follow, from the root or from the current place. -/
structure Location where
  absolute : Bool
  names : List String
  deriving DecidableEq, Repr

namespace Location

/-- Whether this is where paths start, or a place around the current one: nothing but two dots lead
there, and it is always a directory. -/
def isStart (l : Location) : Bool := l.names.all (· == "..")

/-- The place with a name in this one. -/
def inside (l : Location) (name : String) : Location := { l with names := l.names ++ [name] }

/-- The place around this one. Nothing lies around the root. From the current place more two dots
lead further out. -/
def outer (l : Location) : Location :=
  if !l.absolute && l.isStart then l.inside ".." else { l with names := l.names.dropLast }

/-- Where a name leads from here: a dot stays and two dots lead out. -/
def enter (l : Location) (name : String) : Location :=
  if name == "." then l else if name == ".." then l.outer else l.inside name

end Location

namespace Path

/-- Splits characters at slashes. -/
def splitSlashes : List Char → List (List Char)
  | [] => [[]]
  | c :: cs =>
    if c == '/' then [] :: splitSlashes cs
    else
      match splitSlashes cs with
      | piece :: pieces => (c :: piece) :: pieces
      | [] => [[c]]

/-- The path that a text stands for. -/
def ofText (text : String) : Path :=
  match text.toList with
  | [] => ⟨false, []⟩
  | '/' :: cs => ⟨true, (splitSlashes cs).map String.ofList⟩
  | cs => ⟨false, (splitSlashes cs).map String.ofList⟩

/-- The path as text. -/
def toText (p : Path) : String :=
  (if p.absolute then "/" else "") ++ String.intercalate "/" p.body

/-- Whether a piece is a name. A dot is one only where `leading` is true. -/
def isName (leading : Bool) (piece : String) : Bool :=
  piece != "" && (piece != "." || leading)

/-- The pieces that are names, where `leading` holds of the first one. -/
def namesOf (leading : Bool) : List String → List String
  | [] => []
  | piece :: pieces =>
    if isName leading piece then piece :: pieces.filter (isName false)
    else pieces.filter (isName false)

/-- The names in the path as they are written. Paths with the same names are the same path. -/
def location (p : Path) : Location := ⟨p.absolute, namesOf (!p.absolute) p.body⟩

/-- Drops the pieces after the last name. -/
def trimEnd (leading : Bool) : List String → List String
  | [] => []
  | piece :: pieces =>
    match trimEnd false pieces with
    | [] => if isName leading piece then [piece] else []
    | kept => piece :: kept

/-- The path without its last name, none if it has no name. -/
def parent? (p : Path) : Option Path :=
  match trimEnd (!p.absolute) p.body with
  | [] => none
  | kept => some { p with body := trimEnd (!p.absolute) kept.dropLast }

/-- The path itself and the paths above it, from the inside out. The number bounds how many. -/
def chain : Nat → Path → List Path
  | 0, p => [p]
  | n + 1, p =>
    match p.parent? with
    | some q => p :: chain n q
    | none => [p]

/-- The path itself and every path above it, from the inside out. -/
def ancestors (p : Path) : List Path := chain p.body.length p

/-- A name inside a directory. -/
def join (p : Path) (name : String) : Path :=
  match p.body.getLast? with
  | some "" => { p with body := p.body.dropLast ++ [name] }
  | _ => { p with body := p.body ++ [name] }

/-- Drops pieces up to and including the first `n` names. -/
def dropNames (leading : Bool) : Nat → List String → List String
  | 0, pieces => pieces
  | _ + 1, [] => []
  | n + 1, piece :: pieces =>
    if isName leading piece then dropNames false n pieces else dropNames false (n + 1) pieces

/-- The path from `base` to `p`, none unless `p` lies in `base`. -/
def relativeTo? (p base : Path) : Option Path :=
  let inner := p.location
  let outer := base.location
  if outer.absolute == false && outer.names.isEmpty then
    some { p with body := trimEnd (!p.absolute) p.body }
  else if inner.absolute == outer.absolute && outer.names.isPrefixOf inner.names then
    let rest := dropNames (!p.absolute) outer.names.length p.body
    some ⟨false, trimEnd false (rest.dropWhile fun piece => !isName false piece)⟩
  else none

/-- Whether the path can only name a directory: it ends in a slash, or in a slash and a dot. -/
def endsInside (p : Path) : Bool := trimEnd (!p.absolute) p.body != p.body

end Path

end TextQuery
