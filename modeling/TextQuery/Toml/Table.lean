import TextQuery.Toml.Flaw
import TextQuery.Toml.Value

/-!
# Putting a table together

Headers and dotted keys name places in a tree of tables. A table is made when it is first named and
may be filled from several places, but no key is defined twice, a table between braces is closed for
good, and a table with a header of its own takes no dotted keys from outside.
-/

namespace TextQuery.Toml

/-- A dotted key: the keys on the way, and the last one. -/
structure KeyPath where
  parents : List Key
  last : Key
  deriving DecidableEq, Repr

/-- The bytes left at the start of a key, for messages about it. -/
def Key.duplicate (key : Key) : Malformed := ⟨.duplicateKey, key.extent.startLeft⟩

namespace Table

/-- Whether a table that `origin` made can be entered on the way to another place. -/
def isOpen (dotted : Bool) : Origin → Bool
  | .inline => false
  | .header => !dotted
  | .implied | .dotted => true

/-- Applies `f` to the table at the end of a path. Tables that are missing on the way are made; on
an array of tables the way leads into the last one. -/
def descend (dotted : Bool) (f : Origin → Table → Except Malformed Table) :
    Origin → Table → List Key → Except Malformed Table
  | origin, t, [] => f origin t
  | _, t, key :: path =>
    match t.find? key.name with
    | none =>
      let origin : Origin := if dotted then .dotted else .implied
      (descend dotted f origin [] path).map fun sub =>
        t.insert key key.extent (.table origin sub)
    | some (_, .table origin sub) =>
      if isOpen dotted origin then
        (descend dotted f origin sub path).map fun sub' =>
          t.replace key.name (.table origin sub')
      else .error key.duplicate
    | some (_, .array true items) =>
      match items.getLast? with
      | some (extent, .table origin sub) =>
        (descend dotted f origin sub path).map fun sub' =>
          t.replace key.name (.array true (items.dropLast ++ [(extent, .table origin sub')]))
      | _ => .error key.duplicate
    | some _ => .error key.duplicate

/-- Defines a key in a table. After dotted keys the table has to be one that dotted keys made. -/
def define (path : KeyPath) (extent : Extent) (v : Value) (origin : Origin) (t : Table) :
    Except Malformed Table :=
  if (origin == .dotted) == path.parents.isEmpty || (t.find? path.last.name).isSome then
    .error path.last.duplicate
  else .ok (t.insert path.last extent v)

/-- Defines a dotted key relative to a table. -/
def defineAt (origin : Origin) (t : Table) (path : KeyPath) (extent : Extent) (v : Value) :
    Except Malformed Table :=
  descend true (define path extent v) origin t path.parents

/-- Opens the table of a `[header]`. A table that only headers inside it have named so far is taken
over. -/
def openTable (key : Key) (extent : Extent) (t : Table) : Except Malformed Table :=
  match t.find? key.name with
  | none => .ok (t.insert key extent (.table .header []))
  | some (_, .table .implied sub) =>
    .ok ((t.erase key.name).insert key extent (.table .header sub))
  | some _ => .error key.duplicate

/-- Opens the next table of a `[[header]]`. -/
def openNext (key : Key) (extent : Extent) (t : Table) : Except Malformed Table :=
  match t.find? key.name with
  | none => .ok (t.insert key extent (.array true [(extent, .table .header [])]))
  | some (_, .array true items) =>
    .ok (t.replace key.name (.array true (items ++ [(extent, .table .header [])])))
  | some _ => .error key.duplicate

end Table

/-- A statement of a document. -/
inductive Statement where
  /-- `[path]`, or `[[path]]` for the next table of an array. -/
  | header (next : Bool) (path : KeyPath) (extent : Extent)
  /-- `path = value`. -/
  | assign (path : KeyPath) (extent : Extent) (v : Value)

/-- A document under construction: the whole table, and the path of the open header. -/
structure Draft where
  root : Table := []
  header : List Key := []

/-- Adds a statement to the document. -/
def Draft.add (d : Draft) : Statement → Except Malformed Draft
  | .header next path extent =>
    let place := if next then Table.openNext else Table.openTable
    (Table.descend false (fun _ t => place path.last extent t) .header d.root path.parents).map
      fun root => ⟨root, path.parents ++ [path.last]⟩
  | .assign path extent v =>
    (Table.descend false (fun origin t => Table.defineAt origin t path extent v) .header d.root
      d.header).map fun root => { d with root := root }

/-- The table of a list of statements. -/
def Table.ofStatements (statements : List Statement) : Except Malformed Table :=
  (statements.foldlM Draft.add {}).map Draft.root

end TextQuery.Toml
