/-!
# Values of a configuration text

The data of a TOML document, with the stretch of text each piece was read from. Tables are kept in
the order of their keys, which is the order in which they are looked through.
-/

namespace TextQuery.Toml

/-- A stretch of text, by the number of bytes from its first and from its last place to the end of
the text. -/
structure Extent where
  startLeft : Nat
  stopLeft : Nat
  deriving DecidableEq, Repr

/-- The stretch as byte offsets from the start of a text of `total` bytes. -/
def Extent.offsets (e : Extent) (total : Nat) : Nat × Nat :=
  (total - e.startLeft, total - e.stopLeft)

/-- A key and where it stands. -/
structure Key where
  name : String
  extent : Extent
  deriving DecidableEq, Repr

/-- A number with a fraction or an exponent, as written. -/
inductive FloatLiteral where
  /-- `digits · 10 ^ exponent`. -/
  | finite (negative : Bool) (digits : Nat) (exponent : Int)
  | infinite (negative : Bool)
  | nan
  deriving DecidableEq, Repr

/-- What made a table, which decides what may be added to it. -/
inductive Origin where
  /-- A header of its own, or the document itself. -/
  | header
  /-- A header of a table inside it. -/
  | implied
  /-- A dotted key. -/
  | dotted
  /-- Braces. -/
  | inline
  deriving DecidableEq, Repr

/-- A value. -/
inductive Value where
  | string (text : String)
  | integer (value : Int)
  /-- A base without digits after it: it has the form of an integer and stands for none. -/
  | digitless
  | float (value : FloatLiteral)
  | boolean (value : Bool)
  | datetime
  /-- The elements; `ofTables` marks an array made by `[[header]]` lines. -/
  | array (ofTables : Bool) (items : List (Extent × Value))
  /-- The entries, in the order of their keys. -/
  | table (origin : Origin) (entries : List (Key × Extent × Value))
  deriving Repr

/-- The entries of a table: key, where the value stands, value. -/
abbrev Table := List (Key × Extent × Value)

namespace Table

/-- The value under a name. -/
def find? (t : Table) (name : String) : Option (Extent × Value) :=
  (List.find? (fun e => e.1.name == name) t).map Prod.snd

/-- The table without a name. -/
def erase (t : Table) (name : String) : Table := t.filter fun e => e.1.name != name

/-- Adds an entry at its place in the order of keys. -/
def insert (t : Table) (key : Key) (extent : Extent) (v : Value) : Table :=
  match t with
  | [] => [(key, extent, v)]
  | e :: es =>
    if key.name < e.1.name then (key, extent, v) :: e :: es else e :: insert es key extent v

/-- Changes the value under a name. -/
def replace (t : Table) (name : String) (v : Value) : Table :=
  t.map fun e => if e.1.name == name then (e.1, e.2.1, v) else e

end Table

end TextQuery.Toml
