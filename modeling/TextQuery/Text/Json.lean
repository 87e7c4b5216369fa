/-!
# JSON documents

JSON values and the text they are printed as: one member or element a line, indented by two blanks,
members in the order given.
-/

namespace TextQuery.Text

/-- A JSON value. -/
inductive Json where
  | string (s : String)
  | number (n : Nat)
  | boolean (b : Bool)
  | array (elements : List Json)
  | object (members : List (String × Json))

namespace Json

/-- A character inside a JSON string. -/
def escape (c : Char) : List Char :=
  match c with
  | '"' => ['\\', '"']
  | '\\' => ['\\', '\\']
  | '\n' => ['\\', 'n']
  | '\r' => ['\\', 'r']
  | '\t' => ['\\', 't']
  | '\x08' => ['\\', 'b']
  | '\x0c' => ['\\', 'f']
  | c =>
    if c.toNat < 0x20 then
      ['\\', 'u', '0', '0', Nat.digitChar (c.toNat / 16), Nat.digitChar (c.toNat % 16)]
    else [c]

/-- A text as a JSON string. -/
def quote (s : String) : String :=
  String.ofList ('"' :: (s.toList.map escape).flatten ++ ['"'])

/-- The start of a line at some depth. -/
def lineStart (depth : Nat) : String := "\n" ++ String.ofList (List.replicate (2 * depth) ' ')

/-- Items between brackets, one a line. -/
def enclose (left right : String) (depth : Nat) : List String → String
  | [] => left ++ right
  | items =>
    left ++ String.intercalate "," (items.map fun item => lineStart (depth + 1) ++ item) ++
      lineStart depth ++ right

mutual

/-- The text of a value that starts at some depth. -/
def print (depth : Nat) : Json → String
  | .string s => quote s
  | .number n => toString n
  | .boolean b => if b then "true" else "false"
  | .array elements => enclose "[" "]" depth (printElements (depth + 1) elements)
  | .object members => enclose "\x7b" "\x7d" depth (printMembers (depth + 1) members)

/-- The text of each element. -/
def printElements (depth : Nat) : List Json → List String
  | [] => []
  | v :: vs => print depth v :: printElements depth vs

/-- The text of each member. -/
def printMembers (depth : Nat) : List (String × Json) → List String
  | [] => []
  | (name, v) :: rest => (quote name ++ ": " ++ print depth v) :: printMembers depth rest

end

/-- The text of a document. -/
def render (v : Json) : String := print 0 v

end Json

end TextQuery.Text
