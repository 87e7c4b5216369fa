import TextQuery.Toml.Quoted
import TextQuery.Toml.Table

/-!
# Documents

A document is a list of statements, each on a line of its own: headers and assignments, with blank
lines and comments between them. Arrays and inline tables may run over several lines.
-/

namespace TextQuery.Toml

/-! ### Blank space -/

/-- Skips blanks inside a line. -/
def skipBlanks (cs : List Char) : List Char := cs.dropWhile isLineBlank

/-- Skips blanks, line ends and comments. A comment must not hold control characters. -/
def skipVoid (comment : Bool) : List Char → Except Malformed (List Char)
  | [] => .ok []
  | '\n' :: cs => skipVoid false cs
  | '\r' :: '\n' :: cs => skipVoid false cs
  | c :: cs =>
    if comment then
      if isForbidden c then .error (Flaw.trailingContent.before (c :: cs)) else skipVoid true cs
    else if isLineBlank c then skipVoid false cs
    else if c == '#' then skipVoid true cs
    else .ok (c :: cs)

/-- Skips the rest of a line after its statement: blanks and a comment. -/
def skipLine (comment : Bool) : List Char → Except Malformed (List Char)
  | [] => .ok []
  | '\n' :: cs => .ok cs
  | '\r' :: '\n' :: cs => .ok cs
  | c :: cs =>
    if comment then
      if isForbidden c then .error (Flaw.trailingContent.before (c :: cs)) else skipLine true cs
    else if isLineBlank c then skipLine false cs
    else if c == '#' then skipLine true cs
    else .error (Flaw.trailingContent.before (c :: cs))

/-! ### Keys -/

/-- Whether the character can stand in a key without quotes. -/
def isBareKeyChar (c : Char) : Bool := c.isAlphanum || c == '_' || c == '-'

/-- The stretch between two points of the text, given by what is left at each. -/
def Extent.between (cs rest : List Char) : Extent := ⟨Text.byteLength cs, Text.byteLength rest⟩

/-- Reads one key: quoted on one line, or bare. -/
def readKey (cs : List Char) : Except Malformed (Key × List Char) :=
  match cs with
  | '"' :: tail =>
    match readBasic tail with
    | some (name, rest) => .ok (⟨String.ofList name, .between cs rest⟩, rest)
    | none => .error (Flaw.invalidString.before cs)
  | '\'' :: tail =>
    match readLiteral tail with
    | some (name, rest) => .ok (⟨String.ofList name, .between cs rest⟩, rest)
    | none => .error (Flaw.invalidString.before cs)
  | cs =>
    let name := cs.takeWhile isBareKeyChar
    let rest := cs.dropWhile isBareKeyChar
    if name.isEmpty then .error (Flaw.missingKey.before cs)
    else .ok (⟨String.ofList name, .between cs rest⟩, rest)

/-- How many keys a dotted key may have. -/
def maxKeys : Nat := 80

/-- Reads a dotted key of at most so many keys. -/
def readKeyPath : Nat → List Char → Except Malformed (KeyPath × List Char)
  | 0, cs => .error (Flaw.tooLong.before cs)
  | n + 1, cs => do
    let (key, rest) ← readKey cs
    match skipBlanks rest with
    | '.' :: more =>
      let (path, rest) ← readKeyPath n (skipBlanks more)
      .ok ({ path with parents := key :: path.parents }, rest)
    | _ => .ok (⟨[], key⟩, rest)

/-- Skips what may stand around an equals sign: blanks, and in an inline table line ends and
comments as well. -/
def skipGap (inline : Bool) (cs : List Char) : Except Malformed (List Char) :=
  if inline then skipVoid false cs else .ok (skipBlanks cs)

/-- Reads a dotted key and the equals sign after it, up to the value. -/
def readAssignee (inline : Bool) (cs : List Char) : Except Malformed (KeyPath × List Char) := do
  let (path, rest) ← readKeyPath maxKeys cs
  match ← skipGap inline rest with
  | '=' :: more => .ok (path, ← skipGap inline more)
  | _ => .error (Flaw.missingEquals.before rest)

/-! ### Values -/

/-- Reads an unquoted value. -/
def readScalar (cs : List Char) : Except Malformed (Value × List Char) :=
  let (atom, rest) := splitAtom cs
  match scalar? atom with
  | some v => .ok (v, rest)
  | none => .error (Flaw.invalidValue.before cs)

/-- How deeply arrays and inline tables may be nested. -/
def maxDepth : Nat := 80

mutual
/-- Reads a value. `depth` is how many more levels may be opened, and the next argument bounds the
number of values read. -/
def readValue (depth : Nat) : Nat → List Char → Except Malformed (Value × List Char)
  | 0, cs => .error (Flaw.invalidValue.before cs)
  | n + 1, cs =>
    match cs with
    | [] => .error (Flaw.invalidValue.before cs)
    | c :: tail =>
      if c == '"' || c == '\'' then
        match readString cs with
        | some (text, rest) => .ok (.string (String.ofList text), rest)
        | none => .error (Flaw.invalidString.before cs)
      else if c == '[' then
        if depth == 0 then .error (Flaw.tooDeep.before cs)
        else
          (readItems (depth - 1) n tail).map fun (items, rest) => (.array false items, rest)
      else if c == '\x7b' then
        if depth == 0 then .error (Flaw.tooDeep.before cs)
        else
          (readEntries (depth - 1) n [] tail).map fun (entries, rest) =>
            (.table .inline entries, rest)
      else readScalar cs

/-- Reads the rest of an array: elements with commas between them, and perhaps after the last. -/
def readItems (depth : Nat) :
    Nat → List Char → Except Malformed (List (Extent × Value) × List Char)
  | 0, cs => .error (Flaw.unclosedArray.before cs)
  | n + 1, cs => do
    match ← skipVoid false cs with
    | ']' :: rest => .ok ([], rest)
    | start =>
      let (v, rest) ← readValue depth n start
      let item := (Extent.between start rest, v)
      match ← skipVoid false rest with
      | ',' :: more =>
        let (items, rest) ← readItems depth n more
        .ok (item :: items, rest)
      | ']' :: rest => .ok ([item], rest)
      | rest => .error (Flaw.unclosedArray.before rest)

/-- Reads the rest of an inline table into `t`. -/
def readEntries (depth : Nat) : Nat → Table → List Char → Except Malformed (Table × List Char)
  | 0, _, cs => .error (Flaw.unclosedInlineTable.before cs)
  | n + 1, t, cs => do
    match ← skipVoid false cs with
    | '\x7d' :: rest => .ok (t, rest)
    | start =>
      let (path, place) ← readAssignee true start
      let (v, rest) ← readValue depth n place
      let t ← Table.defineAt .header t path (.between place rest) v
      match ← skipVoid false rest with
      | ',' :: more => readEntries depth n t more
      | '\x7d' :: rest => .ok (t, rest)
      | rest => .error (Flaw.unclosedInlineTable.before rest)
end

/-! ### Statements -/

/-- Reads the rest of a header after its opening bracket or brackets. -/
def readHeader (next : Bool) (start cs : List Char) : Except Malformed (Statement × List Char) := do
  let (path, rest) ← readKeyPath maxKeys (skipBlanks cs)
  match next, skipBlanks rest with
  | false, ']' :: more => .ok (.header false path (.between start more), more)
  | true, ']' :: ']' :: more => .ok (.header true path (.between start more), more)
  | _, _ => .error (Flaw.unclosedTable.before rest)

/-- Reads one statement. -/
def readStatement (cs : List Char) : Except Malformed (Statement × List Char) :=
  match cs with
  | '[' :: '[' :: tail => readHeader true cs tail
  | '[' :: tail => readHeader false cs tail
  | _ => do
    let (path, start) ← readAssignee false cs
    let (v, rest) ← readValue maxDepth cs.length start
    .ok (.assign path (.between start rest) v, rest)

/-- Reads statements to the end of the text. The first argument bounds their number. -/
def readStatements : Nat → List Char → Except Malformed (List Statement)
  | 0, cs => .error (Flaw.trailingContent.before cs)
  | n + 1, cs => do
    match ← skipVoid false cs with
    | [] => .ok []
    | start =>
      let (statement, rest) ← readStatement start
      let rest ← skipLine false rest
      let more ← readStatements n rest
      .ok (statement :: more)

/-- A byte order mark at the start of a text does not count. -/
def dropByteOrderMark : List Char → List Char
  | c :: cs => if c.toNat == 0xFEFF then cs else c :: cs
  | [] => []

/-- The table of a document. -/
def parse (text : String) : Except Malformed Table := do
  let cs := dropByteOrderMark text.toList
  Table.ofStatements (← readStatements (cs.length + 1) cs)

end TextQuery.Toml
