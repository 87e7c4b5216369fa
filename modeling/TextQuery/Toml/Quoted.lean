import TextQuery.Toml.Scalar

/-!
# Quoted values

Strings are written in four ways: between double quotes with escapes, between single quotes as they
are, and either way over several lines between tripled quotes. Reading takes any of them; writing
picks the plainest one that holds the text.
-/

namespace TextQuery.Toml

/-- Control characters, the tab apart: none of them may stand in a string or a comment. -/
def isForbidden (c : Char) : Bool := (c.toNat < 0x20 && c != '\t') || c.toNat == 0x7F

/-- Blanks inside a line. -/
def isLineBlank (c : Char) : Bool := c == ' ' || c == '\t'

/-! ### Reading -/

/-- The character behind a one-letter escape. -/
def escaped? (c : Char) : Option Char :=
  if c == 'b' then some '\x08'
  else if c == 't' then some '\t'
  else if c == 'n' then some '\n'
  else if c == 'f' then some '\x0c'
  else if c == 'r' then some '\r'
  else if c == 'e' then some '\x1b'
  else if c == '"' then some '"'
  else if c == '\\' then some '\\'
  else none

/-- The value of hexadecimal digits, most significant first. -/
def hexNumber? (value : Nat) : List Char → Option Nat
  | [] => some value
  | c :: cs => (hexValue? c).bind fun d => hexNumber? (16 * value + d) cs

/-- The character with a code point given by hexadecimal digits. -/
def codePoint? (digits : List Char) : Option Char :=
  (hexNumber? 0 digits).bind fun n => if n.isValidChar then some (Char.ofNat n) else none

/-- Puts a character in front of what was read, if there is one. -/
def prepend (c : Option Char) (r : Option (List Char × List Char)) :
    Option (List Char × List Char) :=
  match c, r with
  | some c, some (cs, rest) => some (c :: cs, rest)
  | _, _ => none

/-- Reads up to the closing double quote: the text and what follows the quote. -/
def readBasic : List Char → Option (List Char × List Char)
  | [] => none
  | '"' :: rest => some ([], rest)
  | '\\' :: 'x' :: a :: b :: rest => prepend (codePoint? [a, b]) (readBasic rest)
  | '\\' :: 'u' :: a :: b :: c :: d :: rest => prepend (codePoint? [a, b, c, d]) (readBasic rest)
  | '\\' :: 'U' :: a :: b :: c :: d :: e :: f :: g :: h :: rest =>
    prepend (codePoint? [a, b, c, d, e, f, g, h]) (readBasic rest)
  | '\\' :: c :: rest => prepend (escaped? c) (readBasic rest)
  | c :: rest => if isForbidden c then none else prepend (some c) (readBasic rest)

/-- Whether nothing but blanks is left of the line. -/
def lineEnds : List Char → Bool
  | [] => false
  | '\n' :: _ => true
  | '\r' :: '\n' :: _ => true
  | c :: rest => isLineBlank c && lineEnds rest

/-- Reads up to the closing three double quotes, in front of which one or two more may stand.
A backslash at the end of a line takes away all blanks and line ends up to the next text, which is
what `trim` stands for. -/
def readMultiBasic (trim : Bool) : List Char → Option (List Char × List Char)
  | [] => none
  | '"' :: '"' :: '"' :: '"' :: '"' :: rest => some (['"', '"'], rest)
  | '"' :: '"' :: '"' :: '"' :: rest => some (['"'], rest)
  | '"' :: '"' :: '"' :: rest => some ([], rest)
  | '\\' :: 'x' :: a :: b :: rest => prepend (codePoint? [a, b]) (readMultiBasic false rest)
  | '\\' :: 'u' :: a :: b :: c :: d :: rest =>
    prepend (codePoint? [a, b, c, d]) (readMultiBasic false rest)
  | '\\' :: 'U' :: a :: b :: c :: d :: e :: f :: g :: h :: rest =>
    prepend (codePoint? [a, b, c, d, e, f, g, h]) (readMultiBasic false rest)
  | '\\' :: c :: rest =>
    if lineEnds (c :: rest) then readMultiBasic true (c :: rest)
    else prepend (escaped? c) (readMultiBasic false rest)
  | '\r' :: '\n' :: rest =>
    if trim then readMultiBasic true rest
    else prepend (some '\r') (prepend (some '\n') (readMultiBasic false rest))
  | c :: rest =>
    if trim && (isLineBlank c || c == '\n') then readMultiBasic true rest
    else if isForbidden c && c != '\n' then none
    else prepend (some c) (readMultiBasic false rest)

/-- Reads up to the closing single quote. -/
def readLiteral : List Char → Option (List Char × List Char)
  | [] => none
  | '\'' :: rest => some ([], rest)
  | c :: rest => if isForbidden c then none else prepend (some c) (readLiteral rest)

/-- Reads up to the closing three single quotes, in front of which one or two more may stand. -/
def readMultiLiteral : List Char → Option (List Char × List Char)
  | [] => none
  | '\'' :: '\'' :: '\'' :: '\'' :: '\'' :: rest => some (['\'', '\''], rest)
  | '\'' :: '\'' :: '\'' :: '\'' :: rest => some (['\''], rest)
  | '\'' :: '\'' :: '\'' :: rest => some ([], rest)
  | '\r' :: '\n' :: rest => prepend (some '\r') (prepend (some '\n') (readMultiLiteral rest))
  | c :: rest =>
    if isForbidden c && c != '\n' then none else prepend (some c) (readMultiLiteral rest)

/-- A line end right after the opening quotes does not count. -/
def dropNewline : List Char → List Char
  | '\n' :: rest => rest
  | '\r' :: '\n' :: rest => rest
  | rest => rest

/-- Reads a string of any kind, opening quote included. -/
def readString : List Char → Option (List Char × List Char)
  | '"' :: '"' :: '"' :: rest => readMultiBasic false (dropNewline rest)
  | '"' :: rest => readBasic rest
  | '\'' :: '\'' :: '\'' :: rest => readMultiLiteral (dropNewline rest)
  | '\'' :: rest => readLiteral rest
  | _ => none

/-! ### Writing -/

/-- The four ways to write a string. -/
inductive Style where
  | basic
  | literal
  | multiBasic
  | multiLiteral
  deriving DecidableEq, Repr

/-- The length of the longest run of a character. `run` is the length of the run that ends here and
`best` the longest so far. -/
def longestRun (c : Char) (run best : Nat) : List Char → Nat
  | [] => best
  | d :: ds =>
    if d == c then longestRun c (run + 1) (max best (run + 1)) ds else longestRun c 0 best ds

/-- What of a text decides how it is written. -/
structure Needs where
  /-- It holds control characters other than the tab and the line feed. -/
  codes : Bool
  /-- It holds a backslash. -/
  backslash : Bool
  /-- It holds a line feed. -/
  newline : Bool
  /-- The longest run of single quotes. -/
  singles : Nat
  /-- The longest run of double quotes. -/
  doubles : Nat
  deriving DecidableEq, Repr

/-- The needs of a text. -/
def Needs.of (cs : List Char) : Needs where
  codes := cs.any fun c => isForbidden c && c != '\n'
  backslash := cs.contains '\\'
  newline := cs.contains '\n'
  singles := longestRun '\'' 0 0 cs
  doubles := longestRun '"' 0 0 cs

/-- The plainest way to write a text: without escapes if possible, on one line if possible, between
double quotes if possible. -/
def Needs.style (n : Needs) : Style :=
  if !n.codes && !n.backslash && n.doubles == 0 && !n.newline then .basic
  else if !n.codes && n.singles == 0 && !n.newline then .literal
  else if !n.codes && !n.backslash && n.doubles ≤ 2 then .multiBasic
  else if !n.codes && n.singles ≤ 2 then .multiLiteral
  else if n.newline then .multiBasic
  else .basic

/-- A digit of a number below sixteen, in upper case. -/
def upperHexDigit (n : Nat) : Char := (Nat.digitChar n).toUpper

/-- The escape of a control character by its code. -/
def codeEscape (c : Char) : List Char :=
  ['\\', 'u', '0', '0', upperHexDigit (c.toNat / 16), upperHexDigit (c.toNat % 16)]

/-- How a character other than a double quote is written between double quotes. Line feeds stay as
they are in a string over several lines. -/
def escape (multi : Bool) (c : Char) : List Char :=
  if c == '\x08' then ['\\', 'b']
  else if c == '\t' then ['\\', 't']
  else if c == '\n' then if multi then [c] else ['\\', 'n']
  else if c == '\x0c' then ['\\', 'f']
  else if c == '\r' then ['\\', 'r']
  else if c == '\\' then ['\\', '\\']
  else if isForbidden c then codeEscape c
  else [c]

/-- The text between double quotes. `limit` is how many double quotes may follow each other, and
`run` how many of them were just written. -/
def escapeAll (multi : Bool) (limit run : Nat) : List Char → List Char
  | [] => []
  | c :: cs =>
    if c == '"' then
      if run < limit then c :: escapeAll multi limit (run + 1) cs
      else '\\' :: '"' :: escapeAll multi limit 0 cs
    else escape multi c ++ escapeAll multi limit 0 cs

/-- A text written in a style. A text with a line feed starts on a line of its own. -/
def writeAs (style : Style) (newline : Bool) (cs : List Char) : List Char :=
  let lead := if newline then ['\n'] else []
  match style with
  | .basic => ['"'] ++ escapeAll false 0 0 cs ++ ['"']
  | .literal => ['\''] ++ cs ++ ['\'']
  | .multiBasic => ['"', '"', '"'] ++ lead ++ escapeAll true 2 0 cs ++ ['"', '"', '"']
  | .multiLiteral => ['\'', '\'', '\''] ++ lead ++ cs ++ ['\'', '\'', '\'']

/-- A text as a string value. -/
def writeString (cs : List Char) : List Char :=
  let needs := Needs.of cs
  writeAs needs.style needs.newline cs

end TextQuery.Toml
