import TextQuery.Text.Bytes

/-!
# Flaws of a document

What keeps a text from being a TOML document, and where it was noticed.
-/

namespace TextQuery.Toml

/-- What is wrong with a text. -/
inductive Flaw where
  /-- A table header is not closed. -/
  | unclosedTable
  /-- An array is not closed. -/
  | unclosedArray
  /-- An inline table is not closed. -/
  | unclosedInlineTable
  /-- A key is not followed by an equals sign. -/
  | missingEquals
  /-- There is no key where one has to stand. -/
  | missingKey
  /-- There is no value, or none that can be read. -/
  | invalidValue
  /-- Arrays and inline tables are nested too deeply. -/
  | tooDeep
  /-- A dotted key has too many keys. -/
  | tooLong
  /-- A string is not closed, or holds what it must not. -/
  | invalidString
  /-- A line goes on after its statement, or a comment holds a control character. -/
  | trailingContent
  /-- A key is defined twice, or a table is reopened. -/
  | duplicateKey
  deriving DecidableEq, Repr

/-- The flaw in words. -/
def Flaw.message : Flaw → String
  | .unclosedTable => "unclosed table, expected `]`"
  | .unclosedArray => "unclosed array, expected `]`"
  | .unclosedInlineTable => "unclosed inline table, expected `\x7d`"
  | .missingEquals => "key with no value, expected `=`"
  | .missingKey => "missing key"
  | .invalidValue => "invalid value"
  | .tooDeep => "cannot recurse further; max recursion depth met"
  | .tooLong => "recursion limit"
  | .invalidString => "invalid string"
  | .trailingContent => "unexpected content, expected a line end"
  | .duplicateKey => "duplicate key"

/-- A flaw and the number of bytes from where it was noticed to the end of the text. -/
structure Malformed where
  flaw : Flaw
  left : Nat
  deriving DecidableEq, Repr

/-- A flaw noticed in front of `cs`. -/
def Flaw.before (flaw : Flaw) (cs : List Char) : Malformed := ⟨flaw, Text.byteLength cs⟩

end TextQuery.Toml
