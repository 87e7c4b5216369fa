import TextQuery.Text.Visible

/-!
# Quoted text

The unambiguous form in which texts appear in trees and log lines: between double quotes, on one
line, with everything that a reader could not see or tell apart written as an escape.
-/

namespace TextQuery.Text

/-- The digits of a number in lower-case hexadecimal, without padding. -/
def hexDigits (n : Nat) : List Char := Nat.toDigits 16 n

/-- How one character is written between the quotes. -/
def quoteChar (c : Char) : List Char :=
  if c.toNat == 0 then ['\\', '0']
  else if c == '\t' then ['\\', 't']
  else if c == '\r' then ['\\', 'r']
  else if c == '\n' then ['\\', 'n']
  else if c == '"' then ['\\', '"']
  else if c == '\\' then ['\\', '\\']
  else if isVisible c then [c]
  else ['\\', 'u', '\x7b'] ++ hexDigits c.toNat ++ ['\x7d']

/-- The text between double quotes, with escapes. -/
def quote (s : String) : String :=
  String.ofList ('"' :: s.toList.flatMap quoteChar ++ ['"'])

/-- A bracketed list of quoted texts. -/
def quoteList (ss : List String) : String :=
  "[" ++ String.intercalate ", " (ss.map quote) ++ "]"

end TextQuery.Text
