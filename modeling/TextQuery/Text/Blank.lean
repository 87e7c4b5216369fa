/-!
# Blank characters

The characters with the Unicode White_Space property. They separate the clauses of a query and the
compounds of a text, and trimming removes them.
-/

namespace TextQuery.Text

/-- Whether the character is white space. -/
def isBlank (c : Char) : Bool :=
  let n := c.toNat
  n == 0x20 || (0x9 ≤ n && n ≤ 0xD) || n == 0x85 || n == 0xA0 || n == 0x1680 ||
    (0x2000 ≤ n && n ≤ 0x200A) || n == 0x2028 || n == 0x2029 || n == 0x202F || n == 0x205F ||
    n == 0x3000

/-- The text is empty or made of blanks only. -/
def allBlank (s : String) : Bool := s.toList.all isBlank

end TextQuery.Text
