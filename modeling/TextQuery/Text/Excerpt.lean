import TextQuery.Text.Bytes
import TextQuery.Text.Lines

/-!
# Excerpts

A stretch of a text is shown to a reader by its line, with a line of carets under it. Lines and
columns count from 0 here and are shown from 1.
-/

namespace TextQuery.Text

/-- The characters before a byte offset, and those from it on. A character that the offset cuts is
on the far side. -/
def splitAtByte : Nat → List Char → List Char × List Char
  | _, [] => ([], [])
  | n, c :: cs =>
    if c.utf8Size ≤ n then
      let (before, after) := splitAtByte (n - c.utf8Size) cs
      (c :: before, after)
    else ([], c :: cs)

/-- A place in a text. -/
structure Place where
  line : Nat
  column : Nat
  deriving DecidableEq, Repr

namespace Place

/-- The place after the characters `before`. -/
def after (before : List Char) : Place :=
  let pieces := splitLines before
  ⟨pieces.length - 1, (pieces.getLast?.getD []).length⟩

/-- The column after `before` in bytes. -/
def byteColumn (before : List Char) : Nat :=
  byteLength ((splitLines before).getLast?.getD [])

/-- The place of a byte offset. The end of a text is one column after its last character, also if
that ends a line. In front of a character of several bytes, the column counts bytes. -/
def ofOffset (text : List Char) (offset : Nat) : Place :=
  match splitAtByte offset text with
  | (before, c :: _) =>
    let place := after before
    if c.utf8Size = 1 then place else { place with column := byteColumn before }
  | (before, []) =>
    let place := after before.dropLast
    if before.isEmpty then ⟨0, offset⟩ else { place with column := place.column + 1 }

end Place

/-- The lines that show the stretch from one byte offset to another: the line it starts on, with its
number, and a caret under each byte of it, or one caret if it is empty. -/
def excerpt (text : String) (start stop : Nat) : String :=
  let place := Place.ofOffset text.toList start
  let line := (splitLines text.toList).getD place.line []
  let number := toString (place.line + 1)
  let gutter := String.ofList (List.replicate (number.length + 1) ' ') ++ "|"
  let carets := max 1 (min stop (start + byteLength line) - start)
  gutter ++ "\n" ++ number ++ " | " ++ String.ofList line ++ "\n" ++ gutter ++
    String.ofList (List.replicate (place.column + 1) ' ') ++
    String.ofList (List.replicate carets '^') ++ "\n"

end TextQuery.Text
