import TextQuery.Text.Lines

/-!
# Styles

Text on a terminal is styled by an escape sequence in front of it and one that resets the style
behind it.
-/

namespace TextQuery.Terminal

/-- The styles in use. -/
inductive Tone where
  /-- Headings. -/
  | heading
  /-- Details and hints. -/
  | muted
  /-- Problems that do not stop the program. -/
  | caution
  /-- Problems that do. -/
  | failure
  deriving DecidableEq, Repr

/-- An escape sequence with a style number. -/
def escape (number : String) : String := "\x1b[" ++ number ++ "m"

/-- Back to the plain style. -/
def reset : String := escape "0"

namespace Tone

/-- The number of the style in escape sequences. -/
def number : Tone → String
  | .heading => "1"
  | .muted => "2"
  | .caution => "33"
  | .failure => "31"

/-- A text in this style. -/
def paint (tone : Tone) (text : String) : String := escape tone.number ++ text ++ reset

end Tone

/-- The lines of a text, each moved right by two blanks. -/
def indent (text : String) : String :=
  String.join ((Text.lines text).map fun line => "  " ++ line ++ "\n")

/-- A configuration file as it is shown: its text, and a reset so that nothing after it is
styled. -/
def present (toml : String) : String := toml ++ reset

end TextQuery.Terminal
