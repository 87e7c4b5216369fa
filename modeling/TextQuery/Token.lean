import TextQuery.Text.Alphanumeric
import TextQuery.Text.Blank
import TextQuery.Text.Bytes
import TextQuery.Text.Quoted
import TextQuery.Text.Segment

/-!
# Tokens

A token is a segment of a field's text that holds at least one letter or digit. Every other
segment is a separator, and only decides whether the next token is joined to the previous one.
Offsets are byte offsets into the UTF-8 text.
-/

namespace TextQuery

/-- A word of a field's text. -/
structure Token where
  /-- The word, exactly as it stands in the text. -/
  text : String
  /-- Ordinal in the field, from 0. -/
  position : Nat
  /-- Byte offset of the first character. -/
  start : Nat
  /-- Byte offset after the last character. -/
  stop : Nat
  /-- Only punctuation lies between this token and the previous one. -/
  joined : Bool
  deriving DecidableEq, Repr

namespace Token

/-- Length in bytes. -/
def byteLength (t : Token) : Nat := t.stop - t.start

/-- Whether the token spans no bytes, which no token of a text does. -/
def isEmpty (t : Token) : Bool := t.start == t.stop

end Token

/-- A segment of a text with its byte offset. -/
structure Segment where
  start : Nat
  chars : List Char
  deriving DecidableEq, Repr

namespace Segment

/-- Byte offset after the last character. -/
def stop (s : Segment) : Nat := s.start + Text.byteLength s.chars

/-- Whether the segment is a word rather than a separator. -/
def isWord (s : Segment) : Bool := s.chars.any Text.isAlphanumeric

/-- Whether the segment holds white space. -/
def hasBlank (s : Segment) : Bool := s.chars.any Text.isBlank

/-- Gives each segment the offset where it starts, the first one `start`. -/
def place (start : Nat) : List (List Char) → List Segment
  | [] => []
  | cs :: rest => ⟨start, cs⟩ :: place (start + Text.byteLength cs) rest

/-- The segments of a text with their offsets. -/
def ofText (text : String) : List Segment := place 0 (Text.segments text.toList)

/-- The token made of a word segment. -/
def toToken (s : Segment) (position : Nat) (joined : Bool) : Token :=
  ⟨String.ofList s.chars, position, s.start, s.stop, joined⟩

end Segment

/-- A stream of tokens: the field it reads, the segments still to come and the position of the next
token. Copies of a stream are the same value, so that reading one leaves the others alone. -/
structure TokenStream where
  field : String
  pending : List Segment
  position : Nat := 0
  deriving DecidableEq, Repr

namespace TokenStream

/-- The stream over a whole text. -/
def ofText (field text : String) : TokenStream :=
  { field := field, pending := Segment.ofText text }

/-- The first word of `segments` as a token, with the segments after it. `blank` tells whether white
space was met since the previous token. -/
def scan (position : Nat) (blank : Bool) : List Segment → Option (Token × List Segment)
  | [] => none
  | s :: rest =>
    if s.isWord then some (s.toToken position (position > 0 && !blank), rest)
    else scan position (blank || s.hasBlank) rest

/-- What is left after a token is shorter. -/
theorem length_lt_of_scan {position : Nat} {blank : Bool} {segments rest : List Segment}
    {t : Token} (h : scan position blank segments = some (t, rest)) :
    rest.length < segments.length := by
  induction segments generalizing blank with
  | nil => simp [scan] at h
  | cons s tail ih =>
    unfold scan at h
    split at h
    · simp only [Option.some.injEq, Prod.mk.injEq] at h
      simp [← h.2]
    · have := ih h
      simp only [List.length_cons]
      omega

/-- Reads one token. At the end of the text the stream is left with nothing. -/
def next (s : TokenStream) : Option Token × TokenStream :=
  match scan s.position false s.pending with
  | some (t, rest) => (some t, { s with pending := rest, position := s.position + 1 })
  | none => (none, { s with pending := [] })

/-- The tokens of `segments`, the first at `position`. -/
def tokensFrom (position : Nat) (segments : List Segment) : List Token :=
  match h : scan position false segments with
  | some (t, rest) => t :: tokensFrom (position + 1) rest
  | none => []
termination_by segments.length
decreasing_by exact length_lt_of_scan h

/-- Every token still to come. -/
def toList (s : TokenStream) : List Token := tokensFrom s.position s.pending

/-- Reads every token still to come. -/
def rest (s : TokenStream) : List Token × TokenStream :=
  (s.toList, { s with pending := [], position := s.position + s.toList.length })

/-- The state of the stream in one line: the field and the position of the next token. -/
def describe (s : TokenStream) : String :=
  "Tokens \x7b field: " ++ Text.quote s.field ++ ", position: " ++ toString s.position ++ ", .. \x7d"

end TokenStream

/-- The tokens of a text. Every field is split by the same rules. -/
def tokens (text : String) : List Token := TokenStream.tokensFrom 0 (Segment.ofText text)

end TextQuery
