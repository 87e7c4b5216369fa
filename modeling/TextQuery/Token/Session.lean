import TextQuery.Token.Compound

/-!
# Sessions

Several streams over one text, read in any order. A session starts with one stream; a copy of a
stream starts where the stream is and goes its own way from there.
-/

namespace TextQuery

/-- What a stream can be asked for. -/
inductive Request where
  /-- The next token. -/
  | next
  /-- Every token still to come. -/
  | rest
  /-- The compounds of the tokens still to come. -/
  | compounds
  /-- The field it reads. -/
  | field
  /-- Its state in one line. -/
  | describe
  /-- A copy of it. -/
  | copy
  deriving DecidableEq, Repr

/-- What a stream answers. -/
inductive Answer where
  | token (t : Option Token)
  | tokens (ts : List Token)
  | compounds (cs : List Compound)
  | text (s : String)
  /-- The number of a new stream. -/
  | number (n : Nat)
  deriving DecidableEq, Repr

/-- Streams, numbered from 0 in the order they came into being. -/
structure Session where
  streams : List TokenStream
  deriving DecidableEq, Repr

namespace Session

/-- The session that starts with one stream over a whole text. -/
def ofText (field text : String) : Session := ⟨[TokenStream.ofText field text]⟩

/-- Asks stream number `i`, none if there is no such stream. -/
def ask (s : Session) (i : Nat) (r : Request) : Option (Answer × Session) :=
  s.streams[i]?.map fun stream =>
    match r with
    | .next => (.token stream.next.1, ⟨s.streams.set i stream.next.2⟩)
    | .rest => (.tokens stream.rest.1, ⟨s.streams.set i stream.rest.2⟩)
    | .compounds =>
      (.compounds (TextQuery.compounds stream.rest.1), ⟨s.streams.set i stream.rest.2⟩)
    | .field => (.text stream.field, s)
    | .describe => (.text stream.describe, s)
    | .copy => (.number s.streams.length, ⟨s.streams ++ [stream]⟩)

/-- Asks one question after the other, none if one is for a stream that is not there. -/
def run (s : Session) : List (Nat × Request) → Option (List Answer × Session)
  | [] => some ([], s)
  | (i, r) :: questions =>
    match s.ask i r with
    | none => none
    | some (answer, s') => (s'.run questions).map fun (answers, last) => (answer :: answers, last)

end Session

end TextQuery
