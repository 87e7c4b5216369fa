import TextQuery.Text.WordClass
import TextQuery.Text.Pictograph

/-!
# Word segmentation

Cuts a text at the Unicode word boundaries. A segment is read one character at a time: `Reach`
says what the characters read so far let follow, and `Reach.next?` whether the next character still
belongs to the segment. Every segment holds at least one character, and the segments put together
are the text (`flatten_segments`).

Combining marks, formatting characters and joiners never end a segment, line ends excepted, and a
pictograph after a joiner belongs to the segment of the joiner. A segment that took such a
pictograph takes nothing else.
-/

namespace TextQuery.Text

/-- What the segment read so far lets follow. -/
inductive Reach where
  /-- The segment ended in a letter. -/
  | letter
  /-- The segment ended in a Hebrew letter. -/
  | hebrew
  /-- The segment ended in a digit. -/
  | numeral
  /-- The segment ended in katakana. -/
  | katakana
  /-- The segment ended in an underscore or the like. -/
  | connector
  /-- Half a flag. -/
  | flag
  /-- Blanks only. -/
  | space
  /-- A Hebrew letter and an apostrophe: a letter may follow. -/
  | hebrewQuote
  /-- Punctuation inside a word: a letter follows. -/
  | midWord
  /-- A double quote inside a Hebrew word: a Hebrew letter follows. -/
  | midHebrew
  /-- Punctuation inside a number: a digit follows. -/
  | midNumber
  /-- Complete but for marks and joined pictographs. -/
  | whole
  /-- A carriage return, which takes a line feed. -/
  | carriage
  /-- A line end, which takes nothing. -/
  | ended
  deriving DecidableEq, Repr

namespace Reach

/-- The state after the first character of a segment. -/
def start (c : Char) : Reach :=
  match wordClass c with
  | .carriageReturn => .carriage
  | .lineFeed | .newline => .ended
  | .letter => .letter
  | .hebrew => .hebrew
  | .numeral => .numeral
  | .katakana => .katakana
  | .connector => .connector
  | .flag => .flag
  | .space => .space
  | _ => .whole

/-- The state after a character that continues the segment by its class alone. -/
def follow? : Reach → WordClass → Option Reach
  | .letter, .letter | .hebrew, .letter | .numeral, .letter | .connector, .letter
  | .hebrewQuote, .letter | .midWord, .letter => some .letter
  | .letter, .hebrew | .hebrew, .hebrew | .numeral, .hebrew | .connector, .hebrew
  | .hebrewQuote, .hebrew | .midWord, .hebrew | .midHebrew, .hebrew => some .hebrew
  | .letter, .numeral | .hebrew, .numeral | .numeral, .numeral | .connector, .numeral
  | .midNumber, .numeral => some .numeral
  | .katakana, .katakana | .connector, .katakana => some .katakana
  | .letter, .connector | .hebrew, .connector | .numeral, .connector | .katakana, .connector
  | .connector, .connector => some .connector
  | .hebrew, .singleQuote => some .hebrewQuote
  | .space, .space => some .space
  | .flag, .flag => some .whole
  | _, _ => none

/-- The state after punctuation that belongs to the segment only if the right character follows. -/
def bridge? : Reach → WordClass → Option Reach
  | .hebrew, .doubleQuote => some .midHebrew
  | .letter, .midLetter | .letter, .midNumLetter | .letter, .singleQuote
  | .hebrew, .midLetter | .hebrew, .midNumLetter => some .midWord
  | .numeral, .midNumber | .numeral, .midNumLetter | .numeral, .singleQuote => some .midNumber
  | _, _ => none

/-- Whether what follows a piece of inner punctuation keeps it in the segment: after any marks comes
a character that `r` accepts, or a joiner and a pictograph. -/
def crosses (r : Reach) (joined : Bool) : List Char → Bool
  | [] => false
  | c :: cs =>
    let k := wordClass c
    if k.isIgnorable then r.crosses (k == .joiner) cs
    else (joined && isPictograph c) || (r.follow? k).isSome

/-- The state after `c`, or none when `c` starts the next segment. `joined` tells whether the
character before `c` is a joiner, and `rest` is what comes after `c`. -/
def next? (r : Reach) (joined : Bool) (c : Char) (rest : List Char) : Option Reach :=
  let k := wordClass c
  match r with
  | .ended => none
  | .carriage => if k == .lineFeed then some .ended else none
  | _ =>
    if k.isIgnorable then some (if r == .space then .whole else r)
    else if joined && isPictograph c then some .whole
    else
      match r.follow? k with
      | some r' => some r'
      | none =>
        match r.bridge? k with
        | some r' => if r'.crosses false rest then some r' else none
        | none => none

end Reach

/-- Splits off the characters that still belong to the segment. -/
def takeSegment (r : Reach) (joined : Bool) : List Char → List Char × List Char
  | [] => ([], [])
  | c :: cs =>
    match r.next? joined c cs with
    | none => ([], c :: cs)
    | some r' =>
      let (taken, rest) := takeSegment r' (wordClass c == .joiner) cs
      (c :: taken, rest)

/-- A segment and what is left of the text make up the text. -/
theorem takeSegment_append (r : Reach) (joined : Bool) (cs : List Char) :
    (takeSegment r joined cs).1 ++ (takeSegment r joined cs).2 = cs := by
  induction cs generalizing r joined with
  | nil => rfl
  | cons c cs ih =>
    unfold takeSegment
    split
    · rfl
    · simpa using ih _ _

/-- What is left is no longer than what there was. -/
theorem length_takeSegment_snd_le (r : Reach) (joined : Bool) (cs : List Char) :
    (takeSegment r joined cs).2.length ≤ cs.length := by
  have h := congrArg List.length (takeSegment_append r joined cs)
  simp only [List.length_append] at h
  omega

/-- The segments of a text, in order. -/
def segments : List Char → List (List Char)
  | [] => []
  | c :: cs =>
    let split := takeSegment (Reach.start c) (wordClass c == .joiner) cs
    (c :: split.1) :: segments split.2
termination_by cs => cs.length
decreasing_by
  have := length_takeSegment_snd_le (Reach.start c) (wordClass c == .joiner) cs
  simp only [List.length_cons]
  omega

/-! ### Characterization of `segments` -/

@[simp] theorem segments_nil : segments [] = [] := by
  simp [segments]

/-- The first segment starts with the first character and runs as far as `takeSegment` reaches. -/
theorem segments_cons (c : Char) (cs : List Char) :
    segments (c :: cs) =
      (c :: (takeSegment (Reach.start c) (wordClass c == .joiner) cs).1) ::
        segments (takeSegment (Reach.start c) (wordClass c == .joiner) cs).2 := by
  rw [segments]

/-- Nothing is lost and nothing is reordered: the segments concatenate to the text. -/
theorem flatten_segments (cs : List Char) : (segments cs).flatten = cs := by
  fun_induction segments cs with
  | case1 => rfl
  | case2 c cs split ih =>
    simp only [List.flatten_cons, ih, List.cons_append]
    exact congrArg (c :: ·) (takeSegment_append _ _ cs)

end TextQuery.Text
