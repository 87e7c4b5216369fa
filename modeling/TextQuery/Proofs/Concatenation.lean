import TextQuery.Proofs.Blanks
import TextQuery.Proofs.Tokenization

/-!
# Two texts with a blank between them

The tokens of a text are found piece by piece when it is put together at a blank:

* `Text.JoinsAtBlank` — how the segments of the whole come from those of the two pieces. The blank
  is a segment of its own or goes on a run of blanks, and no word runs over it
  (`Text.joinsAtBlank_segments`).
* `TokenStream.tokensFrom_append_gap` — behind such a segment the reader of tokens is where it would
  be with the first piece alone, but for the position.
* `TokenStream.tokensFrom_behind_gap` — and goes on as at the start of a text: the first token of a
  text is never joined, and neither is one behind a blank.
* `compounds_append` — compounds are cut at every token that is not joined.
* `tokens_append_text` — so both tokens and compounds are those of the one piece and then of the
other.
-/

namespace TextQuery

/-! ## Segments around a blank -/

namespace Text

/-- Characters of the class of blanks are blank. The converse fails: a line end is blank and ends a
segment. -/
theorem isBlank_of_space {c : Char} (h : wordClass c = .space) : isBlank c = true := by
  have hcode := isSpacing_of_wordClass h
  simp only [isSpacing, isBlank, Bool.or_eq_true, Bool.and_eq_true, beq_iff_eq,
    decide_eq_true_eq] at hcode ⊢
  omega

/-- The text is empty or starts with a character that is no blank and that no segment takes in as a
mark, a formatting character or a joiner. -/
def StartsAfresh : List Char → Prop
  | [] => True
  | c :: _ => isBlank c = false ∧ (wordClass c).isIgnorable = false

/-- A run of blanks ends in front of such a text: its first character is not of the class of blanks
and would not go on any other way either. -/
theorem takeSegment_space {cs : List Char} (h : StartsAfresh cs) :
    takeSegment .space false cs = ([], cs) := by
  cases cs with
  | nil => rfl
  | cons c cs =>
    obtain ⟨hblank, hmark⟩ := h
    -- the next character is no blank, no mark and no joiner, so nothing holds it
    have hclass : wordClass c ≠ .space := fun hspace => by
      rw [isBlank_of_space hspace] at hblank
      cases hblank
    have hfollow : Reach.follow? .space (wordClass c) = none := by
      generalize wordClass c = k at hclass ⊢
      cases k <;> first
        | rfl
        | exact absurd rfl hclass
    refine takeSegment_cons_of_none ?_
    rw [Reach.next?_of_open (by simp), hmark, hfollow, Reach.bridge?_of_isGap rfl]
    rfl

theorem segments_blank_cons {cs : List Char} (h : StartsAfresh cs) :
    segments (' ' :: cs) = [' '] :: segments cs := by
  have hstart : Reach.start ' ' = .space := by
    unfold Reach.start
    rw [wordClass_blank]
  rw [segments_cons, hstart, wordClass_blank]
  show (' ' :: (takeSegment .space false cs).1) :: segments (takeSegment .space false cs).2 = _
  rw [takeSegment_space h]

/-- The segments of two texts, and those of the whole with a blank between the two: the blank is a
segment of its own, or goes on a run of blanks at the end of the first text. -/
inductive JoinsAtBlank (front back : List (List Char)) : List (List Char) → Prop where
  | alone : JoinsAtBlank front back (front ++ [' '] :: back)
  | run {init : List (List Char)} {last : List Char} (hfront : front = init ++ [last])
      (hlast : ∀ c ∈ last, isBlank c = true) :
      JoinsAtBlank front back (init ++ (last ++ [' ']) :: back)

/-- The segments of two texts with a blank between them come from those of each in one of the two
ways. The blank either is cut off on both sides or goes on a run of blanks at the end of the first
text. -/
theorem joinsAtBlank_segments (a : List Char) {b : List Char} (hb : StartsAfresh b) :
    JoinsAtBlank (segments a) (segments b) (segments (a ++ ' ' :: b)) := by
  rcases segments_at_blank a (gap_of_isBlank (c := ' ') rfl) b with
    hcut | ⟨init, last, first, more, hinit, hfirst, hcut⟩
  · -- the blank is cut off on both sides
    rw [hcut, segments_blank_cons hb]
    exact .alone
  · rw [segments_blank_cons hb] at hfirst
    obtain ⟨hnil, rfl⟩ := List.cons.inj hfirst
    obtain rfl : [] = first := (List.cons.inj hnil).2
    rw [hcut]
    refine .run hinit fun c hc => isBlank_of_space ?_
    -- any other segment would have ended at the blank
    refine Decidable.byContradiction fun hne => ?_
    have hlast : last ∈ segments a := by simp [hinit]
    have hmem : last ++ [' '] ∈ segments (a ++ ' ' :: b) := by simp [hcut]
    have hwhole := segments_of_mem hmem
    rw [segments_append_blank_of_ne_space (segments_of_mem hlast) ⟨c, hc, hne⟩ []] at hwhole
    simpa using (List.cons.inj hwhole).1

end Text

open Text (isAlphanumeric isBlank byteLength JoinsAtBlank)

/-! ## Reading over a gap -/

namespace TokenStream

theorem tokensFrom_eq (position : Nat) (segs : List Segment) :
    tokensFrom position segs =
      match scan position false segs with
      | some (t, rest) => t :: tokensFrom (position + 1) rest
      | none => [] := by
  rw [tokensFrom]
  split
  · next h => rw [h]
  · next h => rw [h]

/-- Over two lists of segments the next token is looked for in the first and then in the second,
where it is known whether a blank was passed in the first. -/
theorem scan_append (position : Nat) (blank : Bool) (front back : List Segment) :
    scan position blank (front ++ back) =
      match scan position blank front with
      | some (t, rest) => some (t, rest ++ back)
      | none => scan position (blank || front.any Segment.hasBlank) back := by
  induction front generalizing blank with
  | nil => simp [scan]
  | cons s front ih =>
    rw [List.cons_append, scan, scan]
    split
    · rfl
    · rw [ih, List.any_cons, Bool.or_assoc]

/-- A segment that holds a blank and is no word. -/
structure IsGap (s : Segment) : Prop where
  not_word : s.isWord = false
  blank : s.hasBlank = true

theorem IsGap.scan_cons {gap : Segment} (h : IsGap gap) (position : Nat) (blank : Bool)
    (segs : List Segment) : scan position blank (gap :: segs) = scan position true segs := by
  rw [scan, h.not_word, h.blank, Bool.or_true]
  rfl

/-- What is read in front of a gap does not depend on what is behind it, nor the other way round but
for the position. -/
theorem tokensFrom_append_gap {gap : Segment} (h : IsGap gap) (position : Nat)
    (front back : List Segment) :
    tokensFrom position (front ++ gap :: back) =
      tokensFrom position front ++
        tokensFrom (position + (tokensFrom position front).length) (gap :: back) := by
  fun_induction tokensFrom position front with
  | case1 position front t rest hscan ih =>
    rw [tokensFrom_eq, scan_append, hscan]
    show t :: tokensFrom (position + 1) (rest ++ gap :: back) = _
    rw [ih, List.length_cons, List.cons_append, Nat.add_assoc position 1, Nat.add_comm 1]
  | case2 position front hscan =>
    -- nothing was read, and the gap covers up what was skipped
    rw [tokensFrom_eq, scan_append, hscan]
    simp only [h.scan_cons]
    show _ = tokensFrom position (gap :: back)
    rw [tokensFrom_eq, h.scan_cons]

/-- A segment at the end that is no word gives no token. Induction on the tokens. -/
theorem tokensFrom_concat {s : Segment} (h : s.isWord = false) (position : Nat)
    (segs : List Segment) : tokensFrom position (segs ++ [s]) = tokensFrom position segs := by
  fun_induction tokensFrom position segs with
  | case1 position segs t rest hscan ih =>
    rw [tokensFrom_eq, scan_append, hscan]
    exact congrArg (t :: ·) ih
  | case2 position segs hscan =>
    rw [tokensFrom_eq, scan_append, hscan]
    simp [scan, h]

end TokenStream

/-! ## Shifting -/

/-- The token of a text as it stands in a longer one, behind so many tokens and bytes. -/
def Token.shift (positions bytes : Nat) (t : Token) : Token :=
  { t with
    position := t.position + positions
    start := t.start + bytes
    stop := t.stop + bytes }

/-- The tokens of a compound, each shifted. -/
def Compound.shift (positions bytes : Nat) (c : Compound) : Compound :=
  ⟨c.head.shift positions bytes, c.tail.map (Token.shift positions bytes)⟩

namespace Segment

/-- The segment with so many bytes more in front of it. -/
def shift (bytes : Nat) (s : Segment) : Segment := { s with start := s.start + bytes }

@[simp] theorem isWord_shift (bytes : Nat) (s : Segment) : (s.shift bytes).isWord = s.isWord := rfl

@[simp] theorem hasBlank_shift (bytes : Nat) (s : Segment) :
    (s.shift bytes).hasBlank = s.hasBlank := rfl

theorem toToken_shift (bytes : Nat) (s : Segment) (position positions : Nat) (joined : Bool) :
    (s.shift bytes).toToken (position + positions) joined =
      (s.toToken position joined).shift positions bytes := by
  simp only [toToken, Token.shift, stop, shift, Token.mk.injEq, true_and, and_true]
  omega

theorem place_shift (start bytes : Nat) (css : List (List Char)) :
    place (start + bytes) css = (place start css).map (shift bytes) := by
  induction css generalizing start with
  | nil => rfl
  | cons cs css ih =>
    rw [place, place, List.map_cons, ← ih, Nat.add_right_comm]
    rfl

/-- Placed one behind the other, the second list of segments starts where the first one ends. -/
theorem place_append (start : Nat) (as bs : List (List Char)) :
    place start (as ++ bs) = place start as ++ place (start + byteLength as.flatten) bs := by
  induction as generalizing start with
  | nil => rfl
  | cons cs as ih =>
    rw [List.cons_append, place, place, ih, List.flatten_cons, Text.byteLength_append,
      Nat.add_assoc, List.cons_append]

end Segment

namespace TokenStream

/-- Shifted segments are read alike if the first token comes out joined or not as before: later ones
depend on what is between them only. -/
theorem scan_shift {position positions : Nat} {blank blank' : Bool}
    (h : (decide (position + positions > 0) && !blank') = (decide (position > 0) && !blank))
    (bytes : Nat) (segs : List Segment) :
    scan (position + positions) blank' (segs.map (Segment.shift bytes)) =
      (scan position blank segs).map fun r =>
        (r.1.shift positions bytes, r.2.map (Segment.shift bytes)) := by
  induction segs generalizing blank blank' with
  | nil => rfl
  | cons s segs ih =>
    rw [List.map_cons, scan, scan, Segment.isWord_shift, Segment.hasBlank_shift]
    split
    · rw [h, Segment.toToken_shift]
      rfl
    · refine ih ?_
      rw [Bool.not_or, Bool.not_or, ← Bool.and_assoc, ← Bool.and_assoc, h]

/-- Behind the first token of a text, shifted segments give the shifted tokens. Only at the start
does it matter how many tokens came before: the first token of all is joined to nothing. -/
theorem tokensFrom_shift {position : Nat} (hpos : position > 0) (positions bytes : Nat)
    (segs : List Segment) :
    tokensFrom (position + positions) (segs.map (Segment.shift bytes)) =
      (tokensFrom position segs).map (Token.shift positions bytes) := by
  have hflag (position : Nat) (hpos : position > 0) :
      (decide (position + positions > 0) && !false) = (decide (position > 0) && !false) := by
    simp [hpos, Nat.add_pos_left hpos]
  fun_induction tokensFrom position segs with
  | case1 position segs t rest hscan ih =>
    rw [tokensFrom_eq, scan_shift (hflag position hpos), hscan]
    show t.shift positions bytes :: tokensFrom _ _ = _
    rw [Nat.add_right_comm, ih (Nat.succ_pos _), List.map_cons]
  | case2 position segs hscan =>
    rw [tokensFrom_eq, scan_shift (hflag position hpos), hscan]
    rfl

/-- Behind a gap everything is read as at the start of a text. -/
theorem tokensFrom_behind_gap {gap : Segment} (h : IsGap gap) (positions bytes : Nat)
    (segs : List Segment) :
    tokensFrom positions (gap :: segs.map (Segment.shift bytes)) =
      (tokensFrom 0 segs).map (Token.shift positions bytes) := by
  -- the first token is joined neither at position 0 nor behind a blank
  have hflag : (decide (0 + positions > 0) && !true) = (decide (0 > 0) && !false) := by simp
  have hscan := scan_shift hflag bytes segs
  rw [Nat.zero_add] at hscan
  rw [tokensFrom_eq, h.scan_cons, hscan, tokensFrom_eq 0]
  cases scan 0 false segs with
  | none => rfl
  | some r =>
    show r.1.shift positions bytes :: tokensFrom (positions + 1) _ = _
    rw [Nat.add_comm positions, tokensFrom_shift Nat.one_pos, List.map_cons]

/-- Segments with a gap between them give the tokens of those in front of it, and then those of the
others as at the start of a text, shifted. -/
theorem tokensFrom_place_gap (front back : List (List Char)) {gap : List Char}
    (hword : gap.any isAlphanumeric = false) (hblank : gap.any isBlank = true) :
    tokensFrom 0 (Segment.place 0 (front ++ gap :: back)) =
      tokensFrom 0 (Segment.place 0 front) ++
        (tokensFrom 0 (Segment.place 0 back)).map
          (Token.shift (tokensFrom 0 (Segment.place 0 front)).length
            (byteLength (front.flatten ++ gap))) := by
  -- where the gap stands does not matter
  have hgap (start : Nat) : IsGap ⟨start, gap⟩ := ⟨hword, hblank⟩
  have hback : Segment.place (0 + byteLength front.flatten + byteLength gap) back =
      (Segment.place 0 back).map (Segment.shift (byteLength (front.flatten ++ gap))) := by
    rw [← Segment.place_shift, Text.byteLength_append, Nat.zero_add, Nat.zero_add]
  rw [Segment.place_append, Segment.place, hback, tokensFrom_append_gap (hgap _), Nat.zero_add,
    tokensFrom_behind_gap (hgap _)]

/-- However the segments come together at the blank, it is in a gap: on its own, or at the end of a
run of blanks that gave no token in the first text either. -/
theorem tokensFrom_joinsAtBlank {front back whole : List (List Char)}
    (h : JoinsAtBlank front back whole) :
    tokensFrom 0 (Segment.place 0 whole) =
      tokensFrom 0 (Segment.place 0 front) ++
        (tokensFrom 0 (Segment.place 0 back)).map
          (Token.shift (tokensFrom 0 (Segment.place 0 front)).length
            (byteLength front.flatten + 1)) := by
  cases h with
  | alone =>
    rw [tokensFrom_place_gap front back (by decide +kernel) (by decide), Text.byteLength_append]
    rfl
  -- the last segment of the first text is made of blanks, and is the gap together with the new one
  | @run init last hfront hlast =>
    have hword : last.any isAlphanumeric = false := by
      simpa using fun c hc => (Text.gap_of_isBlank (hlast c hc)).isAlphanumeric
    have hfrontTokens : tokensFrom 0 (Segment.place 0 front) =
        tokensFrom 0 (Segment.place 0 init) := by
      rw [hfront, Segment.place_append]
      exact tokensFrom_concat (s := ⟨_, last⟩) hword 0 _
    have hgap : (last ++ [' ']).any isAlphanumeric = false := by
      rw [List.any_append, hword]
      decide +kernel
    have hbytes : byteLength (init.flatten ++ (last ++ [' '])) = byteLength front.flatten + 1 := by
      rw [hfront, List.flatten_append, List.flatten_singleton, ← List.append_assoc,
        Text.byteLength_append]
      rfl
    rw [tokensFrom_place_gap init back hgap (by simp [isBlank]), hbytes, hfrontTokens]

end TokenStream

/-! ## Compounds

A compound is a token and the tokens joined to it. The first token of the second text is joined to
nothing, so no compound reaches over the place where the texts meet. -/

/-- Where a list of tokens starts with one that is not joined, no run of joined tokens reaches into
it. -/
theorem span_joined_append {bs : List Token} (h : ∀ t ∈ bs.head?, t.joined = false)
    (ts : List Token) :
    (ts ++ bs).takeWhile Token.joined = ts.takeWhile Token.joined ∧
      (ts ++ bs).dropWhile Token.joined = ts.dropWhile Token.joined ++ bs := by
  induction ts with
  | nil =>
    cases bs with
    | nil => exact ⟨rfl, rfl⟩
    | cons b bs => simp [h b rfl]
  | cons t ts ih =>
    cases ht : t.joined with
    | true => simpa [ht] using ih
    | false => simp [ht]

/-- So the compounds of two lists are those of the one and then those of the other. -/
theorem compounds_append {bs : List Token} (h : ∀ t ∈ bs.head?, t.joined = false)
    (as : List Token) : compounds (as ++ bs) = compounds as ++ compounds bs := by
  fun_induction compounds as with
  | case1 => rfl
  | case2 t ts ih =>
    obtain ⟨htake, hdrop⟩ := span_joined_append h ts
    rw [List.cons_append, compounds, htake, hdrop, ih, List.cons_append]

theorem compounds_map_shift (positions bytes : Nat) (ts : List Token) :
    compounds (ts.map (Token.shift positions bytes)) =
      (compounds ts).map (Compound.shift positions bytes) := by
  have hjoined : Token.joined ∘ Token.shift positions bytes = Token.joined := rfl
  fun_induction compounds ts with
  | case1 => simp [compounds]
  | case2 t ts ih =>
    rw [List.map_cons, compounds, List.takeWhile_map, List.dropWhile_map, hjoined, ih]
    rfl

theorem not_joined_of_head_tokens {text : String} : ∀ t ∈ (tokens text).head?, t.joined = false := by
  intro t ht
  rw [Option.mem_def, List.head?_eq_getElem?] at ht
  exact (laid_tokensFrom 0 [] (Text.segments text.toList)).not_joined_head ht

/-- **A blank cuts a text.** Let the second text be empty or start with neither a blank nor a
character that sticks to the blank before it. Then the tokens of the two texts with a blank between
them are those of the first and behind them those of the second, moved on by the tokens and bytes in
front of them and joined as they were. So it is for the compounds. -/
theorem tokens_append_text (a b : String) (hb : Text.StartsAfresh b.toList) :
    tokens (a ++ " " ++ b) =
        tokens a ++ (tokens b).map (Token.shift (tokens a).length (a.utf8ByteSize + 1)) ∧
      compounds (tokens (a ++ " " ++ b)) =
        compounds (tokens a) ++
          (compounds (tokens b)).map (Compound.shift (tokens a).length (a.utf8ByteSize + 1)) := by
  have htext : (a ++ " " ++ b).toList = a.toList ++ ' ' :: b.toList := by simp
  -- the segments hold all of the text, so they are as long as it is
  have hbytes : byteLength (Text.segments a.toList).flatten = a.utf8ByteSize := by
    rw [Text.flatten_segments, Text.byteLength_eq_utf8Len, String.utf8Len_toList]
  have htokens : tokens (a ++ " " ++ b) =
      tokens a ++ (tokens b).map (Token.shift (tokens a).length (a.utf8ByteSize + 1)) := by
    rw [← hbytes]
    refine TokenStream.tokensFrom_joinsAtBlank ?_
    rw [htext]
    exact Text.joinsAtBlank_segments a.toList hb
  refine ⟨htokens, ?_⟩
  rw [htokens, compounds_append, compounds_map_shift]
  intro t ht
  obtain ⟨u, hu, rfl⟩ := Option.map_eq_some_iff.1 (List.head?_map ▸ ht)
  exact not_joined_of_head_tokens u hu

/-- The first text ends with a blank, so that the one between the texts goes on a run, and the
second starts with punctuation. -/
theorem tokens_append_text_behind_blank :
    Text.StartsAfresh "-c.d e".toList ∧ (tokens "é-b ").length = 2 ∧ "é-b ".utf8ByteSize = 5 ∧
      (tokens "-c.d e").map Token.joined = [false, false] ∧
      tokens ("é-b " ++ " " ++ "-c.d e") =
        tokens "é-b " ++ (tokens "-c.d e").map
          (Token.shift (tokens "é-b ").length ("é-b ".utf8ByteSize + 1)) ∧
      compounds (tokens ("é-b " ++ " " ++ "-c.d e")) =
        compounds (tokens "é-b ") ++ (compounds (tokens "-c.d e")).map
          (Compound.shift (tokens "é-b ").length ("é-b ".utf8ByteSize + 1)) :=
  have hb : Text.StartsAfresh "-c.d e".toList := ⟨by decide +kernel, by decide +kernel⟩
  ⟨hb, by decide +kernel, by decide +kernel, by decide +kernel, tokens_append_text _ _ hb⟩

end TextQuery
