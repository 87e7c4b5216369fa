import TextQuery.Token.Compound

/-!
# Segments and tokens on their own

What becomes of a segment, or of a token, that is taken out of its text and read again:

* `Reach.Next` — every way in which a character continues a segment; the only look ahead is behind
  inner punctuation.
* `takeSegment_taken`, `segments_of_mem` — a segment reaches as far without the text behind it, so
  it is the only segment of itself.
* `segments_append_blank` — a word ends at a blank.
* `map_text_tokens` — the texts of the tokens are the segments with a letter or digit.
* `tokens_joined` — without blanks every token but the first is joined to the one before it.
-/

namespace TextQuery.Text

/-! ## Continuing a segment -/

namespace Reach

/-- Inner punctuation was read last: it stands in the segment only if the right character
follows. -/
def isBridge : Reach → Bool
  | .midWord | .midHebrew | .midNumber => true
  | _ => false

/-- What waits for the right character behind a punctuation mark is a bridge, and no joiner leads
there. -/
theorem isBridge_of_bridge? {r r' : Reach} {k : WordClass} (h : r.bridge? k = some r') :
    r'.isBridge = true ∧ k ≠ .joiner := by
  unfold bridge? at h
  split at h
  all_goals first
    | (obtain rfl := Option.some.inj h; exact ⟨rfl, by simp⟩)
    | cases h

theorem follow?_ne_space {r r' : Reach} {k : WordClass} (h : r.follow? k = some r')
    (hr : r ≠ .space ∨ k ≠ .space) : r' ≠ .space := by
  unfold follow? at h
  split at h
  all_goals first
    | (obtain rfl := Option.some.inj h; simp at hr ⊢)
    | cases h

/-- Every way in which a character continues a segment. -/
inductive Next (r : Reach) (joined : Bool) (c : Char) (rest : List Char) : Reach → Prop where
  | lineFeed (hr : r = .carriage) (hk : wordClass c = .lineFeed) : Next r joined c rest .ended
  | mark (hr : r ≠ .ended ∧ r ≠ .carriage) (hk : (wordClass c).isIgnorable = true) :
      Next r joined c rest (if r == .space then .whole else r)
  | pictograph (hr : r ≠ .ended ∧ r ≠ .carriage) (hk : (wordClass c).isIgnorable = false)
      (hp : (joined && isPictograph c) = true) : Next r joined c rest .whole
  | follow {r' : Reach} (hr : r ≠ .ended ∧ r ≠ .carriage) (hk : (wordClass c).isIgnorable = false)
      (hp : (joined && isPictograph c) = false) (hf : r.follow? (wordClass c) = some r') :
      Next r joined c rest r'
  | bridge {r' : Reach} (hr : r ≠ .ended ∧ r ≠ .carriage) (hk : (wordClass c).isIgnorable = false)
      (hp : (joined && isPictograph c) = false) (hf : r.follow? (wordClass c) = none)
      (hb : r.bridge? (wordClass c) = some r') (hc : r'.crosses false rest = true) :
      Next r joined c rest r'

/-- Inside a segment, how the next character goes on: as a mark, as a pictograph behind a joiner, by
its class, or as punctuation that the right character follows. -/
theorem next?_of_open {r : Reach} (hr : r ≠ .ended ∧ r ≠ .carriage) (joined : Bool) (c : Char)
    (rest : List Char) :
    r.next? joined c rest =
      if (wordClass c).isIgnorable then some (if r == .space then .whole else r)
      else if joined && isPictograph c then some .whole
      else
        match r.follow? (wordClass c) with
        | some r' => some r'
        | none =>
          match r.bridge? (wordClass c) with
          | some r' => if r'.crosses false rest then some r' else none
          | none => none := by
  unfold next?
  split
  · exact absurd rfl hr.1
  · exact absurd rfl hr.2
  · rfl

theorem next?_carriage (joined : Bool) (c : Char) (rest : List Char) :
    next? .carriage joined c rest =
      if wordClass c == .lineFeed then some .ended else none := by
  unfold next?
  generalize wordClass c = k
  rfl

theorem next?_ended (joined : Bool) (c : Char) (rest : List Char) :
    next? .ended joined c rest = none := by
  unfold next?
  generalize wordClass c = k
  rfl

/-- A character goes on the segment exactly in one of the ways of `Next`. The proofs from here on
take `next?` apart by its cases and do not unfold it. -/
theorem next?_eq_some_iff {r r' : Reach} {joined : Bool} {c : Char} {rest : List Char} :
    r.next? joined c rest = some r' ↔ r.Next joined c rest r' := by
  constructor
  · intro h
    by_cases hr : r ≠ .ended ∧ r ≠ .carriage
    · rw [next?_of_open hr] at h
      cases hk : (wordClass c).isIgnorable with
      | true =>
        rw [hk, if_pos rfl] at h
        obtain rfl := Option.some.inj h
        exact .mark hr hk
      | false =>
        cases hp : joined && isPictograph c with
        | true =>
          simp only [hk, hp, if_true, Bool.false_eq_true, if_false] at h
          obtain rfl := Option.some.inj h
          exact .pictograph hr hk hp
        | false =>
          simp only [hk, hp, Bool.false_eq_true, if_false] at h
          cases hf : r.follow? (wordClass c) with
          | some q =>
            rw [hf] at h
            obtain rfl := Option.some.inj h
            exact .follow hr hk hp hf
          | none =>
            rw [hf] at h
            cases hb : r.bridge? (wordClass c) with
            | none => rw [hb] at h; cases h
            | some q =>
              rw [hb] at h
              simp only [Option.ite_none_right_eq_some, Option.some.injEq] at h
              obtain ⟨hc, rfl⟩ := h
              exact .bridge hr hk hp hf hb hc
    · -- a segment that has ended takes nothing, and a carriage return only its line feed
      have hr : r = .ended ∨ r = .carriage := by
        cases r <;> simp at hr ⊢
      rcases hr with rfl | rfl
      · rw [next?_ended] at h
        cases h
      · simp only [next?_carriage, Option.ite_none_right_eq_some, beq_iff_eq, Option.some.injEq] at h
        obtain ⟨hk, rfl⟩ := h
        exact .lineFeed rfl hk
  · intro h
    cases h with
    | lineFeed hr hk =>
      rw [hr, next?_carriage, hk]
      rfl
    | mark hr hk => rw [next?_of_open hr, if_pos hk]
    | pictograph hr hk hp => simp [next?_of_open hr, hk, hp]
    | follow hr hk hp hf => simp [next?_of_open hr, hk, hp, hf]
    | bridge hr hk hp hf hb hc => simp [next?_of_open hr, hk, hp, hf, hb, hc]

/-- Punctuation that the right character follows is crossed in a longer text too. -/
theorem crosses_append {r : Reach} {joined : Bool} {cs : List Char}
    (h : r.crosses joined cs = true) (ds : List Char) : r.crosses joined (cs ++ ds) = true := by
  induction cs generalizing joined with
  | nil => simp [crosses] at h
  | cons c cs ih =>
    simp only [List.cons_append, crosses] at h ⊢
    split at h
    · next hk =>
      rw [if_pos hk]
      exact ih h
    · next hk =>
      rw [if_neg hk]
      exact h

/-- What comes after `c` matters only behind inner punctuation. -/
theorem Next.of_crosses {r r' : Reach} {joined : Bool} {c : Char} {rest rest' : List Char}
    (h : r.Next joined c rest r')
    (hcross : r'.isBridge = true → wordClass c ≠ .joiner → r'.crosses false rest = true →
      r'.crosses false rest' = true) : r.Next joined c rest' r' := by
  cases h with
  | lineFeed hr hk => exact .lineFeed hr hk
  | mark hr hk => exact .mark hr hk
  | pictograph hr hk hp => exact .pictograph hr hk hp
  | follow hr hk hp hf => exact .follow hr hk hp hf
  | bridge hr hk hp hf hb hc =>
    obtain ⟨hbridge, hjoiner⟩ := isBridge_of_bridge? hb
    exact .bridge hr hk hp hf hb (hcross hbridge hjoiner hc)

/-- Outside a run of blanks a segment never gets into one. -/
theorem Next.ne_space {r r' : Reach} {joined : Bool} {c : Char} {rest : List Char}
    (h : r.Next joined c rest r') (hr : r ≠ .space ∨ wordClass c ≠ .space) : r' ≠ .space := by
  cases h with
  | lineFeed _ _ => simp
  | mark _ hk =>
    split
    · simp
    · next hne => simpa using hne
  | pictograph _ _ _ => simp
  | follow _ _ _ hf => exact follow?_ne_space hf hr
  | bridge _ _ _ _ hb _ =>
    rintro rfl
    simpa [isBridge] using (isBridge_of_bridge? hb).1

end Reach

/-! ## A segment without the text behind it -/

theorem takeSegment_cons_of_none {r : Reach} {joined : Bool} {c : Char} {cs : List Char}
    (h : r.next? joined c cs = none) : takeSegment r joined (c :: cs) = ([], c :: cs) := by
  rw [takeSegment, h]

/-- A segment takes in a character that goes on it, and then goes on from there. -/
theorem takeSegment_cons_of_next {r r' : Reach} {joined : Bool} {c : Char} {cs : List Char}
    (h : r.Next joined c cs r') :
    takeSegment r joined (c :: cs) =
      (c :: (takeSegment r' (wordClass c == .joiner) cs).1,
        (takeSegment r' (wordClass c == .joiner) cs).2) := by
  rw [takeSegment, Reach.next?_eq_some_iff.2 h]

/-- What inner punctuation waits for is still in the segment. Induction on the text: marks are
passed over and taken in, and the character that is looked for goes on the segment itself. -/
theorem Reach.crosses_taken {r : Reach} {joined : Bool} {cs : List Char} (hr : r.isBridge = true)
    (h : r.crosses joined cs = true) : r.crosses joined (takeSegment r joined cs).1 = true := by
  -- behind a bridge the segment is open
  have hopen : r ≠ .ended ∧ r ≠ .carriage := by
    constructor <;> rintro rfl <;> simp [isBridge] at hr
  induction cs generalizing joined with
  | nil => simp [crosses] at h
  | cons c cs ih =>
    cases hk : (wordClass c).isIgnorable with
    | true =>
      -- a bridge is not a run of blanks, so the mark leaves it as it is
      have hspace : r ≠ .space := by
        rintro rfl
        simp [isBridge] at hr
      have hnext : r.Next joined c cs r := by
        have : r.Next joined c cs (if r == .space then .whole else r) := .mark hopen hk
        rwa [if_neg (by simpa using hspace)] at this
      rw [takeSegment_cons_of_next hnext]
      simp only [crosses, hk, if_true] at h ⊢
      exact ih h
    | false =>
      simp only [crosses, hk, Bool.false_eq_true, if_false, Bool.or_eq_true] at h
      -- the character that is looked for continues the segment itself
      obtain ⟨r', hnext⟩ : ∃ r', r.Next joined c cs r' := by
        cases hp : joined && isPictograph c with
        | true => exact ⟨_, .pictograph hopen hk hp⟩
        | false =>
          obtain ⟨r', hf⟩ := Option.isSome_iff_exists.1 (h.resolve_left (by simp [hp]))
          exact ⟨r', .follow hopen hk hp hf⟩
      rw [takeSegment_cons_of_next hnext]
      simpa [crosses, hk] using h

/-- A segment reaches as far without the text behind it. Only punctuation looks ahead, and what it
sees is in the segment. -/
theorem takeSegment_taken (r : Reach) (joined : Bool) (cs : List Char) :
    takeSegment r joined (takeSegment r joined cs).1 = ((takeSegment r joined cs).1, []) := by
  induction cs generalizing r joined with
  | nil => rfl
  | cons c cs ih =>
    cases h : r.next? joined c cs with
    | none =>
      rw [takeSegment_cons_of_none h]
      rfl
    | some r' =>
      have hnext := Reach.next?_eq_some_iff.1 h
      rw [takeSegment_cons_of_next hnext]
      -- the lookahead of inner punctuation finds what it found before
      have hagain : r.Next joined c (takeSegment r' (wordClass c == .joiner) cs).1 r' := by
        refine hnext.of_crosses fun hbridge hjoiner hcross => ?_
        rw [beq_eq_false_iff_ne.2 hjoiner]
        exact Reach.crosses_taken hbridge hcross
      rw [takeSegment_cons_of_next hagain, ih]

/-- A segment is the only segment of itself. -/
theorem segments_of_mem {s cs : List Char} (h : s ∈ segments cs) : segments s = [s] := by
  fun_induction segments cs with
  | case1 => simp at h
  | case2 c cs split ih =>
    rcases List.mem_cons.1 h with rfl | h
    · rw [segments_cons, takeSegment_taken, segments_nil]
    · exact ih h

/-! ## A blank behind a word -/

theorem wordClass_blank : wordClass ' ' = .space := by decide +kernel

theorem Reach.next?_blank {r : Reach} (hr : r ≠ .space) (joined : Bool) (rest : List Char) :
    r.next? joined ' ' rest = none := by
  have hp : isPictograph ' ' = false := by decide +kernel
  unfold next?
  rw [wordClass_blank]
  cases r <;> simp_all [follow?, bridge?, WordClass.isIgnorable]

/-- A segment that has more than blanks ends at a blank. Induction on the segment, where a run of
blanks has what breaks it still to come. -/
theorem takeSegment_append_blank {r : Reach} {joined : Bool} {w : List Char}
    (hw : takeSegment r joined w = (w, [])) (hr : r = .space → ∃ c ∈ w, wordClass c ≠ .space)
    (b : List Char) : takeSegment r joined (w ++ ' ' :: b) = (w, ' ' :: b) := by
  induction w generalizing r joined with
  | nil =>
    have hne : r ≠ .space := fun h => by simpa using hr h
    exact takeSegment_cons_of_none (Reach.next?_blank hne joined b)
  | cons c w ih =>
    cases h : r.next? joined c w with
    | none =>
      rw [takeSegment_cons_of_none h] at hw
      simp at hw
    | some r' =>
      have hnext := Reach.next?_eq_some_iff.1 h
      rw [takeSegment_cons_of_next hnext] at hw
      -- more text only gives the lookahead more to find
      have hnext' : r.Next joined c (w ++ ' ' :: b) r' :=
        hnext.of_crosses fun _ _ hcross => Reach.crosses_append hcross _
      have hw' : takeSegment r' (wordClass c == .joiner) w = (w, []) := by
        simp only [Prod.mk.injEq, List.cons.injEq, true_and] at hw
        exact Prod.ext hw.1 hw.2
      rw [List.cons_append, takeSegment_cons_of_next hnext', ih hw' fun hspace => ?_]
      -- in a run of blanks, what breaks it is still to come
      obtain ⟨hr', hc⟩ : r = .space ∧ wordClass c = .space := by
        have := fun hor => hnext.ne_space hor hspace
        grind
      obtain ⟨d, hd, hne⟩ := hr hr'
      rcases List.mem_cons.1 hd with rfl | hd
      · exact absurd hc hne
      · exact ⟨d, hd, hne⟩

/-- A value that neither branch has is not the value of a conditional. It takes the long chain of
conditionals in `wordClass` apart. -/
theorem ite_ne {α : Type} {p : Prop} [Decidable p] {a b x : α} (ha : a ≠ x) (hb : b ≠ x) :
    (if p then a else b) ≠ x := by
  split
  · exact ha
  · exact hb

/-- The class of blanks is that of the characters that the table lists for it. -/
theorem isSpacing_of_wordClass {c : Char} (h : wordClass c = .space) : isSpacing c = true := by
  cases hs : isSpacing c with
  | true => rfl
  | false =>
    unfold wordClass at h
    -- every other branch gives another class
    simp only [hs, Bool.false_eq_true, if_false] at h
    refine absurd h ?_
    repeat' apply ite_ne
    all_goals simp

/-- No blank that sticks to others is a letter or digit. -/
theorem isAlphanumeric_of_space {c : Char} (h : wordClass c = .space) :
    isAlphanumeric c = false := by
  have hcode : c.toNat ∈ [0x20, 0x1680, 0x2000, 0x2001, 0x2002, 0x2003, 0x2004, 0x2005, 0x2006,
      0x2008, 0x2009, 0x200A, 0x205F, 0x3000] := by
    have := isSpacing_of_wordClass h
    simp only [isSpacing, Bool.or_eq_true, Bool.and_eq_true, beq_iff_eq, decide_eq_true_eq] at this
    simp only [List.mem_cons, List.not_mem_nil, or_false]
    omega
  have hrank : ∀ code ∈ [0x20, 0x1680, 0x2000, 0x2001, 0x2002, 0x2003, 0x2004, 0x2005, 0x2006,
      0x2008, 0x2009, 0x200A, 0x205F, 0x3000], alphanumericSet.rank code % 2 = 0 := by
    decide +kernel
  simp [isAlphanumeric, CodeSet.contains, hrank _ hcode]

/-- A segment other than a run of blanks ends at a blank, and the blank starts the next one. -/
theorem segments_append_blank_of_ne_space {w : List Char} (hw : segments w = [w])
    (hbreak : ∃ c ∈ w, wordClass c ≠ .space) (b : List Char) :
    segments (w ++ ' ' :: b) = w :: segments (' ' :: b) := by
  cases w with
  | nil => simp at hbreak
  | cons c w =>
    rw [segments_cons, List.cons.injEq] at hw
    obtain ⟨hfst, hsnd⟩ := hw
    -- the first segment is all of the text
    have hsnd : (takeSegment (Reach.start c) (wordClass c == .joiner) w).2 = [] := by
      rw [← flatten_segments (takeSegment _ _ w).2, hsnd]
      rfl
    have hall : takeSegment (Reach.start c) (wordClass c == .joiner) w = (w, []) :=
      Prod.ext (List.cons.inj hfst).2 hsnd
    -- where a blank starts the segment, what breaks the run is behind it
    have htail : Reach.start c = .space → ∃ d ∈ w, wordClass d ≠ .space := by
      intro hstart
      have hc : wordClass c = .space := by
        unfold Reach.start at hstart
        split at hstart <;> simp_all
      obtain ⟨d, hd, hne⟩ := hbreak
      rcases List.mem_cons.1 hd with rfl | hd
      · exact absurd hc hne
      · exact ⟨d, hd, hne⟩
    rw [List.cons_append, segments_cons, takeSegment_append_blank hall htail]

/-- A word ends at a blank. -/
theorem segments_append_blank {w : List Char} (hw : segments w = [w])
    (hword : w.any isAlphanumeric = true) (b : List Char) :
    segments (w ++ ' ' :: b) = w :: segments (' ' :: b) := by
  obtain ⟨c, hc, hcal⟩ := List.any_eq_true.1 hword
  refine segments_append_blank_of_ne_space hw ⟨c, hc, fun hspace => ?_⟩ b
  simp [isAlphanumeric_of_space hspace] at hcal

end TextQuery.Text

namespace TextQuery

open Text (isAlphanumeric isBlank segments)

/-! ## Tokens -/

namespace TokenStream

/-- A token is the first word among the segments. -/
theorem filter_isWord_of_scan {position : Nat} {blank : Bool} {segs rest : List Segment} {t : Token}
    (h : scan position blank segs = some (t, rest)) :
    ∃ s joined, segs.filter Segment.isWord = s :: rest.filter Segment.isWord ∧
      t = s.toToken position joined := by
  induction segs generalizing blank with
  | nil => simp [scan] at h
  | cons s segs ih =>
    rw [scan] at h
    split at h
    · next hs =>
      obtain ⟨rfl, rfl⟩ := Prod.mk.inj (Option.some.inj h)
      exact ⟨s, _, List.filter_cons_of_pos hs, rfl⟩
    · next hs =>
      rw [List.filter_cons_of_neg hs]
      exact ih h

/-- Where no token is found there is no word among the segments. -/
theorem filter_isWord_of_scan_eq_none {position : Nat} {blank : Bool} {segs : List Segment}
    (h : scan position blank segs = none) : segs.filter Segment.isWord = [] := by
  induction segs generalizing blank with
  | nil => rfl
  | cons s segs ih =>
    rw [scan] at h
    split at h
    · cases h
    · next hs =>
      rw [List.filter_cons_of_neg hs]
      exact ih h

theorem map_text_tokensFrom (position : Nat) (segs : List Segment) :
    (tokensFrom position segs).map Token.text =
      (segs.filter Segment.isWord).map fun s => String.ofList s.chars := by
  fun_induction tokensFrom position segs with
  | case1 position segs t rest h ih =>
    obtain ⟨s, joined, hfilter, rfl⟩ := filter_isWord_of_scan h
    simp [hfilter, Segment.toToken, ih]
  | case2 position segs h => simp [filter_isWord_of_scan_eq_none h]

/-- Where no segment has a blank, a token is joined to the one before it if there is one. -/
theorem scan_joined {position : Nat} {segs rest : List Segment} {t : Token}
    (hblank : ∀ s ∈ segs, s.hasBlank = false)
    (h : scan position false segs = some (t, rest)) :
    t.joined = decide (position > 0) ∧ ∀ s ∈ rest, s.hasBlank = false := by
  induction segs with
  | nil => simp [scan] at h
  | cons s segs ih =>
    obtain ⟨hs, hsegs⟩ := List.forall_mem_cons.1 hblank
    rw [scan] at h
    split at h
    · obtain ⟨rfl, rfl⟩ := Prod.mk.inj (Option.some.inj h)
      exact ⟨by simp [Segment.toToken], hsegs⟩
    · rw [hs] at h
      exact ih hsegs h

/-- Without blanks every token but one at position 0 is joined to the one before it. -/
theorem joined_of_mem_tokensFrom {position : Nat} {segs : List Segment} (hpos : position > 0)
    (hblank : ∀ s ∈ segs, s.hasBlank = false) :
    ∀ t ∈ tokensFrom position segs, t.joined = true := by
  fun_induction tokensFrom position segs with
  | case1 position segs t rest h ih =>
    obtain ⟨hjoined, hrest⟩ := scan_joined hblank h
    rw [List.forall_mem_cons]
    exact ⟨by simp [hjoined, hpos], ih (Nat.succ_pos _) hrest⟩
  | case2 position segs h => simp

end TokenStream

theorem Segment.map_chars_place (start : Nat) (css : List (List Char)) :
    (place start css).map chars = css := by
  induction css generalizing start with
  | nil => rfl
  | cons cs css ih => rw [place, List.map_cons, ih]

/-- The texts of the tokens are the segments with a letter or digit. -/
theorem map_text_tokens (text : String) :
    (tokens text).map Token.text =
      ((segments text.toList).filter (·.any isAlphanumeric)).map String.ofList := by
  rw [tokens, TokenStream.map_text_tokensFrom, Segment.ofText]
  have hplace := Segment.map_chars_place 0 (segments text.toList)
  generalize Segment.place 0 (segments text.toList) = segs at hplace ⊢
  rw [← hplace, List.filter_map, List.map_map]
  rfl

/-- In a text without blanks every token but the first is joined, since no segment between two
tokens has a blank. -/
theorem tokens_joined {text : String} (h : ∀ c ∈ text.toList, isBlank c = false) :
    ∀ t ∈ (tokens text).tail, t.joined = true := by
  have hblank : ∀ s ∈ Segment.ofText text, s.hasBlank = false := by
    intro s hs
    have hmem : s.chars ∈ segments text.toList := by
      rw [← Segment.map_chars_place 0 (segments text.toList)]
      exact List.mem_map_of_mem hs
    have hsub : ∀ c ∈ s.chars, c ∈ text.toList := fun c hc => by
      rw [← Text.flatten_segments text.toList]
      exact List.mem_flatten_of_mem hmem hc
    simpa [Segment.hasBlank] using fun c hc => h c (hsub c hc)
  unfold tokens
  rw [TokenStream.tokensFrom]
  split
  · next t rest hscan =>
    exact TokenStream.joined_of_mem_tokensFrom Nat.one_pos (TokenStream.scan_joined hblank hscan).2
  · simp

theorem compounds_cons_of_joined {t : Token} {ts : List Token} (h : ∀ u ∈ ts, u.joined = true) :
    compounds (t :: ts) = [⟨t, ts⟩] := by
  have htake : ts.takeWhile Token.joined = ts := by
    have := @List.takeWhile_append_of_pos _ Token.joined ts [] h
    simpa using this
  have hdrop : ts.dropWhile Token.joined = [] := by
    have := @List.dropWhile_append_of_pos _ Token.joined ts [] h
    simpa using this
  rw [compounds, htake, hdrop, compounds]

/-! ### The text of a token -/

/-- The texts of tokens are the segments that hold an alphanumeric character. -/
theorem mem_token_texts {text word : String} :
    word ∈ (tokens text).map Token.text ↔
      word.toList ∈ segments text.toList ∧ word.toList.any isAlphanumeric = true := by
  rw [map_text_tokens]
  constructor
  · intro h
    obtain ⟨cs, hcs, rfl⟩ := List.mem_map.1 h
    simpa using hcs
  · intro h
    exact List.mem_map.2 ⟨word.toList, by simpa using h, String.ofList_toList⟩

/-- A token is the only token of itself. -/
theorem tokens_of_mem_texts {text word : String} (h : word ∈ (tokens text).map Token.text) :
    (tokens word).map Token.text = [word] := by
  obtain ⟨hmem, halnum⟩ := mem_token_texts.1 h
  rw [map_text_tokens, Text.segments_of_mem hmem, List.filter_cons_of_pos (by exact halnum)]
  simp

theorem infix_of_mem_texts {text word : String} (h : word ∈ (tokens text).map Token.text) :
    word.toList <:+: text.toList := by
  rw [← Text.flatten_segments text.toList]
  exact List.infix_of_mem_flatten (mem_token_texts.1 h).1

theorem exists_word_segment {cs : List Char} (h : cs.any isAlphanumeric = true) :
    ∃ s ∈ segments cs, s.any isAlphanumeric = true := by
  obtain ⟨c, hc, halnum⟩ := List.any_eq_true.1 h
  rw [← Text.flatten_segments cs] at hc
  obtain ⟨s, hs, hcs⟩ := List.mem_flatten.1 hc
  exact ⟨s, hs, List.any_eq_true.2 ⟨c, hcs, halnum⟩⟩

/-- Two words with a blank between them, and whatever follows, hold two tokens or more. -/
theorem two_le_length_tokens {text word : String} (h : word ∈ (tokens text).map Token.text)
    {cs : List Char} (hcs : cs.any isAlphanumeric = true) :
    2 ≤ (tokens (String.ofList (word.toList ++ ' ' :: cs))).length := by
  obtain ⟨hmem, halnum⟩ := mem_token_texts.1 h
  have hrest : (' ' :: cs).any isAlphanumeric = true := by simp [hcs]
  obtain ⟨s, hs, hword⟩ := exists_word_segment hrest
  rw [← List.length_map Token.text, map_text_tokens, String.toList_ofList,
    Text.segments_append_blank (Text.segments_of_mem hmem) halnum,
    List.filter_cons_of_pos (by exact halnum), List.length_map, List.length_cons]
  have : 0 < ((segments (' ' :: cs)).filter (·.any isAlphanumeric)).length :=
    List.length_pos_of_mem (List.mem_filter.2 ⟨hs, hword⟩)
  omega

end TextQuery
