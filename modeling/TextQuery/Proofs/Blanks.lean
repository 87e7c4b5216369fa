import TextQuery.Proofs.Parsed

/-!
# Blanks in queries and in texts

A query is cut at its blanks before its words are segmented; a text is segmented as it stands. The
two agree unless a word of the text runs over a blank:

* `Reach.Next.eq_start_of_blank`, `takeSegment_at_blank` — the text before a blank is segmented
  without a look at what follows; only its last segment can take in the blank, and then goes on as a
  segment that starts there.
* `segments_at_blank` — so the segments of the two parts are those of the text, but for one that may
  lie across the cut.
* `segments_behind_blank` — what a segment that starts with a blank takes in is segments of its own.
* `Unbroken`, `flatMap_texts_of_spells` — where no word holds a blank, the words between the blanks
  are the words of the text.
* `parse_words_iff` — a query of words alone gives the tokens of its text exactly where no token
  holds a blank, and nothing to search for exactly where there is none.
-/

namespace TextQuery.Text

/-! ## What a blank can be -/

/-- The code points of the blanks. They are few, so what holds of each is checked one by one. -/
def blankCodes : List Nat :=
  [0x9, 0xA, 0xB, 0xC, 0xD, 0x20, 0x85, 0xA0, 0x1680, 0x2000, 0x2001, 0x2002, 0x2003, 0x2004,
    0x2005, 0x2006, 0x2007, 0x2008, 0x2009, 0x200A, 0x2028, 0x2029, 0x202F, 0x205F, 0x3000]

theorem mem_blankCodes {c : Char} (h : isBlank c = true) : c.toNat ∈ blankCodes := by
  simp only [isBlank, Bool.or_eq_true, Bool.and_eq_true, beq_iff_eq, decide_eq_true_eq] at h
  simp only [blankCodes, List.mem_cons, List.not_mem_nil, or_false]
  omega

/-- The classes of blanks. The connector is the narrow no-break space. -/
def WordClass.isBlank : WordClass → Bool
  | .space | .carriageReturn | .lineFeed | .newline | .connector | .other => true
  | _ => false

theorem WordClass.isIgnorable_of_isBlank {k : WordClass} (hk : k.isBlank = true) :
    k.isIgnorable = false := by
  cases k <;> simp [isBlank, isIgnorable] at hk ⊢

/-- What the segmentation sees of a blank. -/
structure Gap (c : Char) : Prop where
  wordClass : (wordClass c).isBlank = true
  isPictograph : isPictograph c = false
  isAlphanumeric : isAlphanumeric c = false

/-- Every blank is a gap: of a class of blanks, no pictograph and no part of a word. -/
theorem gap_of_isBlank {c : Char} (h : isBlank c = true) : Gap c := by
  have hall : ∀ code ∈ blankCodes, (Text.wordClass (Char.ofNat code)).isBlank = true ∧
      Text.isPictograph (Char.ofNat code) = false ∧
      Text.isAlphanumeric (Char.ofNat code) = false := by
    decide +kernel
  have := hall _ (mem_blankCodes h)
  rw [Char.ofNat_toNat] at this
  exact ⟨this.1, this.2.1, this.2.2⟩

theorem Gap.wordClass_ne {c : Char} (hc : Gap c) {k : WordClass} (hk : k.isBlank = false) :
    Text.wordClass c ≠ k := by
  intro h
  have hclass := hc.wordClass
  rw [h, hk] at hclass
  cases hclass

/-! ## The text before a blank -/

namespace Reach

/-- A character that follows by its class, an apostrophe or half a flag apart, is in the state of
one that starts a segment. -/
theorem follow?_eq_start {r r' : Reach} {c : Char} (h : r.follow? (wordClass c) = some r')
    (hquote : wordClass c ≠ .singleQuote) (hflag : wordClass c ≠ .flag) : r' = start c := by
  unfold follow? at h
  unfold start
  split at h <;> simp_all

theorem bridge?_of_isBlank (r : Reach) {k : WordClass} (hk : k.isBlank = true) :
    r.bridge? k = none := by
  cases k <;> simp only [WordClass.isBlank, Bool.false_eq_true] at hk <;> cases r <;> rfl

theorem follow?_of_isBridge {r : Reach} (hr : r.isBridge = true) {k : WordClass}
    (hk : k.isBlank = true) : r.follow? k = none := by
  cases r <;> simp only [isBridge, Bool.false_eq_true] at hr <;>
    cases k <;> first
      | rfl
      | cases hk

/-- A segment goes on at a blank, if at all, like one that starts there. -/
theorem Next.eq_start_of_blank {r r' : Reach} {joined : Bool} {c : Char} {rest : List Char}
    (h : r.Next joined c rest r') (hc : Gap c) : r' = start c := by
  cases h with
  | lineFeed hr hk =>
    unfold start
    rw [hk]
  | mark hr hk =>
    rw [WordClass.isIgnorable_of_isBlank hc.wordClass] at hk
    cases hk
  | pictograph hr hk hp => simp [hc.isPictograph] at hp
  | follow hr hk hp hf => exact follow?_eq_start hf (hc.wordClass_ne rfl) (hc.wordClass_ne rfl)
  | bridge hr hk hp hf hb hcross =>
    rw [bridge?_of_isBlank r hc.wordClass] at hb
    cases hb

/-- Inner punctuation does not reach over a blank. -/
theorem crosses_at_blank {r : Reach} (hr : r.isBridge = true) {c : Char} (hc : Gap c)
    (joined : Bool) (w rest : List Char) :
    r.crosses joined (w ++ c :: rest) = r.crosses joined w := by
  induction w generalizing joined with
  | nil =>
    simp [crosses, WordClass.isIgnorable_of_isBlank hc.wordClass, hc.isPictograph,
      follow?_of_isBridge hr hc.wordClass]
  | cons d w ih => simp only [List.cons_append, crosses, ih]

/-- How the next character goes on does not depend on what stands behind a blank further on. Only
punctuation looks ahead, and not past a blank. -/
theorem next?_at_blank (r : Reach) (joined : Bool) (d : Char) {c : Char} (hc : Gap c)
    (w rest : List Char) : r.next? joined d (w ++ c :: rest) = r.next? joined d w := by
  refine Option.ext fun r' => ?_
  rw [next?_eq_some_iff, next?_eq_some_iff]
  constructor
  · intro h
    exact h.of_crosses fun hbridge _ hcross => by rwa [crosses_at_blank hbridge hc] at hcross
  · intro h
    exact h.of_crosses fun hbridge _ hcross => by rwa [crosses_at_blank hbridge hc]

end Reach

/-- A segment reaches as far as without the blank, or takes it in and goes on from there. Induction
on the text in front of the blank, on which nothing behind the blank has an influence. -/
theorem takeSegment_at_blank (r : Reach) (joined : Bool) (w : List Char) {c : Char} (hc : Gap c)
    (rest : List Char) :
    takeSegment r joined (w ++ c :: rest) =
        ((takeSegment r joined w).1, (takeSegment r joined w).2 ++ c :: rest) ∨
      (takeSegment r joined w).2 = [] ∧
        takeSegment r joined (w ++ c :: rest) =
          (w ++ c :: (takeSegment (Reach.start c) (wordClass c == .joiner) rest).1,
            (takeSegment (Reach.start c) (wordClass c == .joiner) rest).2) := by
  induction w generalizing r joined with
  | nil =>
    cases h : r.next? joined c rest with
    | none =>
      refine .inl ?_
      rw [List.nil_append, takeSegment_cons_of_none h]
      rfl
    | some r' =>
      have hnext := Reach.next?_eq_some_iff.1 h
      -- whatever reaches over a blank forgets what it came from
      rw [hnext.eq_start_of_blank hc] at hnext
      refine .inr ⟨rfl, ?_⟩
      rw [List.nil_append, takeSegment_cons_of_next hnext]
      rfl
  | cons d w ih =>
    -- looking ahead never sees past the blank
    have hsame := r.next?_at_blank joined d hc w rest
    cases h : r.next? joined d w with
    | none =>
      refine .inl ?_
      rw [List.cons_append, takeSegment_cons_of_none (hsame.trans h), takeSegment_cons_of_none h]
      rfl
    | some r' =>
      have hnext := Reach.next?_eq_some_iff.1 h
      have hlong := Reach.next?_eq_some_iff.1 (hsame.trans h)
      rw [List.cons_append, takeSegment_cons_of_next hlong, takeSegment_cons_of_next hnext]
      rcases ih r' (wordClass d == .joiner) with h | ⟨hnil, h⟩
      · exact .inl (by rw [h])
      · exact .inr ⟨hnil, by rw [h]; rfl⟩

/-- **The cut at a blank.** Cut in front of a blank, a text falls into the same segments, but for
one that may lie across the cut. -/
theorem segments_at_blank (w : List Char) {c : Char} (hc : Gap c) (rest : List Char) :
    segments (w ++ c :: rest) = segments w ++ segments (c :: rest) ∨
      ∃ init last first more, segments w = init ++ [last] ∧
        segments (c :: rest) = (c :: first) :: more ∧
        segments (w ++ c :: rest) = init ++ (last ++ c :: first) :: more := by
  fun_induction segments w with
  | case1 => exact .inl rfl
  | case2 d w split ih =>
    rw [List.cons_append, segments_cons]
    rcases takeSegment_at_blank (.start d) (wordClass d == .joiner) w hc rest with h | ⟨hnil, h⟩
    · -- the first segment ends in front of the blank, and the rest is cut as before
      rw [h]
      rcases ih with hcut | ⟨init, last, first, more, hinit, hfirst, hcut⟩
      · exact .inl (congrArg ((d :: split.1) :: ·) hcut)
      · refine .inr ⟨(d :: split.1) :: init, last, first, more, ?_, hfirst, ?_⟩
        · rw [hinit, List.cons_append]
        · exact congrArg ((d :: split.1) :: ·) hcut
    · have hlast : split.1 = w := by
        have := takeSegment_append (.start d) (wordClass d == .joiner) w
        rwa [hnil, List.append_nil] at this
      refine .inr ⟨[], d :: w, _, _, ?_, segments_cons c rest, ?_⟩
      · rw [hlast, show split.2 = [] from hnil, segments_nil, List.nil_append]
      · rw [h]
        rfl

/-! ## The text behind a blank -/

namespace Reach

/-- The states that a blank starts. -/
def isGap : Reach → Bool
  | .space | .connector | .whole | .carriage | .ended => true
  | _ => false

theorem isGap_start {b : Char} (hb : Gap b) : (start b).isGap = true := by
  have hclass := hb.wordClass
  unfold start
  generalize wordClass b = k at hclass ⊢
  cases k <;> first
    | rfl
    | cases hclass

theorem follow?_eq_start_of_isGap {r r' : Reach} {c : Char} (hr : r.isGap = true)
    (h : r.follow? (wordClass c) = some r') : r' = start c := by
  refine follow?_eq_start h ?_ ?_ <;>
  · intro hk
    rw [hk] at h
    cases r <;> simp only [isGap, Bool.false_eq_true] at hr <;> cases h

theorem bridge?_of_isGap {r : Reach} (hr : r.isGap = true) (k : WordClass) :
    r.bridge? k = none := by
  cases r <;> first
    | rfl
    | cases hr

/-- A segment that starts with a mark or a joiner is whole as it is: nothing goes on it by its
class. -/
theorem start_of_isIgnorable {c : Char} (hk : (wordClass c).isIgnorable = true) :
    start c = .whole := by
  unfold start
  generalize wordClass c = k at hk ⊢
  cases k <;> first
    | rfl
    | cases hk

/-- Behind a blank a segment goes on like one that starts there, unless the blank is a connector and
a mark follows. -/
theorem Next.eq_start_of_isGap {r r' : Reach} {c : Char} {cs : List Char}
    (h : r.Next false c cs r') (hr : r.isGap = true) :
    r' = start c ∨ r' = .connector ∧ start c = .whole := by
  cases h with
  | lineFeed hcarriage hk =>
    left
    unfold start
    rw [hk]
  | mark hopen hk =>
    have hwhole := start_of_isIgnorable hk
    by_cases hconnector : r = .connector
    · subst hconnector
      exact .inr ⟨rfl, hwhole⟩
    · left
      rw [hwhole]
      cases r <;> first
        | rfl
        | simp [isGap] at hr hopen hconnector
  | pictograph hopen hk hp => cases hp
  | follow hopen hk hp hf => exact .inl (follow?_eq_start_of_isGap hr hf)
  | bridge hopen hk hp hf hb hcross =>
    rw [bridge?_of_isGap hr] at hb
    cases hb

end Reach

/-- Behind marks a connector goes on, if at all, where the marks alone end, and there like a segment
that starts. -/
theorem takeSegment_connector (joined : Bool) (cs : List Char) :
    (takeSegment .connector joined cs).2 = (takeSegment .whole joined cs).2 ∨
      ∃ c rest, (takeSegment .whole joined cs).2 = c :: rest ∧
        (takeSegment .connector joined cs).2 =
          (takeSegment (Reach.start c) (wordClass c == .joiner) rest).2 := by
  induction cs generalizing joined with
  | nil => exact .inl rfl
  | cons c cs ih =>
    cases hk : (wordClass c).isIgnorable with
    | true =>
      have hconnector : Reach.Next .connector joined c cs .connector := .mark (by simp) hk
      have hwhole : Reach.Next .whole joined c cs .whole := .mark (by simp) hk
      rw [takeSegment_cons_of_next hconnector, takeSegment_cons_of_next hwhole]
      exact ih _
    | false =>
      -- a joined pictograph sends both to one state; a letter goes on with the connector only
      cases hp : joined && isPictograph c with
      | true =>
        have hconnector : Reach.Next .connector joined c cs .whole := .pictograph (by simp) hk hp
        have hwhole : Reach.Next .whole joined c cs .whole := .pictograph (by simp) hk hp
        rw [takeSegment_cons_of_next hconnector, takeSegment_cons_of_next hwhole]
        exact .inl rfl
      | false =>
        have hwhole : Reach.next? .whole joined c cs = none := by
          rw [Reach.next?_of_open (by simp), hk, hp]
          rfl
        rw [takeSegment_cons_of_none hwhole]
        cases hf : Reach.follow? .connector (wordClass c) with
        | none =>
          have hconnector : Reach.next? .connector joined c cs = none := by
            rw [Reach.next?_of_open (by simp), hk, hp, hf]
            rfl
          rw [takeSegment_cons_of_none hconnector]
          exact .inl rfl
        | some r' =>
          have hconnector : Reach.Next .connector joined c cs r' := .follow (by simp) hk hp hf
          rw [Reach.follow?_eq_start_of_isGap rfl hf] at hconnector
          rw [takeSegment_cons_of_next hconnector]
          exact .inr ⟨c, cs, rfl, rfl⟩

/-- What a segment that starts with a blank takes in is segments of its own. Behind the blank it
goes on like a segment that starts there; only marks behind a connector need a look of their own. -/
theorem segments_behind_blank {b : Char} (hb : Gap b) (cs : List Char) :
    segments (takeSegment (Reach.start b) (wordClass b == .joiner) cs).2 <:+ segments cs := by
  rw [beq_eq_false_iff_ne.2 (hb.wordClass_ne (k := .joiner) rfl)]
  have hgap := Reach.isGap_start hb
  generalize Reach.start b = r at hgap ⊢
  cases cs with
  | nil => exact List.suffix_refl _
  | cons c cs =>
    cases h : r.next? false c cs with
    | none => simp only [takeSegment_cons_of_none h, List.suffix_refl]
    | some r' =>
      have hnext := Reach.next?_eq_some_iff.1 h
      rw [takeSegment_cons_of_next hnext, segments_cons]
      show segments (takeSegment r' (wordClass c == .joiner) cs).2 <:+ _
      rcases hnext.eq_start_of_isGap hgap with hr' | ⟨hr', hwhole⟩
      · rw [hr']
        exact List.suffix_cons _ _
      · rw [hr', hwhole]
        rcases takeSegment_connector (wordClass c == .joiner) cs with h | ⟨d, rest, hrest, h⟩
        · rw [h]
          exact List.suffix_cons _ _
        · -- two segments of the rest: the marks, and what the connector takes in behind them
          rw [h, hrest, segments_cons]
          exact (List.suffix_cons _ _).trans (List.suffix_cons _ _)

/-! ## Words without blanks -/

/-- The segments with a letter or digit. -/
def wordSegments (cs : List Char) : List (List Char) :=
  (segments cs).filter (·.any isAlphanumeric)

/-- No word of the text holds a blank. -/
def Unbroken (cs : List Char) : Prop := ∀ s ∈ wordSegments cs, ∀ c ∈ s, isBlank c = false

theorem Unbroken.not_word_of_blank {cs s : List Char} (h : Unbroken cs) (hs : s ∈ segments cs)
    {b : Char} (hb : isBlank b = true) (hmem : b ∈ s) : s.any isAlphanumeric = false := by
  rw [← Bool.not_eq_true]
  intro hword
  have := h s (List.mem_filter.2 ⟨hs, hword⟩) b hmem
  rw [hb] at this
  cases this

/-- Where no word runs over it, a blank cuts the words of a text in two. -/
theorem wordSegments_at_blank {w rest : List Char} {b : Char} (hb : isBlank b = true)
    (h : Unbroken (w ++ b :: rest)) :
    wordSegments (w ++ b :: rest) = wordSegments w ++ wordSegments (b :: rest) := by
  rcases segments_at_blank w (gap_of_isBlank hb) rest with
    hcut | ⟨init, last, first, more, hw, hrest, hcut⟩
  · rw [wordSegments, hcut, List.filter_append]
    rfl
  · -- the segment across the cut is no word, so neither part of it is one
    have hacross : (last ++ b :: first).any isAlphanumeric = false :=
      h.not_word_of_blank (by simp [hcut]) hb (by simp)
    obtain ⟨hlast, hfirst⟩ : last.any isAlphanumeric = false ∧
        (b :: first).any isAlphanumeric = false := by
      rwa [List.any_append, Bool.or_eq_false_iff] at hacross
    simp only [wordSegments, hw, hrest, hcut, List.filter_append, List.filter_cons, hacross, hlast,
      hfirst, Bool.false_eq_true, if_false, List.filter_nil, List.append_nil]

/-- Where no word runs over it, a blank in front of a text adds nothing to its words. The segment
that it starts is no word, so neither is anything that the segment took in. -/
theorem wordSegments_behind_blank {cs : List Char} {b : Char} (hb : isBlank b = true)
    (h : Unbroken (b :: cs)) : wordSegments (b :: cs) = wordSegments cs := by
  obtain ⟨front, hfront⟩ := segments_behind_blank (gap_of_isBlank hb) cs
  have hcons := segments_cons b cs
  have htaken := takeSegment_append (Reach.start b) (wordClass b == .joiner) cs
  generalize takeSegment (Reach.start b) (wordClass b == .joiner) cs = split at hfront hcons htaken
  -- the first segment holds the blank, so there is no word in what it takes in
  have hfirst : (b :: split.1).any isAlphanumeric = false :=
    h.not_word_of_blank (by simp [hcons]) hb (by simp)
  have hflat : front.flatten = split.1 := by
    have := congrArg List.flatten hfront
    rw [List.flatten_append, flatten_segments, flatten_segments, ← htaken] at this
    exact List.append_cancel_right this
  have hfilter : front.filter (·.any isAlphanumeric) = [] := by
    refine List.filter_eq_nil_iff.2 fun s hs hword => ?_
    obtain ⟨c, hc, halnum⟩ := List.any_eq_true.1 hword
    have hmem : c ∈ split.1 := hflat ▸ List.mem_flatten_of_mem hs hc
    have := List.any_eq_false.1 hfirst c (List.mem_cons_of_mem _ hmem)
    exact this halnum
  rw [wordSegments, wordSegments, ← hfront, hcons, List.filter_cons, if_neg (by simp [hfirst]),
    List.filter_append, hfilter, List.nil_append]

end TextQuery.Text

namespace TextQuery.Query

open Text (isBlank isAlphanumeric wordSegments Unbroken)

/-! ## Queries of words alone -/

theorem tokens_ne_nil_iff {text : String} :
    tokens text ≠ [] ↔ ∃ c ∈ text.toList, isAlphanumeric c = true := by
  have hmap : tokens text ≠ [] ↔ wordSegments text.toList ≠ [] := by
    rw [Ne, ← List.map_eq_nil_iff (f := Token.text), map_text_tokens, List.map_eq_nil_iff]
    rfl
  rw [hmap]
  constructor
  · intro h
    obtain ⟨s, hs⟩ := List.exists_mem_of_ne_nil _ h
    obtain ⟨hs, hword⟩ := List.mem_filter.1 hs
    obtain ⟨c, hc, halnum⟩ := List.any_eq_true.1 hword
    refine ⟨c, ?_, halnum⟩
    rw [← Text.flatten_segments text.toList]
    exact List.mem_flatten_of_mem hs hc
  · intro h
    obtain ⟨s, hs, hword⟩ := exists_word_segment (List.any_eq_true.2 h)
    exact List.ne_nil_of_mem (List.mem_filter.2 ⟨hs, hword⟩)

theorem unbroken_of_tokens {text : String}
    (h : ∀ t ∈ tokens text, ∀ c ∈ t.text.toList, isBlank c = false) : Unbroken text.toList := by
  intro s hs
  have hmem : String.ofList s ∈ (tokens text).map Token.text := by
    rw [map_text_tokens]
    exact List.mem_map_of_mem hs
  obtain ⟨t, ht, htext⟩ := List.mem_map.1 hmem
  have := h t ht
  rwa [htext, String.toList_ofList] at this

/-- A word runs up to the next blank, parenthesis or quote. -/
theorem ReadsAs.of_word {cs rest : List Char} {text : String} (h : ReadsAs cs (.word text) rest) :
    cs = text.toList ++ rest ∧ text.toList ≠ [] ∧ (∀ c ∈ text.toList, endsWord c = false) ∧
      Delimited rest := by
  generalize hl : Lexeme.word text = l at h
  cases h with
  | word hplus hminus hc hrest =>
    rw [Lexeme.ofWord_eq_word hl.symm, String.toList_ofList]
    exact ⟨rfl, by simp, hc, hrest⟩
  | _ => cases hl

/-- Between words there is nothing but blanks. -/
theorem Spells.isBlank_head {c : Char} {cs : List Char} {ls : List Lexeme} (h : Spells (c :: cs) ls)
    (hwords : ∀ l ∈ ls, ∃ text, l = .word text) (hc : endsWord c = true) : isBlank c = true := by
  cases h with
  | blank hc h => exact hc
  | read hr h =>
    obtain ⟨text, rfl⟩ := hwords _ (List.mem_cons_self ..)
    obtain ⟨hcs, hne, htext, -⟩ := hr.of_word
    -- a word does not begin with what ends it
    obtain ⟨d, ds, hd⟩ := List.exists_cons_of_ne_nil hne
    rw [hd, List.cons_append] at hcs
    have := htext d (hd ▸ List.mem_cons_self ..)
    rw [← (List.cons.inj hcs).1, hc] at this
    cases this

/-- Where no word of the text runs over a blank, the tokens of its lexemes are its own. Induction on
the lexemes: behind each word the text is cut, and blanks in front of the next one are dropped. -/
theorem flatMap_texts_of_spells {cs : List Char} {ls : List Lexeme} (h : Spells cs ls)
    (hwords : ∀ l ∈ ls, ∃ text, l = .word text) (hcs : Unbroken cs) :
    ls.flatMap Lexeme.texts = (wordSegments cs).map String.ofList := by
  induction h with
  | nil => simp [wordSegments]
  | blank hc h ih =>
    have hword := Text.wordSegments_behind_blank hc hcs
    rw [Unbroken, hword] at hcs
    rw [hword, ih hwords hcs]
  | @read cs rest l ls hr h ih =>
    obtain ⟨⟨text, rfl⟩, htail⟩ := List.forall_mem_cons.1 hwords
    obtain ⟨rfl, -, -, hrest⟩ := hr.of_word
    -- a blank or the end of the text stands behind the word
    have hcut : wordSegments (text.toList ++ rest) =
        wordSegments text.toList ++ wordSegments rest := by
      cases rest with
      | nil => simp [wordSegments]
      | cons c rest =>
        exact Text.wordSegments_at_blank (h.isBlank_head htail (hrest c rfl)) hcs
    have hunbroken : Unbroken rest := fun s hs =>
      hcs s (hcut ▸ List.mem_append_right _ hs)
    rw [List.flatMap_cons, ih htail hunbroken, hcut, List.map_append, Lexeme.texts, map_text_tokens]
    rfl

/-- The letters and digits of a query of words stand in its words. -/
theorem exists_isAlphanumeric_of_spells {cs : List Char} {ls : List Lexeme} (h : Spells cs ls)
    (hwords : ∀ l ∈ ls, ∃ text, l = .word text) :
    (∃ l ∈ ls, l.hasToken = true) ↔ ∃ c ∈ cs, isAlphanumeric c = true := by
  induction h with
  | nil => simp
  | blank hc h ih => simp [ih hwords, (Text.gap_of_isBlank hc).isAlphanumeric]
  | read hr h ih =>
    obtain ⟨⟨text, rfl⟩, htail⟩ := List.forall_mem_cons.1 hwords
    obtain ⟨rfl, -, -, -⟩ := hr.of_word
    have htoken : (Lexeme.word text).hasToken = true ↔ tokens text ≠ [] := by simp [Lexeme.hasToken]
    simp only [List.mem_cons, List.mem_append, or_and_right, exists_or, exists_eq_left, htoken,
      tokens_ne_nil_iff, ih htail]

/-! ## Compiling words alone -/

/-- Words open no group and leave nothing hanging. -/
theorem Stack.run_words {g : Group} (hm : g.modifier = none) (hj : g.joiner = none)
    {ps : List Placed} (hwords : ∀ p ∈ ps, ∃ text, p.lexeme = .word text) :
    ∃ g' : Group, Stack.run ⟨g, []⟩ ps = .ok ⟨g', []⟩ ∧ g'.modifier = none ∧ g'.joiner = none ∧
      g'.opened = g.opened := by
  induction ps generalizing g with
  | nil => exact ⟨g, rfl, hm, hj, rfl⟩
  | cons p ps ih =>
    obtain ⟨⟨text, hp⟩, hwords⟩ := List.forall_mem_cons.1 hwords
    obtain ⟨g', hrun, hm', hj', hopen⟩ :=
      ih (g.addClause_modifier (compileWord text)) (g.addClause_joiner (compileWord text)) hwords
    refine ⟨g', ?_, hm', hj', hopen.trans (g.addClause_opened _)⟩
    rw [Stack.run, Stack.step, hp]
    exact hrun

/-- Words compile to a tree exactly when one of them holds a token, and otherwise there is nothing
to search for. -/
theorem compile_words {ps : List Placed} (hwords : ∀ p ∈ ps, ∃ text, p.lexeme = .word text) :
    ((∃ l ∈ ps.map Placed.lexeme, l.hasToken = true) → ∃ n, compile ps = .ok n) ∧
      ((¬ ∃ l ∈ ps.map Placed.lexeme, l.hasToken = true) →
        compile ps = .error ⟨.emptyQuery, none⟩) := by
  obtain ⟨g, hrun, hm, hj, hopen⟩ := Stack.run_words (g := { opened := none }) rfl rfl hwords
  have hholds := (Stack.run_tokens hrun).2
  -- nothing can be left hanging, so the only fault is that there is no tree
  have hclose : g.close = .ok g.tree? := Group.close_eq_ok_iff.2 ⟨hm, hj, .inr hopen, rfl⟩
  have hcompile : compile ps = Stack.finish ⟨g, []⟩ := by
    unfold compile
    rw [show Stack.run {} ps = _ from hrun]
  rw [← hholds, hcompile]
  simp only [Stack.Holds, List.not_mem_nil, false_and, exists_false, or_false, Stack.finish, hclose,
    ← Group.tree?_isSome]
  cases g.tree? <;> simp

theorem not_isBlank_of_mem_texts {cs : List Char} {ls : List Lexeme} (h : Spells cs ls)
    (hwords : ∀ l ∈ ls, ∃ text, l = .word text) {word : String}
    (hword : word ∈ ls.flatMap Lexeme.texts) : ∀ c ∈ word.toList, isBlank c = false := by
  intro c hc
  obtain ⟨l, hl, hmem⟩ := List.mem_flatMap.1 hword
  obtain ⟨text, rfl⟩ := hwords l hl
  exact (endsWord_eq_false_iff.1 (h.lexical _ hl c ((infix_of_mem_texts hmem).mem hc))).1

/-- **Words of a query and words of a text.** A query that holds nothing but words has nothing to
search for exactly when its text has no token. Otherwise it has a tree, whose words are the tokens
of the text exactly where no token holds a blank. -/
theorem parse_words_iff {query : String} {ps : List Placed} (hlex : lex query = .ok ps)
    (hwords : ∀ p ∈ ps, ∃ text, p.lexeme = .word text) :
    (parse query = .error ⟨⟨.emptyQuery, none⟩, query⟩ ↔ tokens query = []) ∧
      (tokens query ≠ [] → ∃ n, parse query = .ok n ∧
        (n.leaves.flatMap Node.words = (tokens query).map Token.text ↔
          ∀ t ∈ tokens query, ∀ c ∈ t.text.toList, isBlank c = false)) := by
  have hls : ∀ l ∈ ps.map Placed.lexeme, ∃ text, l = .word text := by
    intro l hl
    obtain ⟨p, hp, rfl⟩ := List.mem_map.1 hl
    exact hwords p hp
  have hspells := spells_of_lex hlex
  have hparse := parse_eq query
  simp only [hlex] at hparse
  obtain ⟨htree, hnone⟩ := compile_words hwords
  rw [exists_isAlphanumeric_of_spells hspells hls, ← tokens_ne_nil_iff] at htree hnone
  refine ⟨⟨fun herror => ?_, fun htokens => ?_⟩, fun htokens => ?_⟩
  · refine Classical.not_not.1 fun htokens => ?_
    obtain ⟨n, hn⟩ := htree htokens
    simp [hparse, hn] at herror
  · rw [hparse, hnone (not_not_intro htokens)]
  · obtain ⟨n, hn⟩ := htree htokens
    refine ⟨n, by rw [hparse, hn], ?_⟩
    rw [words_of_compile hn]
    constructor
    · -- no lexeme holds a blank, so if the words are the tokens, neither does a token
      intro hwhole t ht
      refine not_isBlank_of_mem_texts hspells hls ?_
      rw [hwhole]
      exact List.mem_map_of_mem ht
    · intro hblank
      rw [flatMap_texts_of_spells hspells hls (unbroken_of_tokens hblank), map_text_tokens]
      rfl

/-- `can't _\u202f_ 3.14`: inner punctuation, and a segment across a blank that is no word. -/
theorem parse_words_across_narrow_blank :
    let query := "can't _\u202f_ 3.14"
    let ps : List Placed :=
      [⟨.word "can't", 0⟩, ⟨.word "_", 6⟩, ⟨.word "_", 10⟩, ⟨.word "3.14", 12⟩]
    lex query = .ok ps ∧ (∀ p ∈ ps, ∃ text, p.lexeme = .word text) ∧ tokens query ≠ [] ∧
      ∃ n, parse query = .ok n ∧ n.leaves.flatMap Node.words = (tokens query).map Token.text :=
  have hlex := Node.eq_ok_of_toOption (by decide +kernel)
  have hwords := by simp
  have htokens := by decide +kernel
  have hblank : (tokens "can't _\u202f_ 3.14").all (·.text.toList.all (!isBlank ·)) = true := by
    decide +kernel
  have ⟨n, hn, hiff⟩ := (parse_words_iff hlex hwords).2 htokens
  ⟨hlex, hwords, htokens, n, hn, hiff.2 (by simpa using hblank)⟩

/-- The two ways of cutting a text into words differ at a narrow no-break space, which joins words
in a text and parts them in a query. -/
theorem not_forall_parse_words :
    ¬ ∀ (query : String) (ps : List Placed) (n : Node), lex query = .ok ps →
      (∀ p ∈ ps, ∃ text, p.lexeme = .word text) → parse query = .ok n →
      n.leaves.flatMap Node.words = (tokens query).map Token.text := by
  intro h
  have hread := h "a\u202fb" [⟨.word "a", 0⟩, ⟨.word "b", 4⟩] (.or [.term "a", .term "b"])
    (Node.eq_ok_of_toOption (by decide +kernel)) (by simp)
    (Node.eq_ok_of_toOption (by decide +kernel))
  exact absurd hread (by decide +kernel)

end TextQuery.Query
