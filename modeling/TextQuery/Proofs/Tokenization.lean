import Mathlib.Data.String.Basic
import TextQuery.Proofs.Segmentation

/-!
# The tokens of a text

What the tokens of a text are, whatever cuts the text into segments:

* `Laid` — a text laid out as stretches without a letter or digit and words between them, with the
  token that each word becomes. The reader of tokens lays a text out like that: one token
  (`TokenStream.scan_place_eq_some`), hence all of them (`laid_tokensFrom`).
* `Laid.position_eq`, `Laid.exists_slice`, `Laid.exists_gap`, `Laid.existsUnique_covers` — what can
  be read off a layout about a token, about two tokens in a row and about a character.
* `TokenStream.Yields` — what a stream gives, one call after the other.
* `tokenizes_of_segmentation` — both together, for every cut of the text into segments.
-/

namespace TextQuery

open Text (isAlphanumeric isBlank byteLength)

/-! ## Slices by bytes -/

/-- The stretch of a text between two byte offsets. -/
def Text.slice (text : String) (start stop : Nat) : String :=
  String.Pos.Raw.extract text ⟨start⟩ ⟨stop⟩

theorem Text.byteLength_eq_utf8Len (cs : List Char) : byteLength cs = String.utf8Len cs := by
  induction cs with
  | nil => rfl
  | cons c cs ih => rw [byteLength_cons, String.utf8Len_cons, ih, Nat.add_comm]

theorem Text.byteLength_pos {cs : List Char} (h : cs ≠ []) : 0 < byteLength cs := by
  obtain ⟨c, cs, rfl⟩ := List.exists_cons_of_ne_nil h
  have := c.utf8Size_pos
  rw [byteLength_cons]
  omega

theorem Text.slice_append (before cs after : List Char) :
    slice (String.ofList (before ++ cs ++ after)) (byteLength before)
      (byteLength before + byteLength cs) = String.ofList cs := by
  rw [slice, byteLength_eq_utf8Len, byteLength_eq_utf8Len]
  exact String.extract_of_valid before cs after

/-! ## Layouts -/

/-- An element of two lists, one behind the other, stands in the first or in the second. -/
theorem append_eq_append_cons {α : Type} {as bs left right : List α} {c : α}
    (h : as ++ bs = left ++ c :: right) :
    (∃ more, as = left ++ c :: more ∧ right = more ++ bs) ∨
      ∃ inner, left = as ++ inner ∧ bs = inner ++ c :: right := by
  rcases List.append_eq_append_iff.1 h with ⟨inner, hl, hb⟩ | ⟨more, ha, hr⟩
  · exact .inr ⟨inner, hl, hb⟩
  · cases more with
    | nil => exact .inr ⟨[], by simpa using ha.symm, by simpa using hr.symm⟩
    | cons d more =>
      obtain ⟨rfl, rfl⟩ := List.cons.inj hr
      exact .inl ⟨more, ha, rfl⟩

/-- The text `rest`, which stands behind `before`, is laid out as the tokens from `position` on:
each is a word with a letter or digit, and there is none between them. -/
inductive Laid : Nat → List Char → List Char → List Token → Prop where
  | done {position : Nat} {before gap : List Char} (hgap : gap.any isAlphanumeric = false) :
      Laid position before gap []
  | token {position : Nat} {before gap word rest : List Char} {ts : List Token}
      (hgap : gap.any isAlphanumeric = false) (hword : word.any isAlphanumeric = true)
      (h : Laid (position + 1) (before ++ gap ++ word) rest ts) :
      Laid position before (gap ++ word ++ rest)
        (⟨String.ofList word, position, byteLength (before ++ gap),
          byteLength (before ++ gap) + byteLength word, position > 0 && !gap.any isBlank⟩ :: ts)

/-- The character `c`, in front of which `left` stands, lies in the token. -/
def Token.Covers (t : Token) (left : List Char) (c : Char) : Prop :=
  t.start ≤ Text.byteLength left ∧ Text.byteLength left + c.utf8Size ≤ t.stop

/-- One token: the segments before it hold neither letter nor digit, and decide whether it is
joined. -/
theorem TokenStream.scan_place_eq_some {position start : Nat} {blank : Bool}
    {css : List (List Char)} {t : Token} {rest : List Segment}
    (h : scan position blank (Segment.place start css) = some (t, rest)) :
    ∃ gap word after, css = gap ++ word :: after ∧ gap.flatten.any isAlphanumeric = false ∧
      word.any isAlphanumeric = true ∧
      rest = Segment.place (start + byteLength gap.flatten + byteLength word) after ∧
      t = ⟨String.ofList word, position, start + byteLength gap.flatten,
        start + byteLength gap.flatten + byteLength word,
        position > 0 && !(blank || gap.flatten.any isBlank)⟩ := by
  induction css generalizing start blank with
  | nil => cases h
  | cons cs css ih =>
    rw [Segment.place, scan] at h
    split at h
    · next hword =>
      obtain ⟨rfl, rfl⟩ := Prod.mk.inj (Option.some.inj h)
      exact ⟨[], cs, css, rfl, rfl, hword, rfl, by simp [Segment.toToken, Segment.stop]⟩
    · -- the segment is no word, so it goes to the gap, and its blanks count
      next hword =>
      obtain ⟨gap, word, after, rfl, hgap, hal, rfl, rfl⟩ := ih h
      have hcs : cs.any isAlphanumeric = false := Bool.eq_false_iff.2 hword
      refine ⟨cs :: gap, word, after, rfl, ?_, hal, ?_, ?_⟩
      · rw [List.flatten_cons, List.any_append, hcs, hgap]
        rfl
      · rw [List.flatten_cons, Text.byteLength_append, Nat.add_assoc start]
      · simp [Segment.hasBlank, Nat.add_assoc, Bool.or_assoc]

/-- Where no token is found the segments hold neither letter nor digit. -/
theorem TokenStream.scan_place_eq_none {position start : Nat} {blank : Bool}
    {css : List (List Char)} (h : scan position blank (Segment.place start css) = none) :
    css.flatten.any isAlphanumeric = false := by
  induction css generalizing start blank with
  | nil => rfl
  | cons cs css ih =>
    rw [Segment.place, scan] at h
    split at h
    · cases h
    · next hword =>
      have hcs : cs.any isAlphanumeric = false := Bool.eq_false_iff.2 hword
      rw [List.flatten_cons, List.any_append, hcs, ih h]
      rfl

/-- The reader of tokens lays out the text that the segments make up. Induction on the tokens: what
stands before each is a gap without letters and digits. -/
theorem laid_tokensFrom (position : Nat) (before : List Char) (css : List (List Char)) :
    Laid position before css.flatten
      (TokenStream.tokensFrom position (Segment.place (byteLength before) css)) := by
  generalize hsegs : Segment.place (byteLength before) css = segs
  fun_induction TokenStream.tokensFrom position segs generalizing before css with
  | case1 position segs t rest h ih =>
    rw [← hsegs] at h
    obtain ⟨gap, word, after, rfl, hgap, hword, rfl, rfl⟩ := TokenStream.scan_place_eq_some h
    have hplace : byteLength (before ++ gap.flatten ++ word) =
        byteLength before + byteLength gap.flatten + byteLength word := by
      simp only [Text.byteLength_append]
    have hafter := ih (before ++ gap.flatten ++ word) after (by rw [hplace])
    have hlaid : Laid position before (gap.flatten ++ word ++ after.flatten) _ :=
      .token hgap hword hafter
    simpa using hlaid
  | case2 position segs h =>
    rw [← hsegs] at h
    exact .done (TokenStream.scan_place_eq_none h)

namespace Laid

variable {position : Nat} {before rest : List Char} {ts : List Token}

theorem position_eq (h : Laid position before rest ts) {i : Nat} {t : Token}
    (ht : ts[i]? = some t) : t.position = position + i := by
  induction h generalizing i with
  | done _ => cases ht
  | token _ _ _ ih =>
    cases i with
    | zero =>
      obtain rfl := Option.some.inj ht
      rfl
    | succ i =>
      rw [List.getElem?_cons_succ] at ht
      rw [ih ht]
      omega

/-- A token stands in the text where it says, and its text is what stands there. Induction on the
layout. -/
theorem exists_slice (h : Laid position before rest ts) {t : Token} (ht : t ∈ ts) :
    ∃ left right, before ++ rest = left ++ t.text.toList ++ right ∧ before <+: left ∧
      t.start = byteLength left ∧ t.stop = byteLength left + byteLength t.text.toList ∧
      t.text.toList ≠ [] := by
  induction h with
  | done _ => cases ht
  | @token position before gap word rest ts hgap hword h ih =>
    rcases List.mem_cons.1 ht with rfl | ht
    · refine ⟨before ++ gap, rest, by simp, List.prefix_append _ _, rfl, by simp, ?_⟩
      rw [String.toList_ofList]
      -- an empty word would have no letter or digit
      rintro rfl
      cases hword
    · obtain ⟨left, right, htext, hleft, hplace⟩ := ih ht
      refine ⟨left, right, by simpa using htext, ?_, hplace⟩
      rw [List.append_assoc] at hleft
      exact (List.prefix_append _ _).trans hleft

theorem le_start (h : Laid position before rest ts) {t : Token} (ht : t ∈ ts) :
    byteLength before ≤ t.start := by
  obtain ⟨left, right, -, ⟨more, rfl⟩, hstart, -, -⟩ := h.exists_slice ht
  rw [hstart, Text.byteLength_append]
  omega

/-- Between two tokens in a row lies the stretch that decides whether the second is joined: it is,
unless the stretch has a blank. Induction on the layout, down to the first of the two. -/
theorem exists_gap (h : Laid position before rest ts) {i : Nat} {t u : Token}
    (ht : ts[i]? = some t) (hu : ts[i + 1]? = some u) :
    ∃ left gap right, before ++ rest = left ++ gap ++ right ∧ t.stop = byteLength left ∧
      u.start = byteLength left + byteLength gap ∧ u.joined = !gap.any isBlank := by
  induction h generalizing i with
  | done _ => cases ht
  | @token position before gap word rest ts hgap hword h ih =>
    rw [List.getElem?_cons_succ] at hu
    cases i with
    | succ i =>
      rw [List.getElem?_cons_succ] at ht
      -- both tokens come later
      obtain ⟨left, between, right, htext, hplace⟩ := ih ht hu
      exact ⟨left, between, right, by simpa using htext, hplace⟩
    | zero =>
      obtain rfl := Option.some.inj ht
      cases h with
      | done _ => cases hu
      | @token _ _ gap' word' rest' ts' _ _ _ =>
        obtain rfl := Option.some.inj hu
        exact ⟨before ++ gap ++ word, gap', word' ++ rest', by simp, by simp [Nat.add_assoc],
          by simp [Nat.add_assoc], by simp⟩

theorem not_joined_head (h : Laid 0 before rest ts) {t : Token} (ht : ts[0]? = some t) :
    t.joined = false := by
  cases h with
  | done _ => cases ht
  | token _ _ _ =>
    obtain rfl := Option.some.inj ht
    rfl

/-- A letter or digit lies in one token and in no other. Induction on the layout: it is not in the
gap, so it is in the first token or behind it. -/
theorem existsUnique_covers (h : Laid position before rest ts) {left right : List Char} {c : Char}
    (hrest : rest = left ++ c :: right) (hc : isAlphanumeric c = true) :
    ∃! t, t ∈ ts ∧ t.Covers (before ++ left) c := by
  have hpos := c.utf8Size_pos
  induction h generalizing left with
  | done hgap => simp [hrest, hc] at hgap
  | @token position before gap word rest ts hgap hword h ih =>
    -- the character stands in the gap, in the word, or behind both
    rw [List.append_assoc] at hrest
    rcases append_eq_append_cons hrest with ⟨more, rfl, -⟩ | ⟨inner, rfl, hbehind⟩
    · simp [hc] at hgap
    rcases append_eq_append_cons hbehind with ⟨more, rfl, -⟩ | ⟨inner, rfl, rfl⟩
    · refine ⟨_, ⟨List.mem_cons_self, ?_⟩, ?_⟩
      · simp only [Token.Covers, Text.byteLength_append, Text.byteLength_cons]
        omega
      · -- a later token starts behind the word, and so behind the character
        rintro u ⟨hu, hstart, -⟩
        rcases List.mem_cons.1 hu with rfl | hu
        · rfl
        · have := h.le_start hu
          simp only [Text.byteLength_append, Text.byteLength_cons] at this hstart
          omega
    · obtain ⟨t, ⟨ht, hcov⟩, huniq⟩ := ih rfl
      simp only [List.append_assoc] at hcov huniq
      refine ⟨t, ⟨List.mem_cons_of_mem _ ht, hcov⟩, ?_⟩
      rintro u ⟨hu, hcov'⟩
      rcases List.mem_cons.1 hu with rfl | hu
      · -- the word ends in front of the character
        have hstop := hcov'.2
        simp only [Text.byteLength_append] at hstop
        omega
      · exact huniq u ⟨hu, hcov'⟩

end Laid

/-! ## Streams -/

/-- The stream gives these tokens, one a call, and then no more. -/
inductive TokenStream.Yields : TokenStream → List Token → Prop where
  | done {s s' : TokenStream} (h : s.next = (none, s')) : Yields s []
  | token {s s' : TokenStream} {t : Token} {ts : List Token} (h : s.next = (some t, s'))
      (hrest : Yields s' ts) : Yields s (t :: ts)

/-- Calls of `next` give the tokens of the stream in order, and then none. Induction on the tokens.
-/
theorem TokenStream.yields_toList (s : TokenStream) : s.Yields s.toList := by
  obtain ⟨field, pending, position⟩ := s
  show Yields _ (tokensFrom position pending)
  fun_induction tokensFrom position pending with
  | case1 position pending t rest h ih =>
    have hnext : next ⟨field, pending, position⟩ = (some t, ⟨field, rest, position + 1⟩) := by
      simp [next, h]
    exact .token hnext ih
  | case2 position pending h =>
    have hnext : next ⟨field, pending, position⟩ = (none, ⟨field, [], position⟩) := by
      simp [next, h]
    exact .done hnext

/-- What the tokens of a text have to be when it is cut into the segments. -/
structure Tokenizes (text : String) (segs : List Segment) (ts : List Token) : Prop where
  /-- The tokens are the segments with a letter or digit, in order. -/
  words : ts.map (fun t => (⟨t.start, t.text.toList⟩ : Segment)) =
    segs.filter fun s => s.chars.any isAlphanumeric
  numbered : ∀ (i : Nat) (t : Token), ts[i]? = some t → t.position = i
  sliced : ∀ t ∈ ts, t.start < t.stop ∧ t.stop = t.start + t.text.utf8ByteSize ∧
    t.text = Text.slice text t.start t.stop
  ordered : ∀ (i : Nat) (t u : Token), ts[i]? = some t → ts[i + 1]? = some u → t.stop ≤ u.start
  covered : ∀ left c right, text.toList = left ++ c :: right → isAlphanumeric c = true →
    ∃! t, t ∈ ts ∧ t.Covers left c
  /-- A token is joined if another one stands before it and no blank between them. -/
  joined : ∀ (i : Nat) (t : Token), ts[i]? = some t → (t.joined = true ↔
    ∃ (j : Nat) (prev : Token), i = j + 1 ∧ ts[j]? = some prev ∧
      ∀ c ∈ (Text.slice text prev.stop t.start).toList, isBlank c = false)

/-- The tokens are the words among the segments, each with its characters and where it starts. -/
theorem TokenStream.map_segment_tokensFrom (position : Nat) (segs : List Segment) :
    (tokensFrom position segs).map (fun t => (⟨t.start, t.text.toList⟩ : Segment)) =
      segs.filter Segment.isWord := by
  fun_induction tokensFrom position segs with
  | case1 position segs t rest h ih =>
    obtain ⟨s, joined, hfilter, rfl⟩ := filter_isWord_of_scan h
    simp [hfilter, Segment.toToken, ih]
  | case2 position segs h => simp [filter_isWord_of_scan_eq_none h]

/-- However a text is cut into segments, the tokens have all the properties of `Tokenizes`. They are
read off the layout. -/
theorem tokenizes_place {text : String} {css : List (List Char)} (h : css.flatten = text.toList) :
    Tokenizes text (Segment.place 0 css) (TokenStream.tokensFrom 0 (Segment.place 0 css)) := by
  have hlaid : Laid 0 [] text.toList (TokenStream.tokensFrom 0 (Segment.place 0 css)) := by
    rw [← h]
    exact laid_tokensFrom 0 [] css
  have hwords := TokenStream.map_segment_tokensFrom 0 (Segment.place 0 css)
  -- from here on the layout alone says where the tokens are
  generalize TokenStream.tokensFrom 0 (Segment.place 0 css) = ts at hlaid hwords ⊢
  have hslice {left cs right : List Char} (htext : text.toList = left ++ cs ++ right) :
      Text.slice text (byteLength left) (byteLength left + byteLength cs) = String.ofList cs := by
    rw [← Text.slice_append left cs right, ← htext, String.ofList_toList]
  refine ⟨hwords, fun i t ht => ?_, fun t ht => ?_, fun i t u ht hu => ?_,
    fun left c right htext hc => hlaid.existsUnique_covers htext hc, fun i t ht => ?_⟩
  · have := hlaid.position_eq ht
    omega
  · obtain ⟨left, right, htext, -, hstart, hstop, hne⟩ := hlaid.exists_slice ht
    have hpos := Text.byteLength_pos hne
    refine ⟨by omega, ?_, ?_⟩
    · rw [hstop, hstart, Text.byteLength_eq_utf8Len t.text.toList, String.utf8Len_toList]
    · rw [hstart, hstop, hslice htext, String.ofList_toList]
  · obtain ⟨left, gap, right, -, hstop, hstart, -⟩ := hlaid.exists_gap ht hu
    omega
  · cases i with
    | zero => simp [hlaid.not_joined_head ht]
    | succ i =>
      have hi : i < ts.length := by
        have := (List.getElem?_eq_some_iff.1 ht).1
        omega
      -- joined is about the gap to the token before, so that one has to be there
      obtain ⟨prev, hprev⟩ : ∃ prev, ts[i]? = some prev := ⟨_, List.getElem?_eq_getElem hi⟩
      obtain ⟨left, gap, right, htext, hstop, hstart, hjoined⟩ := hlaid.exists_gap hprev ht
      rw [hjoined]
      constructor
      · intro hblank
        refine ⟨i, prev, rfl, hprev, ?_⟩
        rw [hstop, hstart, hslice htext, String.toList_ofList]
        simpa using hblank
      · rintro ⟨j, prev', hj, hprev', hblank⟩
        obtain rfl : i = j := by omega
        obtain rfl : prev = prev' := by simpa [hprev] using hprev'
        rw [hstop, hstart, hslice htext, String.toList_ofList] at hblank
        simpa using hblank

/-- **The tokens of a text.** However a text is cut into segments, the calls of its stream give the
segments with a letter or digit as tokens, each with its number, its place and whether it is joined,
and then nothing more; so it is for the segments that words make. Empty segments would do no
harm. -/
theorem tokenizes_of_segmentation (field text : String) :
    (∃ ts, (TokenStream.ofText field text).Yields ts ∧ Tokenizes text (Segment.ofText text) ts) ∧
      ∀ css : List (List Char), css.flatten = text.toList →
        ∃ ts, TokenStream.Yields { field, pending := Segment.place 0 css } ts ∧
          Tokenizes text (Segment.place 0 css) ts := by
  have hgen (css : List (List Char)) (h : css.flatten = text.toList) :
      ∃ ts, TokenStream.Yields { field, pending := Segment.place 0 css } ts ∧
        Tokenizes text (Segment.place 0 css) ts :=
    ⟨_, TokenStream.yields_toList _, tokenizes_place h⟩
  exact ⟨hgen _ (Text.flatten_segments text.toList), hgen⟩

end TextQuery
