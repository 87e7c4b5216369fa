import TextQuery.Proofs.Lexing
import TextQuery.Proofs.Tokenization
import TextQuery.Proofs.Trees

/-!
# Where lexemes stand

The lexemes of a query as stretches of its text:

* `Text.StandsAt` — a piece of a text at a byte offset.
* `Lexeme.sources` — the ways to write a lexeme; `Lexeme.Formed` — what a lexeme can be;
  `Lexeme.CanPrecede` — what may follow it. `ReadsAs.exists_source` finds these in one lexeme that
  is read, and `readsAs_of_source` reads a lexeme from one of its sources.
* `Tiled` — a text that is blanks and the sources of lexemes in turn, each at its offset.
  `lex_eq_ok_iff` — a query has the lexemes that tile it, and no others.
* `Tiled.pairwise_offset`, `Tiled.exists_standsAt` — what a tiling tells about the offsets.
* `tiles_of_lex` — all of it, for the lexemes of a query.
-/

namespace TextQuery

open Text (isBlank byteLength)

/-! ## Stretches of a text -/

namespace Text

/-- The piece stands in the text at the byte offset. -/
def StandsAt (text : String) (offset : Nat) (piece : String) : Prop :=
  ∃ before after, text = before ++ piece ++ after ∧ before.utf8ByteSize = offset

theorem standsAt_append (before : List Char) (piece : String) (after : List Char) :
    StandsAt (String.ofList (before ++ piece.toList ++ after)) (byteLength before) piece := by
  refine ⟨String.ofList before, String.ofList after, ?_, ?_⟩
  · rw [String.ofList_append, String.ofList_append, String.ofList_toList]
  · rw [String.utf8ByteSize_ofList, byteLength_eq_utf8Len]

namespace StandsAt

variable {text piece : String} {offset : Nat}

/-- Offsets of pieces are boundaries between characters. -/
theorem isValid (h : StandsAt text offset piece) : (String.Pos.Raw.mk offset).IsValid text := by
  obtain ⟨before, after, rfl, rfl⟩ := h
  refine String.Pos.Raw.isValid_iff_exists_append.2 ⟨before, piece ++ after, ?_, rfl⟩
  rw [String.append_assoc]

theorem lt_utf8ByteSize (h : StandsAt text offset piece) (hpiece : piece ≠ "") :
    offset < text.utf8ByteSize := by
  obtain ⟨before, after, rfl, rfl⟩ := h
  have hpos : 0 < piece.utf8ByteSize :=
    Nat.pos_of_ne_zero (mt String.utf8ByteSize_eq_zero_iff.1 hpiece)
  rw [String.utf8ByteSize_append, String.utf8ByteSize_append]
  omega

/-- What begins a piece stands where the piece does. -/
theorem left {more : String} (h : StandsAt text offset (piece ++ more)) :
    StandsAt text offset piece := by
  obtain ⟨before, after, rfl, rfl⟩ := h
  exact ⟨before, more ++ after, by simp only [String.append_assoc], rfl⟩

end StandsAt

end Text

namespace Query

open Text (StandsAt)

/-! ## The source of a lexeme -/

/-- The ways to write an operator. -/
def Operator.sources : Operator → List String
  | .and => ["AND", "&&"]
  | .or => ["OR", "||"]

/-- The ways to write a lexeme. -/
def Lexeme.sources : Lexeme → List String
  | .word text => [text]
  | .phrase content => ["\"" ++ content ++ "\""]
  | .operator op => op.sources
  | .modifier m => [m.spelling]
  | .openParen => ["("]
  | .closeParen => [")"]

/-- What the lexemes of a query can be: a word is not empty, holds neither blanks nor parentheses
nor quotes, does not start with a sign and is no keyword; a phrase holds no quote. -/
def Lexeme.Formed : Lexeme → Prop
  | .word text =>
    text ≠ "" ∧ (∀ c ∈ text.toList, isBlank c = false ∧ c ≠ '(' ∧ c ≠ ')' ∧ c ≠ '"') ∧
      (∀ c ∈ text.toList.head?, c ≠ '+' ∧ c ≠ '-') ∧ text ∉ keywords
  | .phrase content => '"' ∉ content.toList
  | .operator _ | .modifier _ | .openParen | .closeParen => True

/-- The lexeme can stand right in front of `rest`: a word, or what is written like one, does not run
on into it, and a sign finds its clause there. -/
def Lexeme.CanPrecede (rest : List Char) : Lexeme → Prop
  | .word _ | .operator _ | .modifier .not => Delimited rest
  | .modifier .plus | .modifier .minus => canModify rest = true
  | .phrase _ | .openParen | .closeParen => True

theorem Lexeme.Formed.ne_of_mem_sources {l : Lexeme} (h : l.Formed) {source : String}
    (hsource : source ∈ l.sources) : source ≠ "" := by
  cases l with
  | word text =>
    obtain rfl := List.mem_singleton.1 hsource
    exact h.1
  | phrase content =>
    obtain rfl := List.mem_singleton.1 hsource
    intro hempty
    have := congrArg String.toList hempty
    simp at this
  | operator op => revert source; cases op <;> decide
  | modifier m => revert source; cases m <;> decide
  | openParen => revert source; decide
  | closeParen => revert source; decide

/-- A text without what ends a word, read as a word: it is written as itself, also where it is a
keyword. -/
theorem Lexeme.source_ofWord {text : String} (hne : text ≠ "")
    (hchars : ∀ c ∈ text.toList, endsWord c = false)
    (hsign : ∀ c ∈ text.toList.head?, c ≠ '+' ∧ c ≠ '-') {rest : List Char}
    (hrest : Delimited rest) :
    (Lexeme.ofWord text).Formed ∧ (Lexeme.ofWord text).CanPrecede rest ∧
      text ∈ (Lexeme.ofWord text).sources := by
  unfold ofWord
  split
  · next hand => exact ⟨trivial, hrest, by simpa [sources, Operator.sources] using hand⟩
  · next hand =>
    split
    · next hor => exact ⟨trivial, hrest, by simpa [sources, Operator.sources] using hor⟩
    · next hor =>
      split
      · next hnot => exact ⟨trivial, hrest, by simpa [sources, Modifier.spelling] using hnot⟩
      · next hnot =>
        simp only [Bool.or_eq_true, beq_iff_eq, not_or] at hand hor hnot
        refine ⟨⟨hne, fun c hc => endsWord_eq_false_iff.1 (hchars c hc), hsign, ?_⟩, hrest,
          List.mem_singleton_self text⟩
        simp [keywords, hand, hor, hnot]

/-- A lexeme that is read is one that can be, it stands in one of its sources, and it may be
followed by what is left. -/
theorem ReadsAs.exists_source {text rest : List Char} {l : Lexeme} (h : ReadsAs text l rest) :
    l.Formed ∧ l.CanPrecede rest ∧ ∃ source ∈ l.sources, text = source.toList ++ rest := by
  cases h with
  | openParen rest => exact ⟨trivial, trivial, "(", by decide, rfl⟩
  | closeParen rest => exact ⟨trivial, trivial, ")", by decide, rfl⟩
  | plus hcan => exact ⟨trivial, hcan, "+", by decide, rfl⟩
  | minus hcan => exact ⟨trivial, hcan, "-", by decide, rfl⟩
  | @phrase content hq rest =>
    refine ⟨by simpa [Lexeme.Formed] using hq, trivial, _, List.mem_singleton_self _, ?_⟩
    simp
  | @word c cs rest hplus hminus hc hrest =>
    have hchars : (String.ofList (c :: cs)).toList = c :: cs := String.toList_ofList
    have hne : String.ofList (c :: cs) ≠ "" := by
      rw [Ne, ← String.toList_eq_nil_iff, hchars]
      exact List.cons_ne_nil c cs
    have hsign : ∀ d ∈ (String.ofList (c :: cs)).toList.head?, d ≠ '+' ∧ d ≠ '-' := by
      rw [hchars]
      rintro d ⟨⟩
      exact ⟨hplus, hminus⟩
    obtain ⟨hformed, hprecede, hsource⟩ :=
      Lexeme.source_ofWord hne (by rwa [hchars]) hsign hrest
    exact ⟨hformed, hprecede, _, hsource, by rw [hchars]⟩

/-- A text without what ends a word is read as a word or a keyword up to where a word ends. -/
theorem readsAs_ofWord {text : String} (hne : text ≠ "")
    (hchars : ∀ c ∈ text.toList, endsWord c = false)
    (hsign : ∀ c ∈ text.toList.head?, c ≠ '+' ∧ c ≠ '-') {rest : List Char}
    (hrest : Delimited rest) : ReadsAs (text.toList ++ rest) (.ofWord text) rest := by
  cases htext : text.toList with
  | nil => exact absurd (String.toList_eq_nil_iff.1 htext) hne
  | cons c cs =>
    rw [htext] at hchars hsign
    obtain ⟨hplus, hminus⟩ := hsign c rfl
    have hread := ReadsAs.word hplus hminus hchars hrest
    rwa [← htext, String.ofList_toList, htext] at hread

theorem readsAs_keyword {word : String} (h : word ∈ keywords) {rest : List Char}
    (hrest : Delimited rest) : ReadsAs (word.toList ++ rest) (.ofWord word) rest := by
  -- there are three keywords
  have hkeywords : (keywords.all fun k => k != "" &&
      k.toList.all fun c => !endsWord c && c != '+' && c != '-') = true := by decide
  have hword := List.all_eq_true.1 hkeywords word h
  simp only [Bool.and_eq_true, bne_iff_ne, List.all_eq_true, Bool.not_eq_true'] at hword
  obtain ⟨hne, hchars⟩ := hword
  refine readsAs_ofWord hne (fun c hc => (hchars c hc).1.1) (fun c hc => ?_) hrest
  have hmem := List.mem_of_mem_head? hc
  exact ⟨(hchars c hmem).1.2, (hchars c hmem).2⟩

/-- A lexeme is read from any of its sources, in front of a text that may follow it. Cases as in the
ways to read a lexeme. -/
theorem readsAs_of_source {l : Lexeme} {source : String} {rest : List Char} (hformed : l.Formed)
    (hprecede : l.CanPrecede rest) (hsource : source ∈ l.sources) :
    ReadsAs (source.toList ++ rest) l rest := by
  cases l with
  | word text =>
    obtain rfl := List.mem_singleton.1 hsource
    obtain ⟨hne, hchars, hsign, hkey⟩ := hformed
    -- a formed word is no keyword, so it is read back as a word
    have hword : Lexeme.ofWord source = .word source := by
      simp only [keywords, List.mem_cons, List.not_mem_nil, not_or] at hkey
      simp [Lexeme.ofWord, hkey]
    rw [← hword]
    exact readsAs_ofWord hne (fun c hc => endsWord_eq_false_iff.2 (hchars c hc)) hsign hprecede
  | phrase content =>
    obtain rfl := List.mem_singleton.1 hsource
    have hread := ReadsAs.phrase hformed rest
    simpa using hread
  | operator op =>
    -- an operator has two sources, the word and the symbol, and both are keywords
    have hop : ∀ source ∈ op.sources, source ∈ keywords ∧ Lexeme.ofWord source = .operator op := by
      cases op <;> decide
    obtain ⟨hkeyword, hword⟩ := hop source hsource
    rw [← hword]
    exact readsAs_keyword hkeyword hprecede
  | modifier m =>
    obtain rfl := List.mem_singleton.1 hsource
    cases m with
    | plus => exact .plus hprecede
    | minus => exact .minus hprecede
    | not => exact readsAs_keyword (by decide : "NOT" ∈ keywords) hprecede
  | openParen =>
    obtain rfl := List.mem_singleton.1 hsource
    exact .openParen rest
  | closeParen =>
    obtain rfl := List.mem_singleton.1 hsource
    exact .closeParen rest

/-! ## Lexemes side by side -/

/-- The text `rest`, which stands behind `before`, is blanks and sources of the lexemes in turn,
each at its offset. -/
inductive Tiled : List Char → List Char → List Placed → Prop where
  | done {before gap : List Char} (hgap : ∀ c ∈ gap, isBlank c = true) : Tiled before gap []
  | lexeme {before gap rest : List Char} {l : Lexeme} {source : String} {ps : List Placed}
      (hgap : ∀ c ∈ gap, isBlank c = true) (hformed : l.Formed) (hprecede : l.CanPrecede rest)
      (hsource : source ∈ l.sources) (h : Tiled (before ++ gap ++ source.toList) rest ps) :
      Tiled before (gap ++ source.toList ++ rest) (⟨l, byteLength (before ++ gap)⟩ :: ps)

theorem lexFrom_gap {gap : List Char} (hgap : ∀ c ∈ gap, isBlank c = true) (offset : Nat)
    (rest : List Char) : lexFrom offset (gap ++ rest) = lexFrom (offset + byteLength gap) rest := by
  induction gap generalizing offset with
  | nil => rfl
  | cons c gap ih =>
    obtain ⟨hc, hgap⟩ := List.forall_mem_cons.1 hgap
    rw [List.cons_append, lexFrom_blank hc, ih hgap, Text.byteLength_cons, Nat.add_assoc]

namespace Tiled

variable {before rest : List Char} {ps : List Placed}

theorem blank {c : Char} (hc : isBlank c = true) (h : Tiled (before ++ [c]) rest ps) :
    Tiled before (c :: rest) ps := by
  cases h with
  | done hgap => exact .done (List.forall_mem_cons.2 ⟨hc, hgap⟩)
  | @lexeme _ gap rest l source ps hgap hformed hprecede hsource h =>
    have hgap' : ∀ d ∈ c :: gap, isBlank d = true := List.forall_mem_cons.2 ⟨hc, hgap⟩
    rw [List.append_assoc before, List.singleton_append] at h ⊢
    exact .lexeme hgap' hformed hprecede hsource h

theorem le_offset (h : Tiled before rest ps) : ∀ p ∈ ps, byteLength before ≤ p.offset := by
  induction h with
  | done => simp
  | @lexeme before gap rest l source ps _ _ _ _ _ ih =>
    refine List.forall_mem_cons.2 ⟨?_, fun p hp => ?_⟩
    · rw [Text.byteLength_append]
      exact Nat.le_add_right _ _
    · have := ih p hp
      simp only [Text.byteLength_append] at this
      omega

/-- A lexeme starts behind the one in front of it. -/
theorem pairwise_offset (h : Tiled before rest ps) :
    (ps.map Placed.offset).Pairwise (· < ·) := by
  induction h with
  | done => exact .nil
  | @lexeme before gap rest l source ps _ hformed _ hsource h ih =>
    refine List.pairwise_cons.2 ⟨fun offset hoffset => ?_, ih⟩
    obtain ⟨p, hp, rfl⟩ := List.mem_map.1 hoffset
    have hle := h.le_offset p hp
    -- a source takes up a byte at least, so the next lexeme starts further on
    have hpos : 0 < byteLength source.toList := by
      refine Text.byteLength_pos fun hnil => hformed.ne_of_mem_sources hsource ?_
      exact String.toList_eq_nil_iff.1 hnil
    rw [Text.byteLength_append] at hle
    show byteLength (before ++ gap) < p.offset
    omega

theorem formed (h : Tiled before rest ps) : ∀ p ∈ ps, p.lexeme.Formed := by
  induction h with
  | done => simp
  | lexeme _ hformed _ _ _ ih => exact List.forall_mem_cons.2 ⟨hformed, ih⟩

/-- The source of a lexeme stands at its offset. -/
theorem exists_standsAt (h : Tiled before rest ps) :
    ∀ p ∈ ps, ∃ source ∈ p.lexeme.sources,
      StandsAt (String.ofList (before ++ rest)) p.offset source := by
  induction h with
  | done => simp
  | @lexeme before gap rest l source ps _ _ _ hsource _ ih =>
    refine List.forall_mem_cons.2 ⟨⟨source, hsource, ?_⟩, ?_⟩
    · have := Text.standsAt_append (before ++ gap) source rest
      simpa using this
    · simpa using ih

/-- A text is read as the lexemes that tile it. -/
theorem lexFrom_eq_ok (h : Tiled before rest ps) : lexFrom (byteLength before) rest = .ok ps := by
  induction h with
  | @done before gap hgap =>
    have := lexFrom_gap hgap (byteLength before) []
    rwa [List.append_nil, lexFrom_nil] at this
  | @lexeme before gap rest l source ps hgap hformed hprecede hsource h ih =>
    obtain ⟨c, cs, taken, htext, hc, hread⟩ :=
      (readsAs_of_source hformed hprecede hsource).readLexeme
    -- what the lexer takes up is the source, so it goes on behind it
    have htaken : taken = source.toList :=
      List.append_cancel_right ((readLexeme_append hread).1.trans htext.symm)
    subst htaken
    rw [List.append_assoc, lexFrom_gap hgap, htext, lexFrom_read hc hread]
    simp only [Text.byteLength_append] at ih ⊢
    simp only [ih]

end Tiled

/-- The lexer accepts only texts that lexemes tile. Induction along `lexFrom`: a blank goes to the
gap, and a lexeme is read from one of its sources. -/
theorem tiled_of_lexFrom {offset : Nat} {cs before : List Char} {ps : List Placed}
    (h : lexFrom offset cs = .ok ps) (hoffset : offset = byteLength before) :
    Tiled before cs ps := by
  fun_induction lexFrom offset cs generalizing before ps with
  | case1 offset =>
    obtain rfl := Except.ok.inj h
    exact .done (by simp)
  | case2 offset c cs hc ih => exact .blank hc (ih h (by simp [hoffset]))
  | case3 offset c cs hc problem hread => cases h
  | case4 offset c cs hc r hread fault hmore ih => cases h
  | case5 offset c cs hc r hread more hmore ih =>
    obtain rfl := Except.ok.inj h
    obtain ⟨hformed, hprecede, source, hsource, htext⟩ :=
      (readsAs_of_readLexeme (by simpa using hc) hread).exists_source
    have htaken : r.taken = source.toList :=
      List.append_cancel_right ((readLexeme_append hread).1.trans htext)
    have hrest : Tiled (before ++ [] ++ source.toList) r.rest more := by
      refine ih hmore ?_
      rw [hoffset, htaken, List.append_nil, Text.byteLength_append]
    -- the blanks in front, if any, went to the gap one by one
    have hnone : ∀ c ∈ ([] : List Char), isBlank c = true := by simp
    have hall := Tiled.lexeme hnone hformed hprecede hsource hrest
    rw [List.append_nil] at hall
    rw [htext, hoffset]
    exact hall

/-- A query has the lexemes that tile it, and no others. -/
theorem lex_eq_ok_iff {query : String} {ps : List Placed} :
    lex query = .ok ps ↔ Tiled [] query.toList ps := by
  unfold lex
  constructor
  · intro h
    split at h
    · next hlex =>
      obtain rfl := Except.ok.inj h
      exact tiled_of_lexFrom hlex rfl
    · cases h
  · intro h
    have hlex : lexFrom 0 query.toList = .ok ps := h.lexFrom_eq_ok
    rw [hlex]

/-- **The lexer loses nothing but blanks.** A query is blanks and the sources of its lexemes in
turn. The offsets of the lexemes are boundaries between characters, they increase, and the source of
each lexeme stands at its offset. -/
theorem tiles_of_lex {query : String} {ps : List Placed} (h : lex query = .ok ps) :
    Tiled [] query.toList ps ∧
      (ps.map Placed.offset).Pairwise (· < ·) ∧
      (∀ p ∈ ps, (String.Pos.Raw.mk p.offset).IsValid query ∧
        ∃ source ∈ p.lexeme.sources, StandsAt query p.offset source) ∧
      ∀ p ∈ ps, p.lexeme.Formed := by
  have htiled := lex_eq_ok_iff.1 h
  refine ⟨htiled, htiled.pairwise_offset, fun p hp => ?_, htiled.formed⟩
  obtain ⟨source, hsource, hstands⟩ := htiled.exists_standsAt p hp
  rw [List.nil_append, String.ofList_toList] at hstands
  exact ⟨hstands.isValid, source, hsource, hstands⟩

/-- A wide blank, a letter of two bytes, both spellings of an operator, a parenthesis in quotes and
a sign right behind one. -/
theorem tiles_of_lex_two_byte_letter :
    let query := "\u3000é AND \"x (y\"|| OR NOT(+b) "
    let ps : List Placed := [⟨.word "é", 3⟩, ⟨.operator .and, 6⟩, ⟨.phrase "x (y", 10⟩,
      ⟨.operator .or, 16⟩, ⟨.operator .or, 19⟩, ⟨.modifier .not, 22⟩, ⟨.openParen, 25⟩,
      ⟨.modifier .plus, 26⟩, ⟨.word "b", 27⟩, ⟨.closeParen, 28⟩]
    lex query = .ok ps ∧
      Tiled [] query.toList ps ∧
        (ps.map Placed.offset).Pairwise (· < ·) ∧
        (∀ p ∈ ps, (String.Pos.Raw.mk p.offset).IsValid query ∧
          ∃ source ∈ p.lexeme.sources, StandsAt query p.offset source) ∧
        ∀ p ∈ ps, p.lexeme.Formed :=
  have h := Node.eq_ok_of_toOption (by decide +kernel)
  ⟨h, tiles_of_lex h⟩

end Query

end TextQuery
