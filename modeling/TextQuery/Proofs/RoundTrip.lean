import TextQuery.Proofs.Leaves
import TextQuery.Proofs.Writing

/-!
# Reading, writing and reading again

A tree that was read from a query is canonical and its words are tokens. That is not yet enough to
read it again from its own query text:

* a modifier on a group that holds nothing but a modified clause ends up in front of the inner
  modifier, and two modifiers in a row are refused;
* a token that was quoted can hold a blank or a parenthesis, or begin with a sign, and is no longer
  quoted when it is a term;
* a token that begins with a mark sticks to the blank in front of it.

`parse_toQueryString_of_parse_iff` says that nothing else goes wrong. In one direction the leaves of
the tree are legible. In the other, the text that is read again has the leaves of the tree, so each
leaf is read as itself (`Node.relexed_eq_singleton`).
-/

namespace TextQuery.Query

open Text (isBlank isAlphanumeric)

namespace Node

/-- The words of the leaf are tokens without a quote. -/
def TokensAt (n : Node) : Prop :=
  ∀ w ∈ n.words, (tokens w).map Token.text = [w] ∧ '"' ∉ w.toList

/-- The leaf is written so that it can be read: a term has no blank and no parenthesis and does not
begin with a sign, the words of a phrase come apart again. -/
def PlainAt : Node → Prop
  | .term text =>
    (∀ c ∈ text.toList, isBlank c = false ∧ c ≠ '(' ∧ c ≠ ')') ∧
      text.toList.head? ≠ some '+' ∧ text.toList.head? ≠ some '-'
  | .phrase ws => (tokens (" ".intercalate ws)).map Token.text = ws
  | .and _ | .or _ | .not _ | .required _ => True

instance : DecidablePred PlainAt := fun n =>
  match n with
  | .term text =>
    decidable_of_iff (text.toList.all (fun c => !isBlank c && c != '(' && c != ')') = true ∧
        text.toList.head? ≠ some '+' ∧ text.toList.head? ≠ some '-')
      (by simp [PlainAt, and_assoc])
  | .phrase ws => inferInstanceAs (Decidable ((tokens (" ".intercalate ws)).map Token.text = ws))
  | .and _ | .or _ | .not _ | .required _ => inferInstanceAs (Decidable True)

/-- Each word of such a node is a token, so it holds an alphanumeric character. -/
theorem TokensAt.isAlphanumeric {n : Node} (h : n.TokensAt) {w : String} (hw : w ∈ n.words) :
    w.toList.any Text.isAlphanumeric = true := by
  have hself : w ∈ (tokens w).map Token.text := by simp [(h w hw).1]
  exact (mem_token_texts.1 hself).2

/-- For words that are tokens, legible means plain. That a word is not empty, has no quote and is a
token comes with being one. -/
theorem TokensAt.legibleAt_iff {n : Node} (h : n.TokensAt) : n.LegibleAt ↔ n.PlainAt := by
  cases n with
  | term text =>
    obtain ⟨htokens, hquote⟩ := h text (by simp [words])
    have hne : text ≠ "" := by
      rintro rfl
      simpa using h.isAlphanumeric (w := "") (by simp [words])
    constructor
    · rintro ⟨-, hchars, hplus, hminus, -⟩
      exact ⟨fun c hc => ⟨(hchars c hc).1, (hchars c hc).2.1, (hchars c hc).2.2.1⟩, hplus, hminus⟩
    · rintro ⟨hchars, hplus, hminus⟩
      refine ⟨hne, fun c hc => ⟨(hchars c hc).1, (hchars c hc).2.1, (hchars c hc).2.2, ?_⟩, hplus,
        hminus, htokens⟩
      rintro rfl
      exact hquote hc
  | phrase ws =>
    constructor
    · rintro ⟨-, htokens⟩
      exact htokens
    · intro htokens
      exact ⟨fun w hw => (h w hw).2, htokens⟩
  | _ => exact Iff.rfl

theorem everywhere_tokensAt_iff {n : Node} :
    n.Everywhere TokensAt ↔ ∀ leaf ∈ n.leaves, leaf.TokensAt := by
  refine everywhere_iff_leaves fun m hm => ?_
  cases m <;> simp [isLeaf, TokensAt, words] at hm ⊢

end Node

/-! ## A tree that was read -/

/-- A leaf of a lexeme has its words from the text of the lexeme. -/
theorem Lexeme.exists_text_of_mem_leaves {l : Lexeme} {leaf : Node} (h : leaf ∈ l.leaves)
    {w : String} (hw : w ∈ leaf.words) :
    ∃ text, (l = .word text ∨ l = .phrase text) ∧ w ∈ (tokens text).map Token.text := by
  have hmem : w ∈ l.texts := by
    rw [← flatMap_words_leaves]
    exact List.mem_flatMap.2 ⟨leaf, h, hw⟩
  cases l with
  | word text => exact ⟨text, .inl rfl, hmem⟩
  | phrase text => exact ⟨text, .inr rfl, hmem⟩
  | _ => simp [texts] at hmem

/-- The words of a tree that was read are tokens. -/
theorem tokensAt_of_spells {cs : List Char} {ls : List Lexeme} {n : Node} (hls : Spells cs ls)
    (hn : compile (unplaced ls) = .ok n) : n.Everywhere Node.TokensAt := by
  rw [Node.everywhere_tokensAt_iff, leaves_of_compile hn, map_lexeme_unplaced]
  intro leaf hleaf w hw
  obtain ⟨l, hl, hleaf⟩ := List.mem_flatMap.1 hleaf
  obtain ⟨text, hor, hmem⟩ := l.exists_text_of_mem_leaves hleaf hw
  refine ⟨tokens_of_mem_texts hmem, fun hquote => ?_⟩
  have hquote := (infix_of_mem_texts hmem).mem hquote
  have hlex := hls.lexical l hl
  rcases hor with rfl | rfl
  · simpa [endsWord] using hlex _ hquote
  · exact hlex hquote

/-! ## Quotes in a written tree -/

section
variable {P : List Char → Prop}

/-- Such texts can be put one behind the other with something between them that has no quote. -/
theorem quotesOnly_intercalate {sep : List Char} (hsep : '"' ∉ sep) {css : List (List Char)}
    (h : ∀ cs ∈ css, QuotesOnly P cs) : QuotesOnly P (sep.intercalate css) := by
  induction css with
  | nil => exact .nil
  | cons cs css ih =>
    have ih := ih fun ds hds => h ds (by simp [hds])
    cases css with
    | nil => simpa using h cs (by simp)
    | cons ds css =>
      rw [List.intercalate_cons_cons]
      exact ((h cs (by simp)).append (.of_not_mem hsep)).append ih

theorem quotesOnly_parenthesize {cs : List Char} (needed : Bool) (h : QuotesOnly P cs) :
    QuotesOnly P (Node.parenthesize needed cs) := by
  cases needed with
  | false => exact h
  | true => exact .other (by decide) (h.append (.of_not_mem (by decide)))

/-- What is in quotes when a tree is written: keywords and phrases. Induction on the tree, at every
place in it. -/
theorem quotesOnly_render (hkeyword : ∀ k ∈ keywords, P k.toList) {n : Node}
    (htokens : n.Everywhere Node.TokensAt)
    (hphrase : ∀ ws, .phrase ws ∈ n.leaves → P ([' '].intercalate (ws.map String.toList)))
    (place : Node.Place) : QuotesOnly P (n.render place) := by
  induction n using Node.childInduction generalizing place with
  | term text =>
    have hq : '"' ∉ text.toList := (htokens.self text (by simp [Node.words])).2
    rw [Node.render]
    split
    · -- a term is put in quotes only if it would be read as an operator or `NOT`
      next hk => exact .quoted hq (hkeyword text (by simpa using hk)) .nil
    · exact .of_not_mem hq
  | phrase ws =>
    have hq := quote_not_mem_intercalate fun w hw => (htokens.self w hw).2
    rw [Node.render]
    exact .quoted hq (hphrase ws (by simp)) .nil
  | not child ih =>
    rw [Node.render]
    exact .other (by decide) (ih (Node.everywhere_not.1 htokens).2 hphrase _)
  | required child ih =>
    rw [Node.render]
    exact .other (by decide) (ih (Node.everywhere_required.1 htokens).2 hphrase _)
  | and children ih =>
    rw [Node.render, Node.renderAll_eq_map]
    refine quotesOnly_parenthesize _ (quotesOnly_intercalate (by decide) fun cs hcs => ?_)
    obtain ⟨c, hc, rfl⟩ := List.mem_map.1 hcs
    refine ih c hc ((Node.everywhere_and.1 htokens).2 c hc) (fun ws hws => hphrase ws ?_) _
    rw [Node.leaves_and]
    exact List.mem_flatMap.2 ⟨c, hc, hws⟩
  | or children ih =>
    rw [Node.render, Node.renderAll_eq_map]
    refine quotesOnly_parenthesize _ (quotesOnly_intercalate (by decide) fun cs hcs => ?_)
    obtain ⟨c, hc, rfl⟩ := List.mem_map.1 hcs
    refine ih c hc ((Node.everywhere_or.1 htokens).2 c hc) (fun ws hws => hphrase ws ?_) _
    rw [Node.leaves_or]
    exact List.mem_flatMap.2 ⟨c, hc, hws⟩

end

/-! ## Terms that are read again -/

/-- Two words or more, each of them a token, are two tokens or more. -/
theorem two_le_tokens_of_phrase {ws : List String} (htwo : 2 ≤ ws.length)
    (h : (Node.phrase ws).TokensAt) :
    2 ≤ (tokens (String.ofList ([' '].intercalate (ws.map String.toList)))).length := by
  match ws, htwo with
  | w :: v :: ws, _ =>
    have hself : w ∈ (tokens w).map Token.text := by
      simp [(h w (by simp [Node.words])).1]
    have hv := h.isAlphanumeric (w := v) (by simp [Node.words])
    have hrest : ([' '].intercalate ((v :: ws).map String.toList)).any isAlphanumeric = true := by
      rw [List.map_cons, intercalate_cons, List.any_append, hv, Bool.true_or]
    have := two_le_length_tokens hself hrest
    simpa [List.intercalate_cons_cons] using this

/-- A term that is read from a written tree holds nothing that ends a word: it was not quoted, or it
is a keyword. -/
theorem not_endsWord_of_mem_leaves {n : Node} (hcanon : n.Canonical)
    (htokens : n.Everywhere Node.TokensAt) {ls : List Lexeme} (hls : Spells (n.render .top) ls)
    {l : Lexeme} (hl : l ∈ ls) {text : String} (hleaf : .term text ∈ l.leaves) :
    ∀ c ∈ text.toList, endsWord c = false := by
  -- what can stand in quotes: a keyword, or a phrase, which has two tokens or more
  let P (content : List Char) : Prop :=
    (∀ c ∈ content, endsWord c = false) ∨ 2 ≤ (tokens (String.ofList content)).length
  have hkeyword : ∀ k ∈ keywords, P k.toList := by
    have : ∀ k ∈ keywords, k.toList.all (!endsWord ·) = true := by decide
    intro k hk
    exact .inl (by simpa using this k hk)
  have hphrase (ws : List String) (hws : .phrase ws ∈ n.leaves) :
      P ([' '].intercalate (ws.map String.toList)) := by
    have hsub : .phrase ws ∈ n.subtrees := (List.mem_filter.1 hws).1
    exact .inr (two_le_tokens_of_phrase (hcanon _ hsub) (htokens _ hsub))
  obtain ⟨source, hor, hmem⟩ := l.exists_text_of_mem_leaves hleaf (w := text) (by simp [Node.words])
  have hchars : (∀ c ∈ source.toList, endsWord c = false) → ∀ c ∈ text.toList, endsWord c = false :=
    fun h c hc => h c ((infix_of_mem_texts hmem).mem hc)
  rcases hor with rfl | rfl
  · exact hchars (hls.lexical _ hl)
  · rcases hls.quoted (quotesOnly_render hkeyword htokens hphrase .top) source hl with hP | hP
    · exact hchars hP
    · -- two tokens make a phrase, not a term
      rw [Lexeme.leaves, leaves_compilePhrase, Option.mem_toList] at hleaf
      have hwords := (Node.leaves_of_phrase? hleaf).2
      rw [String.ofList_toList, ← List.length_map Token.text, ← hwords] at hP
      simp [Node.words] at hP

/-! ## Each leaf is read as itself -/

/-- The leaves of the query text of a leaf. -/
def Node.relexed (leaf : Node) : List Node := (leaf.spelled .top).flatMap Lexeme.leaves

theorem flatMap_leaves_enclose (needed : Bool) (ls : List Lexeme) :
    (enclose needed ls).flatMap Lexeme.leaves = ls.flatMap Lexeme.leaves := by
  cases needed <;> simp [enclose, Lexeme.leaves]

theorem flatMap_leaves_flatten (lss : List (List Lexeme)) :
    lss.flatten.flatMap Lexeme.leaves = lss.flatMap fun ls => ls.flatMap Lexeme.leaves := by
  induction lss with
  | nil => rfl
  | cons ls lss ih => simp [ih]

theorem flatMap_leaves_intercalate (lss : List (List Lexeme)) :
    ([.operator .and].intercalate lss).flatMap Lexeme.leaves =
      lss.flatMap fun ls => ls.flatMap Lexeme.leaves := by
  cases lss with
  | nil => rfl
  | cons ls lss => simp [intercalate_cons, List.flatMap_assoc, Lexeme.leaves]

/-- The text of a tree has the leaves of the texts of its leaves. Induction on the tree; signs,
operators and parentheses bring none. -/
theorem Node.flatMap_leaves_spelled (n : Node) (place : Place) :
    (n.spelled place).flatMap Lexeme.leaves = n.leaves.flatMap relexed := by
  induction n using Node.childInduction generalizing place with
  | term text => simp [relexed, spelled]
  | phrase ws => simp [relexed, spelled]
  | not child ih =>
    rw [spelled, List.flatMap_cons, ih, leaves_not]
    rfl
  | required child ih =>
    rw [spelled, List.flatMap_cons, ih, leaves_required]
    rfl
  | and children ih =>
    rw [spelled, flatMap_leaves_enclose, flatMap_leaves_intercalate, spelledAll_eq_map, leaves_and,
      List.flatMap_map, List.flatMap_assoc, List.flatMap_def, List.flatMap_def]
    exact congrArg List.flatten (List.map_congr_left fun c hc => ih c hc .conjunct)
  | or children ih =>
    rw [spelled, flatMap_leaves_enclose, flatMap_leaves_flatten, spelledAll_eq_map, leaves_or,
      List.flatMap_map, List.flatMap_assoc, List.flatMap_def, List.flatMap_def]
    exact congrArg List.flatten (List.map_congr_left fun c hc => ih c hc .disjunct)

/-- A list that is made up of what its elements turn into, at most one each, is unchanged. An
element that turned into nothing would leave the list shorter. -/
theorem eq_singleton_of_flatMap_eq {α : Type} {f : α → List α} {as : List α}
    (h : as.flatMap f = as) (hle : ∀ a ∈ as, (f a).length ≤ 1) : ∀ a ∈ as, f a = [a] := by
  -- no list gets longer
  have hlength (bs : List α) (hbs : ∀ b ∈ bs, (f b).length ≤ 1) :
      (bs.flatMap f).length ≤ bs.length := by
    induction bs with
    | nil => simp
    | cons b bs ih =>
      have hb := hbs b (by simp)
      have := ih fun c hc => hbs c (by simp [hc])
      simp only [List.flatMap_cons, List.length_append, List.length_cons]
      omega
  induction as with
  | nil => simp
  | cons a as ih =>
    obtain ⟨ha, has⟩ := List.forall_mem_cons.1 hle
    rw [List.flatMap_cons] at h
    rcases Node.nil_or_singleton_or_two_le (f a) with hnil | ⟨b, hb⟩ | htwo
    · -- with nothing for `a` the rest could not make up for it
      have hlen := congrArg List.length h
      have := hlength as has
      simp only [hnil, List.nil_append, List.length_cons] at hlen
      omega
    · rw [hb, List.singleton_append] at h
      obtain ⟨rfl, htail⟩ := List.cons.inj h
      exact List.forall_mem_cons.2 ⟨hb, ih htail has⟩
    · omega

theorem length_leaves_phrase (content : String) : (Lexeme.phrase content).leaves.length ≤ 1 := by
  rw [Lexeme.leaves, leaves_compilePhrase]
  cases Node.phrase? ((tokens content).map Token.text) <;> simp

/-- A word without blanks has at most one leaf. -/
theorem length_leaves_word {text : String} (h : ∀ c ∈ text.toList, isBlank c = false) :
    (Lexeme.word text).leaves.length ≤ 1 := by
  rw [Lexeme.leaves, compileWord_eq_compilePhrase h]
  exact length_leaves_phrase text

/-- Apart from the signs at its front, an unquoted term is one word. With a sign at its front that
word is shorter than the term. -/
theorem Node.exists_leaves_termLexemes (cs : List Char) :
    ∃ ds, ds <:+ cs ∧
      (termLexemes cs).flatMap Lexeme.leaves = (Lexeme.ofWord (String.ofList ds)).leaves ∧
      (cs.head? = some '+' ∨ cs.head? = some '-' → ds.length < cs.length) := by
  induction cs with
  | nil => exact ⟨[], List.suffix_refl _, by simp [termLexemes], by simp⟩
  | cons c cs ih =>
    obtain ⟨ds, hsub, hleaves, -⟩ := ih
    -- with one sign more in front the word is the same, and shorter than the text
    have hsigned : ds <:+ c :: cs ∧ ds.length < (c :: cs).length := by
      refine ⟨hsub.trans (List.suffix_cons c cs), ?_⟩
      have := hsub.length_le
      rw [List.length_cons]
      omega
    rw [termLexemes]
    split
    · exact ⟨ds, hsigned.1, hleaves, fun _ => hsigned.2⟩
    · next hplus =>
      split
      · exact ⟨ds, hsigned.1, hleaves, fun _ => hsigned.2⟩
      · next hminus =>
        refine ⟨c :: cs, List.suffix_refl _, by simp, fun hhead => ?_⟩
        simp only [List.head?_cons, Option.some.injEq] at hhead
        rcases hhead with h | h
        · exact absurd h hplus
        · exact absurd h hminus

theorem Lexeme.ofWord_eq_word {text source : String} (h : Lexeme.ofWord text = .word source) :
    source = text := by
  unfold ofWord at h
  split at h
  · cases h
  · split at h
    · cases h
    · split at h
      · cases h
      · exact (Lexeme.word.inj h).symm

/-- A word without blanks is one leaf at most, also where it is a keyword. -/
theorem length_leaves_ofWord {text : String} (h : ∀ c ∈ text.toList, isBlank c = false) :
    (Lexeme.ofWord text).leaves.length ≤ 1 := by
  cases hl : Lexeme.ofWord text with
  | word source =>
    rw [Lexeme.ofWord_eq_word hl]
    exact length_leaves_word h
  | phrase content => exact absurd hl (Lexeme.ofWord_ne_phrase text content)
  | _ => simp [Lexeme.leaves]

/-- A separable leaf is read as at most one leaf. -/
theorem Node.length_relexed {leaf : Node} (hleaf : leaf.isLeaf = true) (hsep : leaf.SeparableAt) :
    leaf.relexed.length ≤ 1 := by
  cases leaf with
  | term text =>
    rw [relexed, spelled]
    split
    · simpa using length_leaves_phrase text
    · obtain ⟨ds, hsub, hleaves, -⟩ := exists_leaves_termLexemes text.toList
      rw [hleaves]
      refine length_leaves_ofWord fun c hc => ?_
      rw [String.toList_ofList] at hc
      exact (endsWord_eq_false_iff.1 (hsep.1 c (hsub.mem hc))).1
  | phrase ws =>
    rw [relexed, spelled]
    simpa using length_leaves_phrase (" ".intercalate ws)
  | _ => cases hleaf

/-- A tree that is read from its own text has each leaf from its own text. -/
theorem Node.relexed_eq_singleton {n : Node} (hsep : n.Everywhere SeparableAt)
    (h : parse n.toQueryString = .ok n) : ∀ leaf ∈ n.leaves, leaf.relexed = [leaf] := by
  rw [parse_toQueryString_eq_ok_iff_compile hsep] at h
  have hleaves := leaves_of_compile h
  rw [map_lexeme_unplaced, flatMap_leaves_spelled] at hleaves
  -- the leaves are read leaf by leaf, so none can stand in for another
  refine eq_singleton_of_flatMap_eq hleaves.symm fun leaf hleaf => ?_
  obtain ⟨hsub, hleaf⟩ := List.mem_filter.1 hleaf
  exact length_relexed hleaf (hsep leaf hsub)

theorem head?_of_mem_keywords {text : String} (h : text ∈ keywords) :
    text.toList.head? ≠ some '+' ∧ text.toList.head? ≠ some '-' := by
  have : ∀ k ∈ keywords, k.toList.head? ≠ some '+' ∧ k.toList.head? ≠ some '-' := by decide
  exact this text h

/-- A leaf that is read as itself is plain. A sign in front of a term would be read on its own and
leave a shorter word, of which the term is no token. -/
theorem Node.plainAt_of_relexed {leaf : Node} (hsep : leaf.SeparableAt)
    (h : leaf.relexed = [leaf]) : leaf.PlainAt := by
  cases leaf with
  | term text =>
    refine ⟨fun c hc => ?_, ?_⟩
    · obtain ⟨hblank, hopen, hclose, -⟩ := endsWord_eq_false_iff.1 (hsep.1 c hc)
      exact ⟨hblank, hopen, hclose⟩
    rw [relexed, spelled] at h
    split at h
    · next hk => exact head?_of_mem_keywords (by simpa using hk)
    · obtain ⟨ds, -, hleaves, hshort⟩ := exists_leaves_termLexemes text.toList
      rw [hleaves] at h
      -- the term is a token of the word, so no sign was split off
      have hlong : text.toList.length ≤ ds.length := by
        have hmem : Node.term text ∈ (Lexeme.ofWord (String.ofList ds)).leaves := by simp [h]
        obtain ⟨source, hor, htext⟩ :=
          Lexeme.exists_text_of_mem_leaves hmem (w := text) (by simp [words])
        rcases hor with hword | hphrase
        · rw [Lexeme.ofWord_eq_word hword] at htext
          simpa using (infix_of_mem_texts htext).length_le
        · exact absurd hphrase (Lexeme.ofWord_ne_phrase _ _)
      constructor
      · intro hhead
        have := hshort (.inl hhead)
        omega
      · intro hhead
        have := hshort (.inr hhead)
        omega
  | phrase ws =>
    rw [relexed, spelled, List.flatMap_singleton, Lexeme.leaves, leaves_compilePhrase] at h
    have hphrase : phrase? ((tokens (" ".intercalate ws)).map Token.text) = some (.phrase ws) := by
      rw [← Option.mem_toList, h]
      simp
    exact (leaves_of_phrase? hphrase).2.symm
  | _ => trivial

/-! ## Which queries survive -/

/-- The leaves of a tree that is read from its own text can be told apart in it. They come from
lexemes of the text, which have nothing in them that ends a word, and a token is more than signs. -/
theorem Node.separableAt_of_parse {n : Node} (hcanon : n.Canonical)
    (htokens : n.Everywhere TokensAt) (h : parse n.toQueryString = .ok n) :
    n.Everywhere SeparableAt := by
  rw [everywhere_iff_leaves (by intro m hm; cases m <;> trivial)]
  intro leaf hleaf
  have htok : leaf.TokensAt := everywhere_tokensAt_iff.1 htokens leaf hleaf
  cases leaf with
  | term text =>
    obtain ⟨ls, hls, hn⟩ := parse_eq_ok_iff.1 h
    rw [toQueryString, String.toList_ofList] at hls
    rw [leaves_of_compile hn, map_lexeme_unplaced] at hleaf
    obtain ⟨l, hl, hleaf⟩ := List.mem_flatMap.1 hleaf
    refine ⟨not_endsWord_of_mem_leaves hcanon htokens hls hl hleaf, ?_⟩
    -- a token has a letter or digit, and no sign is one
    obtain ⟨c, hc, halnum⟩ := List.any_eq_true.1 (htok.isAlphanumeric (w := text) (by simp [words]))
    refine ⟨c, hc, ?_, ?_⟩
    · rintro rfl
      exact absurd halnum (by decide +kernel)
    · rintro rfl
      exact absurd halnum (by decide +kernel)
  | phrase ws => exact fun w hw => (htok w hw).2
  | _ => trivial

/-- **Which queries survive reading, writing and reading.** The tree of a query is read back from
its own query text exactly when no modifier stands directly in front of another and every leaf is
plain: no term has a blank or a parenthesis or begins with a sign, and the words of each phrase,
with single blanks between them, are its tokens. -/
theorem parse_toQueryString_of_parse_iff {query : String} {n : Node} (h : parse query = .ok n) :
    parse n.toQueryString = .ok n ↔
      n.Everywhere Node.UnstackedAt ∧ n.Everywhere Node.PlainAt := by
  obtain ⟨ls, hls, hn⟩ := parse_eq_ok_iff.1 h
  have hcanon : n.Canonical := canonical_of_compile hn
  have htokens : n.Everywhere Node.TokensAt := tokensAt_of_spells hls hn
  constructor
  · intro hback
    -- the lexemes of the text are known only once its leaves can be told apart
    have hsep := Node.separableAt_of_parse hcanon htokens hback
    refine ⟨unstacked_of_parse hsep hback, ?_⟩
    rw [Node.everywhere_iff_leaves (by intro m hm; cases m <;> trivial)]
    intro leaf hleaf
    exact Node.plainAt_of_relexed (hsep leaf (List.mem_filter.1 hleaf).1)
      (Node.relexed_eq_singleton hsep hback leaf hleaf)
  · rintro ⟨hstack, hplain⟩
    refine parse_toQueryString_of_legible hcanon hstack fun m hm => ?_
    exact (htokens m hm).legibleAt_iff.2 (hplain m hm)

/-- `foo-bar AND (+"NOT" -(baz "a b"))`: a compound, a keyword, and modifiers on a term and on a
group. -/
theorem parse_toQueryString_of_compound_and_keyword :
    let n : Node := .and [.phrase ["foo", "bar"],
      .or [.required (.term "NOT"), .not (.or [.term "baz", .phrase ["a", "b"]])]]
    parse "foo-bar AND (+\"NOT\" -(baz \"a b\"))" = .ok n ∧
      (parse n.toQueryString = .ok n ↔
        n.Everywhere Node.UnstackedAt ∧ n.Everywhere Node.PlainAt) :=
  have h := Node.eq_ok_of_toOption (by decide +kernel)
  ⟨h, parse_toQueryString_of_parse_iff h⟩

/-- Not every query survives: the tree of `-(-a)` is written `--a`, which is refused. -/
theorem not_forall_parse_toQueryString :
    ¬ ∀ (query : String) (n : Node), parse query = .ok n → parse n.toQueryString = .ok n := by
  intro h
  have hread : parse "-(-a)" = .ok (.not (.not (.term "a"))) :=
    Node.eq_ok_of_toOption (by decide +kernel)
  have hback : (parse (Node.not (.not (.term "a"))).toQueryString).toOption = none := by
    decide +kernel
  rw [h _ _ hread] at hback
  cases hback

end TextQuery.Query
