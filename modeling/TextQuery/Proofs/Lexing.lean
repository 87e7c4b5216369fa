import TextQuery.Proofs.Groups

/-!
# Texts and their lexemes

The lexer as a relation between texts and lexemes, without offsets and faults:

* `ReadsAs` — every way to read one lexeme at the front of a text, with what is left behind it;
  `readsAs_of_readLexeme` and `ReadsAs.readLexeme` tie it to `readLexeme`.
* `Spells` — a text and its lexemes, one after another with blanks in between; `spells_of_lexFrom`
  and `Spells.lexFrom` tie it to `lexFrom`.
* `parse_eq_ok_iff` — a query has the tree that its lexemes compile to.
* `Spells.lexical`, `Spells.quoted` — what words and phrases can hold, and which stretches of a text
  are read as phrases.
* `Spells.quotesOnly` — in a text that is read every quote is closed.
-/

namespace TextQuery.Query

open Text (isBlank)

/-! ## One lexeme -/

/-- No word runs on into the text. -/
def Delimited (cs : List Char) : Prop := ∀ c ∈ cs.head?, endsWord c = true

theorem delimited_of_head {c : Char} (hc : endsWord c = true) (cs : List Char) :
    Delimited (c :: cs) := by
  intro d hd
  obtain rfl := Option.some.inj hd
  exact hc

/-- The text begins with the lexeme, and `rest` is left. -/
inductive ReadsAs : List Char → Lexeme → List Char → Prop where
  | openParen (rest : List Char) : ReadsAs ('(' :: rest) .openParen rest
  | closeParen (rest : List Char) : ReadsAs (')' :: rest) .closeParen rest
  | plus {rest : List Char} (hcan : canModify rest = true) :
      ReadsAs ('+' :: rest) (.modifier .plus) rest
  | minus {rest : List Char} (hcan : canModify rest = true) :
      ReadsAs ('-' :: rest) (.modifier .minus) rest
  | phrase {content : List Char} (hq : '"' ∉ content) (rest : List Char) :
      ReadsAs ('"' :: content ++ '"' :: rest) (.phrase (String.ofList content)) rest
  | word {c : Char} {cs rest : List Char} (hplus : c ≠ '+') (hminus : c ≠ '-')
      (hc : ∀ d ∈ c :: cs, endsWord d = false) (hrest : Delimited rest) :
      ReadsAs (c :: cs ++ rest) (.ofWord (String.ofList (c :: cs))) rest

/-- A character goes on a word unless it is a blank, a parenthesis or a quote. -/
theorem endsWord_eq_false_iff {c : Char} :
    endsWord c = false ↔ isBlank c = false ∧ c ≠ '(' ∧ c ≠ ')' ∧ c ≠ '"' := by
  simp [endsWord, and_assoc]

theorem takeWhile_append_delimited {cs rest : List Char} (hcs : ∀ c ∈ cs, endsWord c = false)
    (hrest : Delimited rest) : (cs ++ rest).takeWhile (!endsWord ·) = cs := by
  rw [List.takeWhile_append_of_pos (by simpa using hcs)]
  cases rest with
  | nil => simp
  | cons c rest => simp [hrest c rfl]

theorem dropWhile_append_delimited {cs rest : List Char} (hcs : ∀ c ∈ cs, endsWord c = false)
    (hrest : Delimited rest) : (cs ++ rest).dropWhile (!endsWord ·) = rest := by
  rw [List.dropWhile_append_of_pos (by simpa using hcs)]
  cases rest with
  | nil => simp
  | cons c rest => simp [hrest c rfl]

/-- What the scan for a closing quote takes is the content of the phrase. -/
theorem takeWhile_append_quote {content : List Char} (hq : '"' ∉ content) (rest : List Char) :
    (content ++ '"' :: rest).takeWhile (· != '"') = content := by
  rw [List.takeWhile_append_of_pos (by grind)]
  simp

theorem dropWhile_append_quote {content : List Char} (hq : '"' ∉ content) (rest : List Char) :
    (content ++ '"' :: rest).dropWhile (· != '"') = '"' :: rest := by
  rw [List.dropWhile_append_of_pos (by grind)]
  simp

/-- The ways of `ReadsAs` are ways in which `readLexeme` reads. One case for each of them, by
computation; for phrases and words the scan takes what the constructor says. -/
theorem ReadsAs.readLexeme {text rest : List Char} {l : Lexeme} (h : ReadsAs text l rest) :
    ∃ c cs taken, text = c :: cs ∧ isBlank c = false ∧
      Query.readLexeme c cs = .ok ⟨l, taken, rest⟩ := by
  cases h with
  | openParen rest => exact ⟨'(', rest, _, rfl, by decide, rfl⟩
  | closeParen rest => exact ⟨')', rest, _, rfl, by decide, rfl⟩
  | plus hcan => exact ⟨'+', rest, ['+'], rfl, by decide, by simp [Query.readLexeme, hcan]⟩
  | minus hcan => exact ⟨'-', rest, ['-'], rfl, by decide, by simp [Query.readLexeme, hcan]⟩
  | @phrase content hq rest =>
    refine ⟨'"', content ++ '"' :: rest, '"' :: content ++ ['"'], rfl, by decide, ?_⟩
    simp [Query.readLexeme, readPhrase?, takeWhile_append_quote hq, dropWhile_append_quote hq]
  | @word c cs rest hplus hminus hc hrest =>
    obtain ⟨hc, hcs⟩ := List.forall_mem_cons.1 hc
    -- the first character of a word passes all the tests that come before the one for words
    obtain ⟨hblank, hopen, hclose, hquote⟩ := endsWord_eq_false_iff.1 hc
    refine ⟨c, cs ++ rest, c :: cs, rfl, hblank, ?_⟩
    simp [Query.readLexeme, hopen, hclose, hquote, hplus, hminus,
      takeWhile_append_delimited hcs hrest, dropWhile_append_delimited hcs hrest]

/-- A phrase that is read stands in quotes and has none in it: it is what the scan takes up to the
next quote. -/
theorem readsAs_of_readPhrase? {cs : List Char} {r : Reading} (h : readPhrase? cs = some r) :
    ReadsAs ('"' :: cs) r.lexeme r.rest := by
  unfold readPhrase? at h
  split at h
  · cases h
  · next quote rest hrest =>
    obtain rfl := Option.some.inj h
    have hsplit := List.takeWhile_append_dropWhile (p := (· != '"')) (l := cs)
    -- what stops the scan is a quote, and there is none in front of it
    have hquote : quote = '"' := by
      have := List.head?_dropWhile_not (· != '"') cs
      simpa [hrest] using this
    have hq : '"' ∉ cs.takeWhile (· != '"') := by
      intro hmem
      have := List.all_eq_true.1 (List.all_takeWhile (p := (· != '"')) (l := cs)) _ hmem
      simp at this
    rw [hrest, hquote] at hsplit
    have := ReadsAs.phrase hq rest
    rwa [List.cons_append, hsplit] at this

/-- From a character that begins a word, a word is read as far as the scan goes. -/
theorem readsAs_word {c : Char} (hc : endsWord c = false) (hplus : c ≠ '+') (hminus : c ≠ '-')
    (cs : List Char) :
    ReadsAs (c :: cs) (.ofWord (String.ofList (c :: cs.takeWhile (!endsWord ·))))
      (cs.dropWhile (!endsWord ·)) := by
  -- the scan takes only what goes on a word, and stops where one ends
  have hword : ∀ d ∈ c :: cs.takeWhile (!endsWord ·), endsWord d = false := by
    rw [List.forall_mem_cons]
    refine ⟨hc, fun d hd => ?_⟩
    have := List.all_eq_true.1 (List.all_takeWhile (p := (!endsWord ·)) (l := cs)) d hd
    simpa using this
  have hrest : Delimited (cs.dropWhile (!endsWord ·)) := by
    intro d hd
    have := List.head?_dropWhile_not (!endsWord ·) cs
    rw [Option.mem_def.1 hd] at this
    simpa using this
  have := ReadsAs.word hplus hminus hword hrest
  rwa [List.cons_append, List.takeWhile_append_dropWhile] at this

/-- A lexeme is read only in the ways of `ReadsAs`. With `ReadsAs.readLexeme` this is all that is
known of `readLexeme` from here on. -/
theorem readsAs_of_readLexeme {c : Char} {cs : List Char} {r : Reading} (hc : isBlank c = false)
    (h : readLexeme c cs = .ok r) : ReadsAs (c :: cs) r.lexeme r.rest := by
  -- the marks one after another, in the order in which they are looked for
  by_cases hquote : c = '"'
  · subst hquote
    simp only [readLexeme, beq_self_eq_true, if_true] at h
    split at h
    · next hr =>
      obtain rfl := Except.ok.inj h
      exact readsAs_of_readPhrase? hr
    · cases h
  by_cases hopen : c = '('
  · subst hopen
    obtain rfl := Except.ok.inj h
    exact .openParen cs
  by_cases hclose : c = ')'
  · subst hclose
    obtain rfl := Except.ok.inj h
    exact .closeParen cs
  by_cases hplus : c = '+'
  · subst hplus
    simp only [readLexeme, Char.reduceBEq, Bool.false_eq_true, if_false, beq_self_eq_true,
      if_true] at h
    split at h
    · next hcan =>
      obtain rfl := Except.ok.inj h
      exact .plus hcan
    · cases h
  by_cases hminus : c = '-'
  · subst hminus
    simp only [readLexeme, Char.reduceBEq, Bool.false_eq_true, if_false, beq_self_eq_true,
      if_true] at h
    split at h
    · next hcan =>
      obtain rfl := Except.ok.inj h
      exact .minus hcan
    · cases h
  -- none of the marks: a word
  have hends : endsWord c = false := endsWord_eq_false_iff.2 ⟨hc, hopen, hclose, hquote⟩
  have hr : readLexeme c cs =
      .ok ⟨.ofWord (String.ofList (c :: cs.takeWhile (!endsWord ·))),
        c :: cs.takeWhile (!endsWord ·), cs.dropWhile (!endsWord ·)⟩ := by
    simp [readLexeme, hquote, hopen, hclose, hplus, hminus]
  rw [hr] at h
  obtain rfl := Except.ok.inj h
  exact readsAs_word hends hplus hminus cs

/-! ## Lexemes of a text -/

theorem lexFrom_nil (offset : Nat) : lexFrom offset [] = .ok [] := by
  rw [lexFrom]

theorem lexFrom_blank {c : Char} (hc : isBlank c = true) (offset : Nat) (cs : List Char) :
    lexFrom offset (c :: cs) = lexFrom (offset + c.utf8Size) cs := by
  rw [lexFrom, if_pos hc]

/-- From any other character a lexeme is read, and then those of the rest. -/
theorem lexFrom_read {c : Char} (hc : isBlank c = false) {cs : List Char} {r : Reading}
    (hr : readLexeme c cs = .ok r) (offset : Nat) :
    lexFrom offset (c :: cs) =
      match lexFrom (offset + Text.byteLength r.taken) r.rest with
      | .error fault => .error fault
      | .ok more => .ok (⟨r.lexeme, offset⟩ :: more) := by
  rw [lexFrom, if_neg (by simp [hc])]
  split
  · next heq => rw [hr] at heq; cases heq
  · next r' heq =>
    rw [hr] at heq
    obtain rfl := Except.ok.inj heq
    rfl

/-- The text is read as these lexemes. -/
inductive Spells : List Char → List Lexeme → Prop where
  | nil : Spells [] []
  | blank {c : Char} {cs : List Char} {ls : List Lexeme} (hc : isBlank c = true)
      (h : Spells cs ls) : Spells (c :: cs) ls
  | read {cs rest : List Char} {l : Lexeme} {ls : List Lexeme} (hr : ReadsAs cs l rest)
      (h : Spells rest ls) : Spells cs (l :: ls)

/-- A word and a blank in front of a text spell the lexeme of the word in front of those of the
text. -/
theorem Spells.bareWord {c : Char} {cs rest : List Char} {ls : List Lexeme} (hplus : c ≠ '+')
    (hminus : c ≠ '-') (hword : (c :: cs).all (!endsWord ·) = true) (h : Spells rest ls) :
    Spells (c :: cs ++ ' ' :: rest) (.ofWord (String.ofList (c :: cs)) :: ls) := by
  have hchars : ∀ d ∈ c :: cs, endsWord d = false := by simpa using hword
  exact .read (.word hplus hminus hchars (delimited_of_head (by decide) rest)) (.blank (by decide) h)

/-- An operator between blanks spells the operator. -/
theorem Spells.operatorBetween (op : Operator) {rest : List Char} {ls : List Lexeme}
    (h : Spells rest ls) : Spells (' ' :: op.spelling.toList ++ ' ' :: rest) (.operator op :: ls) := by
  refine .blank (by decide) ?_
  cases op with
  | and =>
    have hword : Spells (['A', 'N', 'D'] ++ ' ' :: rest) (.operator .and :: ls) :=
      .bareWord (by decide) (by decide) (by decide) h
    exact hword
  | or =>
    have hword : Spells (['O', 'R'] ++ ' ' :: rest) (.operator .or :: ls) :=
      .bareWord (by decide) (by decide) (by decide) h
    exact hword

/-- A text is read as the same lexemes wherever it stands. -/
theorem Spells.lexFrom {cs : List Char} {ls : List Lexeme} (h : Spells cs ls) (offset : Nat) :
    ∃ ps, Query.lexFrom offset cs = .ok ps ∧ ps.map Placed.lexeme = ls := by
  induction h generalizing offset with
  | nil => exact ⟨[], lexFrom_nil offset, rfl⟩
  | blank hc h ih =>
    rw [lexFrom_blank hc]
    exact ih _
  | read hr h ih =>
    obtain ⟨c, cs, taken, rfl, hc, hread⟩ := hr.readLexeme
    obtain ⟨ps, hps, hls⟩ := ih (offset + Text.byteLength taken)
    refine ⟨⟨_, offset⟩ :: ps, ?_, by rw [List.map_cons, hls]⟩
    rw [lexFrom_read hc hread, hps]

/-- What the lexer reads is spelled by the text, wherever it stands. Cases as in `lexFrom`. -/
theorem spells_of_lexFrom {offset : Nat} {cs : List Char} {ps : List Placed}
    (h : lexFrom offset cs = .ok ps) : Spells cs (ps.map Placed.lexeme) := by
  fun_induction lexFrom offset cs generalizing ps with
  | case1 offset =>
    obtain rfl := Except.ok.inj h
    exact .nil
  | case2 offset c cs hc ih => exact .blank hc (ih h)
  | case3 offset c cs hc problem hread => cases h
  | case4 offset c cs hc r hread fault hmore ih => cases h
  | case5 offset c cs hc r hread more hmore ih =>
    obtain rfl := Except.ok.inj h
    exact .read (readsAs_of_readLexeme (by simpa using hc) hread) (ih hmore)

theorem spells_of_lex {query : String} {ps : List Placed} (h : lex query = .ok ps) :
    Spells query.toList (ps.map Placed.lexeme) := by
  unfold lex at h
  split at h
  · next hlex =>
    obtain rfl := Except.ok.inj h
    exact spells_of_lexFrom hlex
  · cases h

/-- A query has the tree that its lexemes compile to. The lexemes are those that the text spells,
without offsets, since the tree does not depend on these. -/
theorem parse_eq_ok_iff {query : String} {n : Node} :
    parse query = .ok n ↔ ∃ ls, Spells query.toList ls ∧ compile (unplaced ls) = .ok n := by
  unfold parse Parser.parse lex
  -- there is no limit on the length
  simp only [Parser.lengthFault?]
  cases hlex : lexFrom 0 query.toList with
  | error fault =>
    simp only [reduceCtorEq, false_iff]
    rintro ⟨ls, hls, -⟩
    obtain ⟨ps, hps, -⟩ := hls.lexFrom 0
    rw [hlex] at hps
    cases hps
  | ok ps =>
    constructor
    · intro h
      refine ⟨ps.map Placed.lexeme, spells_of_lexFrom hlex, compile_unplaced_eq_ok_iff.2 ?_⟩
      cases hc : compile ps with
      | error fault => simp [hc] at h
      | ok m => simpa [hc] using h
    · rintro ⟨ls, hls, hn⟩
      obtain ⟨ps', hps, rfl⟩ := hls.lexFrom 0
      rw [hlex] at hps
      obtain rfl := Except.ok.inj hps
      simp [compile_unplaced_eq_ok_iff.1 hn]

/-- A text has no other lexemes. -/
theorem Spells.unique {cs : List Char} {ls ms : List Lexeme} (h : Spells cs ls)
    (h' : Spells cs ms) : ls = ms := by
  obtain ⟨ps, hps, rfl⟩ := h.lexFrom 0
  obtain ⟨qs, hqs, rfl⟩ := h'.lexFrom 0
  rw [hps] at hqs
  rw [Except.ok.inj hqs]

/-- Reading a query is compiling its lexemes. -/
theorem Spells.parse_eq_ok_iff {cs : List Char} {ls : List Lexeme} (h : Spells cs ls) {n : Node} :
    parse (String.ofList cs) = .ok n ↔ compile (unplaced ls) = .ok n := by
  rw [Query.parse_eq_ok_iff, String.toList_ofList]
  constructor
  · rintro ⟨ms, hms, hn⟩
    rwa [h.unique hms]
  · intro hn
    exact ⟨ls, h, hn⟩

/-! ## What words and phrases hold -/

/-- A word holds nothing that ends a word, a phrase no quote. -/
def Lexeme.Lexical : Lexeme → Prop
  | .word text => ∀ c ∈ text.toList, endsWord c = false
  | .phrase content => '"' ∉ content.toList
  | .operator _ | .modifier _ | .openParen | .closeParen => True

/-- A word is a keyword, which says nothing, or holds no character that ends words. -/
theorem Lexeme.lexical_ofWord {text : String} (h : ∀ c ∈ text.toList, endsWord c = false) :
    (Lexeme.ofWord text).Lexical := by
  unfold ofWord
  split
  · trivial
  · split
    · trivial
    · split
      · trivial
      · exact h

/-- What is read as a lexeme is what words and phrases can hold. -/
theorem ReadsAs.lexical {text rest : List Char} {l : Lexeme} (h : ReadsAs text l rest) :
    l.Lexical := by
  cases h with
  | phrase hq rest => simpa [Lexeme.Lexical] using hq
  | word hplus hminus hc hrest => exact Lexeme.lexical_ofWord (by simpa using hc)
  | _ => trivial

theorem Spells.lexical {cs : List Char} {ls : List Lexeme} (h : Spells cs ls) :
    ∀ l ∈ ls, l.Lexical := by
  induction h with
  | nil => simp
  | blank hc h ih => exact ih
  | read hr h ih => exact List.forall_mem_cons.2 ⟨hr.lexical, ih⟩

theorem ne_quote_of_isBlank {c : Char} (hc : isBlank c = true) : c ≠ '"' := by
  rintro rfl
  simp [isBlank] at hc

/-- Every quote in the text is closed, and what stands between an opening and a closing quote has
the property. -/
inductive QuotesOnly (P : List Char → Prop) : List Char → Prop where
  | nil : QuotesOnly P []
  | other {c : Char} {cs : List Char} (hc : c ≠ '"') (h : QuotesOnly P cs) : QuotesOnly P (c :: cs)
  | quoted {content rest : List Char} (hq : '"' ∉ content) (hP : P content)
      (h : QuotesOnly P rest) : QuotesOnly P ('"' :: content ++ '"' :: rest)

namespace QuotesOnly

variable {P : List Char → Prop}

theorem append {as bs : List Char} (ha : QuotesOnly P as) (hb : QuotesOnly P bs) :
    QuotesOnly P (as ++ bs) := by
  induction ha with
  | nil => exact hb
  | other hc h ih => exact .other hc ih
  | quoted hq hP h ih =>
    have := QuotesOnly.quoted hq hP ih
    simpa using this

theorem of_not_mem {cs : List Char} (h : '"' ∉ cs) : QuotesOnly P cs := by
  induction cs with
  | nil => exact .nil
  | cons c cs ih =>
    rw [List.mem_cons, not_or] at h
    exact .other (Ne.symm h.1) (ih h.2)

/-- Without its first character, which is no quote, such a text is still one. -/
theorem tail {text : List Char} (h : QuotesOnly P text) {c : Char} {cs : List Char}
    (htext : text = c :: cs) (hc : c ≠ '"') : QuotesOnly P cs := by
  cases h with
  | nil => cases htext
  | other hc' h => exact (List.cons.inj htext).2 ▸ h
  | quoted hq hP h => exact absurd (List.cons.inj htext).1.symm hc

/-- Without a front that has no quote, such a text is still one. Induction on the front. -/
theorem right {as bs : List Char} (h : QuotesOnly P (as ++ bs)) (has : '"' ∉ as) :
    QuotesOnly P bs := by
  induction as with
  | nil => exact h
  | cons a as ih =>
    rw [List.mem_cons, not_or] at has
    exact ih (h.tail rfl (Ne.symm has.1)) has.2

/-- A quote that opens is closed by the next one, so what stands between them is the content, and
the rest begins behind. -/
theorem content {text content rest : List Char} (h : QuotesOnly P text)
    (htext : text = '"' :: content ++ '"' :: rest) (hq : '"' ∉ content) :
    P content ∧ QuotesOnly P rest := by
  cases h with
  | nil => cases htext
  | other hc h => exact absurd (List.cons.inj htext).1 hc
  | @quoted content' rest' hq' hP h =>
    -- both contents reach up to the first quote
    have htail : content' ++ '"' :: rest' = content ++ '"' :: rest := (List.cons.inj htext).2
    have hcontent := congrArg (List.takeWhile (· != '"')) htail
    have hrest := congrArg (List.dropWhile (· != '"')) htail
    rw [takeWhile_append_quote hq', takeWhile_append_quote hq] at hcontent
    rw [dropWhile_append_quote hq', dropWhile_append_quote hq] at hrest
    obtain rfl := hcontent
    obtain rfl := (List.cons.inj hrest).2
    exact ⟨hP, h⟩

end QuotesOnly

theorem Lexeme.ofWord_ne_phrase (text content : String) : Lexeme.ofWord text ≠ .phrase content := by
  unfold ofWord
  split
  · simp
  · split
    · simp
    · split <;> simp

/-- A lexeme is a phrase, or takes up no quote. -/
theorem ReadsAs.phrase_or {text rest : List Char} {l : Lexeme} (h : ReadsAs text l rest) :
    (∃ content, '"' ∉ content ∧ text = '"' :: content ++ '"' :: rest ∧
      l = .phrase (String.ofList content)) ∨
    ∃ taken, '"' ∉ taken ∧ text = taken ++ rest ∧ ∀ content, l ≠ .phrase content := by
  cases h with
  | openParen rest => exact .inr ⟨['('], by decide, rfl, by simp⟩
  | closeParen rest => exact .inr ⟨[')'], by decide, rfl, by simp⟩
  | plus hcan => exact .inr ⟨['+'], by decide, rfl, by simp⟩
  | minus hcan => exact .inr ⟨['-'], by decide, rfl, by simp⟩
  | phrase hq rest => exact .inl ⟨_, hq, rfl, rfl⟩
  | word hplus hminus hc hrest =>
    refine .inr ⟨_, fun hmem => ?_, rfl, Lexeme.ofWord_ne_phrase _⟩
    have := hc _ hmem
    simp [endsWord] at this

/-- In what a lexeme takes up every quote is closed. -/
theorem ReadsAs.exists_taken {text rest : List Char} {l : Lexeme} (h : ReadsAs text l rest) :
    ∃ taken, text = taken ++ rest ∧ QuotesOnly (fun _ => True) taken := by
  rcases h.phrase_or with ⟨content, hq, rfl, -⟩ | ⟨taken, hq, rfl, -⟩
  · exact ⟨'"' :: content ++ ['"'], by simp, .quoted hq trivial .nil⟩
  · exact ⟨taken, rfl, .of_not_mem hq⟩

/-- A text that spells lexemes is made of phrases and of other characters. Each lexeme takes whole
phrases with it. -/
theorem Spells.quotesOnly {cs : List Char} {ls : List Lexeme} (h : Spells cs ls) :
    QuotesOnly (fun _ => True) cs := by
  induction h with
  | nil => exact .nil
  | blank hc h ih => exact .other (ne_quote_of_isBlank hc) ih
  | read hr h ih =>
    obtain ⟨taken, rfl, htaken⟩ := hr.exists_taken
    exact htaken.append ih

/-- The phrases among the lexemes are what stands in quotes. Induction on the lexemes: a phrase
takes the first thing in quotes off the text, and any other lexeme takes off no quote. -/
theorem Spells.quoted {P : List Char → Prop} {cs : List Char} {ls : List Lexeme} (h : Spells cs ls)
    (hquotes : QuotesOnly P cs) : ∀ content, .phrase content ∈ ls → P content.toList := by
  induction h with
  | nil => simp
  | blank hc h ih => exact ih (hquotes.tail rfl (ne_quote_of_isBlank hc))
  | read hr h ih =>
    intro content hmem
    rcases hr.phrase_or with ⟨content', hq, htext, rfl⟩ | ⟨taken, hq, rfl, hne⟩
    · -- the phrase is the next thing in quotes
      obtain ⟨hP, hrest⟩ := hquotes.content htext hq
      rcases List.mem_cons.1 hmem with hmem | hmem
      · rw [Lexeme.phrase.inj hmem, String.toList_ofList]
        exact hP
      · exact ih hrest content hmem
    · rcases List.mem_cons.1 hmem with hmem | hmem
      · exact absurd hmem.symm (hne content)
      · exact ih (hquotes.right hq) content hmem

end TextQuery.Query
