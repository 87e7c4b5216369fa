import TextQuery.Toml.Quoted

/-!
# Quoted values read back

A text that is written as a string value reads as the same text, in each of the four styles. What
a character may look like between double quotes is said once, by `Denotes`; the two readers that
know escapes then differ only in how they find the closing quotes. Where three quotes close a
string, the point is that no quote of the text is taken for a closing one: in the text, at most two
follow each other, and those that stand at its end are given back by the reader.

Main statement: `readString_writeString`.
-/

namespace TextQuery.Toml

/-- A text that does not begin with `start` is nothing that does. This is the form in which the
patterns of the readers ask for it: that a quote is not followed by two more. -/
theorem ne_append_of_not_starts {start text : List Char} (h : ¬ start <+: text) (t : List Char) :
    text ≠ start ++ t := by
  rintro rfl
  exact h (List.prefix_append start t)

/-! ## Characters between double quotes -/

/-- The spellings of a character between double quotes, `multi` telling whether the string runs over
several lines. A double quote that is not escaped is no such spelling: it may close the string. -/
inductive Denotes (multi : Bool) (c : Char) : List Char → Prop
  | plain (hquote : c ≠ '"') (hescape : c ≠ '\\') (hreturn : c ≠ '\r')
      (hallowed : isForbidden c = true → multi = true ∧ c = '\n') : Denotes multi c [c]
  | letter {e : Char} (hcode : e ≠ 'x' ∧ e ≠ 'u' ∧ e ≠ 'U')
      (hinline : isLineBlank e = false ∧ e ≠ '\n' ∧ e ≠ '\r') (hknown : escaped? e = some c) :
      Denotes multi c ['\\', e]
  | code {a b : Char} (hknown : codePoint? ['0', '0', a, b] = some c) :
      Denotes multi c ['\\', 'u', '0', '0', a, b]

theorem hexValue?_upperHexDigit {n : Nat} (h : n < 16) : hexValue? (upperHexDigit n) = some n := by
  -- digits and letters differ in their codes, so the sixteen cases are tried
  have hall : ∀ n < 16, hexValue? (upperHexDigit n) = some n := by decide
  exact hall n h

/-- The escape `\u00XX` of a character below 256, two digits from its number, is read as the
character. -/
theorem codePoint?_upperHexDigits {c : Char} (h : c.toNat < 256) :
    codePoint? ['0', '0', upperHexDigit (c.toNat / 16), upperHexDigit (c.toNat % 16)] = some c := by
  have hzero : hexValue? '0' = some 0 := by decide
  have hhigh := hexValue?_upperHexDigit (show c.toNat / 16 < 16 by omega)
  have hlow := hexValue?_upperHexDigit (show c.toNat % 16 < 16 by omega)
  have hvalue : 16 * (c.toNat / 16) + c.toNat % 16 = c.toNat := Nat.div_add_mod ..
  have hvalid : c.toNat.isValidChar := c.valid
  simp [codePoint?, hexNumber?, hzero, hhigh, hlow, hvalue, hvalid, Char.ofNat_toNat]

/-- What must not stand in a string lies in the range that two hexadecimal digits cover, so its
escape has room for it. -/
theorem toNat_lt_of_isForbidden {c : Char} (h : isForbidden c = true) : c.toNat < 256 := by
  simp only [isForbidden, Bool.or_eq_true, Bool.and_eq_true, decide_eq_true_eq, beq_iff_eq] at h
  omega

/-- Whatever `escape` makes of a character is a spelling of it: one of the letters for the common
control characters, a code for the other ones, and the character itself if it may stand in the
string. Only the double quote is left out, whose escape depends on what stands before it. Cases as
in `escape`. -/
theorem denotes_escape (multi : Bool) {c : Char} (h : c ≠ '"') :
    Denotes multi c (escape multi c) := by
  fun_cases escape multi c with
  | case1 hc => rw [eq_of_beq hc]; exact .letter (by decide) (by decide) rfl
  | case2 _ hc => rw [eq_of_beq hc]; exact .letter (by decide) (by decide) rfl
  -- only a string of several lines keeps its line feeds
  | case3 _ _ hc hmulti =>
    rw [eq_of_beq hc]
    exact .plain (by decide) (by decide) (by decide) fun _ => ⟨hmulti, rfl⟩
  | case4 _ _ hc => rw [eq_of_beq hc]; exact .letter (by decide) (by decide) rfl
  | case5 _ _ _ hc => rw [eq_of_beq hc]; exact .letter (by decide) (by decide) rfl
  | case6 _ _ _ _ hc => rw [eq_of_beq hc]; exact .letter (by decide) (by decide) rfl
  | case7 _ _ _ _ _ hc => rw [eq_of_beq hc]; exact .letter (by decide) (by decide) rfl
  -- the other control characters have no letter
  | case8 _ _ _ _ _ _ hcontrol =>
    exact .code (codePoint?_upperHexDigits (toNat_lt_of_isForbidden hcontrol))
  | case9 _ _ _ _ hreturn hescape hfree =>
    exact .plain h (by simpa using hescape) (by simpa using hreturn)
      fun hcontrol => absurd hcontrol hfree

theorem denotes_quote (multi : Bool) : Denotes multi '"' ['\\', '"'] :=
  .letter (by decide) (by decide) rfl

namespace Denotes

variable {multi : Bool} {c : Char} {spelling : List Char}

/-- No spelling begins with a double quote, whatever follows: a reader that looks for the closing
quotes does not stop at one. -/
theorem not_quote (h : Denotes multi c spelling) (rest : List Char) :
    ¬ ['"'] <+: spelling ++ rest := by
  cases h with
  | plain hquote => simpa [eq_comm] using hquote
  | letter => simp
  | code => simp

/-- A spelling of anything but a line feed does not begin with the end of a line. Directly behind
three opening quotes that would be dropped. -/
theorem not_lineEnd (h : Denotes multi c spelling) (hfeed : c ≠ '\n') (rest : List Char) :
    ∀ d ∈ (spelling ++ rest).head?, d ≠ '\n' ∧ d ≠ '\r' := by
  cases h with
  | plain _ _ hreturn => simp [hfeed, hreturn]
  | letter => simp
  | code => simp

/-- The reader of a string on one line takes a spelling for its character. -/
theorem readBasic (h : Denotes false c spelling) (rest : List Char) :
    readBasic (spelling ++ rest) = prepend (some c) (readBasic rest) := by
  cases h with
  | plain hquote hescape _ hallowed =>
    have hfree : isForbidden c = false := by grind
    simp [Toml.readBasic, hescape, hfree]
  | letter hcode _ hknown => simp [Toml.readBasic, hcode, hknown]
  | code hknown => simp [Toml.readBasic, hknown]

/-- The reader of a string on several lines takes a spelling for its character. Of the spellings
only the escaped letter needs an argument, since a backslash can also join two lines. -/
theorem readMultiBasic (h : Denotes true c spelling) (rest : List Char) :
    readMultiBasic false (spelling ++ rest) = prepend (some c) (readMultiBasic false rest) := by
  cases h with
  | plain hquote hescape hreturn hallowed =>
    have hfree : (isForbidden c && c != '\n') = false := by grind
    rw [List.singleton_append, Toml.readMultiBasic]
    · simp [hfree]
    all_goals simp [hquote, hescape, hreturn]
  | @letter e hcode hinline hknown =>
    -- a backslash at the end of a line would take away what follows
    have hnext : lineEnds (e :: rest) = false := by simp [lineEnds, hinline]
    simp [Toml.readMultiBasic, hcode, hknown, hnext]
  | code hknown => simp [Toml.readMultiBasic, hknown]

end Denotes

/-! ## Texts between double quotes

A text is written character by character, but a quote is escaped or not according to how many stand
before it. `limit` is the number that may stand in a row: none on one line, two between three
quotes. -/

section EscapeAll

variable {multi : Bool} {limit run : Nat} {c : Char}

/-- Another character than a double quote is escaped on its own and ends the run of quotes. -/
theorem escapeAll_of_ne (h : c ≠ '"') (cs : List Char) :
    escapeAll multi limit run (c :: cs) = escape multi c ++ escapeAll multi limit 0 cs := by
  simp [escapeAll, h]

/-- A double quote is written as it is while fewer than `limit` stand in a row in front of it. -/
theorem escapeAll_quote_of_lt (h : run < limit) (cs : List Char) :
    escapeAll multi limit run ('"' :: cs) = '"' :: escapeAll multi limit (run + 1) cs := by
  simp [escapeAll, h]

theorem escapeAll_quote_of_le (h : limit ≤ run) (cs : List Char) :
    escapeAll multi limit run ('"' :: cs) = ['\\', '"'] ++ escapeAll multi limit 0 cs := by
  simp [escapeAll, Nat.not_lt.2 h]

/-- The text does not go on with a bare double quote where the next character is another one, or is
one that has to be escaped. -/
theorem not_quote_escapeAll (h : c = '"' → limit ≤ run) (cs rest : List Char) :
    ¬ ['"'] <+: escapeAll multi limit run (c :: cs) ++ rest := by
  by_cases hquote : c = '"'
  · subst hquote
    rw [escapeAll_quote_of_le (h rfl), List.append_assoc]
    exact (denotes_quote multi).not_quote _
  · rw [escapeAll_of_ne hquote, List.append_assoc]
    exact (denotes_escape multi hquote).not_quote _

end EscapeAll

/-- With no quote left bare, a text on one line is read up to the closing quote. Induction on the
text. -/
theorem readBasic_escapeAll (cs rest : List Char) :
    readBasic (escapeAll false 0 0 cs ++ '"' :: rest) = some (cs, rest) := by
  induction cs with
  | nil => rfl
  | cons c cs ih =>
    by_cases hquote : c = '"'
    · subst hquote
      rw [escapeAll_quote_of_le (Nat.le_refl 0), List.append_assoc,
        (denotes_quote false).readBasic, ih]
      rfl
    · rw [escapeAll_of_ne hquote, List.append_assoc, (denotes_escape false hquote).readBasic, ih]
      rfl

/-- Up to two quotes may stand in front of the three that close a string, and are part of the text:
the reader looks for the last three of up to five. -/
theorem readMultiBasic_close {rest : List Char} (h : ¬ ['"'] <+: rest) {k : Nat} (hk : k ≤ 2) :
    readMultiBasic false (List.replicate k '"' ++ '"' :: '"' :: '"' :: rest) =
      some (List.replicate k '"', rest) := by
  have hone : ∀ t, rest = '"' :: t → False := ne_append_of_not_starts h
  have htwo : ∀ t, rest = '"' :: '"' :: t → False := fun _ => hone _
  match k with
  -- what is read first decides how many quotes there are, so each number is a case of its own
  | 0 | 1 | 2 => simp [List.replicate, readMultiBasic]

theorem readMultiBasic_quote {text : List Char} (h : ¬ ['"', '"'] <+: text) :
    readMultiBasic false ('"' :: text) = prepend (some '"') (readMultiBasic false text) := by
  have hallowed : isForbidden '"' = false := by decide
  have htwo : ∀ t, text ≠ '"' :: '"' :: t := ne_append_of_not_starts h
  rw [readMultiBasic]
  · simp [hallowed]
  all_goals simp [htwo]

/-- Two double quotes follow a written one only where the text is over. -/
theorem eq_of_quotes_escapeAll {run : Nat} {cs rest : List Char}
    (h : ['"', '"'] <+: escapeAll true 2 (run + 1) cs ++ rest) :
    cs = [] ∨ run = 0 ∧ cs = ['"'] := by
  match cs with
  | [] => exact .inl rfl
  | c :: cs =>
    by_cases hagain : c = '"' ∧ run = 0
    · obtain ⟨rfl, rfl⟩ := hagain
      rw [escapeAll_quote_of_lt (by decide), List.cons_append, List.cons_prefix_cons] at h
      match cs with
      | [] => exact .inr ⟨rfl, rfl⟩
      | d :: ds => exact absurd h.2 (not_quote_escapeAll (fun _ => Nat.le_refl 2) ds rest)
    · -- otherwise the next quote, if there is one, is the third in a row and escaped
      have hfull : c = '"' → 2 ≤ run + 1 := by
        intro hquote
        have : run ≠ 0 := fun hzero => hagain ⟨hquote, hzero⟩
        omega
      have hone : ['"'] <+: ['"', '"'] := ⟨['"'], rfl⟩
      exact absurd (hone.trans h) (not_quote_escapeAll hfull cs rest)

/-- A text on several lines is read up to the closing quotes, whatever number `run` of quotes has
just been written. Induction on the text, where the quotes of the text that are not escaped are the
ones to look at. -/
theorem readMultiBasic_escapeAll {rest : List Char} (h : ¬ ['"'] <+: rest) (run : Nat)
    (cs : List Char) :
    readMultiBasic false (escapeAll true 2 run cs ++ '"' :: '"' :: '"' :: rest) =
      some (cs, rest) := by
  -- over the text, for every number of quotes just written
  induction cs generalizing run with
  | nil => exact readMultiBasic_close h (Nat.zero_le 2)
  | cons c cs ih =>
    by_cases hquote : c = '"'
    · subst hquote
      by_cases hfree : run < 2
      · rw [escapeAll_quote_of_lt hfree, List.cons_append]
        by_cases htwo : ['"', '"'] <+: escapeAll true 2 (run + 1) cs ++ '"' :: '"' :: '"' :: rest
        · -- the quote stands at the end of the text, where four or five in a row close it
          obtain rfl | ⟨rfl, rfl⟩ := eq_of_quotes_escapeAll htwo
          · exact readMultiBasic_close h (show 1 ≤ 2 by decide)
          · exact readMultiBasic_close h (show 2 ≤ 2 by decide)
        · rw [readMultiBasic_quote htwo, ih]
          rfl
      · rw [escapeAll_quote_of_le (Nat.not_lt.1 hfree), List.append_assoc,
          (denotes_quote true).readMultiBasic, ih]
        rfl
    · rw [escapeAll_of_ne hquote, List.append_assoc,
        (denotes_escape true hquote).readMultiBasic, ih]
      rfl

/-! ## Texts between single quotes

Nothing is escaped here. That no three quotes follow each other is what `longestRun` measures, so
the arguments are about runs: the run in progress, and the longest one so far. -/

/-- A text without single quotes and without forbidden characters is read up to the closing quote.
Nothing is escaped in it. -/
theorem readLiteral_append {cs : List Char} (hsingle : ∀ c ∈ cs, c ≠ '\'')
    (hallowed : ∀ c ∈ cs, isForbidden c = false) (rest : List Char) :
    readLiteral (cs ++ '\'' :: rest) = some (cs, rest) := by
  induction cs with
  | nil => rfl
  | cons c cs ih =>
    obtain ⟨hquote, hsingle⟩ := List.forall_mem_cons.1 hsingle
    obtain ⟨hfree, hallowed⟩ := List.forall_mem_cons.1 hallowed
    rw [List.cons_append, readLiteral, hfree, ih hsingle hallowed]
    · rfl
    · exact hquote

/-- As for double quotes: of up to five single quotes the last three close the string. -/
theorem readMultiLiteral_close {rest : List Char} (h : ¬ ['\''] <+: rest) {k : Nat} (hk : k ≤ 2) :
    readMultiLiteral (List.replicate k '\'' ++ '\'' :: '\'' :: '\'' :: rest) =
      some (List.replicate k '\'', rest) := by
  have hone : ∀ t, rest = '\'' :: t → False := ne_append_of_not_starts h
  have htwo : ∀ t, rest = '\'' :: '\'' :: t → False := fun _ => hone _
  match k with
  | 0 | 1 | 2 => simp [List.replicate, readMultiLiteral]

/-- Between three single quotes a character is read as itself, unless it is a quote that two others
follow. -/
theorem readMultiLiteral_cons {c : Char} {text : List Char}
    (hallowed : isForbidden c = true → c = '\n') (h : c = '\'' → ¬ ['\'', '\''] <+: text) :
    readMultiLiteral (c :: text) = prepend (some c) (readMultiLiteral text) := by
  have htwo : ∀ t, c = '\'' → text ≠ '\'' :: '\'' :: t := by
    rintro t hquote rfl
    exact h hquote ⟨t, rfl⟩
  -- a carriage return alone is no line end and is not allowed either
  have hreturn : c ≠ '\r' := by
    rintro rfl
    exact absurd (hallowed rfl) (by decide)
  rw [readMultiLiteral]
  all_goals grind

theorem longestRun_self (q : Char) (run best : Nat) (cs : List Char) :
    longestRun q run best (q :: cs) = longestRun q (run + 1) (max best (run + 1)) cs := by
  simp [longestRun]

theorem le_longestRun (q : Char) (run best : Nat) (cs : List Char) :
    best ≤ longestRun q run best cs := by
  induction cs generalizing run best with
  | nil => exact Nat.le_refl best
  | cons c cs ih =>
    unfold longestRun
    split
    · exact Nat.le_trans (Nat.le_max_left ..) (ih ..)
    · exact ih ..

theorem lt_longestRun_self (q : Char) (run best : Nat) (cs : List Char) :
    run < longestRun q run best (q :: cs) := by
  have := le_longestRun q (run + 1) (max best (run + 1)) cs
  rw [longestRun_self]
  omega

theorem longestRun_pos {q : Char} {cs : List Char} (h : q ∈ cs) (run best : Nat) :
    0 < longestRun q run best cs := by
  induction cs generalizing run best with
  | nil => cases h
  | cons c cs ih =>
    by_cases hquote : c = q
    · have := lt_longestRun_self q run best cs
      rw [hquote]
      omega
    · have hlater : q ∈ cs := (List.mem_cons.1 h).resolve_left (Ne.symm hquote)
      simpa [longestRun, hquote] using ih hlater 0 best

/-- Two single quotes follow one in the text only where the text is over. -/
theorem eq_of_quotes_append {run best : Nat} {cs rest : List Char}
    (hruns : longestRun '\'' (run + 1) best cs ≤ 2) (h : ['\'', '\''] <+: cs ++ rest) :
    cs = [] ∨ cs = ['\''] := by
  match cs with
  | [] => exact .inl rfl
  | [c] =>
    obtain ⟨rfl, -⟩ := List.cons_prefix_cons.1 h
    exact .inr rfl
  | c :: d :: ds =>
    obtain ⟨rfl, hsecond⟩ := List.cons_prefix_cons.1 h
    obtain ⟨rfl, -⟩ := List.cons_prefix_cons.1 hsecond
    -- two more quotes would make a run of three
    have hthree := lt_longestRun_self '\'' (run + 1 + 1) (max best (run + 1 + 1)) ds
    rw [longestRun_self] at hruns
    omega

/-- A text in which no three single quotes follow each other is read up to the closing quotes.
Induction on the text, for any run in progress: the bound on the longest run passes from a text to
its rest. -/
theorem readMultiLiteral_append {run best : Nat} {cs rest : List Char} (h : ¬ ['\''] <+: rest)
    (hallowed : ∀ c ∈ cs, isForbidden c = true → c = '\n')
    (hruns : longestRun '\'' run best cs ≤ 2) :
    readMultiLiteral (cs ++ '\'' :: '\'' :: '\'' :: rest) = some (cs, rest) := by
  induction cs generalizing run best with
  | nil => exact readMultiLiteral_close h (Nat.zero_le 2)
  | cons c cs ih =>
    obtain ⟨hfirst, hothers⟩ := List.forall_mem_cons.1 hallowed
    rw [longestRun] at hruns
    by_cases hcloses : c = '\'' ∧ ['\'', '\''] <+: cs ++ '\'' :: '\'' :: '\'' :: rest
    · obtain ⟨rfl, htwo⟩ := hcloses
      obtain rfl | rfl := eq_of_quotes_append hruns htwo
      · exact readMultiLiteral_close h (show 1 ≤ 2 by decide)
      · exact readMultiLiteral_close h (show 2 ≤ 2 by decide)
    · -- the run goes on or starts anew; its bound holds for the rest either way
      have htail : readMultiLiteral (cs ++ '\'' :: '\'' :: '\'' :: rest) = some (cs, rest) := by
        split at hruns
        · exact ih hothers hruns
        · exact ih hothers hruns
      rw [List.cons_append, readMultiLiteral_cons hfirst (not_and.1 hcloses), htail]
      rfl

/-! ## What the choice of a style tells about the text

The writer chooses a style by the `Needs` of a text. Each of the two styles with single quotes is
chosen only for a text that needs none of what it cannot write. -/

/-- Single quotes are chosen only for a text on one line without control characters and without a
single quote. -/
theorem Needs.of_style_eq_literal {n : Needs} (h : n.style = .literal) :
    n.codes = false ∧ n.singles = 0 ∧ n.newline = false := by
  unfold Needs.style at h
  grind

/-- Three single quotes are chosen only for a text without control characters, line feeds apart, and
with at most two single quotes in a row. -/
theorem Needs.of_style_eq_multiLiteral {n : Needs} (h : n.style = .multiLiteral) :
    n.codes = false ∧ n.singles ≤ 2 := by
  unfold Needs.style at h
  grind

/-- In a text without control codes, only a line feed is a character that may not stand in a string
on one line. -/
theorem eq_newline_of_isForbidden {cs : List Char} (h : (Needs.of cs).codes = false) :
    ∀ c ∈ cs, isForbidden c = true → c = '\n' := by
  intro c hc hforbidden
  have := List.any_eq_false.1 h c hc
  simpa [hforbidden] using this

theorem ne_newline_of_mem {cs : List Char} (h : (Needs.of cs).newline = false) :
    ∀ c ∈ cs, c ≠ '\n' := by
  rintro c hc rfl
  simp [Needs.of, hc] at h

/-! ## Strings

The three parts put together, for each style in turn: how the string opens, what is dropped behind
the opening quotes, and where it closes. -/

theorem readString_basic {text : List Char} (h : ¬ ['"', '"'] <+: text) :
    readString ('"' :: text) = readBasic text := by
  have htwo : ∀ t, text = '"' :: '"' :: t → False := ne_append_of_not_starts h
  rw [readString]
  simpa using htwo

theorem readString_literal {text : List Char} (h : ¬ ['\'', '\''] <+: text) :
    readString ('\'' :: text) = readLiteral text := by
  have htwo : ∀ t, text = '\'' :: '\'' :: t → False := ne_append_of_not_starts h
  rw [readString]
  simpa using htwo

/-- The line feed in front of a text of several lines is dropped, and no line end of the text. -/
theorem dropNewline_lead {newline : Bool} {text : List Char}
    (h : newline = false → ∀ c ∈ text.head?, c ≠ '\n' ∧ c ≠ '\r') :
    dropNewline ((if newline then ['\n'] else []) ++ text) = text := by
  cases newline with
  | true => rfl
  | false =>
    cases text with
    | nil => rfl
    | cons c cs =>
      obtain ⟨hfeed, hreturn⟩ := h rfl c rfl
      simp [dropNewline, hfeed, hreturn]

/-- Between double quotes any text can be written. It opens with one quote: an empty text is
followed by its closing quote and then by none, and every other one does not begin with a bare
quote. -/
theorem readString_writeBasic {rest : List Char} (h : ¬ ['"'] <+: rest) (newline : Bool)
    (cs : List Char) : readString (writeAs .basic newline cs ++ rest) = some (cs, rest) := by
  -- two quotes directly behind the first would open a string of several lines
  have hopening : ¬ ['"', '"'] <+: escapeAll false 0 0 cs ++ '"' :: rest := by
    cases cs with
    | nil => simpa [escapeAll] using h
    | cons c cs =>
      have hone : ['"'] <+: ['"', '"'] := ⟨['"'], rfl⟩
      exact fun htwo => not_quote_escapeAll (fun _ => Nat.le_refl 0) cs _ (hone.trans htwo)
  calc readString (writeAs .basic newline cs ++ rest)
      = readString ('"' :: (escapeAll false 0 0 cs ++ '"' :: rest)) := by simp [writeAs]
    _ = readBasic (escapeAll false 0 0 cs ++ '"' :: rest) := readString_basic hopening
    _ = some (cs, rest) := readBasic_escapeAll cs rest

/-- A text without a line feed does not begin with the end of a line when it is written between
three double quotes, for a carriage return is escaped. -/
theorem not_lineEnd_escapeAll {cs : List Char} (hfeed : ∀ c ∈ cs, c ≠ '\n') (rest : List Char) :
    ∀ d ∈ (escapeAll true 2 0 cs ++ '"' :: rest).head?, d ≠ '\n' ∧ d ≠ '\r' := by
  cases cs with
  | nil => simp [escapeAll]
  | cons c cs =>
    by_cases hquote : c = '"'
    · simp [hquote, escapeAll_quote_of_lt]
    · rw [escapeAll_of_ne hquote, List.append_assoc]
      exact (denotes_escape true hquote).not_lineEnd (hfeed c List.mem_cons_self) _

/-- Between three double quotes any text can be written. A text with a line feed gets one more in
front, and one without does not begin with a line end: `dropNewline` leaves it alone either way. -/
theorem readString_writeMultiBasic {rest : List Char} (h : ¬ ['"'] <+: rest) (cs : List Char) :
    readString (writeAs .multiBasic (Needs.of cs).newline cs ++ rest) = some (cs, rest) := by
  let body := escapeAll true 2 0 cs ++ '"' :: '"' :: '"' :: rest
  have hstart (hnone : (Needs.of cs).newline = false) : ∀ c ∈ body.head?, c ≠ '\n' ∧ c ≠ '\r' :=
    not_lineEnd_escapeAll (ne_newline_of_mem hnone) _
  calc readString (writeAs .multiBasic (Needs.of cs).newline cs ++ rest)
      = readMultiBasic false (dropNewline ((if (Needs.of cs).newline then ['\n'] else []) ++ body))
        := by simp [writeAs, readString, body]
    _ = readMultiBasic false body := by rw [dropNewline_lead hstart]
    _ = some (cs, rest) := readMultiBasic_escapeAll h 0 cs

/-- Between single quotes a text is written as it is. The style is chosen only where that is right:
no such quote in it and nothing forbidden. -/
theorem readString_writeLiteral {cs rest : List Char} (h : ¬ ['\''] <+: rest)
    (hstyle : (Needs.of cs).style = .literal) (newline : Bool) :
    readString (writeAs .literal newline cs ++ rest) = some (cs, rest) := by
  obtain ⟨hcodes, hsingles, hnone⟩ := Needs.of_style_eq_literal hstyle
  have hsingle : ∀ c ∈ cs, c ≠ '\'' := by
    rintro c hc rfl
    have : 0 < (Needs.of cs).singles := longestRun_pos hc 0 0
    omega
  have hallowed : ∀ c ∈ cs, isForbidden c = false := by
    intro c hc
    have hfeed := ne_newline_of_mem hnone c hc
    simpa using mt (eq_newline_of_isForbidden hcodes c hc) hfeed
  -- as between double quotes: the text opens no string of several lines
  have hopening : ¬ ['\'', '\''] <+: cs ++ '\'' :: rest := by
    match cs with
    | [] => simpa using h
    | c :: cs =>
      intro htwo
      exact hsingle c List.mem_cons_self (List.cons_prefix_cons.1 htwo).1.symm
  calc readString (writeAs .literal newline cs ++ rest)
      = readString ('\'' :: (cs ++ '\'' :: rest)) := by simp [writeAs]
    _ = readLiteral (cs ++ '\'' :: rest) := readString_literal hopening
    _ = some (cs, rest) := readLiteral_append hsingle hallowed rest

/-- The same for a text that is written as it is. A carriage return is forbidden in it, and so does
not begin it. -/
theorem not_lineEnd_append {cs : List Char} (hfeed : ∀ c ∈ cs, c ≠ '\n')
    (hallowed : ∀ c ∈ cs, isForbidden c = true → c = '\n') (rest : List Char) :
    ∀ d ∈ (cs ++ '\'' :: rest).head?, d ≠ '\n' ∧ d ≠ '\r' := by
  cases cs with
  | nil => simp
  | cons c cs =>
    have hnotFeed := hfeed c List.mem_cons_self
    have hreturn : c ≠ '\r' := by
      rintro rfl
      exact hnotFeed (hallowed '\r' List.mem_cons_self rfl)
    simp [hnotFeed, hreturn]

/-- Between three single quotes a text is written as it is. The style is chosen only where no three
such quotes follow each other. -/
theorem readString_writeMultiLiteral {cs rest : List Char} (h : ¬ ['\''] <+: rest)
    (hstyle : (Needs.of cs).style = .multiLiteral) :
    readString (writeAs .multiLiteral (Needs.of cs).newline cs ++ rest) = some (cs, rest) := by
  obtain ⟨hcodes, hsingles⟩ := Needs.of_style_eq_multiLiteral hstyle
  have hallowed := eq_newline_of_isForbidden hcodes
  let body := cs ++ '\'' :: '\'' :: '\'' :: rest
  have hstart (hnone : (Needs.of cs).newline = false) : ∀ c ∈ body.head?, c ≠ '\n' ∧ c ≠ '\r' :=
    not_lineEnd_append (ne_newline_of_mem hnone) hallowed _
  calc readString (writeAs .multiLiteral (Needs.of cs).newline cs ++ rest)
      = readMultiLiteral (dropNewline ((if (Needs.of cs).newline then ['\n'] else []) ++ body))
        := by simp [writeAs, readString, body]
    _ = readMultiLiteral body := by rw [dropNewline_lead hstart]
    _ = some (cs, rest) := readMultiLiteral_append h hallowed hsingles

/-- A text written as a string value reads as the same text, if no quote follows it. -/
theorem readString_writeString {rest : List Char} (hdouble : ¬ ['"'] <+: rest)
    (hsingle : ¬ ['\''] <+: rest) (cs : List Char) :
    readString (writeString cs ++ rest) = some (cs, rest) := by
  simp only [writeString]
  cases hstyle : (Needs.of cs).style with
  | basic => exact readString_writeBasic hdouble _ cs
  | literal => exact readString_writeLiteral hsingle hstyle _
  | multiBasic => exact readString_writeMultiBasic hdouble cs
  | multiLiteral => exact readString_writeMultiLiteral hsingle hstyle

/-- Both quotes and a line feed: three double quotes, and a line of its own. -/
example : String.ofList (writeString "it's \"so\"\n".toList) =
    "\"\"\"\nit's \"so\"\n\"\"\"" := by decide

end TextQuery.Toml
