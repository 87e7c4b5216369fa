import Mathlib.Algebra.Ring.Parity
import TextQuery.Proofs.Faults

/-!
# Quotes that are not closed

The number of quotes in a query and the faults it can have. Wherever the lexer stops, it has closed
every quote that it has passed, so an odd number of quotes is still odd behind the place.

* `QuotesOnly.even_count` — closed quotes come in pairs.
* `LastQuote` — the offset of the last quote.
* `quotes_of_lexFrom` — a fault of the lexer is the last quote of an odd number, or a sign, and then
  the last quote of an odd number is still to come.
* `faults_of_quote_parity` — what follows for the faults of a query.
-/

namespace TextQuery.Query

open Text (byteLength)

/-! ## Counting quotes

Quotes come in pairs in what the lexer has read: `QuotesOnly` says that a text is made of phrases
and of other characters. -/

/-- In a text that the lexer gets through, each quote has its partner. Induction on the text: a
phrase adds two quotes, since its content has none. -/
theorem QuotesOnly.even_count {P : List Char → Prop} {cs : List Char} (h : QuotesOnly P cs) :
    Even (cs.count '"') := by
  induction h with
  | nil => simp
  | other hc h ih => rwa [List.count_cons_of_ne hc]
  | @quoted content rest hq hP h ih =>
    have hcontent : content.count '"' = 0 := List.count_eq_zero.2 hq
    have htwo : ('"' :: content ++ '"' :: rest).count '"' = rest.count '"' + 2 := by
      simp only [List.cons_append, List.count_cons_self, List.count_append, hcontent]
      omega
    rw [htwo]
    exact ih.add even_two

theorem exists_last_quote {cs : List Char} (h : '"' ∈ cs) :
    ∃ before after, cs = before ++ '"' :: after ∧ '"' ∉ after := by
  obtain ⟨after, before, hcs, hafter⟩ := List.eq_append_cons_of_mem (List.mem_reverse.2 h)
  refine ⟨before.reverse, after.reverse, ?_, by simpa using hafter⟩
  have := congrArg List.reverse hcs
  simpa using this

/-- The last quote of the query stands at the offset. -/
def LastQuote (query : String) (offset : Nat) : Prop :=
  ∃ before after, query = before ++ "\"" ++ after ∧ before.utf8ByteSize = offset ∧
    '"' ∉ after.toList

theorem lastQuote_of_append {query : String} {before after : List Char}
    (h : query.toList = before ++ '"' :: after) (hafter : '"' ∉ after) :
    LastQuote query (byteLength before) := by
  refine ⟨String.ofList before, String.ofList after, ?_, ?_, by simpa using hafter⟩
  · rw [← String.toList_inj, h]
    simp
  · rw [String.utf8ByteSize_ofList, Text.byteLength_eq_utf8Len]

/-! ## Where the lexer stops

The lexer fails in two ways only, at a quote or at a sign. Either way all that stands in front of
the place has been read. -/

/-- A quote that is refused is the last one: with another behind it the two would be a phrase. -/
theorem not_mem_of_readLexeme_quote {cs : List Char} {problem : Problem}
    (h : readLexeme '"' cs = .error problem) : '"' ∉ cs := by
  intro hmem
  obtain ⟨content, rest, rfl, hcontent⟩ := List.eq_append_cons_of_mem hmem
  have hread : readPhrase? (content ++ '"' :: rest) =
      some ⟨.phrase (String.ofList content), '"' :: content ++ ['"'], rest⟩ := by
    simp [readPhrase?, takeWhile_append_quote hcontent, dropWhile_append_quote hcontent]
  simp [readLexeme, hread] at h

/-- Where the lexer stops. It is at a quote without a partner, which makes their number odd, or at a
sign with nothing to modify; then, if the number is odd, the last quote is still to come. -/
theorem quotes_of_lexFrom {query : String} {fault : Fault}
    (h : lexFrom 0 query.toList = .error fault) :
    (fault.problem = .unclosedQuote ∧ Odd (query.toList.count '"') ∧
      ∃ last, LastQuote query last ∧ fault.position = some last) ∨
    ∃ modifier, fault.problem = .danglingModifier modifier ∧
      (Odd (query.toList.count '"') →
        ∃ last offset, LastQuote query last ∧ fault.position = some offset ∧ offset < last) := by
  obtain ⟨before, c, rest, htext, hposition, hread, hquotes⟩ := lexFrom_eq_error h
  rw [Nat.zero_add] at hposition
  -- the quotes in front of the place come in pairs: the parity is that of what follows
  have heven := hquotes.even_count
  rcases readLexeme_eq_error hread with ⟨rfl, hproblem⟩ | ⟨hsign, hproblem⟩
  · -- the quote has no partner, so it is the last one
    have hrest := not_mem_of_readLexeme_quote hread
    refine .inl ⟨hproblem, ?_, _, lastQuote_of_append htext hrest, hposition⟩
    rw [htext, List.count_append, List.count_cons_self, List.count_eq_zero.2 hrest]
    exact heven.add_odd odd_one
  · refine .inr ⟨_, hproblem, fun hodd => ?_⟩
    -- what was read has an even number of quotes and the sign is none, so one is left
    have hc : c ≠ '"' := by rcases hsign with rfl | rfl <;> decide
    have hmem : '"' ∈ rest := by
      by_contra hrest
      rw [htext, List.count_append, List.count_cons_of_ne hc, List.count_eq_zero.2 hrest] at hodd
      exact Nat.not_odd_iff_even.2 heven hodd
    obtain ⟨inner, after, rfl, hafter⟩ := exists_last_quote hmem
    have hlast : query.toList = (before ++ c :: inner) ++ '"' :: after := by simpa using htext
    refine ⟨_, _, lastQuote_of_append hlast hafter, hposition, ?_⟩
    have hpos := c.utf8Size_pos
    simp only [Text.byteLength_append, Text.byteLength_cons]
    omega

/-! ## Faults of a query

The lexer decides before the lexemes are compiled, so its fault is that of the query, unless the
query is too long to be read. -/

theorem exists_lex_eq_error_of_odd {query : String} (hodd : Odd (query.toList.count '"')) :
    ∃ e, lex query = .error e := by
  cases hlex : lex query with
  | error e => exact ⟨e, rfl⟩
  | ok ps =>
    have heven := (spells_of_lex hlex).quotesOnly.even_count
    exact absurd hodd (Nat.not_odd_iff_even.2 heven)

/-- Past the lexer no quote is missing. -/
theorem problem_ne_of_compile {ps : List Placed} {fault : Fault} (h : compile ps = .error fault) :
    fault.problem ≠ .unclosedQuote := by
  intro hproblem
  rcases exists_about_of_compile h with rfl | ⟨p, -, -, habout⟩
  · cases hproblem
  · rw [hproblem] at habout
    cases habout

/-- A query is refused for its length only with the problem that says so. -/
theorem Parser.problem_of_lengthFault? {p : Parser} {query : String} {fault : Fault}
    (h : p.lengthFault? query = some fault) :
    ∃ length limit, fault.problem = .tooLong length limit := by
  unfold lengthFault? at h
  split at h
  · split at h
    · obtain rfl := Option.some.inj h
      exact ⟨_, _, rfl⟩
    · cases h
  · cases h

/-- Whatever its settings, a parser finds a quote open only where the lexer does. The length is
checked before, and the lexemes after it. -/
theorem Parser.lexFrom_of_unclosedQuote {p : Parser} {query : String} {e : Error}
    (h : p.parse query = .error e) (hproblem : e.problem = .unclosedQuote) :
    lexFrom 0 query.toList = .error e.toFault := by
  cases hlength : p.lengthFault? query with
  | some fault =>
    -- a query that is too long is not read at all
    rw [parse, hlength] at h
    obtain rfl := Except.error.inj h
    obtain ⟨length, limit, hlong⟩ := problem_of_lengthFault? hlength
    exact absurd (hproblem.symm.trans hlong) (by simp)
  | none =>
    rw [parse_of_lengthFault? hlength] at h
    rcases (parse_eq_error h).2 with hlex | ⟨ps, -, hcompile⟩
    · exact hlex
    · exact absurd hproblem (problem_ne_of_compile hcompile)

/-- **An odd number of quotes is a fault, and no other number leaves a quote open.** With an odd
number of quotes a query is refused by the lexer, for the last of them or for a sign in front of it.
With an even number neither the lexer nor a parser, whatever its settings, finds a quote open. -/
theorem faults_of_quote_parity (query : String) :
    (Odd (query.toList.count '"') →
      ∃ e last, lex query = .error e ∧ parse query = .error e ∧
        (∀ p : Parser, p.lengthFault? query = none → p.parse query = .error e) ∧
        LastQuote query last ∧
        (e.problem = .unclosedQuote ∧ e.position = some last ∨
          ∃ modifier offset, e.problem = .danglingModifier modifier ∧
            e.position = some offset ∧ offset < last)) ∧
    (Even (query.toList.count '"') →
      ∀ e, lex query = .error e ∨ (∃ p : Parser, p.parse query = .error e) →
        e.problem ≠ .unclosedQuote) := by
  refine ⟨fun hodd => ?_, fun heven e he hproblem => ?_⟩
  · obtain ⟨e, hlex⟩ := exists_lex_eq_error_of_odd hodd
    have hparse : parse query = .error e := by rw [parse_eq, hlex]
    have hsettings (p : Parser) (hp : p.lengthFault? query = none) : p.parse query = .error e := by
      rw [Parser.parse_of_lengthFault? hp, hparse]
    rcases quotes_of_lexFrom (lexFrom_of_lex_eq_error hlex).2 with
      ⟨hproblem, -, last, hlast, hposition⟩ | ⟨modifier, hproblem, hbefore⟩
    · exact ⟨e, last, hlex, hparse, hsettings, hlast, .inl ⟨hproblem, hposition⟩⟩
    · obtain ⟨last, offset, hlast, hposition, hlt⟩ := hbefore hodd
      exact ⟨e, last, hlex, hparse, hsettings, hlast,
        .inr ⟨modifier, offset, hproblem, hposition, hlt⟩⟩
  · -- whatever the parser's settings, an open quote is a fault of the lexer, where their number is
    -- odd
    have hfault : lexFrom 0 query.toList = .error e.toFault := by
      rcases he with hlex | ⟨p, hparse⟩
      · exact (lexFrom_of_lex_eq_error hlex).2
      · exact p.lexFrom_of_unclosedQuote hparse hproblem
    rcases quotes_of_lexFrom hfault with ⟨-, hodd, -⟩ | ⟨modifier, hsign, -⟩
    · exact Nat.not_odd_iff_even.2 heven hodd
    · rw [hproblem] at hsign
      cases hsign

/-- Three quotes, with a sign that dangles in front of the last one; and four, with all else
wrong. -/
theorem faults_of_quote_parity_dangling_sign :
    let odd := "é \"x\" (-) \"y"
    let even := "\"x\")(AND - \"y\""
    (Odd (odd.toList.count '"') ∧
      ∃ e last, lex odd = .error e ∧ parse odd = .error e ∧
        (∀ p : Parser, p.lengthFault? odd = none → p.parse odd = .error e) ∧
        LastQuote odd last ∧
        (e.problem = .unclosedQuote ∧ e.position = some last ∨
          ∃ modifier offset, e.problem = .danglingModifier modifier ∧
            e.position = some offset ∧ offset < last)) ∧
    Even (even.toList.count '"') ∧
      ∀ e, lex even = .error e ∨ (∃ p : Parser, p.parse even = .error e) →
        e.problem ≠ .unclosedQuote := by
  intro odd even
  have hodd : Odd (odd.toList.count '"') := by decide +kernel
  have heven : Even (even.toList.count '"') := by decide +kernel
  exact ⟨⟨hodd, (faults_of_quote_parity odd).1 hodd⟩, heven, (faults_of_quote_parity even).2 heven⟩

end TextQuery.Query
