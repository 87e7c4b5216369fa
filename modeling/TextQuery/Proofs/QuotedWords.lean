import TextQuery.Proofs.Grammar
import TextQuery.Proofs.Leaves
import TextQuery.Proofs.Lexing

/-!
# Words and the same words in quotes

A word and a phrase take different ways into the tree: a word is split into compounds, each of which
is an alternative, and a phrase is one run of tokens. Where no blank stands in a word, all its
tokens are in one compound, and the two ways meet.

* `compilePhrase_cases` — a phrase with a token is a term or a phrase of all its tokens.
* `Stack.step_quoted` — quotes around a word make no difference to the open groups.
* `compile_quoted_word` — so they make none to what comes of a sequence of lexemes.
-/

namespace TextQuery.Query

open Text (isBlank)

/-- A phrase with tokens is the term of its one token or the phrase of all. -/
theorem compilePhrase_cases {content : String} (h : tokens content ≠ []) :
    (∃ word, (tokens content).map Token.text = [word] ∧
      compilePhrase content = some (.term word)) ∨
    2 ≤ (tokens content).length ∧
      compilePhrase content = some (.phrase ((tokens content).map Token.text)) := by
  unfold compilePhrase
  match hts : tokens content with
  | [] => exact absurd hts h
  | [t] => exact .inl ⟨t.text, rfl, rfl⟩
  | t :: u :: ts => exact .inr ⟨by simp, rfl⟩

theorem Stack.step_quoted {text : String} (hblank : ∀ c ∈ text.toList, isBlank c = false)
    (htokens : tokens text ≠ []) (s : Stack) (offset : Nat) :
    s.step ⟨.word text, offset⟩ = s.step ⟨.phrase text, offset⟩ := by
  obtain ⟨n, hn⟩ := Option.isSome_iff_exists.1 ((compilePhrase_isSome text).2 htokens)
  simp only [step, compileWord_eq_compilePhrase hblank, hn]

/-- A lexeme may stand for another one that the open groups take in alike. -/
theorem compile_replace {p q : Placed} (h : ∀ s : Stack, s.step p = s.step q)
    (before after : List Placed) :
    compile (before ++ p :: after) = compile (before ++ q :: after) := by
  have hrun (s : Stack) : s.run (p :: after) = s.run (q :: after) := by
    rw [Stack.run, Stack.run, h s]
  unfold compile
  rw [Stack.run_append, Stack.run_append]
  cases ({} : Stack).run before with
  | error fault => rfl
  | ok s => simp only [hrun]

/-- **A word means the same in quotes.** A word without blanks that has a token may be put in quotes
in any sequence of lexemes: the tree or the fault stays the same. It is a single term or phrase, of
all its tokens in their order. No word that the lexer reads holds a blank. -/
theorem compile_quoted_word (text : String) :
    ((∀ c ∈ text.toList, isBlank c = false) → tokens text ≠ [] →
      (∀ before after offset, compile (before ++ ⟨.word text, offset⟩ :: after) =
        compile (before ++ ⟨.phrase text, offset⟩ :: after)) ∧
      ((∃ word, (tokens text).map Token.text = [word] ∧ compileWord text = some (.term word)) ∨
        2 ≤ (tokens text).length ∧
          compileWord text = some (.phrase ((tokens text).map Token.text)))) ∧
    ∀ query ps, lex query = .ok ps → .word text ∈ ps.map Placed.lexeme →
      ∀ c ∈ text.toList, isBlank c = false := by
  refine ⟨fun hblank htokens => ⟨fun before after offset => ?_, ?_⟩, ?_⟩
  · exact compile_replace (fun s => s.step_quoted hblank htokens offset) before after
  · rw [compileWord_eq_compilePhrase hblank]
    exact compilePhrase_cases htokens
  · intro query ps hlex hmem c hc
    have hends : endsWord c = false := (spells_of_lex hlex).lexical _ hmem c hc
    exact (endsWord_eq_false_iff.1 hends).1

/-- A word of three tokens behind a modifier, as the lexer reads it from `+x-1.5,é AND y`. -/
theorem compile_quoted_word_three_tokens :
    let text := "x-1.5,é"
    let ps : List Placed :=
      [⟨.modifier .plus, 0⟩, ⟨.word text, 1⟩, ⟨.operator .and, 10⟩, ⟨.word "y", 14⟩]
    let qs : List Placed :=
      [⟨.modifier .plus, 0⟩, ⟨.phrase text, 1⟩, ⟨.operator .and, 10⟩, ⟨.word "y", 14⟩]
    lex "+x-1.5,é AND y" = .ok ps ∧ .word text ∈ ps.map Placed.lexeme ∧
      (∀ c ∈ text.toList, isBlank c = false) ∧ tokens text ≠ [] ∧ compile ps = compile qs ∧
      ((∃ word, (tokens text).map Token.text = [word] ∧ compileWord text = some (.term word)) ∨
        2 ≤ (tokens text).length ∧
          compileWord text = some (.phrase ((tokens text).map Token.text))) := by
  intro text ps qs
  have hlex : lex "+x-1.5,é AND y" = .ok ps := Node.eq_ok_of_toOption (by decide +kernel)
  have hmem : .word text ∈ ps.map Placed.lexeme := by decide
  have htokens : tokens text ≠ [] := by decide +kernel
  obtain ⟨hquoted, hlexed⟩ := compile_quoted_word text
  have hblank := hlexed _ ps hlex hmem
  obtain ⟨hcompile, hcases⟩ := hquoted hblank htokens
  exact ⟨hlex, hmem, hblank, htokens, hcompile [⟨.modifier .plus, 0⟩] _ 1, hcases⟩

end TextQuery.Query
