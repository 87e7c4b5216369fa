import TextQuery.Proofs.Sources

/-!
# Lexemes written out again

Which sequences of lexemes are the lexemes of a text, and a text for each of them.

* `written` — the lexemes in their spelling, with a blank between two of them but none behind a
  sign.
* `Writable` — what the lexemes of a text have in common: each can be written by itself, and behind
  a sign stands something that it can speak about. `Spells.writable` reads it off a text.
* `spells_written_iff` — these sequences, and no others, are read back from what is written.
* `lex_written` — so the lexemes of a query are the lexemes of their written form.
-/

namespace TextQuery.Query

/-! ## The written form -/

/-- A lexeme as it stands in a query: its spelling, and the quotes of a phrase. -/
def Lexeme.written (l : Lexeme) : String :=
  match l with
  | .phrase _ => "\"" ++ l.spelling ++ "\""
  | .word _ | .operator _ | .modifier _ | .openParen | .closeParen => l.spelling

/-- Whether the lexeme is a sign, which needs no blank behind it and must have none. -/
def Lexeme.isSign : Lexeme → Bool
  | .modifier .plus | .modifier .minus => true
  | .word _ | .phrase _ | .operator _ | .modifier .not | .openParen | .closeParen => false

/-- The lexemes side by side: one blank between neighbours, and nothing behind `+` and `-`. -/
def written : List Lexeme → String
  | [] => ""
  | [l] => l.written
  | l :: m :: ls => l.written ++ (if l.isSign then "" else " ") ++ written (m :: ls)

theorem Lexeme.written_mem_sources (l : Lexeme) : l.written ∈ l.sources := by
  cases l with
  | word text => exact List.mem_singleton_self text
  | phrase content => exact List.mem_singleton_self _
  | operator op => cases op <;> decide
  | modifier m => exact List.mem_singleton_self _
  | openParen => decide
  | closeParen => decide

theorem exists_written_cons (l : Lexeme) (ls : List Lexeme) :
    ∃ rest, (written (l :: ls)).toList = l.written.toList ++ rest := by
  cases ls with
  | nil => exact ⟨[], by simp [written]⟩
  | cons m ls =>
    refine ⟨(if l.isSign then "" else " ").toList ++ (written (m :: ls)).toList, ?_⟩
    rw [written, String.toList_append, String.toList_append, List.append_assoc]

/-! ## Sequences that can be written

A sign takes the character behind it for the begin of its clause. All that the characters of a text
say about this is that a lexeme follows, and that it is not a closing parenthesis. -/

/-- Every lexeme can be written by itself, and a sign stands in front of what it can speak about. -/
def Writable : List Lexeme → Prop
  | [] => True
  | l :: ls =>
    l.Formed ∧ (l.isSign = true → ∃ m ∈ ls.head?, m ≠ .closeParen) ∧ Writable ls

theorem Lexeme.canPrecede_iff_of_isSign {l : Lexeme} (hsign : l.isSign = true) (rest : List Char) :
    l.CanPrecede rest ↔ canModify rest = true := by
  cases l with
  | modifier m =>
    cases m with
    | plus => exact Iff.rfl
    | minus => exact Iff.rfl
    | not => cases hsign
  | _ => cases hsign

/-- A sign can modify what any lexeme but a closing parenthesis is written as: none of these begins
with a blank. -/
theorem canModify_written {l : Lexeme} (hl : l.Formed) (hclose : l ≠ .closeParen)
    (rest : List Char) : canModify (l.written.toList ++ rest) = true := by
  cases l with
  | word text =>
    obtain ⟨hne, hchars, -, -⟩ := hl
    show canModify (text.toList ++ rest) = true
    cases htext : text.toList with
    | nil => exact absurd (String.toList_eq_nil_iff.1 htext) hne
    | cons c cs =>
      obtain ⟨hblank, -, hparen, -⟩ := hchars c (by simp [htext])
      simp [canModify, hblank, hparen]
  | phrase content =>
    have hquote : (Lexeme.phrase content).written.toList = '"' :: (content.toList ++ ['"']) := by
      simp [Lexeme.written, Lexeme.spelling]
    rw [hquote]
    rfl
  | operator op => cases op <;> rfl
  | modifier m => cases m <;> rfl
  | openParen => rfl
  | closeParen => exact absurd rfl hclose

/-- What a sign finds behind it is the begin of a lexeme. -/
theorem Spells.exists_head_of_canModify {cs : List Char} {ls : List Lexeme} (h : Spells cs ls)
    (hcan : canModify cs = true) : ∃ m ∈ ls.head?, m ≠ .closeParen := by
  cases h with
  | nil => cases hcan
  | blank hc h => simp [canModify, hc] at hcan
  | @read _ rest m ls hr h =>
    refine ⟨m, rfl, ?_⟩
    rintro rfl
    obtain ⟨-, -, source, hsource, rfl⟩ := hr.exists_source
    obtain rfl := List.mem_singleton.1 hsource
    cases hcan

/-- Lexemes that some text spells can be written. Behind a sign there is always one to modify, and
this depends on the lexemes alone. -/
theorem Spells.writable {cs : List Char} {ls : List Lexeme} (h : Spells cs ls) : Writable ls := by
  induction h with
  | nil => trivial
  | blank hc h ih => exact ih
  | @read cs rest l ls hr h ih =>
    obtain ⟨hformed, hprecede, -⟩ := hr.exists_source
    refine ⟨hformed, fun hsign => ?_, ih⟩
    exact h.exists_head_of_canModify ((Lexeme.canPrecede_iff_of_isSign hsign rest).1 hprecede)

/-! ## Reading back -/

-- behind a word or a keyword there is nothing, or the blank that ends it
theorem Lexeme.canPrecede_of_not_isSign {l : Lexeme} (hsign : l.isSign = false) {rest : List Char}
    (hrest : Delimited rest) : l.CanPrecede rest := by
  cases l with
  | modifier m =>
    cases m with
    | not => exact hrest
    | _ => cases hsign
  | word text => exact hrest
  | operator op => exact hrest
  | _ => trivial

/-- Lexemes that can be written are spelled by what is written. Induction along `written`, which
puts a blank behind each lexeme but the signs. -/
theorem Writable.spells_written {ls : List Lexeme} (h : Writable ls) :
    Spells (written ls).toList ls := by
  fun_induction written ls with
  | case1 => exact .nil
  | case2 l =>
    obtain ⟨hformed, hnext, -⟩ := h
    -- a sign would have something behind it
    have hsign : l.isSign = false := by
      rw [Bool.eq_false_iff]
      intro hsign
      obtain ⟨m, hm, -⟩ := hnext hsign
      cases hm
    have hend : Delimited [] := by simp [Delimited]
    have hread :=
      readsAs_of_source hformed (l.canPrecede_of_not_isSign hsign hend) l.written_mem_sources
    rw [List.append_nil] at hread
    exact .read hread .nil
  | case3 l m ls ih =>
    obtain ⟨hformed, hnext, hwritable⟩ := h
    have hspells := ih hwritable
    cases hsign : l.isSign with
    | true =>
      obtain ⟨m', hm', hclose⟩ := hnext hsign
      obtain rfl := Option.some.inj hm'
      obtain ⟨rest, hrest⟩ := exists_written_cons m ls
      have hcan : canModify (written (m :: ls)).toList = true := by
        rw [hrest]
        exact canModify_written hwritable.1 hclose rest
      have hread := readsAs_of_source hformed ((Lexeme.canPrecede_iff_of_isSign hsign _).2 hcan)
        l.written_mem_sources
      simpa [hsign] using Spells.read hread hspells
    | false =>
      have hdelim : Delimited (' ' :: (written (m :: ls)).toList) :=
        delimited_of_head (by decide) _
      have hread :=
        readsAs_of_source hformed (l.canPrecede_of_not_isSign hsign hdelim) l.written_mem_sources
      simpa [hsign] using Spells.read hread (.blank (by decide) hspells)

/-- Written lexemes are read back exactly if there is a text that spells them. -/
theorem spells_written_iff {ls : List Lexeme} :
    Spells (written ls).toList ls ↔ ∃ cs, Spells cs ls := by
  refine ⟨fun h => ⟨_, h⟩, ?_⟩
  rintro ⟨cs, h⟩
  exact h.writable.spells_written

/-- **Lexemes written out are read back.** The lexemes of a query, each in its spelling, with a
blank between two of them but none behind a sign, are the lexemes of that text. -/
theorem lex_written {query : String} {ps : List Placed} (h : lex query = .ok ps) :
    ∃ qs, lex (written (ps.map Placed.lexeme)) = .ok qs ∧
      qs.map Placed.lexeme = ps.map Placed.lexeme := by
  have hspells := spells_written_iff.2 ⟨query.toList, spells_of_lex h⟩
  obtain ⟨qs, hqs, hlexemes⟩ := hspells.lexFrom 0
  refine ⟨qs, ?_, hlexemes⟩
  unfold lex
  rw [hqs]

/-- A phrase right behind a word, signs in front of a keyword, of each other and of an empty phrase,
and an operator in its other spelling. -/
theorem lex_written_signs_and_keyword :
    let query := "a\"b c\"+&& -(--d)\u3000NOT +\"\" ||x"
    let ps : List Placed := [⟨.word "a", 0⟩, ⟨.phrase "b c", 1⟩, ⟨.modifier .plus, 6⟩,
      ⟨.operator .and, 7⟩, ⟨.modifier .minus, 10⟩, ⟨.openParen, 11⟩, ⟨.modifier .minus, 12⟩,
      ⟨.modifier .minus, 13⟩, ⟨.word "d", 14⟩, ⟨.closeParen, 15⟩, ⟨.modifier .not, 19⟩,
      ⟨.modifier .plus, 23⟩, ⟨.phrase "", 24⟩, ⟨.word "||x", 27⟩]
    lex query = .ok ps ∧
      written (ps.map Placed.lexeme) = "a \"b c\" +AND -( --d ) NOT +\"\" ||x" ∧
      ∃ qs, lex (written (ps.map Placed.lexeme)) = .ok qs ∧
        qs.map Placed.lexeme = ps.map Placed.lexeme :=
  have h := Node.eq_ok_of_toOption (by decide +kernel)
  ⟨h, by decide +kernel, lex_written h⟩

end TextQuery.Query
