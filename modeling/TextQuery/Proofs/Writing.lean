import TextQuery.Proofs.Grammar
import TextQuery.Proofs.Lexing
import TextQuery.Proofs.Trees

/-!
# Writing a tree as a query

Reading back what `Node.render` writes, first its lexemes and then its tree:

* `spells_render` — the lexemes of a written tree are those of `Node.spelled`, in each of the four
  places and whatever delimited text follows.
* `Node.derived` — `Node.spelled` of a canonical tree without stacked modifiers is derivable, and
  recursion over the derivation gives the tree back.
* `parse_toQueryString_eq_ok_iff` — a tree with legible leaves is read back exactly when it is
  canonical and stacks no modifiers.
-/

namespace TextQuery.Query

open Text (isBlank)

/-! ## Lexemes of a written tree -/

theorem intercalate_eq_flatten {α : Type} (ls : List (List α)) : [].intercalate ls = ls.flatten := by
  induction ls with
  | nil => rfl
  | cons l ls ih =>
    cases ls with
    | nil => simp
    | cons m ms => simp [List.intercalate_cons_cons, ih]

/-- With a separator between them, each list but the first has it in front. So they are added one by
one. -/
theorem intercalate_cons {α : Type} (sep l : List α) (ls : List (List α)) :
    sep.intercalate (l :: ls) = l ++ ls.flatMap (sep ++ ·) := by
  induction ls generalizing l with
  | nil => simp
  | cons m ms ih => simp [List.intercalate_cons_cons, ih]

/-- Lexemes in parentheses, if they are needed. -/
def enclose (needed : Bool) (ls : List Lexeme) : List Lexeme :=
  if needed then .openParen :: ls ++ [.closeParen] else ls

namespace Node

/-- The lexemes of an unquoted term. Signs at its front are read as modifiers. -/
def termLexemes : List Char → List Lexeme
  | [] => [.ofWord ""]
  | c :: cs =>
    if c = '+' then .modifier .plus :: termLexemes cs
    else if c = '-' then .modifier .minus :: termLexemes cs
    else [.ofWord (String.ofList (c :: cs))]

mutual
/-- The lexemes of the query text of a node at a place. -/
def spelled (place : Place) : Node → List Lexeme
  | .term text => if keywords.contains text then [.phrase text] else termLexemes text.toList
  | .phrase words => [.phrase (" ".intercalate words)]
  | .not child => .modifier .minus :: child.spelled .modified
  | .required child => .modifier .plus :: child.spelled .modified
  | .and children =>
    enclose (place == .conjunct || place == .modified)
      ([.operator .and].intercalate (spelledAll .conjunct children))
  | .or children => enclose (place != .top) (spelledAll .disjunct children).flatten

/-- The lexemes of the nodes, each at the same place. -/
def spelledAll (place : Place) : List Node → List (List Lexeme)
  | [] => []
  | n :: ns => n.spelled place :: spelledAll place ns
end

theorem spelledAll_eq_map (place : Place) (ns : List Node) :
    spelledAll place ns = ns.map (spelled place) := by
  induction ns with
  | nil => rfl
  | cons n ns ih => simp [spelledAll, ih]

theorem renderAll_eq_map (place : Place) (ns : List Node) :
    renderAll place ns = ns.map (render place) := by
  induction ns with
  | nil => rfl
  | cons n ns ih => simp [renderAll, ih]

/-- The leaf is written as one or more lexemes of its own: no unquoted term holds a character that
ends a word or only signs, and no phrase holds a quote. -/
def SeparableAt : Node → Prop
  | .term text => (∀ c ∈ text.toList, endsWord c = false) ∧ ∃ c ∈ text.toList, c ≠ '+' ∧ c ≠ '-'
  | .phrase words => ∀ word ∈ words, '"' ∉ word.toList
  | .and _ | .or _ | .not _ | .required _ => True

end Node

theorem canModify_of_not_endsWord {c : Char} (h : endsWord c = false) (cs : List Char) :
    canModify (c :: cs) = true := by
  simp only [endsWord, Bool.or_eq_false_iff, beq_eq_false_iff_ne, ne_eq] at h
  simp [canModify, h]

/-- A term that is written as it is spells its lexemes: leading signs are modifiers, and the rest is
a word. Induction on the characters; something other than a sign stays behind each sign. -/
theorem Spells.term {cs rest : List Char} (hcs : ∀ c ∈ cs, endsWord c = false)
    (hsign : ∃ c ∈ cs, c ≠ '+' ∧ c ≠ '-') (hrest : Delimited rest) {ls : List Lexeme}
    (h : Spells rest ls) : Spells (cs ++ rest) (Node.termLexemes cs ++ ls) := by
  induction cs with
  | nil => simp at hsign
  | cons c cs ih =>
    -- behind a sign the term goes on with something that is not a sign
    have hsigned (hc : c = '+' ∨ c = '-') :
        canModify (cs ++ rest) = true ∧ Spells (cs ++ rest) (Node.termLexemes cs ++ ls) := by
      have htail : ∃ d ∈ cs, d ≠ '+' ∧ d ≠ '-' := by
        obtain ⟨d, hd, hne⟩ := hsign
        rcases List.mem_cons.1 hd with rfl | hd
        · rcases hc with rfl | rfl <;> simp at hne
        · exact ⟨d, hd, hne⟩
      refine ⟨?_, ih (fun d hd => hcs d (by simp [hd])) htail⟩
      obtain ⟨d, hd, -⟩ := htail
      cases cs with
      | nil => simp at hd
      | cons e cs => exact canModify_of_not_endsWord (hcs e (by simp)) _
    unfold Node.termLexemes
    split
    · next hc =>
      subst hc
      obtain ⟨hcan, hspells⟩ := hsigned (.inl rfl)
      exact .read (.plus hcan) hspells
    · next hplus =>
      split
      · next hc =>
        subst hc
        obtain ⟨hcan, hspells⟩ := hsigned (.inr rfl)
        exact .read (.minus hcan) hspells
      · next hminus => exact .read (.word hplus hminus hcs hrest) h

/-- Texts with a separator between them are read one by one, when the separator ends the word in
front of it. -/
theorem Spells.intercalate {sep : List Char} {sepLexemes : List Lexeme}
    (hsep : ∀ rest ls, Spells rest ls → Spells (sep ++ rest) (sepLexemes ++ ls))
    (hdel : ∀ rest, Delimited (sep ++ rest)) {α : Type} {text : α → List Char}
    {lexemes : α → List Lexeme} {as : List α}
    (has : ∀ a ∈ as, ∀ rest ls, Delimited rest → Spells rest ls →
      Spells (text a ++ rest) (lexemes a ++ ls))
    {rest : List Char} {ls : List Lexeme} (hrest : Delimited rest) (h : Spells rest ls) :
    Spells (sep.intercalate (as.map text) ++ rest)
      (sepLexemes.intercalate (as.map lexemes) ++ ls) := by
  induction as with
  | nil => simpa using h
  | cons a as ih =>
    have ih := ih fun b hb => has b (by simp [hb])
    cases as with
    | nil => simpa using has a (by simp) rest ls hrest h
    | cons b bs =>
      -- the last text ends at `rest`, every other one at the separator
      have hbs := hsep _ _ ih
      have := has a (by simp) _ _ (hdel _) hbs
      simpa [List.intercalate_cons_cons] using this

/-- What spells lexemes in front of any text still does with parentheses around it, if the lexemes
get them too. -/
theorem Spells.parenthesize {cs rest : List Char} {needed : Bool} {ls more : List Lexeme}
    (hcs : ∀ rest more, Delimited rest → Spells rest more → Spells (cs ++ rest) (ls ++ more))
    (hrest : Delimited rest) (h : Spells rest more) :
    Spells (Node.parenthesize needed cs ++ rest) (enclose needed ls ++ more) := by
  cases needed with
  | false => exact hcs rest more hrest h
  | true =>
    -- the closing parenthesis ends the last word
    have hclose : Delimited (')' :: rest) := delimited_of_head (by decide) rest
    have := Spells.read (.openParen _) (hcs _ _ hclose (.read (.closeParen _) h))
    simpa [Node.parenthesize, enclose] using this

/-- What is rendered behind a modifier can be modified: it begins with a quote, a parenthesis, a
sign or a letter of a word, and with nothing that would leave the sign a word. -/
theorem canModify_render {n : Node} (hn : n.Everywhere Node.SeparableAt) (rest : List Char) :
    canModify (n.render .modified ++ rest) = true := by
  cases n with
  | term text =>
    obtain ⟨hcs, c, hc, -⟩ := Node.everywhere_term.1 hn
    rw [Node.render]
    split
    · rfl
    · cases htext : text.toList with
      | nil => simp [htext] at hc
      | cons d ds => exact canModify_of_not_endsWord (hcs d (by simp [htext])) _
  | phrase words => rfl
  | and children => rfl
  | or children => rfl
  | not child => rfl
  | required child => rfl

/-- Words without quotes have none with blanks between them. -/
theorem quote_not_mem_intercalate {words : List String}
    (h : ∀ word ∈ words, '"' ∉ word.toList) :
    '"' ∉ [' '].intercalate (words.map String.toList) := by
  induction words with
  | nil => simp
  | cons w ws ih =>
    have ih := ih fun v hv => h v (by simp [hv])
    cases ws with
    | nil => simpa using h w (by simp)
    | cons v vs =>
      have hw := h w (by simp)
      simp only [List.map_cons, List.intercalate_cons_cons, List.mem_append] at ih ⊢
      simp [hw] at ih ⊢
      exact ih

/-- The lexemes of a written tree, whatever delimited text follows. Induction on the tree: a group
ends where a word could end, so its children are spelled one behind the other. -/
theorem spells_render (n : Node) (hn : n.Everywhere Node.SeparableAt) (place : Node.Place)
    {rest : List Char} {ls : List Lexeme} (hrest : Delimited rest) (h : Spells rest ls) :
    Spells (n.render place ++ rest) (n.spelled place ++ ls) := by
  induction n using Node.childInduction generalizing place rest ls with
  | term text =>
    obtain ⟨hcs, hsign⟩ := Node.everywhere_term.1 hn
    rw [Node.render, Node.spelled]
    split
    · have hq : '"' ∉ text.toList := fun hmem => by simpa [endsWord] using hcs _ hmem
      have := Spells.read (.phrase hq rest) h
      simpa using this
    · exact h.term hcs hsign hrest
  | phrase words =>
    have hq := quote_not_mem_intercalate (Node.everywhere_phrase.1 hn)
    have hcontent : String.ofList ([' '].intercalate (words.map String.toList)) =
        " ".intercalate words := by
      rw [← String.toList_inj, String.toList_ofList, String.toList_intercalate]
      rfl
    have := Spells.read (.phrase hq rest) h
    rw [hcontent] at this
    simpa [Node.render, Node.spelled] using this
  | not child ih =>
    have hchild := (Node.everywhere_not.1 hn).2
    rw [Node.render, Node.spelled]
    exact .read (.minus (canModify_render hchild rest)) (ih hchild .modified hrest h)
  | required child ih =>
    have hchild := (Node.everywhere_required.1 hn).2
    rw [Node.render, Node.spelled]
    exact .read (.plus (canModify_render hchild rest)) (ih hchild .modified hrest h)
  | and children ih =>
    have hchildren := (Node.everywhere_and.1 hn).2
    rw [Node.render, Node.spelled, Node.renderAll_eq_map, Node.spelledAll_eq_map]
    refine Spells.parenthesize (fun rest more hrest hmore => ?_) hrest h
    exact Spells.intercalate (fun _ _ => Spells.operatorBetween .and)
      (fun _ => delimited_of_head (by decide) _)
      (fun c hc rest ls hrest h => ih c hc (hchildren c hc) .conjunct hrest h) hrest hmore
  | or children ih =>
    have hchildren := (Node.everywhere_or.1 hn).2
    rw [Node.render, Node.spelled, Node.renderAll_eq_map, Node.spelledAll_eq_map]
    refine Spells.parenthesize (fun rest more hrest hmore => ?_) hrest h
    -- alternatives stand side by side, with a blank and no operator between them
    have hblank (rest : List Char) (ls : List Lexeme) (h : Spells rest ls) :
        Spells ([' '] ++ rest) ([] ++ ls) := .blank (by decide) h
    have := Spells.intercalate hblank (fun _ => delimited_of_head (by decide) _)
      (fun c hc rest ls hrest h => ih c hc (hchildren c hc) .disjunct hrest h) hrest hmore
    rwa [intercalate_eq_flatten] at this

/-! ## A canonical tree is derived from its lexemes -/

namespace Node

/-- No modifier stands directly in front of another. -/
def UnstackedAt : Node → Prop
  | .not child | .required child => child.isModified = false
  | .term _ | .phrase _ | .and _ | .or _ => True

instance : DecidablePred UnstackedAt := fun n =>
  match n with
  | .not child | .required child => inferInstanceAs (Decidable (child.isModified = false))
  | .term _ | .phrase _ | .and _ | .or _ => inferInstanceAs (Decidable True)

/-- The leaf is read back as it is written: a term as a single word without signs, a phrase as its
words. -/
def LegibleAt : Node → Prop
  | .term text =>
    text ≠ "" ∧
      (∀ c ∈ text.toList, isBlank c = false ∧ c ≠ '(' ∧ c ≠ ')' ∧ c ≠ '"') ∧
      text.toList.head? ≠ some '+' ∧ text.toList.head? ≠ some '-' ∧
      (tokens text).map Token.text = [text]
  | .phrase words =>
    (∀ word ∈ words, '"' ∉ word.toList) ∧ (tokens (" ".intercalate words)).map Token.text = words
  | .and _ | .or _ | .not _ | .required _ => True

-- the characters are checked one by one: quantifying over `Char` would run through all of them
instance : DecidablePred LegibleAt := fun n =>
  match n with
  | .term text =>
    decidable_of_iff (text ≠ "" ∧
        text.toList.all (fun c => !isBlank c && c != '(' && c != ')' && c != '"') = true ∧
        text.toList.head? ≠ some '+' ∧ text.toList.head? ≠ some '-' ∧
        (tokens text).map Token.text = [text])
      (by simp [LegibleAt, and_assoc])
  | .phrase words => inferInstanceAs (Decidable ((∀ word ∈ words, '"' ∉ word.toList) ∧
      (tokens (" ".intercalate words)).map Token.text = words))
  | .and _ | .or _ | .not _ | .required _ => inferInstanceAs (Decidable True)

end Node

theorem compilePhrase_of_texts {content : String} {words : List String}
    (h : (tokens content).map Token.text = words) : compilePhrase content = Node.phrase? words := by
  rw [compilePhrase, h]

theorem compileWord_of_single {text : String} (h : (tokens text).map Token.text = [text]) :
    compileWord text = some (.term text) := by
  obtain ⟨t, ht, htext⟩ := List.map_eq_singleton_iff.1 h
  have hphrase : Node.phrase? (Compound.texts ⟨t, []⟩) = some (.term text) := by
    simp [Compound.texts, Compound.tokens, Node.phrase?, htext]
  unfold compileWord
  rw [ht, compounds]
  simp [compounds, hphrase, Node.disjunctions.merge_of_singleton, Node.disjuncts]

/-- A conjunction goes on with clauses that derive further nodes. Induction on the nodes, from left
to right as the grammar is. -/
theorem Conjunction.exists_extension {f : Node → List Lexeme} (c : Conjunction) (ns ms : List Node)
    (hc : c.trees? = some ms)
    (hns : ∀ n ∈ ns, ∃ u : Unary, u.lexemes = f n ∧ u.tree? = some n) :
    ∃ c' : Conjunction, c'.trees? = some (ms ++ ns) ∧
      c'.lexemes = c.lexemes ++ (ns.map f).flatMap ([.operator .and] ++ ·) := by
  induction ns generalizing c ms with
  | nil => exact ⟨c, by simpa using hc, by simp⟩
  | cons n ns ih =>
    obtain ⟨u, hu, hn⟩ := hns n (by simp)
    obtain ⟨c', hc', hl⟩ := ih (.and c u) (ms ++ [n]) (by simp [trees?, hc, hn])
      fun m hm => hns m (by simp [hm])
    exact ⟨c', by simpa using hc', by simpa [lexemes, hu] using hl⟩

/-- A disjunction goes on with conjunctions that derive further nodes, each beside the last. -/
theorem Disjunction.exists_extension {f : Node → List Lexeme} (d : Disjunction) (ns ms : List Node)
    (hd : d.trees? = some ms)
    (hns : ∀ n ∈ ns, ∃ c : Conjunction, c.lexemes = f n ∧ c.tree? = some n) :
    ∃ d' : Disjunction, d'.trees? = some (ms ++ ns) ∧
      d'.lexemes = d.lexemes ++ (ns.map f).flatten := by
  induction ns generalizing d ms with
  | nil => exact ⟨d, by simpa using hd, by simp⟩
  | cons n ns ih =>
    obtain ⟨c, hc, hn⟩ := hns n (by simp)
    obtain ⟨ks, hks, hn⟩ := Option.map_eq_some_iff.1 hn
    obtain ⟨d', hd', hl⟩ := ih (.beside d c) (ms ++ [n]) (by simp [trees?, hd, hks, hn])
      fun m hm => hns m (by simp [hm])
    exact ⟨d', by simpa using hd', by simpa [lexemes, hc] using hl⟩

/-- At each place the lexemes of the tree are derived from the nonterminal that belongs there, and
recursion over the derivation gives the tree back. -/
structure Node.Derived (n : Node) : Prop where
  primary : n.isModified = false →
    ∃ p : Primary, p.lexemes = n.spelled .modified ∧ p.tree? = some n
  unary : ∃ u : Unary, u.lexemes = n.spelled .conjunct ∧ u.tree? = some n
  conjunction : ∃ c : Conjunction, c.lexemes = n.spelled .disjunct ∧ c.tree? = some n
  disjunction : ∃ d : Disjunction, d.lexemes = n.spelled .top ∧ d.tree? = some n

theorem Unary.tree?_single {u : Unary} {n : Node} (h : u.tree? = some n) (hn : n.Canonical) :
    (Conjunction.single u).tree? = some n := by
  simp [Conjunction.tree?, Conjunction.trees?, h, Node.conjunctions.merge_singleton hn]

theorem Conjunction.tree?_single {c : Conjunction} {n : Node} (h : c.tree? = some n)
    (hn : n.Canonical) : (Disjunction.single c).tree? = some n := by
  obtain ⟨ns, hns, rfl⟩ := Option.map_eq_some_iff.1 h
  simp [Disjunction.tree?, Disjunction.trees?, hns, Node.disjunctions.merge_singleton hn]

/-- A node written without parentheses at every place where it is one clause. -/
theorem Node.Derived.of_unary {n : Node} (hn : n.Canonical) {u : Unary} (hu : u.tree? = some n)
    (hconjunct : u.lexemes = n.spelled .conjunct) (hdisjunct : u.lexemes = n.spelled .disjunct)
    (htop : u.lexemes = n.spelled .top)
    (hprimary : n.isModified = false →
      ∃ p : Primary, p.lexemes = n.spelled .modified ∧ p.tree? = some n) : n.Derived where
  primary := hprimary
  unary := ⟨u, hconjunct, hu⟩
  conjunction := ⟨.single u, hdisjunct, Unary.tree?_single hu hn⟩
  disjunction := ⟨.single (.single u), htop, Conjunction.tree?_single (Unary.tree?_single hu hn) hn⟩

theorem Node.termLexemes_of_head {text : String} (hne : text ≠ "")
    (hplus : text.toList.head? ≠ some '+') (hminus : text.toList.head? ≠ some '-') :
    termLexemes text.toList = [.ofWord text] := by
  cases htext : text.toList with
  | nil => exact absurd (String.toList_eq_nil_iff.1 htext) hne
  | cons c cs =>
    rw [htext] at hplus hminus
    simp only [List.head?_cons, ne_eq, Option.some.injEq] at hplus hminus
    rw [termLexemes, if_neg hplus, if_neg hminus, ← htext, String.ofList_toList]

theorem Lexeme.ofWord_of_not_keyword {text : String} (h : keywords.contains text = false) :
    Lexeme.ofWord text = .word text := by
  simp only [keywords, List.contains_cons, Bool.or_eq_false_iff] at h
  simp [Lexeme.ofWord, h]

/-- A legible term is derived: as the phrase of its keyword, or as a word. -/
theorem Node.Derived.term {text : String} (h : LegibleAt (.term text)) :
    (Node.term text).Derived := by
  obtain ⟨hne, -, hplus, hminus, htokens⟩ := h
  -- a keyword is written in quotes, any other term as it is
  obtain ⟨p, hp, htree⟩ : ∃ p : Primary,
      (∀ place, p.lexemes = (Node.term text).spelled place) ∧ p.tree? = some (.term text) := by
    cases hk : keywords.contains text with
    | true =>
      refine ⟨.phrase text, fun place => by simp only [spelled, hk]; rfl, ?_⟩
      exact compilePhrase_of_texts htokens
    | false =>
      refine ⟨.word text, fun place => ?_, compileWord_of_single htokens⟩
      rw [spelled, hk, termLexemes_of_head hne hplus hminus, Lexeme.ofWord_of_not_keyword hk]
      rfl
  exact .of_unary (canonical_term text) (u := .plain p) htree (hp _) (hp _) (hp _)
    fun _ => ⟨p, hp _, htree⟩

/-- A legible phrase is derived, at every place in the same way. -/
theorem Node.Derived.phrase {words : List String} (hcanon : (Node.phrase words).Canonical)
    (h : LegibleAt (.phrase words)) : (Node.phrase words).Derived := by
  have htwo : 2 ≤ words.length := hcanon.self
  -- a phrase of two words or more is not turned into a term
  have hphrase : phrase? words = some (.phrase words) := by
    match words, htwo with
    | _ :: _ :: _, _ => rfl
  have htree : (Primary.phrase (" ".intercalate words)).tree? = some (.phrase words) :=
    (compilePhrase_of_texts h.2).trans hphrase
  exact .of_unary hcanon (u := .plain (.phrase (" ".intercalate words))) htree rfl rfl rfl
    fun _ => ⟨_, rfl, htree⟩

/-- A modified node, written with the modifier `m`. -/
theorem Node.Derived.modified (m : Modifier) {child : Node}
    (hspelled : ∀ place, (m.apply child).spelled place = .modifier m :: child.spelled .modified)
    (hcanon : (m.apply child).Canonical) (hmod : child.isModified = false) (h : child.Derived) :
    (m.apply child).Derived := by
  obtain ⟨p, hp, htree⟩ := h.primary hmod
  have hu : (Unary.modified m p).tree? = some (m.apply child) := by
    simp [Unary.tree?, htree]
  have hl (place : Place) : (Unary.modified m p).lexemes = (m.apply child).spelled place := by
    rw [Unary.lexemes, hp, hspelled]
  have hmodified : (m.apply child).isModified = true := by
    cases m <;> rfl
  exact .of_unary hcanon hu (hl _) (hl _) (hl _) fun h => by simp [hmodified] at h

/-- A conjunction is derived from what its children are derived from. At the top and in a
disjunction it stands as it is, elsewhere in parentheses. -/
theorem Node.Derived.and {children : List Node} (hcanon : (Node.and children).Canonical)
    (h : ∀ c ∈ children, c.Derived) : (Node.and children).Derived := by
  have htwo : 2 ≤ children.length := hcanon.self.1
  obtain ⟨c, hc, hl⟩ : ∃ c : Conjunction, c.tree? = some (.and children) ∧
      c.lexemes = [.operator .and].intercalate (spelledAll .conjunct children) := by
    cases children with
    | nil => simp at htwo
    | cons n ns =>
      obtain ⟨u, hu, htree⟩ := (h n (by simp)).unary
      obtain ⟨c, hc, hl⟩ := (Conjunction.single u).exists_extension ns [n]
        (by simp [Conjunction.trees?, htree]) fun m hm => (h m (by simp [hm])).unary
      refine ⟨c, ?_, ?_⟩
      · rw [Conjunction.tree?, hc, List.singleton_append, Option.map_some,
          conjunctions.merge_children hcanon]
      · rw [spelledAll_eq_map, List.map_cons, intercalate_cons, hl, Conjunction.lexemes, hu]
  -- in parentheses the conjunction is the only alternative of a group
  have hgroup : ∃ p : Primary, p.lexemes = (Node.and children).spelled .modified ∧
      p.tree? = some (.and children) := by
    refine ⟨.group (.single c), ?_, Conjunction.tree?_single hc hcanon⟩
    rw [Primary.lexemes, Disjunction.lexemes, hl, spelled]
    rfl
  obtain ⟨p, hp, htree⟩ := hgroup
  exact {
    primary := fun _ => ⟨p, hp, htree⟩
    unary := ⟨.plain p, hp, htree⟩
    conjunction := ⟨c, hl, hc⟩
    disjunction := ⟨.single c, hl, Conjunction.tree?_single hc hcanon⟩ }

/-- A disjunction is derived from what its children are derived from. At the top it stands as it is,
elsewhere in parentheses. -/
theorem Node.Derived.or {children : List Node} (hcanon : (Node.or children).Canonical)
    (h : ∀ c ∈ children, c.Derived) : (Node.or children).Derived := by
  have htwo : 2 ≤ children.length := hcanon.self.1
  obtain ⟨d, hd, hl⟩ : ∃ d : Disjunction, d.tree? = some (.or children) ∧
      d.lexemes = (spelledAll .disjunct children).flatten := by
    cases children with
    | nil => simp at htwo
    | cons n ns =>
      obtain ⟨c, hc, htree⟩ := (h n (by simp)).conjunction
      obtain ⟨ks, hks, hn⟩ := Option.map_eq_some_iff.1 htree
      obtain ⟨d, hd, hl⟩ := (Disjunction.single c).exists_extension ns [n]
        (by simp [Disjunction.trees?, hks, hn]) fun m hm => (h m (by simp [hm])).conjunction
      refine ⟨d, ?_, ?_⟩
      · rw [Disjunction.tree?, hd, List.singleton_append, Option.map_some,
          disjunctions.merge_children hcanon]
      · rw [spelledAll_eq_map, List.map_cons, List.flatten_cons, hl, Disjunction.lexemes, hc]
  -- below the top the disjunction stands in parentheses, so it is a primary
  have hgroup : (Primary.group d).tree? = some (.or children) := hd
  have hp (place : Place) (hplace : place ≠ .top) :
      (Primary.group d).lexemes = (Node.or children).spelled place := by
    rw [Primary.lexemes, hl, spelled]
    cases place <;> first | rfl | exact absurd rfl hplace
  exact {
    primary := fun _ => ⟨.group d, hp _ (by simp), hgroup⟩
    unary := ⟨.plain (.group d), hp _ (by simp), hgroup⟩
    conjunction := ⟨.single (.plain (.group d)), hp _ (by simp), Unary.tree?_single hgroup hcanon⟩
    disjunction := ⟨d, hl, hd⟩ }

/-- A canonical tree without stacked modifiers is derived from its lexemes at every place. Induction
on the tree, with one lemma for each kind of node. -/
theorem Node.derived (n : Node) (hcanon : n.Canonical) (hstack : n.Everywhere UnstackedAt)
    (hleaf : n.Everywhere LegibleAt) : n.Derived := by
  induction n using Node.childInduction with
  | term text => exact .term hleaf.self
  | phrase words => exact .phrase hcanon hleaf.self
  | not child ih =>
    refine .modified .minus (fun place => by rw [Modifier.apply, spelled]) hcanon hstack.self ?_
    exact ih (everywhere_not.1 hcanon).2 (everywhere_not.1 hstack).2 (everywhere_not.1 hleaf).2
  | required child ih =>
    refine .modified .plus (fun place => by rw [Modifier.apply, spelled]) hcanon hstack.self ?_
    exact ih (everywhere_required.1 hcanon).2 (everywhere_required.1 hstack).2
      (everywhere_required.1 hleaf).2
  | and children ih =>
    exact .and hcanon fun c hc => ih c hc ((everywhere_and.1 hcanon).2 c hc)
      ((everywhere_and.1 hstack).2 c hc) ((everywhere_and.1 hleaf).2 c hc)
  | or children ih =>
    exact .or hcanon fun c hc => ih c hc ((everywhere_or.1 hcanon).2 c hc)
      ((everywhere_or.1 hstack).2 c hc) ((everywhere_or.1 hleaf).2 c hc)

/-! ## Stacked modifiers are refused -/

/-- Somewhere one modifier comes right behind another. -/
def Stacked (ls : List Lexeme) : Prop :=
  ∃ m m' : Modifier, [Lexeme.modifier m, Lexeme.modifier m'] <:+: ls

theorem Stacked.mono {ls ms : List Lexeme} (h : Stacked ls) (hsub : ls <:+: ms) : Stacked ms := by
  obtain ⟨m, m', hm⟩ := h
  exact ⟨m, m', hm.trans hsub⟩

/-- Two modifiers in a row are refused, wherever they stand. If the run gets that far, the first of
them still waits when the second comes. -/
theorem compile_ne_ok_of_stacked {ls : List Lexeme} (h : Stacked ls) (n : Node) :
    compile (unplaced ls) ≠ .ok n := by
  obtain ⟨m, m', as, bs, rfl⟩ := h
  intro hn
  obtain ⟨g, hrun, -⟩ := compile_eq_ok_iff.1 hn
  simp only [unplaced_append, unplaced_cons, List.append_assoc, List.cons_append, List.nil_append,
    Stack.run_append] at hrun
  split at hrun
  · next t _ =>
    obtain ⟨u, hu, hrun⟩ := Stack.run_cons_eq_ok_iff.1 hrun
    obtain ⟨v, hv, -⟩ := Stack.run_cons_eq_ok_iff.1 hrun
    -- the first modifier still waits when the second one comes
    cases hu with
    | modifier _ _ hm =>
      cases hv with
      | modifier _ _ hm' => simp at hm'
  · cases hrun

/-- Each of the lists stands whole in the list with separators. -/
theorem infix_intercalate {α : Type} {sep l : List α} {ls : List (List α)} (h : l ∈ ls) :
    l <:+: sep.intercalate ls := by
  induction ls with
  | nil => simp at h
  | cons m ms ih =>
    rw [intercalate_cons]
    rcases List.mem_cons.1 h with rfl | h
    · exact (List.prefix_append _ _).isInfix
    · -- not the first, so it stands behind a separator
      have hmem : sep ++ l ∈ ms.map (sep ++ ·) := List.mem_map_of_mem h
      have : sep ++ l <:+: (ms.map (sep ++ ·)).flatten := List.infix_of_mem_flatten hmem
      rw [List.flatMap_def]
      exact ((List.suffix_append sep l).isInfix.trans this).trans
        (List.suffix_append m _).isInfix

theorem infix_enclose (needed : Bool) (ls : List Lexeme) : ls <:+: enclose needed ls := by
  cases needed with
  | false => exact List.infix_refl _
  | true => exact ⟨[.openParen], [.closeParen], rfl⟩

/-- A node that is modified begins with its modifier at every place. -/
theorem Node.exists_spelled_of_isModified {n : Node} (h : n.isModified = true) (place : Place) :
    ∃ m ls, n.spelled place = .modifier m :: ls := by
  cases n with
  | not child => exact ⟨.minus, _, by rw [spelled]⟩
  | required child => exact ⟨.plus, _, by rw [spelled]⟩
  | _ => simp [isModified] at h

/-- If no two modifiers follow each other in the lexemes of a tree, no modified child has a modifier
of its own. Induction on the tree: the lexemes of each child stand whole in those of the node. -/
theorem Node.unstacked_of_spelled (n : Node) (place : Place) (h : ¬ Stacked (n.spelled place)) :
    n.Everywhere UnstackedAt := by
  -- behind a modifier the child is written first, at a place of its own
  have hmodifier {child : Node} {m : Modifier}
      (h : ¬ Stacked (.modifier m :: child.spelled .modified)) :
      child.isModified = false ∧ ¬ Stacked (child.spelled .modified) := by
    refine ⟨?_, fun hs => h (hs.mono (List.suffix_cons _ _).isInfix)⟩
    refine Bool.eq_false_iff.2 fun hmod => h ?_
    obtain ⟨m', ls, hls⟩ := exists_spelled_of_isModified hmod .modified
    exact ⟨m, m', [], ls, by simp [hls]⟩
  induction n using Node.childInduction generalizing place with
  | term text => exact everywhere_term.2 trivial
  | phrase words => exact everywhere_phrase.2 trivial
  | not child ih =>
    rw [spelled] at h
    exact everywhere_not.2 ⟨(hmodifier h).1, ih .modified (hmodifier h).2⟩
  | required child ih =>
    rw [spelled] at h
    exact everywhere_required.2 ⟨(hmodifier h).1, ih .modified (hmodifier h).2⟩
  | and children ih =>
    rw [spelled, spelledAll_eq_map] at h
    refine everywhere_and.2 ⟨trivial, fun c hc => ih c hc .conjunct fun hs => h ?_⟩
    exact hs.mono ((infix_intercalate (List.mem_map_of_mem hc)).trans (infix_enclose _ _))
  | or children ih =>
    rw [spelled, spelledAll_eq_map] at h
    refine everywhere_or.2 ⟨trivial, fun c hc => ih c hc .disjunct fun hs => h ?_⟩
    exact hs.mono ((List.infix_of_mem_flatten (List.mem_map_of_mem hc)).trans (infix_enclose _ _))

/-! ## Reading back -/

/-- What is legible can be told apart from what follows it. -/
theorem Node.LegibleAt.separableAt {n : Node} (h : LegibleAt n) : SeparableAt n := by
  cases n with
  | term text =>
    obtain ⟨hne, hchars, hplus, hminus, -⟩ := h
    refine ⟨fun c hc => ?_, ?_⟩
    · obtain ⟨hblank, hopen, hclose, hquote⟩ := hchars c hc
      simp [endsWord, hblank, hopen, hclose, hquote]
    · cases htext : text.toList with
      | nil => exact absurd (String.toList_eq_nil_iff.1 htext) hne
      | cons c cs =>
        rw [htext] at hplus hminus
        exact ⟨c, by simp, by simpa using hplus, by simpa using hminus⟩
  | phrase words => exact h.1
  | _ => trivial

/-- A rendered tree parses as the lexemes of the tree compile, since it spells them and no others.
-/
theorem parse_toQueryString_eq_ok_iff_compile {n : Node} (h : n.Everywhere Node.SeparableAt)
    {m : Node} : parse n.toQueryString = .ok m ↔ compile (unplaced (n.spelled .top)) = .ok m := by
  have hend : Delimited [] := by simp [Delimited]
  have hspells := spells_render n h .top hend .nil
  rw [List.append_nil, List.append_nil] at hspells
  exact hspells.parse_eq_ok_iff

/-- A rendered tree that parses at all has no modifier directly in front of another. -/
theorem unstacked_of_parse {n m : Node} (hsep : n.Everywhere Node.SeparableAt)
    (h : parse n.toQueryString = .ok m) : n.Everywhere Node.UnstackedAt := by
  rw [parse_toQueryString_eq_ok_iff_compile hsep] at h
  exact n.unstacked_of_spelled .top fun hs => compile_ne_ok_of_stacked hs m h

/-- A canonical tree with legible leaves and no stacked modifiers is read back. -/
theorem parse_toQueryString_of_legible {n : Node} (hcanon : n.Canonical)
    (hstack : n.Everywhere Node.UnstackedAt) (hleaf : n.Everywhere Node.LegibleAt) :
    parse n.toQueryString = .ok n := by
  have hsep : n.Everywhere Node.SeparableAt := fun m hm => (hleaf m hm).separableAt
  obtain ⟨d, hd, htree⟩ := (n.derived hcanon hstack hleaf).disjunction
  rw [parse_toQueryString_eq_ok_iff_compile hsep, ← hd]
  exact Disjunction.compile_of_tree? htree

/-- **Which trees survive writing and reading.** A tree whose leaves are legible is read back from
its own query text exactly when it is canonical and stacks no modifiers. -/
theorem parse_toQueryString_eq_ok_iff (n : Node) (hleaf : n.Everywhere Node.LegibleAt) :
    parse n.toQueryString = .ok n ↔ n.Canonical ∧ n.Everywhere Node.UnstackedAt := by
  have hsep : n.Everywhere Node.SeparableAt := fun m hm => (hleaf m hm).separableAt
  constructor
  · intro h
    refine ⟨?_, unstacked_of_parse hsep h⟩
    rw [parse_toQueryString_eq_ok_iff_compile hsep] at h
    exact canonical_of_compile h
  · rintro ⟨hcanon, hstack⟩
    exact parse_toQueryString_of_legible hcanon hstack hleaf

/-- `foo AND "AND" -("bar baz" (+qux a))`: a keyword, a phrase, and a group kept for its
modifier. -/
theorem parse_toQueryString_keyword_and_groups :
    let n : Node := .or [.and [.term "foo", .term "AND"],
      .not (.or [.phrase ["bar", "baz"], .or [.required (.term "qux"), .term "a"]])]
    n.Everywhere Node.LegibleAt ∧
      (parse n.toQueryString = .ok n ↔ n.Canonical ∧ n.Everywhere Node.UnstackedAt) :=
  ⟨by decide +kernel, parse_toQueryString_eq_ok_iff _ (by decide +kernel)⟩

end TextQuery.Query
