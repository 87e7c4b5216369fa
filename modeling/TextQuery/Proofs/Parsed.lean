import TextQuery.Proofs.RoundTrip

/-!
# What a parsed tree holds

A query and the tree that it is read as, compared word by word:

* `canonical_of_parse` — the tree is in canonical form, and each of its words has a letter or digit.
* `Prohibited` — the lexemes in front of a place put it into a clause or a group with `-` or `NOT`
  in front of it, at any depth. Reading backwards with a count of the groups to skip decides it
  (`prohibitedBack_iff`).
* `Stack.Tells.step` — the modifiers that wait in the open groups tell the same.
* `Stack.terms_step` — a lexeme adds its words to those that can contribute to a match, unless its
  place is prohibited.
* `words_of_parse` — the tree has all words of the query in their order, and `Node.terms` those at
  places that are not prohibited.
-/

namespace TextQuery.Query

open Text (isAlphanumeric)

/-! ## The form of the tree -/

/-- **Parsed trees are canonical.** At every node of the tree of a query, phrases have two words or
more, groups have two children or more and none that should have been merged, and every word holds a
letter or digit. -/
theorem canonical_of_parse {query : String} {n : Node} (h : parse query = .ok n) :
    n.Canonical ∧ n.Everywhere fun m => ∀ w ∈ m.words, w.toList.any isAlphanumeric = true := by
  obtain ⟨ls, hls, hn⟩ := parse_eq_ok_iff.1 h
  refine ⟨canonical_of_compile hn, fun m hm w hw => ?_⟩
  exact (tokensAt_of_spells hls hn m hm).isAlphanumeric hw

/-- `x (a AND (b AND c-d)) (e (f -g))`: merged conjunctions and a merged group beside one that is
kept for its modifier. -/
theorem canonical_of_parse_nested_groups :
    let n : Node := .or [.term "x", .and [.term "a", .term "b", .phrase ["c", "d"]], .term "e",
      .or [.term "f", .not (.term "g")]]
    parse "x (a AND (b AND c-d)) (e (f -g))" = .ok n ∧
      n.Canonical ∧ n.Everywhere fun m => ∀ w ∈ m.words, w.toList.any isAlphanumeric = true :=
  have h := Node.eq_ok_of_toOption (by decide +kernel)
  ⟨h, canonical_of_parse h⟩

/-! ## Prohibited places -/

/-- The lexeme is `-` or `NOT`. -/
def Lexeme.prohibits : Lexeme → Bool
  | .modifier .minus | .modifier .not => true
  | _ => false

/-- Every parenthesis among the lexemes has its partner there. -/
inductive Balanced : List Lexeme → Prop where
  | nil : Balanced []
  | snoc {ls : List Lexeme} {l : Lexeme} (h : Balanced ls) (hopen : l ≠ .openParen)
      (hclose : l ≠ .closeParen) : Balanced (ls ++ [l])
  | group {ls inner : List Lexeme} (h : Balanced ls) (hinner : Balanced inner) :
      Balanced (ls ++ .openParen :: inner ++ [.closeParen])

/-- What comes behind the lexemes is prohibited: `-` or `NOT` stands right in front of it, or in
front of a group around it. -/
inductive Prohibited : List Lexeme → Prop where
  | clause (before : List Lexeme) {l : Lexeme} (hl : l.prohibits = true) : Prohibited (before ++ [l])
  | group {before inner : List Lexeme} (h : Prohibited before) (hinner : Balanced inner) :
      Prohibited (before ++ .openParen :: inner)

/-! ### Reading backwards -/

/-- Reading backwards from a place, with `depth` groups to leave before its own group is reached
again: the place is prohibited. `front` tells that a modifier here would speak about the place. -/
def prohibitedBack (front : Bool) : Nat → List Lexeme → Bool
  | _, [] => false
  | 0, .openParen :: ls => prohibitedBack true 0 ls
  | depth + 1, .openParen :: ls => prohibitedBack false depth ls
  | depth, .closeParen :: ls => prohibitedBack false (depth + 1) ls
  | depth, l :: ls => front && l.prohibits || prohibitedBack false depth ls

/-- Past a lexeme that is no parenthesis: it prohibits the place directly behind it, and beyond it
nothing does so directly. -/
theorem prohibitedBack_cons {l : Lexeme} (hopen : l ≠ .openParen) (hclose : l ≠ .closeParen)
    (front : Bool) (depth : Nat) (ls : List Lexeme) :
    prohibitedBack front depth (l :: ls) = (front && l.prohibits || prohibitedBack false depth ls) := by
  cases l with
  | openParen => exact absurd rfl hopen
  | closeParen => exact absurd rfl hclose
  | _ => cases depth <;> rfl

theorem prohibitedBack_closeParen (front : Bool) (depth : Nat) (ls : List Lexeme) :
    prohibitedBack front depth (.closeParen :: ls) = prohibitedBack false (depth + 1) ls := by
  cases depth <;> rfl

/-- Balanced lexemes are passed, and the groups among them are left again. -/
theorem Balanced.prohibitedBack {inner : List Lexeme} (h : Balanced inner) {depth : Nat}
    {rest : List Lexeme} (hrest : ∀ front, Query.prohibitedBack front depth rest = true)
    (front : Bool) : Query.prohibitedBack front depth (inner.reverse ++ rest) = true := by
  induction h generalizing depth rest front with
  | nil => exact hrest front
  | @snoc ls l h hopen hclose ih =>
    rw [List.reverse_append, List.reverse_singleton, List.singleton_append, List.cons_append,
      prohibitedBack_cons hopen hclose, ih hrest, Bool.or_true]
  | @group ls inner h hinner ih ihinner =>
    have hshape : (ls ++ Lexeme.openParen :: inner ++ [Lexeme.closeParen]).reverse ++ rest =
        .closeParen :: (inner.reverse ++ .openParen :: (ls.reverse ++ rest)) := by simp
    have hleft : ∀ front, Query.prohibitedBack front (depth + 1)
        (.openParen :: (ls.reverse ++ rest)) = true := fun _ => ih hrest false
    rw [hshape, prohibitedBack_closeParen]
    exact ihinner hleft false

/-- Where a place is prohibited, reading backwards finds it so. Induction on why it is: a modifier
in front, or a prohibited group around. -/
theorem Prohibited.prohibitedBack {ls : List Lexeme} (h : Prohibited ls) :
    Query.prohibitedBack true 0 ls.reverse = true := by
  induction h with
  | @clause before l hl =>
    -- only modifiers prohibit, and they are no parentheses
    have hopen : l ≠ .openParen := by rintro rfl; cases hl
    have hclose : l ≠ .closeParen := by rintro rfl; cases hl
    rw [List.reverse_append, List.reverse_singleton, List.singleton_append,
      prohibitedBack_cons hopen hclose, hl, Bool.true_and, Bool.true_or]
  | @group before inner h hinner ih =>
    have hshape : (before ++ Lexeme.openParen :: inner).reverse =
        inner.reverse ++ .openParen :: before.reverse := by simp
    have hgroup : ∀ front, Query.prohibitedBack front 0 (.openParen :: before.reverse) = true :=
      fun _ => ih
    rw [hshape]
    exact hinner.prohibitedBack hgroup true

theorem Balanced.append {as bs : List Lexeme} (ha : Balanced as) (hb : Balanced bs) :
    Balanced (as ++ bs) := by
  induction hb with
  | nil => rwa [List.append_nil]
  | snoc h hopen hclose ih =>
    rw [← List.append_assoc]
    exact .snoc ih hopen hclose
  | group h hinner ih _ =>
    have := Balanced.group ih hinner
    simpa using this

/-- The lexemes leave `depth` groups that were opened in front of them. -/
inductive Leaves : Nat → List Lexeme → Prop where
  | zero {ls : List Lexeme} (h : Balanced ls) : Leaves 0 ls
  | succ {depth : Nat} {inner ls : List Lexeme} (hinner : Balanced inner) (h : Leaves depth ls) :
      Leaves (depth + 1) (inner ++ .closeParen :: ls)

theorem Leaves.prepend {depth : Nat} {as ls : List Lexeme} (h : Leaves depth ls) (ha : Balanced as) :
    Leaves depth (as ++ ls) := by
  cases h with
  | zero h => exact .zero (ha.append h)
  | succ hinner h =>
    rw [← List.append_assoc]
    exact .succ (ha.append hinner) h

/-- What reading backwards finds is a reason for the place to be prohibited. Induction on the
lexemes still to read, for any that have been passed; these have left as many groups as `depth`
says. -/
theorem prohibited_of_prohibitedBack {front : Bool} {depth : Nat} {ls passed : List Lexeme}
    (h : prohibitedBack front depth ls = true) (hpassed : Leaves depth passed)
    (hfront : front = true → passed = []) : Prohibited (ls.reverse ++ passed) := by
  induction ls generalizing front depth passed with
  | nil => cases depth <;> cases h
  | cons l ls ih =>
    rw [List.reverse_cons, List.append_assoc, List.singleton_append]
    by_cases hopen : l = .openParen
    · subst hopen
      cases hpassed with
      | zero hbal =>
        -- the group around the place is left, and what is in front of it decides
        have hbefore : Prohibited ls.reverse := by
          have hnone : Leaves 0 [] := .zero .nil
          have := ih h hnone fun _ => rfl
          simpa using this
        exact .group hbefore hbal
      | @succ depth inner rest hinner hrest =>
        -- the parenthesis opens the first of the groups that were left
        have hgroup : Leaves depth (.openParen :: inner ++ [.closeParen] ++ rest) :=
          hrest.prepend (.group .nil hinner)
        have := ih h hgroup (by simp)
        simpa using this
    by_cases hclose : l = .closeParen
    · -- one more group has to be left, and nothing inside it counts
      subst hclose
      rw [prohibitedBack_closeParen] at h
      exact ih h (.succ .nil hpassed) (by simp)
    · rw [prohibitedBack_cons hopen hclose, Bool.or_eq_true, Bool.and_eq_true] at h
      rcases h with ⟨hf, hl⟩ | h
      · rw [hfront hf]
        exact .clause _ hl
      · have hone : Balanced [l] := .snoc .nil hopen hclose
        exact ih h (hpassed.prepend hone) (by simp)

theorem prohibitedBack_iff {ls : List Lexeme} :
    prohibitedBack true 0 ls.reverse = true ↔ Prohibited ls := by
  refine ⟨fun h => ?_, fun h => h.prohibitedBack⟩
  have := prohibited_of_prohibitedBack h (.zero .nil) fun _ => rfl
  simpa using this

instance : DecidablePred Prohibited := fun _ => decidable_of_iff _ prohibitedBack_iff

/-! ## Modifiers that wait -/

/-- The modifier that waits in the group is `-` or `NOT`. -/
def Group.prohibits (g : Group) : Bool := g.waiting.any Lexeme.prohibits

theorem Group.not_prohibits {g : Group} (hm : g.modifier = none) : g.prohibits = false := by
  simp [prohibits, waiting, hm]

/-- Read backwards, the lexemes tell which modifiers wait: in all open groups for the place itself,
and in those around the innermost ones when these have to be left first. -/
structure Stack.Tells (s : Stack) (back : List Lexeme) : Prop where
  front : prohibitedBack true 0 back = (s.top :: s.outer).any Group.prohibits
  around : ∀ depth, prohibitedBack false depth back = (s.outer.drop depth).any Group.prohibits

/-- A lexeme other than a parenthesis decides what waits in the innermost group. -/
theorem Stack.Tells.mapTop {s : Stack} {back : List Lexeme} (h : s.Tells back) {l : Lexeme}
    (hopen : l ≠ .openParen) (hclose : l ≠ .closeParen) {g : Group}
    (hg : g.prohibits = l.prohibits) : Tells { s with top := g } (l :: back) where
  front := by
    rw [prohibitedBack_cons hopen hclose, Bool.true_and, h.around 0, ← hg]
    rfl
  around depth := by
    rw [prohibitedBack_cons hopen hclose, h.around depth]
    rfl

/-- A step changes which modifiers wait as reading backwards sees it. Only parentheses change the
number of groups. -/
theorem Stack.Tells.step {s s' : Stack} {p : Placed} {back : List Lexeme} (h : s.Tells back)
    (hstep : s.Step p s') : s'.Tells (p.lexeme :: back) := by
  cases hstep with
  | word text offset => exact h.mapTop (by simp) (by simp) (Group.not_prohibits rfl)
  | phrase content offset n hn => exact h.mapTop (by simp) (by simp) (Group.not_prohibits rfl)
  | modifier m offset hm =>
    refine h.mapTop (by simp) (by simp) ?_
    simp [Group.prohibits, Group.waiting]
  | and offset hm hj hc => exact h.mapTop (by simp) (by simp) (Group.not_prohibits hm)
  | or offset hm hj hc => exact h.mapTop (by simp) (by simp) (Group.not_prohibits hm)
  | openParen offset =>
    -- the group that was innermost is now the one around
    have hnew : Group.prohibits { opened := some offset } = false := Group.not_prohibits rfl
    refine ⟨?_, fun depth => ?_⟩
    · rw [prohibitedBack, h.front]
      show _ = (Group.prohibits { opened := some offset } || (s.top :: s.outer).any Group.prohibits)
      rw [hnew, Bool.false_or]
    · cases depth with
      | zero => exact h.front
      | succ depth => exact h.around depth
  | closeParen offset parent outer hs hm hj hc =>
    have houter (depth : Nat) : (s.outer.drop (depth + 1)).any Group.prohibits =
        (outer.drop depth).any Group.prohibits := by rw [hs, List.drop_succ_cons]
    refine ⟨?_, fun depth => ?_⟩
    · rw [prohibitedBack_closeParen, h.around, houter, List.any_cons, Group.not_prohibits rfl]
      rfl
    · rw [prohibitedBack_closeParen, h.around, houter]

/-! ## Words that can contribute -/

/-- What comes of a modifier's clause: nothing under `-` or `NOT`. -/
theorem Node.terms_apply (m : Modifier) (n : Node) :
    (m.apply n).terms = if (Lexeme.modifier m).prohibits then [] else n.terms := by
  cases m <;> simp [Modifier.apply, terms, Lexeme.prohibits]

theorem Node.termsAll_eq_flatMap (ns : List Node) : termsAll ns = ns.flatMap terms := by
  induction ns with
  | nil => rfl
  | cons n ns ih => rw [termsAll, ih, List.flatMap_cons]

theorem Node.collects_terms : Collects terms where
  and children := by rw [terms, termsAll_eq_flatMap]
  or children := by rw [terms, termsAll_eq_flatMap]

theorem Node.terms_of_phrase? {ws : List String} {n : Node} (h : phrase? ws = some n) :
    n.terms = n.leaves.flatMap words := by
  match ws, h with
  | [w], h =>
    obtain rfl := Option.some.inj h
    simp [terms, words]
  | _ :: _ :: _, h =>
    obtain rfl := Option.some.inj h
    simp [terms, words]

theorem terms_compilePhrase (content : String) :
    (compilePhrase content).toList.flatMap Node.terms = (Lexeme.phrase content).texts := by
  rw [← Lexeme.flatMap_words_leaves, Lexeme.leaves]
  cases h : compilePhrase content with
  | none => rfl
  | some n => simp [Node.terms_of_phrase? h]

/-- The tree of a word contributes the tokens of the word. -/
theorem terms_compileWord (text : String) :
    (compileWord text).toList.flatMap Node.terms = (Lexeme.word text).texts := by
  rw [← Lexeme.flatMap_words_leaves, Lexeme.leaves, leaves_compileWord]
  unfold compileWord
  split
  · next hnil => rw [hnil]; rfl
  · rw [Option.toList_some, List.flatMap_singleton, Node.collects_terms.anyOf, List.flatMap_def,
      List.flatMap_def]
    refine congrArg List.flatten (List.map_congr_left fun n hn => ?_)
    -- each node is a leaf, made from one compound
    obtain ⟨c, -, hc⟩ := List.mem_filterMap.1 hn
    rw [Node.terms_of_phrase? hc, (Node.leaves_of_phrase? hc).1, List.flatMap_singleton]

/-- The words in the group that can contribute to a match. -/
def Group.terms (g : Group) : List String := (g.alternatives ++ g.chain).flatMap Node.terms

/-- A clause adds its words, unless the group prohibits it. -/
theorem Group.terms_addClause (g : Group) (c : Option Node) :
    (g.addClause c).terms =
      g.terms ++ if g.prohibits then [] else c.toList.flatMap Node.terms := by
  -- what is negated contributes nothing, whatever the modifiers around
  have hmod (n : Node) : (g.modify n).terms = if g.prohibits then [] else n.terms := by
    unfold modify prohibits waiting
    cases g.modifier with
    | none => simp
    | some mo => simp [Node.terms_apply]
  unfold terms
  rw [flatMap_addClause Node.collects_terms]
  simp only [hmod]
  cases g.prohibits <;> simp

/-- The words that can contribute to a match in the groups, which are given from the inside out:
what is in a group counts only if no group around it waits to prohibit it. -/
def Group.allTerms : List Group → List String
  | [] => []
  | g :: outer => allTerms outer ++ if outer.any prohibits then [] else g.terms

namespace Stack

/-- The words that can contribute in all open groups. -/
def terms (s : Stack) : List String := Group.allTerms (s.top :: s.outer)

/-- A clause of the innermost group adds its words, unless that group or one around it prohibits it.
-/
theorem terms_addClause (g : Group) (outer : List Group) (c : Option Node) :
    terms ⟨g.addClause c, outer⟩ =
      terms ⟨g, outer⟩ ++
        if (g :: outer).any Group.prohibits then [] else c.toList.flatMap Node.terms := by
  simp only [terms, Group.allTerms, Group.terms_addClause, List.any_cons]
  by_cases hg : g.prohibits = true <;> by_cases ho : outer.any Group.prohibits = true <;>
    simp [hg, ho]

theorem terms_congr {g g' : Group} (h : g'.terms = g.terms) (outer : List Group) :
    terms ⟨g', outer⟩ = terms ⟨g, outer⟩ := by
  simp only [terms, Group.allTerms, h]

/-- A lexeme adds its words, unless a modifier that waits prohibits them. Operators and parentheses
have none, and closing a group moves what it holds to the group around it. -/
theorem terms_step {s s' : Stack} {p : Placed} (hstep : s.Step p s') :
    s'.terms = s.terms ++
      if (s.top :: s.outer).any Group.prohibits then [] else p.lexeme.texts := by
  cases hstep with
  | word text offset => rw [terms_addClause, terms_compileWord]
  | phrase content offset n hn => rw [terms_addClause, ← hn, terms_compilePhrase]
  | modifier m offset hm =>
    refine (terms_congr (g := s.top) rfl s.outer).trans ?_
    simp [Lexeme.texts]
  | and offset hm hj hc =>
    refine (terms_congr (g := s.top) rfl s.outer).trans ?_
    simp [Lexeme.texts]
  | or offset hm hj hc =>
    have hflush : Group.terms { s.top.flush with joiner := some (.or, offset) } = s.top.terms := by
      have hfin := Group.flatMap_finished Node.collects_terms s.top
      simpa [Group.terms, Group.flush] using hfin
    refine (terms_congr hflush s.outer).trans ?_
    simp [Lexeme.texts]
  | openParen offset => simp [terms, Group.allTerms, Group.terms, Lexeme.texts]
  | closeParen offset parent outer hs hm hj hc =>
    -- what the group held counted only as far as the groups around it let it
    have htree : s.top.tree?.toList.flatMap Node.terms = s.top.terms :=
      Group.flatMap_tree? Node.collects_terms s.top
    rw [terms_addClause, htree]
    simp [terms, Group.allTerms, hs, Lexeme.texts]

end Stack

/-! ## Words of a query and words of its tree -/

/-- The lexemes at places that are not prohibited; `before` stands in front of them. -/
def permitted (before : List Lexeme) : List Lexeme → List Lexeme
  | [] => []
  | l :: ls => (if Prohibited before then [] else [l]) ++ permitted (before ++ [l]) ls

/-- Of a longer sequence the last lexeme is permitted as well, unless its place is prohibited. -/
theorem permitted_snoc (before ls : List Lexeme) (l : Lexeme) :
    permitted before (ls ++ [l]) =
      permitted before ls ++ if Prohibited (before ++ ls) then [] else [l] := by
  induction ls generalizing before with
  | nil => simp [permitted]
  | cons k ls ih => simp [permitted, ih]

/-- After a run the groups contribute the tokens of the permitted lexemes. Induction on the run; the
modifiers that wait are part of the invariant, since they decide which lexemes are permitted next.
-/
theorem Stack.terms_run {s : Stack} {ps : List Placed} (hrun : ({} : Stack).run ps = .ok s) :
    s.terms = (permitted [] (ps.map Placed.lexeme)).flatMap Lexeme.texts := by
  let P (s : Stack) (ls : List Lexeme) : Prop :=
    s.Tells ls.reverse ∧ s.terms = (permitted [] ls).flatMap Lexeme.texts
  have hstart : P {} [] := by
    refine ⟨⟨?_, fun depth => ?_⟩, rfl⟩
    · simp [prohibitedBack, Group.not_prohibits]
    · simp [prohibitedBack]
  have hstep (s : Stack) (p : Placed) (s' : Stack) (ls : List Lexeme) (h : P s ls)
      (hst : s.Step p s') : P s' (ls ++ [p.lexeme]) := by
    obtain ⟨htells, hterms⟩ := h
    refine ⟨?_, ?_⟩
    · rw [List.reverse_append, List.reverse_singleton, List.singleton_append]
      exact htells.step hst
    · -- the modifiers that wait prohibit the lexeme exactly when its place is prohibited
      have hplace : (s.top :: s.outer).any Group.prohibits = true ↔ Prohibited ls := by
        rw [← htells.front, prohibitedBack_iff]
      rw [terms_step hst, hterms, permitted_snoc, List.nil_append, List.flatMap_append]
      by_cases hls : Prohibited ls
      · simp [hls, hplace.2 hls]
      · simp [hls, mt hplace.1 hls]
  have := run_invariant (P := P) hstep hstart hrun
  exact this.2

/-- The words that can contribute to a match are the tokens of the permitted lexemes. -/
theorem terms_of_compile {ps : List Placed} {n : Node} (h : compile ps = .ok n) :
    n.terms = (permitted [] (ps.map Placed.lexeme)).flatMap Lexeme.texts := by
  obtain ⟨top, hrun, hclose⟩ := compile_eq_ok_iff.1 h
  obtain ⟨-, -, -, htree⟩ := Group.close_eq_ok_iff.1 hclose
  -- nothing waits at the end, so the group and its tree contribute the same
  have htop : top.tree?.toList.flatMap Node.terms = top.terms :=
    Group.flatMap_tree? Node.collects_terms top
  rw [htree, Option.toList_some, List.flatMap_singleton] at htop
  rw [htop, ← Stack.terms_run hrun]
  simp [Stack.terms, Group.allTerms]

/-- A query is read by its lexemes alone: the default settings have no limit. -/
theorem parse_eq (query : String) :
    parse query =
      match lex query with
      | .error e => .error e
      | .ok ps =>
        match compile ps with
        | .error fault => .error ⟨fault, query⟩
        | .ok n => .ok n := by
  rfl

theorem lex_of_parse {query : String} {n : Node} (h : parse query = .ok n) :
    ∃ ps, lex query = .ok ps ∧ compile ps = .ok n := by
  rw [parse_eq] at h
  cases hlex : lex query with
  | error e => simp [hlex] at h
  | ok ps =>
    refine ⟨ps, rfl, ?_⟩
    cases hc : compile ps with
    | error fault => simp [hlex, hc] at h
    | ok m => simpa [hlex, hc] using h

/-- **No word is lost, doubled or moved.** The words of a parsed tree, from left to right, are the
tokens of the words and phrases of the query, one lexeme after another. The words that can
contribute to a match are those from lexemes at places that no `-` or `NOT` prohibits. -/
theorem words_of_parse {query : String} {n : Node} (h : parse query = .ok n) :
    ∃ ps, lex query = .ok ps ∧
      n.leaves.flatMap Node.words = (ps.map Placed.lexeme).flatMap Lexeme.texts ∧
      n.terms = (permitted [] (ps.map Placed.lexeme)).flatMap Lexeme.texts := by
  obtain ⟨ps, hlex, hn⟩ := lex_of_parse h
  exact ⟨ps, hlex, words_of_compile hn, terms_of_compile hn⟩

/-- `a -(b +(c d)) ! NOT "e f" (g -h)`: prohibited words in nested groups, in a phrase and in the
last group, and a dropped clause. -/
theorem words_of_parse_nested_modifiers :
    let n : Node := .or [.term "a",
      .not (.or [.term "b", .required (.or [.term "c", .term "d"])]), .not (.phrase ["e", "f"]),
      .or [.term "g", .not (.term "h")]]
    parse "a -(b +(c d)) ! NOT \"e f\" (g -h)" = .ok n ∧
      ∃ ps, lex "a -(b +(c d)) ! NOT \"e f\" (g -h)" = .ok ps ∧
        n.leaves.flatMap Node.words = (ps.map Placed.lexeme).flatMap Lexeme.texts ∧
        n.terms = (permitted [] (ps.map Placed.lexeme)).flatMap Lexeme.texts :=
  have h := Node.eq_ok_of_toOption (by decide +kernel)
  ⟨h, words_of_parse h⟩

end TextQuery.Query
