import TextQuery.Proofs.Enclosing

/-!
# Queries made of queries in parentheses

A query that has a tree stands for its tree when it is put in parentheses: alone, behind a modifier,
and beside another one.

* `compile_of_run` — a run that ends with a clause compiles to what its group holds.
* `compile_enclosed` — one group behind at most one modifier.
* `Gathers` — what an open group holds after clauses with the same operator between every two of
  them. One more such clause (`Gathers.run_clause`), hence any number of them (`compile_chain`).
* `parse_chain`, `parse_beside`, `parse_composed` — the same for texts.
-/

namespace TextQuery.Query

/-! ## Lexemes -/

/-- The lexemes in parentheses. -/
def enclosed (ls : List Lexeme) : List Lexeme := .openParen :: ls ++ [.closeParen]

/-- Nothing is left hanging behind a clause. -/
theorem compile_of_run {ls : List Lexeme} {g : Group} {n : Node}
    (hrun : ({} : Stack).run (unplaced ls) = .ok ⟨g.addClause (some n), []⟩) :
    compile (unplaced ls) = .ok (Node.anyOf (g.addClause (some n)).finished) := by
  have hfin : (g.addClause (some n)).finished ≠ [] :=
    (g.addClause_finished_ne_nil (some n)).2 (.inr rfl)
  exact (g.settled_addClause (some n)).compile_eq_ok hfin hrun

/-- The tree of a clause behind a modifier, if there is one. -/
def modified (m : Option Modifier) (n : Node) : Node := m.elim n (·.apply n)

theorem canonical_modified {n : Node} (hn : n.Canonical) (m : Option Modifier) :
    (modified m n).Canonical := by
  cases m with
  | none => exact hn
  | some m => exact hn.apply m

/-- A query in parentheses with a modifier in front, if any, compiles to its tree with that
modifier. -/
theorem compile_enclosed (m : Option Modifier) {ls : List Lexeme} {n : Node}
    (h : compile (unplaced ls) = .ok n) :
    compile (unplaced (m.toList.map .modifier ++ enclosed ls)) = .ok (modified m n) := by
  let g : Group := { opened := none, modifier := m.map (·, 0) }
  have hrun : ({} : Stack).run (unplaced (m.toList.map .modifier ++ enclosed ls)) =
      .ok ⟨g.addClause (some n), []⟩ := by
    cases m with
    | none => exact run_enclosed h {}
    | some m => exact (Stack.run_cons_of_step (.modifier m 0 rfl)).trans (run_enclosed h ⟨g, []⟩)
  have hcanon := canonical_modified (canonical_of_compile h) m
  have hfin : (g.addClause (some n)).finished = [modified m n] := by
    have hmod : g.modify n = modified m n := by cases m <;> rfl
    rw [Group.addClause_some, hmod]
    show [Node.allOf [modified m n]] = _
    rw [Node.conjunctions.merge_singleton hcanon]
  rw [compile_of_run hrun, hfin, Node.disjunctions.merge_singleton hcanon]

/-- What two clauses make up with the operator between them: without one they are alternatives. -/
def joined (op : Option Operator) (n m : Node) : Node :=
  match op with
  | some .and => Node.allOf [n, m]
  | some .or | none => Node.anyOf [n, m]

/-- What clauses make up with the same operator between every two of them. -/
def gathered (op : Option Operator) (ns : List Node) : Node :=
  match op with
  | some .and => Node.allOf ns
  | some .or | none => Node.anyOf ns

theorem joined_eq_gathered (op : Option Operator) (n m : Node) :
    joined op n m = gathered op [n, m] := by
  rcases op with _ | _ | _ <;> rfl

/-- The group has read these clauses, with the operator between every two of them. -/
structure Gathers (op : Option Operator) (ns : List Node) (g : Group) : Prop
    extends g.Settled where
  nodes : match op with
    | some .and => g.alternatives = [] ∧ g.chain = ns
    | some .or | none => g.finished = ns

theorem Group.finished_addClause {g : Group} (hm : g.modifier = none) (hc : g.continues = false)
    {n : Node} (hn : n.Canonical) : (g.addClause (some n)).finished = g.finished ++ [n] := by
  rw [addClause_some, hc]
  simp only [modify, hm]
  show g.finished ++ [Node.allOf [n]] = g.finished ++ [n]
  rw [Node.conjunctions.merge_singleton hn]

theorem gathers_first (op : Option Operator) {n : Node} (hn : n.Canonical) :
    Gathers op [n] (Group.addClause { opened := none } (some n)) := by
  refine ⟨Group.settled_addClause _ _, ?_⟩
  match op with
  | some .and => exact ⟨rfl, rfl⟩
  | some .or | none => exact Group.finished_addClause rfl rfl hn

namespace Gathers

variable {op : Option Operator} {ns : List Node} {g : Group}

/-- One more clause in parentheses, with the operator in front of it, is gathered. The three cases
differ in what the operator does to the conjunction: it ends it, ends it and waits, or goes on. -/
theorem run_clause (hg : Gathers op ns g) {ls : List Lexeme} {n : Node}
    (h : compile (unplaced ls) = .ok n) :
    ∃ g', Stack.run ⟨g, []⟩ (unplaced (op.toList.map .operator ++ enclosed ls)) = .ok ⟨g', []⟩ ∧
      Gathers op (ns ++ [n]) g' := by
  have hn := canonical_of_compile h
  match op, hg with
  | none, hg =>
    refine ⟨_, run_enclosed h ⟨g, []⟩, Group.settled_addClause _ _, ?_⟩
    have hc : g.continues = false := by rw [Group.continues, hg.joiner]
    exact (Group.finished_addClause hg.modifier hc hn).trans (congrArg (· ++ [n]) hg.nodes)
  | some .or, hg =>
    -- the operator ends the conjunction, and the clause starts a new one
    let g₁ : Group := { g.flush with joiner := some (.or, 0) }
    have hop : Stack.run ⟨g, []⟩ (unplaced (.operator .or :: enclosed ls)) =
        Stack.run ⟨g₁, []⟩ (unplaced (enclosed ls)) :=
      Stack.run_cons_of_step (.or 0 hg.modifier hg.joiner hg.hasClause)
    refine ⟨_, hop.trans (run_enclosed h ⟨g₁, []⟩), Group.settled_addClause _ _, ?_⟩
    exact (Group.finished_addClause (g := g₁) hg.modifier rfl hn).trans (congrArg (· ++ [n]) hg.nodes)
  | some .and, hg =>
    -- the operator waits for the clause, which goes on the conjunction
    let g₁ : Group := { g with joiner := some (.and, 0) }
    have hop : Stack.run ⟨g, []⟩ (unplaced (.operator .and :: enclosed ls)) =
        Stack.run ⟨g₁, []⟩ (unplaced (enclosed ls)) :=
      Stack.run_cons_of_step (.and 0 hg.modifier hg.joiner hg.hasClause)
    refine ⟨_, hop.trans (run_enclosed h ⟨g₁, []⟩), Group.settled_addClause _ _, ?_⟩
    obtain ⟨halt, hchain⟩ := hg.nodes
    have hmod : g₁.modify n = n := by rw [Group.modify, show g₁.modifier = none from hg.modifier]
    rw [Group.addClause_some, hmod]
    exact ⟨halt, congrArg (· ++ [n]) hchain⟩

/-- Further clauses in parentheses, each with the operator in front. Induction on the clauses. -/
theorem run_clauses (hg : Gathers op ns g) {clauses : List (List Lexeme × Node)}
    (h : ∀ c ∈ clauses, compile (unplaced c.1) = .ok c.2) :
    ∃ g', Stack.run ⟨g, []⟩
        (unplaced (clauses.flatMap fun c => op.toList.map .operator ++ enclosed c.1)) =
          .ok ⟨g', []⟩ ∧
      Gathers op (ns ++ clauses.map (·.2)) g' := by
  induction clauses generalizing g ns with
  | nil => exact ⟨g, rfl, by simpa using hg⟩
  | cons c clauses ih =>
    obtain ⟨hc, hclauses⟩ := List.forall_mem_cons.1 h
    obtain ⟨g₁, hrun₁, hg₁⟩ := hg.run_clause hc
    obtain ⟨g₂, hrun₂, hg₂⟩ := ih hg₁ hclauses
    refine ⟨g₂, ?_, by simpa using hg₂⟩
    rw [List.flatMap_cons, unplaced_append, Stack.run_append_of_eq_ok hrun₁, hrun₂]

/-- What the group holds in the end. A conjunction is the only alternative. -/
theorem compile_eq_ok (hg : Gathers op ns g) (hne : ns ≠ []) (hns : ∀ n ∈ ns, n.Canonical)
    {ps : List Placed} (hrun : ({} : Stack).run ps = .ok ⟨g, []⟩) :
    compile ps = .ok (gathered op ns) := by
  match op, hg with
  | some .and, hg =>
    have hfin : g.finished = [Node.allOf ns] := Group.finished_of_chain hg.nodes hne
    rw [hg.toSettled.compile_eq_ok (by simp [hfin]) hrun, hfin,
      Node.disjunctions.merge_singleton (Node.conjunctions.canonical_merge hne hns)]
    rfl
  | some .or, hg | none, hg =>
    have hfin : g.finished = ns := hg.nodes
    rw [hg.toSettled.compile_eq_ok (by rwa [hfin]) hrun, hfin]
    rfl

end Gathers

/-- Groups with the same operator between every two of them compile to the tree that gathers theirs:
the first group starts an alternative or a conjunction, and the others are gathered behind it. -/
theorem compile_chain (op : Option Operator) {ls : List Lexeme} {n : Node}
    (hn : compile (unplaced ls) = .ok n) {clauses : List (List Lexeme × Node)}
    (h : ∀ c ∈ clauses, compile (unplaced c.1) = .ok c.2) :
    compile (unplaced (enclosed ls ++
      clauses.flatMap fun c => op.toList.map .operator ++ enclosed c.1)) =
        .ok (gathered op (n :: clauses.map (·.2))) := by
  have hfirst : ({} : Stack).run (unplaced (enclosed ls)) =
      .ok ⟨Group.addClause { opened := none } (some n), []⟩ := run_enclosed hn {}
  obtain ⟨g, hrun, hg⟩ :=
    (gathers_first op (canonical_of_compile hn)).run_clauses h
  refine hg.compile_eq_ok (by simp) (fun m hm => ?_) ?_
  · rcases List.mem_cons.1 hm with rfl | hm
    · exact canonical_of_compile hn
    · obtain ⟨c, hc, rfl⟩ := List.mem_map.1 hm
      exact canonical_of_compile (h c hc)
  · rw [unplaced_append, Stack.run_append_of_eq_ok hfirst, hrun]

/-! ## Texts -/

/-- The query in parentheses. -/
def parenthesized (query : String) : String := "(" ++ query ++ ")"

theorem parse_parenthesized {q : String} {n : Node} (h : parse q = .ok n) :
    parse (parenthesized q) = .ok n := by
  obtain ⟨ls, hls, hn⟩ := parse_eq_ok_iff.1 h
  have htext : Spells (parenthesized q).toList (enclosed ls) := by
    simpa [parenthesized, enclosed] using hls.enclosed .nil
  exact parse_eq_ok_iff.2 ⟨_, htext, compile_enclosed none hn⟩

theorem parse_modified (m : Modifier) {q text : String} {n : Node} (h : parse q = .ok n)
    (htext : ∀ {ls}, Spells ('(' :: q.toList ++ [')']) ls → Spells text.toList (.modifier m :: ls)) :
    parse text = .ok (m.apply n) := by
  obtain ⟨ls, hls, hn⟩ := parse_eq_ok_iff.1 h
  exact parse_eq_ok_iff.2 ⟨_, htext (hls.enclosed .nil), compile_enclosed (some m) hn⟩

/-- The lexemes of queries in parentheses, with the same text in front of each. Induction on the
queries, from the last one, since each is spelled in front of a text. -/
theorem exists_clauses {op : Option Operator} {between : List Char}
    (hbetween : ∀ {cs ls}, Spells cs ls → Spells (between ++ cs) (op.toList.map .operator ++ ls))
    {rest : List (String × Node)} (hrest : ∀ r ∈ rest, parse r.1 = .ok r.2) :
    ∃ clauses : List (List Lexeme × Node),
      (∀ c ∈ clauses, compile (unplaced c.1) = .ok c.2) ∧
        clauses.map (·.2) = rest.map (·.2) ∧
        Spells (rest.flatMap fun r => between ++ '(' :: r.1.toList ++ [')'])
          (clauses.flatMap fun c => op.toList.map .operator ++ enclosed c.1) := by
  induction rest with
  | nil => exact ⟨[], by simp, rfl, .nil⟩
  | cons r rest ih =>
    obtain ⟨hr, hrest⟩ := List.forall_mem_cons.1 hrest
    obtain ⟨clauses, hcompile, hnodes, hspells⟩ := ih hrest
    obtain ⟨ls, hls, hn⟩ := parse_eq_ok_iff.1 hr
    refine ⟨(ls, r.2) :: clauses, List.forall_mem_cons.2 ⟨hn, hcompile⟩, by simp [hnodes], ?_⟩
    simpa [enclosed] using hbetween (hls.enclosed hspells)

/-- Queries in parentheses with one operator between them have the tree that gathers theirs. -/
theorem parse_chain (op : Option Operator) {q text : String} {n : Node} (hq : parse q = .ok n)
    (rest : List (String × Node)) (hrest : ∀ r ∈ rest, parse r.1 = .ok r.2) {between : List Char}
    (htext : text.toList = '(' :: q.toList ++
      ')' :: rest.flatMap fun r => between ++ '(' :: r.1.toList ++ [')'])
    (hbetween : ∀ {cs ls}, Spells cs ls → Spells (between ++ cs) (op.toList.map .operator ++ ls)) :
    parse text = .ok (gathered op (n :: rest.map (·.2))) := by
  obtain ⟨ls, hls, hn⟩ := parse_eq_ok_iff.1 hq
  obtain ⟨clauses, hcompile, hnodes, hspells⟩ := exists_clauses hbetween hrest
  have htextSpells : Spells text.toList
      (enclosed ls ++ clauses.flatMap fun c => op.toList.map .operator ++ enclosed c.1) := by
    rw [htext]
    simpa [enclosed] using hls.enclosed hspells
  rw [← hnodes]
  exact parse_eq_ok_iff.2 ⟨_, htextSpells, compile_chain op hn hcompile⟩

theorem parse_joined (op : Option Operator) {q r text : String} {n m : Node} (hq : parse q = .ok n)
    (hr : parse r = .ok m) {between : List Char}
    (htext : text.toList = '(' :: q.toList ++ ')' :: (between ++ '(' :: r.toList ++ [')']))
    (hbetween : ∀ {cs ls}, Spells cs ls → Spells (between ++ cs) (op.toList.map .operator ++ ls)) :
    parse text = .ok (joined op n m) := by
  rw [joined_eq_gathered]
  exact parse_chain op hq [(r, m)] (by simpa using hr) (by simpa using htext) hbetween

/-- Two queries in parentheses, side by side, are alternatives. -/
theorem parse_beside {q r : String} {n m : Node} (hq : parse q = .ok n) (hr : parse r = .ok m) :
    parse ("(" ++ q ++ ") (" ++ r ++ ")") = .ok (Node.anyOf [n, m]) := by
  have htext : ("(" ++ q ++ ") (" ++ r ++ ")").toList =
      '(' :: q.toList ++ ')' :: ([' '] ++ '(' :: r.toList ++ [')']) := by simp
  exact parse_joined none hq hr htext fun h => .blank (by decide) h

/-- **Parentheses compose.** A query that has a tree stands for its tree when it is put in
parentheses, once or many times over; a modifier in front of it and an operator between two of them
do to the trees what they say. -/
theorem parse_composed {q q₁ q₂ : String} {n n₁ n₂ : Node} (h : parse q = .ok n)
    (h₁ : parse q₁ = .ok n₁) (h₂ : parse q₂ = .ok n₂) :
    parse ("(" ++ q ++ ")") = .ok n ∧
      (∀ k, parse (Nat.repeat parenthesized k q) = .ok n) ∧
      parse ("-(" ++ q ++ ")") = .ok (.not n) ∧
      parse ("NOT (" ++ q ++ ")") = .ok (.not n) ∧
      parse ("+(" ++ q ++ ")") = .ok (.required n) ∧
      parse ("(" ++ q₁ ++ ") AND (" ++ q₂ ++ ")") = .ok (Node.allOf [n₁, n₂]) ∧
      parse ("(" ++ q₁ ++ ") (" ++ q₂ ++ ")") = .ok (Node.anyOf [n₁, n₂]) ∧
      parse ("(" ++ q₁ ++ ") OR (" ++ q₂ ++ ")") = .ok (Node.anyOf [n₁, n₂]) := by
  refine ⟨parse_parenthesized h, fun k => ?_, ?_, ?_, ?_, ?_, parse_beside h₁ h₂, ?_⟩
  · induction k with
    | zero => exact h
    | succ k ih => exact parse_parenthesized ih
  · exact parse_modified .minus h fun hs => by simpa using Spells.read (.minus rfl) hs
  · refine parse_modified .not h fun {ls} hs => ?_
    -- unlike a sign, the word needs the blank that ends it
    have hword : Spells (['N', 'O', 'T'] ++ ' ' :: _) (.modifier .not :: ls) :=
      .bareWord (by decide) (by decide) (by decide) hs
    simpa using hword
  · exact parse_modified .plus h fun hs => by simpa using Spells.read (.plus rfl) hs
  · have htext : ("(" ++ q₁ ++ ") AND (" ++ q₂ ++ ")").toList =
        '(' :: q₁.toList ++ ')' :: (" AND ".toList ++ '(' :: q₂.toList ++ [')']) := by simp
    exact parse_joined (some .and) h₁ h₂ htext fun hs => hs.operatorBetween .and
  · have htext : ("(" ++ q₁ ++ ") OR (" ++ q₂ ++ ")").toList =
        '(' :: q₁.toList ++ ')' :: (" OR ".toList ++ '(' :: q₂.toList ++ [')']) := by simp
    exact parse_joined (some .or) h₁ h₂ htext fun hs => hs.operatorBetween .or

/-- With `a -b`, `"c d"` and `e AND f`. -/
theorem parse_composed_modified_clause :
    let n : Node := .or [.term "a", .not (.term "b")]
    let n₁ : Node := .phrase ["c", "d"]
    let n₂ : Node := .and [.term "e", .term "f"]
    parse "a -b" = .ok n ∧ parse "\"c d\"" = .ok n₁ ∧ parse "e AND f" = .ok n₂ ∧
      parse ("(" ++ "a -b" ++ ")") = .ok n ∧
      (∀ k, parse (Nat.repeat parenthesized k "a -b") = .ok n) ∧
      parse ("-(" ++ "a -b" ++ ")") = .ok (.not n) ∧
      parse ("NOT (" ++ "a -b" ++ ")") = .ok (.not n) ∧
      parse ("+(" ++ "a -b" ++ ")") = .ok (.required n) ∧
      parse ("(" ++ "\"c d\"" ++ ") AND (" ++ "e AND f" ++ ")") = .ok (Node.allOf [n₁, n₂]) ∧
      parse ("(" ++ "\"c d\"" ++ ") (" ++ "e AND f" ++ ")") = .ok (Node.anyOf [n₁, n₂]) ∧
      parse ("(" ++ "\"c d\"" ++ ") OR (" ++ "e AND f" ++ ")") = .ok (Node.anyOf [n₁, n₂]) :=
  have h := Node.eq_ok_of_toOption (by decide +kernel)
  have h₁ := Node.eq_ok_of_toOption (by decide +kernel)
  have h₂ := Node.eq_ok_of_toOption (by decide +kernel)
  ⟨h, h₁, h₂, parse_composed h h₁ h₂⟩

end TextQuery.Query
