import TextQuery.Proofs.Grammar

/-!
# Completing what has been read

Lexemes that are taken in one by one can be completed to a query, whatever waits in the groups that
are open: a word with a token uses up what waits in the innermost one, and each closing parenthesis
hands a clause to the group around, which uses up what waits there.

* `Stack.run_closing` — with the last group settled, closing parentheses settle all of them.
* `Stack.depth_run` — as many groups are open as parentheses are missing.
* `exists_compile_of_run` — the lexemes, a word and the closing parentheses have a tree.
* `run_eq_error_iff` — a run fails exactly on lexemes that nothing completes.
* `failsAt_iff_not_completable` — so the lexeme that is refused is the first one behind which no
  query can go on.
-/

namespace TextQuery.Query

/-! ## Closing the open groups -/

/-- Parentheses for all open groups leave only the outermost one, with a clause that is kept.
Induction on the groups. -/
theorem Stack.run_closing {top : Group} {outer : List Group} {closing : List Placed}
    (htop : top.Settled) (hholds : top.finished ≠ [])
    (hclosing : closing.map Placed.lexeme = List.replicate outer.length .closeParen) :
    ∃ g : Group, Stack.run ⟨top, outer⟩ closing = .ok ⟨g, []⟩ ∧ g.Settled ∧ g.finished ≠ [] := by
  induction outer generalizing top closing with
  | nil =>
    obtain rfl := List.map_eq_nil_iff.1 hclosing
    exact ⟨top, rfl, htop, hholds⟩
  | cons parent outer ih =>
    rw [List.length_cons, List.replicate_succ, List.map_eq_cons_iff] at hclosing
    obtain ⟨⟨lexeme, offset⟩, closing, rfl, rfl, hclosing⟩ := hclosing
    have hstep : Stack.Step ⟨top, parent :: outer⟩ ⟨.closeParen, offset⟩
        ⟨parent.addClause top.tree?, outer⟩ :=
      .closeParen offset parent outer rfl htop.modifier htop.joiner (.inl htop.hasClause)
    have hparent : (parent.addClause top.tree?).finished ≠ [] := by
      rw [Group.addClause_finished_ne_nil, Group.tree?_isSome]
      exact .inr hholds
    rw [Stack.run_cons_of_step hstep]
    -- the group that was closed hands on what it held, so the parent keeps something too
    exact ih (Group.settled_addClause parent _) hparent hclosing

theorem Stack.depth_step {s s' : Stack} {p : Placed} (h : s.Step p s') :
    s'.outer.length + [p.lexeme].count .closeParen =
      s.outer.length + [p.lexeme].count .openParen := by
  cases h with
  | closeParen offset parent outer hs hm hj hc => simp [hs]
  | _ => simp

/-- After a run as many groups are open as opening parentheses were not closed. Induction on the
lexemes. -/
theorem Stack.depth_run {s : Stack} {ps : List Placed} (hrun : ({} : Stack).run ps = .ok s) :
    s.outer.length + (ps.map Placed.lexeme).count .closeParen =
      (ps.map Placed.lexeme).count .openParen := by
  let P (s : Stack) (ls : List Lexeme) : Prop :=
    s.outer.length + ls.count .closeParen = ls.count .openParen
  have hstep (s : Stack) (p : Placed) (s' : Stack) (ls : List Lexeme) (h : P s ls)
      (hst : s.Step p s') : P s' (ls ++ [p.lexeme]) := by
    have hdepth := depth_step hst
    simp only [P, List.count_append] at h ⊢
    omega
  have hstart : P {} [] := rfl
  exact run_invariant (P := P) hstep hstart hrun

/-- The closing parentheses that the lexemes lack. -/
def missingParens (ls : List Lexeme) : List Lexeme :=
  .replicate (ls.count .openParen - ls.count .closeParen) .closeParen

/-- What has been read, a word with a token and the parentheses that are missing make up a query. -/
theorem exists_compile_of_run {ps closing : List Placed} {s : Stack}
    (hrun : ({} : Stack).run ps = .ok s) {text : String} (htext : tokens text ≠ []) (offset : Nat)
    (hclosing : closing.map Placed.lexeme = missingParens (ps.map Placed.lexeme)) :
    ∃ n, compile (ps ++ ⟨.word text, offset⟩ :: closing) = .ok n := by
  have hdepth := Stack.depth_run hrun
  have hclosing : closing.map Placed.lexeme = List.replicate s.outer.length .closeParen := by
    rw [hclosing, missingParens, ← hdepth, Nat.add_sub_cancel]
  have hword : (s.top.addClause (compileWord text)).finished ≠ [] := by
    rw [Group.addClause_finished_ne_nil, compileWord_isSome]
    exact .inr htext
  obtain ⟨g, hend, hg, hholds⟩ :=
    Stack.run_closing (Group.settled_addClause s.top (compileWord text)) hword hclosing
  refine ⟨Node.anyOf g.finished, hg.compile_eq_ok hholds ?_⟩
  rw [Stack.run_append_of_eq_ok hrun, Stack.run_cons_of_step (.word text offset)]
  exact hend

/-! ## Lexemes that are refused -/

/-- Lexemes are refused exactly if no lexemes behind them make a query. Otherwise the groups that
are open can be closed behind one more clause. -/
theorem run_eq_error_iff {ps : List Placed} :
    (∃ fault, ({} : Stack).run ps = .error fault) ↔ ∀ more n, compile (ps ++ more) ≠ .ok n := by
  constructor
  · rintro ⟨fault, hrun⟩ more n hn
    obtain ⟨g, hok, -⟩ := compile_eq_ok_iff.1 hn
    rw [Stack.run_append, hrun] at hok
    cases hok
  · intro hnone
    cases hrun : ({} : Stack).run ps with
    | error fault => exact ⟨fault, rfl⟩
    | ok s =>
      have htext : tokens "a" ≠ [] := by decide +kernel
      obtain ⟨n, hn⟩ := exists_compile_of_run hrun htext 0 (map_lexeme_unplaced (missingParens _))
      exact absurd hn (hnone _ n)

/-- The lexemes in front of number `k`, counted from 0, are taken in, and the lexeme itself is
refused. -/
def FailsAt (ps : List Placed) (k : Nat) : Prop :=
  ∃ s p fault, ({} : Stack).run (ps.take k) = .ok s ∧ ps[k]? = some p ∧ s.step p = .error fault

theorem Stack.run_singleton (s : Stack) (p : Placed) : s.run [p] = s.step p := by
  rw [run]
  cases s.step p <;> rfl

theorem failsAt_iff {ps : List Placed} {k : Nat} :
    FailsAt ps k ↔
      (∃ s, ({} : Stack).run (ps.take k) = .ok s) ∧
        ∃ fault, ({} : Stack).run (ps.take (k + 1)) = .error fault := by
  rw [List.take_add_one]
  constructor
  · rintro ⟨s, p, fault, hrun, hp, hstep⟩
    refine ⟨⟨s, hrun⟩, fault, ?_⟩
    rw [hp, Stack.run_append_of_eq_ok hrun, Option.toList_some, Stack.run_singleton, hstep]
  · rintro ⟨⟨s, hrun⟩, fault, hfault⟩
    rw [Stack.run_append_of_eq_ok hrun] at hfault
    cases hp : ps[k]? with
    | none =>
      -- behind the last lexeme there is none to be refused
      rw [hp] at hfault
      cases hfault
    | some p =>
      rw [hp, Option.toList_some, Stack.run_singleton] at hfault
      exact ⟨s, p, fault, hrun, hp, hfault⟩

/-- **A fault is found at the first lexeme that makes it certain.** A lexeme is refused exactly
when those in front of it are taken in and no query begins with them and it. Lexemes that are all
taken in become a query with one more word that has a token and the closing parentheses that are
missing. -/
theorem failsAt_iff_not_completable (ps : List Placed) :
    (∀ k, FailsAt ps k ↔
      (∃ s, ({} : Stack).run (ps.take k) = .ok s) ∧
        ∀ more n, compile (ps.take (k + 1) ++ more) ≠ .ok n) ∧
    ∀ s, ({} : Stack).run ps = .ok s → ∀ text offset closing, tokens text ≠ [] →
      closing.map Placed.lexeme = missingParens (ps.map Placed.lexeme) →
      ∃ n, compile (ps ++ ⟨.word text, offset⟩ :: closing) = .ok n := by
  refine ⟨fun k => ?_, fun s hrun text offset closing htext hclosing => ?_⟩
  · rw [failsAt_iff, run_eq_error_iff]
  · exact exists_compile_of_run hrun htext offset hclosing

/-- `( + ( NOT` waits for clauses in two groups, and `é ) )` completes it; nothing completes
`( + ( )`. -/
theorem failsAt_iff_not_completable_waiting_modifiers :
    let ps : List Placed :=
      [⟨.openParen, 0⟩, ⟨.modifier .plus, 2⟩, ⟨.openParen, 4⟩, ⟨.modifier .not, 6⟩]
    let qs : List Placed :=
      [⟨.openParen, 0⟩, ⟨.modifier .plus, 2⟩, ⟨.openParen, 4⟩, ⟨.closeParen, 6⟩]
    let closing : List Placed := [⟨.closeParen, 13⟩, ⟨.closeParen, 15⟩]
    ((∃ s, ({} : Stack).run ps = .ok s) ∧ tokens "é" ≠ [] ∧
        closing.map Placed.lexeme = missingParens (ps.map Placed.lexeme) ∧
        ∃ n, compile (ps ++ ⟨.word "é", 10⟩ :: closing) = .ok n) ∧
      FailsAt qs 3 ∧ ∀ more n, compile (qs.take 4 ++ more) ≠ .ok n := by
  intro ps qs closing
  have hrun : ∃ s, ({} : Stack).run ps = .ok s := ⟨_, rfl⟩
  have htext : tokens "é" ≠ [] := by decide +kernel
  have hclosing : closing.map Placed.lexeme = missingParens (ps.map Placed.lexeme) := by decide
  have hfails : FailsAt qs 3 := ⟨_, _, _, rfl, rfl, rfl⟩
  refine ⟨⟨hrun, htext, hclosing, ?_⟩, hfails, ((failsAt_iff_not_completable qs).1 3).1 hfails |>.2⟩
  obtain ⟨s, hrun⟩ := hrun
  exact (failsAt_iff_not_completable ps).2 s hrun "é" 10 closing htext hclosing

end TextQuery.Query
