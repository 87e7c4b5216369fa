import TextQuery.Proofs.Grammar
import TextQuery.Proofs.Lexing
import TextQuery.Proofs.Trees

/-!
# A query in parentheses

A query that has a tree can be put in parentheses and used as a clause of another query:

* `Spells.append` — texts put one behind the other are read as the lexemes of the one and then of
  the other, unless a word runs on.
* `Stack.inside` — what was read on its own, seen as read inside a group above other open groups.
  Every step goes on as before (`Stack.Step.inside`), so a whole run does (`Stack.run_inside`).
* `run_enclosed` — the lexemes of a query, in parentheses, add its tree to the group around.
-/

namespace TextQuery.Query

/-! ## Texts one behind the other

A text can be read piece by piece if the second piece begins where a word would end. A blank and a
closing parenthesis do; so does the end of the text. -/

theorem canModify_append {cs : List Char} (h : canModify cs = true) (ds : List Char) :
    canModify (cs ++ ds) = true := by
  cases cs with
  | nil => cases h
  | cons c cs => exact h

/-- A word ends in front of a text, and also in front of a longer one, if it would end in front of
the second piece. -/
theorem Delimited.append {cs ds : List Char} (hcs : Delimited cs) (hds : Delimited ds) :
    Delimited (cs ++ ds) := by
  cases cs with
  | nil => exact hds
  | cons c cs => exact hcs

/-- A lexeme is read from the front of a text as from the front of a longer one, as long as a word
would end where the longer one goes on. -/
theorem ReadsAs.append {text rest : List Char} {l : Lexeme} (h : ReadsAs text l rest)
    {more : List Char} (hmore : Delimited more) : ReadsAs (text ++ more) l (rest ++ more) := by
  cases h with
  | openParen rest => exact .openParen _
  | closeParen rest => exact .closeParen _
  | plus hcan => exact .plus (canModify_append hcan more)
  | minus hcan => exact .minus (canModify_append hcan more)
  | phrase hq rest =>
    have := ReadsAs.phrase hq (rest ++ more)
    simpa using this
  | word hplus hminus hc hrest =>
    -- the word ends where it did, or where `more` begins
    have := ReadsAs.word hplus hminus hc (hrest.append hmore)
    simpa using this

/-- Two texts, one behind the other, spell the lexemes of the one and then those of the other.
Induction on the lexemes of the first. -/
theorem Spells.append {cs ds : List Char} {ls ms : List Lexeme} (h : Spells cs ls)
    (hds : Delimited ds) (h' : Spells ds ms) : Spells (cs ++ ds) (ls ++ ms) := by
  induction h with
  | nil => exact h'
  | blank hc h ih => exact .blank hc ih
  | read hr h ih => exact .read (hr.append hds) ih

theorem Spells.enclosed {cs rest : List Char} {ls ms : List Lexeme} (h : Spells cs ls)
    (hrest : Spells rest ms) :
    Spells ('(' :: cs ++ ')' :: rest) (.openParen :: ls ++ .closeParen :: ms) := by
  have hdelim : Delimited (')' :: rest) := delimited_of_head (by decide) rest
  exact .read (.openParen _) (h.append hdelim (.read (.closeParen _) hrest))

/-! ## Inside a group

What stands in parentheses is compiled as on its own, but on top of the groups that are open
already. `inside` puts a stack on top of those; only its outermost group changes, which then has a
parenthesis to close it. -/

namespace Group

/-- The group as if a parenthesis had opened it. -/
def reopened (g : Group) : Group := { g with opened := some 0 }

theorem reopened_addClause (g : Group) (c : Option Node) :
    (g.addClause c).reopened = g.reopened.addClause c := by
  cases c with
  | none => rfl
  | some n =>
    rw [addClause_some, addClause_some]
    rfl

end Group

namespace Stack

/-- The open groups with their outermost one reopened inside the groups of `base`. -/
def inside (base : List Group) : Group → List Group → Stack
  | g, [] => ⟨g.reopened, base⟩
  | g, parent :: outer => ⟨g, (inside base parent outer).top :: (inside base parent outer).outer⟩

variable {base : List Group}

/-- A step that changes the innermost group alone is also made inside other groups. That group is
the outermost one of the query, or it is not: the two hypotheses. -/
theorem Step.inside_of {g g' : Group} {p : Placed} (h : ∀ outer, Step ⟨g, outer⟩ p ⟨g', outer⟩)
    (hre : ∀ outer, Step ⟨g.reopened, outer⟩ p ⟨g'.reopened, outer⟩) (outer : List Group) :
    Step (inside base g outer) p (inside base g' outer) := by
  cases outer with
  | nil => exact hre base
  | cons parent outer => exact h _

/-- What a lexeme does to the groups it does inside as well. One case for each way to step; a
closing parenthesis closes a group of the query, never the one around it. -/
theorem Step.inside {s s' : Stack} {p : Placed} (h : s.Step p s') :
    Step (Stack.inside base s.top s.outer) p (Stack.inside base s'.top s'.outer) := by
  obtain ⟨top, outer⟩ := s
  cases h with
  | word text offset =>
    refine Step.inside_of (fun _ => .word text offset) (fun _ => ?_) outer
    rw [Group.reopened_addClause]
    exact .word text offset
  | phrase content offset n hn =>
    refine Step.inside_of (fun _ => .phrase content offset n hn) (fun _ => ?_) outer
    rw [Group.reopened_addClause]
    exact .phrase content offset n hn
  | modifier m offset hm =>
    refine Step.inside_of (fun outer => ?_) (fun outer => ?_) outer
    · exact Step.modifier (s := ⟨top, outer⟩) m offset hm
    · exact Step.modifier (s := ⟨top.reopened, outer⟩) m offset hm
  | and offset hm hj hc =>
    refine Step.inside_of (fun outer => ?_) (fun outer => ?_) outer
    · exact Step.and (s := ⟨top, outer⟩) offset hm hj hc
    · exact Step.and (s := ⟨top.reopened, outer⟩) offset hm hj hc
  | or offset hm hj hc =>
    refine Step.inside_of (fun outer => ?_) (fun outer => ?_) outer
    · exact Step.or (s := ⟨top, outer⟩) offset hm hj hc
    · exact Step.or (s := ⟨top.reopened, outer⟩) offset hm hj hc
  | openParen offset => exact .openParen offset
  | closeParen offset parent outer' hs hm hj hc =>
    obtain rfl := hs
    -- the group that ends is an inner one, which was opened where it was
    have hstep : Step (Stack.inside base top (parent :: outer')) ⟨.closeParen, offset⟩
        ⟨(Stack.inside base parent outer').top.addClause top.tree?,
          (Stack.inside base parent outer').outer⟩ :=
      .closeParen offset _ _ rfl hm hj hc
    cases outer' with
    | nil =>
      show Step _ _ ⟨(parent.addClause top.tree?).reopened, base⟩
      rw [Group.reopened_addClause]
      exact hstep
    | cons grandparent outer' => exact hstep

/-- A run is made inside other groups as on its own. Induction on the lexemes, one step each. -/
theorem run_inside {s s' : Stack} {ps : List Placed} (hrun : s.run ps = .ok s') :
    (inside base s.top s.outer).run ps = .ok (inside base s'.top s'.outer) := by
  induction ps generalizing s with
  | nil =>
    obtain rfl := Except.ok.inj hrun
    rfl
  | cons p ps ih =>
    obtain ⟨t, ht, hrun⟩ := run_cons_eq_ok_iff.1 hrun
    exact run_cons_eq_ok_iff.2 ⟨_, ht.inside, ih hrun⟩

end Stack

/-- A query in parentheses is a clause of the group around it, and the clause is the query's tree.
Its lexemes run inside the new group, which the closing parenthesis then hands on. -/
theorem run_enclosed {ls : List Lexeme} {n : Node} (h : compile (unplaced ls) = .ok n) (s : Stack) :
    s.run (unplaced (.openParen :: ls ++ [.closeParen])) =
      .ok { s with top := s.top.addClause (some n) } := by
  obtain ⟨g, hrun, hclose⟩ := compile_eq_ok_iff.1 h
  obtain ⟨hm, hj, -, htree⟩ := Group.close_eq_ok_iff.1 hclose
  -- the query has a tree, so its outermost group has a clause, and the parenthesis may be closed
  have hc : g.hasClause = true := by
    have hreads := Stack.Reads.run hrun
    rw [map_lexeme_unplaced] at hreads
    cases hreads with
    | root hg => exact hg.hasClause ((Group.tree?_isSome g).1 (by simp [htree]))
  have hinside : Stack.run ⟨{ opened := some 0 }, s.top :: s.outer⟩ (unplaced ls) =
      .ok ⟨g.reopened, s.top :: s.outer⟩ := Stack.run_inside hrun
  -- nothing waits in the group, as nothing did at the end of the query
  have hend : Stack.Step ⟨g.reopened, s.top :: s.outer⟩ ⟨.closeParen, 0⟩
      ⟨s.top.addClause g.tree?, s.outer⟩ :=
    .closeParen 0 s.top s.outer rfl hm hj (.inl hc)
  rw [htree] at hend
  rw [List.cons_append, unplaced_cons, unplaced_append,
    Stack.run_cons_of_step (.openParen 0), Stack.run_append_of_eq_ok hinside]
  exact Stack.run_cons_of_step hend

end TextQuery.Query
