import TextQuery.Proofs.Groups

/-!
# The grammar of queries

The grammar as a type of derivations, each with the lexemes it spells and the tree that compiling it
by recursion gives, and the agreement of `compile` with both:

* `Group.Reads`, `Stack.Reads` — the invariant of `Stack.run`: the lexemes read since a group was
  opened are an unfinished derivation, and the group's flags tell where it is unfinished.
* `Disjunction.run_lexemes` — running the lexemes of a derivation takes it in whole.
* `compile_derivation_iff` — `compile` accepts the derivable sequences, bar those without a token in
  some phrase or in all clauses, and gives the tree of the derivation when every word has a token.
-/

namespace TextQuery.Query

/-! ## Derivations -/

mutual
/-- `primary → WORD | PHRASE | "(" disjunction ")"` -/
inductive Primary where
  | word (text : String)
  | phrase (content : String)
  | group (inner : Disjunction)

/-- `unary → ("+" | "-" | "NOT") primary | primary` -/
inductive Unary where
  | plain (p : Primary)
  | modified (m : Modifier) (p : Primary)

/-- `conjunction → unary ("AND" unary)*` -/
inductive Conjunction where
  | single (u : Unary)
  | and (c : Conjunction) (u : Unary)

/-- `disjunction → conjunction (["OR"] conjunction)*` -/
inductive Disjunction where
  | single (c : Conjunction)
  | beside (d : Disjunction) (c : Conjunction)
  | or (d : Disjunction) (c : Conjunction)
end

mutual
/-- The lexemes that a primary spells. -/
def Primary.lexemes : Primary → List Lexeme
  | .word text => [.word text]
  | .phrase content => [.phrase content]
  | .group inner => .openParen :: inner.lexemes ++ [.closeParen]

/-- The lexemes that a unary spells. -/
def Unary.lexemes : Unary → List Lexeme
  | .plain p => p.lexemes
  | .modified m p => .modifier m :: p.lexemes

/-- The lexemes that a conjunction spells. -/
def Conjunction.lexemes : Conjunction → List Lexeme
  | .single u => u.lexemes
  | .and c u => c.lexemes ++ .operator .and :: u.lexemes

/-- The lexemes that a disjunction spells. -/
def Disjunction.lexemes : Disjunction → List Lexeme
  | .single c => c.lexemes
  | .beside d c => d.lexemes ++ c.lexemes
  | .or d c => d.lexemes ++ .operator .or :: c.lexemes
end

mutual
/-- The tree of a primary by recursion, none when some word or phrase in it holds no token. -/
def Primary.tree? : Primary → Option Node
  | .word text => compileWord text
  | .phrase content => compilePhrase content
  | .group inner => inner.trees?.map Node.anyOf

/-- The tree of a unary: the primary's, wrapped as the modifier says. -/
def Unary.tree? : Unary → Option Node
  | .plain p => p.tree?
  | .modified m p => p.tree?.map m.apply

/-- The trees of the unaries of a conjunction, in order. -/
def Conjunction.trees? : Conjunction → Option (List Node)
  | .single u => u.tree?.map ([·])
  | .and c u => c.trees?.bind fun ns => u.tree?.map (ns ++ [·])

/-- The trees of the conjunctions of a disjunction, in order. -/
def Disjunction.trees? : Disjunction → Option (List Node)
  | .single c => c.trees?.map ([Node.allOf ·])
  | .beside d c | .or d c => d.trees?.bind fun ns => c.trees?.map (ns ++ [Node.allOf ·])
end

/-- The tree of a conjunction. -/
def Conjunction.tree? (c : Conjunction) : Option Node := c.trees?.map Node.allOf

/-- The tree of a disjunction. -/
def Disjunction.tree? (d : Disjunction) : Option Node := d.trees?.map Node.anyOf

/-- The disjunction with one more operand of `AND` at its end. -/
def Disjunction.snocAnd : Disjunction → Unary → Disjunction
  | .single c, u => .single (.and c u)
  | .beside d c, u => .beside d (.and c u)
  | .or d c, u => .or d (.and c u)

@[simp] theorem Disjunction.lexemes_snocAnd (d : Disjunction) (u : Unary) :
    (d.snocAnd u).lexemes = d.lexemes ++ .operator .and :: u.lexemes := by
  cases d <;> simp [snocAnd, lexemes, Conjunction.lexemes]

/-! ## Clauses without tokens

A word or a phrase may hold no token. The parser drops such a word and refuses such a phrase, and
what a group reads depends on which of them is the case. -/

/-- Whether the lexeme is a word or a phrase that holds a token. -/
def Lexeme.hasToken : Lexeme → Bool
  | .word text | .phrase text => !(tokens text).isEmpty
  | _ => false

theorem compilePhrase_isSome (content : String) :
    (compilePhrase content).isSome ↔ tokens content ≠ [] := by
  unfold compilePhrase Node.phrase?
  cases tokens content with
  | nil => simp
  | cons t ts => cases ts <;> simp

theorem compileWord_isSome (text : String) : (compileWord text).isSome ↔ tokens text ≠ [] := by
  unfold compileWord
  cases tokens text with
  | nil => simp [compounds]
  | cons t ts =>
    -- the first compound has the first token, so it makes a phrase
    obtain ⟨n, hn⟩ : ∃ n, Node.phrase? (Compound.texts ⟨t, ts.takeWhile Token.joined⟩) = some n := by
      simp only [Compound.texts, Compound.tokens, List.map_cons]
      cases List.map Token.text (ts.takeWhile Token.joined) <;> simp [Node.phrase?]
    rw [compounds, List.filterMap_cons, hn]
    simp

/-! ## What has been read is an unfinished derivation -/

/-- The modifier that waits for its clause, as lexemes. -/
def Group.waiting (g : Group) : List Lexeme := (g.modifier.map fun m => Lexeme.modifier m.1).toList

/-- `ls` are the lexemes read since the group was opened: nothing, a derivation, or a derivation and
an operator, and behind that the modifier that waits. -/
inductive Group.Reads (g : Group) : List Lexeme → Prop where
  | start (hc : g.hasClause = false) (hj : g.joiner = none) (hf : g.finished = []) :
      Reads g g.waiting
  | clauses (d : Disjunction) (hc : g.hasClause = true) (hj : g.joiner = none) :
      Reads g (d.lexemes ++ g.waiting)
  | operator (d : Disjunction) (op : Operator) (place : Nat) (hc : g.hasClause = true)
      (hj : g.joiner = some (op, place)) : Reads g (d.lexemes ++ .operator op :: g.waiting)

/-- The unary made of the modifier that waits and a primary. -/
def Group.unary (g : Group) (p : Primary) : Unary :=
  match g.modifier with
  | none => .plain p
  | some (m, _) => .modified m p

@[simp] theorem Group.lexemes_unary (g : Group) (p : Primary) :
    (g.unary p).lexemes = g.waiting ++ p.lexemes := by
  unfold unary waiting
  rcases g.modifier with _ | ⟨m, _⟩ <;> simp [Unary.lexemes]

/-- A clause completes the derivation. Where nothing was read it starts one, behind a clause it is
one more alternative, and behind an operator it is the operand that was missing. -/
theorem Group.Reads.addClause {g : Group} {ls : List Lexeme} (h : g.Reads ls) (p : Primary)
    (c : Option Node) : (g.addClause c).Reads (ls ++ p.lexemes) := by
  -- nothing waits any more, so the lexemes have to be those of some derivation
  have hdone (d : Disjunction) : (g.addClause c).Reads d.lexemes := by
    have := Group.Reads.clauses (g := g.addClause c) d rfl rfl
    simpa [waiting] using this
  cases h with
  | start hc hj hf =>
    simpa [Disjunction.lexemes, Conjunction.lexemes] using hdone (.single (.single (g.unary p)))
  | clauses d hc hj =>
    simpa [Disjunction.lexemes, Conjunction.lexemes] using hdone (.beside d (.single (g.unary p)))
  | operator d op place hc hj =>
    cases op with
    | and => simpa using hdone (d.snocAnd (g.unary p))
    | or =>
      simpa [Disjunction.lexemes, Conjunction.lexemes] using hdone (.or d (.single (g.unary p)))

/-- `ls` are all the lexemes read, each open group with its own behind its parenthesis. -/
inductive Stack.Reads : Stack → List Lexeme → Prop where
  | root {top : Group} {ls : List Lexeme} (h : top.Reads ls) : Reads ⟨top, []⟩ ls
  | nested {top parent : Group} {outer : List Group} {ls ms : List Lexeme}
      (houter : Reads ⟨parent, outer⟩ ls) (hopen : top.opened ≠ none) (h : top.Reads ms) :
      Reads ⟨top, parent :: outer⟩ (ls ++ .openParen :: ms)

/-- A change to the innermost group that reads more lexemes. -/
theorem Stack.Reads.mapTop {s : Stack} {g : Group} {ls more : List Lexeme} (h : s.Reads ls)
    (hopen : g.opened = s.top.opened) (hg : ∀ ms, s.top.Reads ms → g.Reads (ms ++ more)) :
    Stack.Reads { s with top := g } (ls ++ more) := by
  cases h with
  | root h => exact .root (hg _ h)
  | nested houter hopen' h =>
    have := Stack.Reads.nested houter (hopen ▸ hopen') (hg _ h)
    simpa using this

/-- A modifier may stand wherever none is waiting, and is then part of what has been read. -/
theorem Group.Reads.addModifier {g : Group} {ls : List Lexeme} (h : g.Reads ls) (m : Modifier)
    (place : Nat) (hm : g.modifier = none) :
    Group.Reads { g with modifier := some (m, place) } (ls ++ [.modifier m]) := by
  have hw : g.waiting = [] := by simp [waiting, hm]
  cases h with
  | start hc hj hf =>
    have := Group.Reads.start (g := { g with modifier := some (m, place) }) hc hj hf
    simpa [waiting, hm] using this
  | clauses d hc hj =>
    have := Group.Reads.clauses (g := { g with modifier := some (m, place) }) d hc hj
    simpa [waiting, hm] using this
  | operator d op place' hc hj =>
    have := Group.Reads.operator (g := { g with modifier := some (m, place) }) d op place' hc hj
    simpa [waiting, hm] using this

/-- Where nothing waits and there is a clause, what has been read is derivable. -/
theorem Group.Reads.exists_derivation {g : Group} {ls : List Lexeme} (h : g.Reads ls)
    (hm : g.modifier = none) (hj : g.joiner = none) (hc : g.hasClause = true) :
    ∃ d : Disjunction, d.lexemes = ls := by
  have hw : g.waiting = [] := by simp [waiting, hm]
  cases h with
  | start hc' hj' hf => rw [hc] at hc'; cases hc'
  | clauses d hc' hj' => exact ⟨d, by simp [hw]⟩
  | operator d op place hc' hj' => rw [hj] at hj'; cases hj'

/-- A group that holds something has had a clause. -/
theorem Group.Reads.hasClause {g : Group} {ls : List Lexeme} (h : g.Reads ls)
    (hf : g.finished ≠ []) : g.hasClause = true := by
  cases h with
  | start hc hj hf' => exact absurd hf' hf
  | clauses d hc hj => exact hc
  | operator d op place hc hj => exact hc

theorem Group.Reads.addOperator {g g' : Group} {ls : List Lexeme} (h : g.Reads ls) (op : Operator)
    (place : Nat) (hm : g.modifier = none) (hj : g.joiner = none) (hc : g.hasClause = true)
    (hm' : g'.modifier = none) (hj' : g'.joiner = some (op, place)) (hc' : g'.hasClause = true) :
    g'.Reads (ls ++ [.operator op]) := by
  obtain ⟨d, rfl⟩ := h.exists_derivation hm hj hc
  have := Group.Reads.operator d op place hc' hj'
  simpa [waiting, hm'] using this

/-- One lexeme takes the unfinished derivation one lexeme further. A closing parenthesis makes a
primary of the innermost derivation, which is then a clause of the one around it. -/
theorem Stack.Reads.step {s s' : Stack} {p : Placed} {ls : List Lexeme} (h : s.Reads ls)
    (hstep : s.Step p s') : s'.Reads (ls ++ [p.lexeme]) := by
  cases hstep with
  | word text offset => exact h.mapTop (by simp) fun ms hms => hms.addClause (.word text) _
  | phrase content offset n hn =>
    exact h.mapTop (by simp) fun ms hms => hms.addClause (.phrase content) _
  | modifier m offset hm => exact h.mapTop rfl fun ms hms => hms.addModifier m offset hm
  | and offset hm hj hc =>
    exact h.mapTop rfl fun ms hms => hms.addOperator .and offset hm hj hc hm rfl hc
  | or offset hm hj hc =>
    exact h.mapTop rfl fun ms hms => hms.addOperator .or offset hm hj hc hm rfl hc
  | openParen offset =>
    have hnew : Group.Reads { opened := some offset } [] := .start rfl rfl rfl
    exact .nested h (by simp) hnew
  | closeParen offset parent outer hs hm hj hc =>
    obtain ⟨top, outer'⟩ := s
    obtain rfl := hs
    cases h with
    | nested houter hopen h =>
      -- the inner derivation, in its parentheses, is a primary of the parent
      obtain ⟨d, rfl⟩ := h.exists_derivation hm hj (hc.resolve_right hopen)
      have := houter.mapTop (g := parent.addClause top.tree?) (by simp) fun ms hms =>
        hms.addClause (.group d) _
      simpa [Primary.lexemes] using this

/-- After a run the groups together hold all that was read, each as an unfinished derivation. -/
theorem Stack.Reads.run {s' : Stack} {ps : List Placed} (hrun : ({} : Stack).run ps = .ok s') :
    s'.Reads (ps.map Placed.lexeme) := by
  have hstart : Stack.Reads {} [] := .root (.start rfl rfl rfl)
  have := Stack.run_invariant (fun s p t ls h hstep => h.step hstep) hstart hrun
  simpa using this

/-! ## Tokens read reach the tree -/

/-- Some open group has something for the tree. -/
def Stack.Holds (s : Stack) : Prop := s.top.finished ≠ [] ∨ ∃ g ∈ s.outer, g.finished ≠ []

/-- The open groups hold something exactly when a token was read, now or before: no step drops what
a group holds, and a clause without a token adds nothing. -/
theorem Stack.holds_step_iff {s s' : Stack} {p : Placed} (hstep : s.Step p s') :
    s'.Holds ↔ s.Holds ∨ p.lexeme.hasToken = true := by
  unfold Holds
  cases hstep with
  | word text offset =>
    simp [Group.addClause_finished_ne_nil, compileWord_isSome, Lexeme.hasToken, or_right_comm]
  | phrase content offset n hn =>
    have htoken : tokens content ≠ [] := (compilePhrase_isSome content).1 (by simp [hn])
    simp [Group.addClause_finished_ne_nil, Lexeme.hasToken, htoken]
  | modifier m offset hm => simp [Lexeme.hasToken, Group.finished]
  | and offset hm hj hc => simp [Lexeme.hasToken, Group.finished]
  | or offset hm hj hc => simp [Lexeme.hasToken, Group.finished, Group.flush]
  | openParen offset => simp [Lexeme.hasToken, Group.finished]
  | closeParen offset parent outer hs hm hj hc =>
    simp [hs, Group.addClause_finished_ne_nil, Group.tree?_isSome, Lexeme.hasToken, or_left_comm,
      or_assoc]

/-- What a run of lexemes shows of the lexemes: each phrase has a token, and the groups hold
something exactly when some lexeme has one. -/
theorem Stack.run_tokens {s' : Stack} {ps : List Placed} (hrun : ({} : Stack).run ps = .ok s') :
    (∀ content, .phrase content ∈ ps.map Placed.lexeme → tokens content ≠ []) ∧
      (s'.Holds ↔ ∃ l ∈ ps.map Placed.lexeme, l.hasToken = true) := by
  -- both facts together are the invariant: a phrase that was read has added to the groups
  let P (s : Stack) (ls : List Lexeme) : Prop :=
    (∀ content, .phrase content ∈ ls → tokens content ≠ []) ∧
      (s.Holds ↔ ∃ l ∈ ls, l.hasToken = true)
  have hstart : P {} [] := by
    have : ¬ ({} : Stack).Holds := by simp [Holds, Group.finished]
    exact ⟨by simp, by simp [this]⟩
  have hstep (s : Stack) (p : Placed) (t : Stack) (ls : List Lexeme) (h : P s ls)
      (hst : s.Step p t) : P t (ls ++ [p.lexeme]) := by
    refine ⟨fun content hmem => ?_, ?_⟩
    · rcases List.mem_append.1 hmem with hmem | hmem
      · exact h.1 content hmem
      · obtain ⟨lexeme, offset⟩ := p
        obtain rfl := List.mem_singleton.1 hmem
        cases hst with
        | phrase _ _ n hn => exact (compilePhrase_isSome content).1 (by simp [hn])
    · rw [Stack.holds_step_iff hst, h.2]
      simp [or_and_right, exists_or]
  exact Stack.run_invariant (P := P) hstep hstart hrun

/-! ## A derivation is read whole -/

/-- The last thing read in the group is a clause. -/
structure Group.Settled (g : Group) : Prop where
  modifier : g.modifier = none
  joiner : g.joiner = none
  hasClause : g.hasClause = true

theorem Group.settled_addClause (g : Group) (c : Option Node) : (g.addClause c).Settled :=
  ⟨rfl, rfl, rfl⟩

/-- A run that ends with a clause compiles to what its group holds, if that is anything. -/
theorem Group.Settled.compile_eq_ok {g : Group} (hg : g.Settled) (hfin : g.finished ≠ [])
    {ps : List Placed} (hrun : ({} : Stack).run ps = .ok ⟨g, []⟩) :
    compile ps = .ok (Node.anyOf g.finished) := by
  have hclose : g.close = .ok (some (Node.anyOf g.finished)) :=
    close_eq_ok_iff.2 ⟨hg.modifier, hg.joiner, .inl hg.hasClause, tree?_of_ne_nil hfin⟩
  exact compile_eq_ok_iff.2 ⟨g, hrun, hclose⟩

/-- A waiting modifier may as well be applied to the clause at once. -/
theorem Group.addClause_of_modifier {g : Group} (hm : g.modifier = none) (m : Modifier)
    (place : Nat) (c : Option Node) :
    Group.addClause { g with modifier := some (m, place) } c = g.addClause (c.map m.apply) := by
  cases c with
  | none => rfl
  | some n =>
    rw [Option.map_some, addClause_some, addClause_some]
    simp only [modify, hm]
    rfl

theorem Group.finished_of_chain {g : Group} {as ns : List Node}
    (h : g.alternatives = as ∧ g.chain = ns) (hne : ns ≠ []) :
    g.finished = as ++ [Node.allOf ns] := by
  obtain ⟨rfl, rfl⟩ := h
  exact finished_of_chain_ne_nil hne

/-- A disjunction has a tree for each of its clauses, so it has at least one. -/
theorem Disjunction.ne_nil_of_trees? {d : Disjunction} {ns : List Node} (h : d.trees? = some ns) :
    ns ≠ [] := by
  cases d <;> simp only [trees?, Option.map_eq_some_iff, Option.bind_eq_some_iff] at h
  · obtain ⟨ms, _, rfl⟩ := h
    simp
  · obtain ⟨ms, _, ks, _, rfl⟩ := h
    simp
  · obtain ⟨ms, _, ks, _, rfl⟩ := h
    simp

theorem Conjunction.ne_nil_of_trees? {c : Conjunction} {ns : List Node} (h : c.trees? = some ns) :
    ns ≠ [] := by
  cases c <;> simp only [trees?, Option.map_eq_some_iff, Option.bind_eq_some_iff] at h
  · obtain ⟨n, _, rfl⟩ := h
    simp
  · obtain ⟨ms, _, n, _, rfl⟩ := h
    simp

/-- Every phrase among the lexemes holds a token. -/
def PhrasesHold (ls : List Lexeme) : Prop := ∀ content, .phrase content ∈ ls → tokens content ≠ []

theorem PhrasesHold.left {as bs : List Lexeme} (h : PhrasesHold (as ++ bs)) : PhrasesHold as :=
  fun content hmem => h content (List.mem_append_left _ hmem)

theorem PhrasesHold.right {as bs : List Lexeme} (h : PhrasesHold (as ++ bs)) : PhrasesHold bs :=
  fun content hmem => h content (List.mem_append_right _ hmem)

theorem PhrasesHold.tail {l : Lexeme} {ls : List Lexeme} (h : PhrasesHold (l :: ls)) :
    PhrasesHold ls :=
  fun content hmem => h content (List.mem_cons_of_mem _ hmem)

theorem Stack.run_append_of_eq_ok {s t : Stack} {ps qs : List Placed} (h : s.run ps = .ok t) :
    s.run (ps ++ qs) = t.run qs := by
  rw [run_append, h]

theorem Stack.run_cons_of_step {s t : Stack} {p : Placed} {ps : List Placed} (h : s.Step p t) :
    s.run (p :: ps) = t.run ps := by
  rw [run, h.step_eq_ok]

-- One induction over the four kinds of derivation. Each statement says that the run succeeds and,
-- separately, which nodes it adds when the derivation has a tree: clauses may be dropped, and then
-- only the first half says anything.
mutual
/-- The lexemes of a primary are read as one clause, which is its tree if it has one. Mutual
recursion over the derivation, as in the three theorems that follow: a group leads back to a
disjunction. -/
theorem Primary.run_lexemes (p : Primary) (hp : PhrasesHold p.lexemes) (s : Stack) :
    ∃ c, s.run (unplaced p.lexemes) = .ok { s with top := s.top.addClause c } ∧
      ∀ n, p.tree? = some n → c = some n := by
  match p with
  | .word text => exact ⟨compileWord text, rfl, fun n hn => hn⟩
  | .phrase content =>
    obtain ⟨n, hn⟩ := Option.isSome_iff_exists.1 ((compilePhrase_isSome content).2
      (hp content (by simp [Primary.lexemes])))
    refine ⟨some n, ?_, fun m hm => ?_⟩
    · exact Stack.run_cons_of_step (.phrase content 0 n hn)
    · rw [← hm, Primary.tree?, hn]
  | .group inner =>
    simp only [Primary.lexemes, List.cons_append] at hp
    obtain ⟨g, hrun, hg, _, htree⟩ :=
      inner.run_lexemes hp.tail.left ⟨{ opened := some 0 }, s.top :: s.outer⟩ rfl rfl
    refine ⟨g.tree?, ?_, fun n hn => ?_⟩
    · simp only [Primary.lexemes, List.cons_append, unplaced_cons, unplaced_append, unplaced_nil]
      rw [Stack.run_cons_of_step (.openParen 0), Stack.run_append_of_eq_ok hrun]
      exact Stack.run_cons_of_step
        (.closeParen 0 s.top s.outer rfl hg.modifier hg.joiner (.inl hg.hasClause))
    · simp only [Primary.tree?, Option.map_eq_some_iff] at hn
      obtain ⟨ns, hns, rfl⟩ := hn
      have hfin : g.finished = ns := htree ns hns
      rw [Group.tree?_of_ne_nil (hfin ▸ Disjunction.ne_nil_of_trees? hns), hfin]

/-- The lexemes of a clause with or without a modifier are read as one clause, the modifier applied.
-/
theorem Unary.run_lexemes (u : Unary) (hu : PhrasesHold u.lexemes) (s : Stack)
    (hm : s.top.modifier = none) :
    ∃ c, s.run (unplaced u.lexemes) = .ok { s with top := s.top.addClause c } ∧
      ∀ n, u.tree? = some n → c = some n := by
  match u with
  | .plain p => exact p.run_lexemes hu s
  | .modified m p =>
    obtain ⟨c, hrun, htree⟩ :=
      p.run_lexemes hu.tail { s with top := { s.top with modifier := some (m, 0) } }
    refine ⟨c.map m.apply, ?_, fun n hn => ?_⟩
    · rw [Unary.lexemes, unplaced_cons, Stack.run_cons_of_step (.modifier m 0 hm), hrun,
        Group.addClause_of_modifier hm]
    · simp only [Unary.tree?, Option.map_eq_some_iff] at hn
      obtain ⟨n, hn, rfl⟩ := hn
      rw [htree n hn, Option.map_some]

/-- The lexemes of a conjunction are read into the open conjunction of the group, behind which
nothing waits. What was open before is finished. -/
theorem Conjunction.run_lexemes (c : Conjunction) (hc : PhrasesHold c.lexemes) (s : Stack)
    (hm : s.top.modifier = none) (hj : s.top.continues = false) :
    ∃ g, s.run (unplaced c.lexemes) = .ok { s with top := g } ∧ g.Settled ∧
      g.opened = s.top.opened ∧
      ∀ ns, c.trees? = some ns → g.alternatives = s.top.finished ∧ g.chain = ns := by
  match c with
  | .single u =>
    obtain ⟨c, hrun, htree⟩ := u.run_lexemes hc s hm
    refine ⟨s.top.addClause c, hrun, Group.settled_addClause _ _, by simp, fun ns hns => ?_⟩
    simp only [Conjunction.trees?, Option.map_eq_some_iff] at hns
    obtain ⟨n, hn, rfl⟩ := hns
    rw [htree n hn, Group.addClause_some]
    simp [hj, Group.modify, hm]
  | .and c u =>
    obtain ⟨g, hrun, hg, hopen, htree⟩ := c.run_lexemes hc.left s hm hj
    -- the operator is read with the conjunction settled, and the operand behind it
    obtain ⟨c', hrun', htree'⟩ := u.run_lexemes hc.right.tail
      { s with top := { g with joiner := some (.and, 0) } } hg.modifier
    refine ⟨Group.addClause { g with joiner := some (.and, 0) } c', ?_,
      Group.settled_addClause _ _, (Group.addClause_opened _ _).trans hopen, fun ns hns => ?_⟩
    · simp only [Conjunction.lexemes, unplaced_append, unplaced_cons]
      rw [Stack.run_append_of_eq_ok hrun,
        Stack.run_cons_of_step (.and 0 hg.modifier hg.joiner hg.hasClause)]
      exact hrun'
    · simp only [Conjunction.trees?, Option.map_eq_some_iff, Option.bind_eq_some_iff] at hns
      obtain ⟨ms, hms, n, hn, rfl⟩ := hns
      obtain ⟨halt, hchain⟩ := htree ms hms
      rw [htree' n hn, Group.addClause_some]
      simp [Group.continues, Group.modify, hg.modifier, halt, hchain]

/-- The lexemes of a disjunction are read as alternatives behind those of the group, the last of
which may still be open. Behind a clause and behind `OR` the next conjunction starts anew. -/
theorem Disjunction.run_lexemes (d : Disjunction) (hd : PhrasesHold d.lexemes) (s : Stack)
    (hm : s.top.modifier = none) (hj : s.top.continues = false) :
    ∃ g, s.run (unplaced d.lexemes) = .ok { s with top := g } ∧ g.Settled ∧
      g.opened = s.top.opened ∧
      ∀ ns, d.trees? = some ns → g.finished = s.top.finished ++ ns := by
  match d with
  | .single c =>
    obtain ⟨g, hrun, hg, hopen, htree⟩ := c.run_lexemes hd s hm hj
    refine ⟨g, hrun, hg, hopen, fun ns hns => ?_⟩
    simp only [Disjunction.trees?, Option.map_eq_some_iff] at hns
    obtain ⟨ns, hns, rfl⟩ := hns
    exact Group.finished_of_chain (htree ns hns) (Conjunction.ne_nil_of_trees? hns)
  | .beside d c =>
    obtain ⟨g, hrun, hg, hopen, htree⟩ := d.run_lexemes hd.left s hm hj
    obtain ⟨g', hrun', hg', hopen', htree'⟩ := c.run_lexemes hd.right { s with top := g }
      hg.modifier (by simp [Group.continues, hg.joiner])
    refine ⟨g', ?_, hg', hopen'.trans hopen, fun ns hns => ?_⟩
    · rw [Disjunction.lexemes, unplaced_append, Stack.run_append_of_eq_ok hrun, hrun']
    · simp only [Disjunction.trees?, Option.map_eq_some_iff, Option.bind_eq_some_iff] at hns
      obtain ⟨ms, hms, ns, hns, rfl⟩ := hns
      rw [Group.finished_of_chain (htree' ns hns) (Conjunction.ne_nil_of_trees? hns), htree ms hms,
        List.append_assoc]
  | .or d c =>
    obtain ⟨g, hrun, hg, hopen, htree⟩ := d.run_lexemes hd.left s hm hj
    obtain ⟨g', hrun', hg', hopen', htree'⟩ := c.run_lexemes hd.right.tail
      { s with top := { g.flush with joiner := some (.or, 0) } } hg.modifier rfl
    refine ⟨g', ?_, hg', hopen'.trans hopen, fun ns hns => ?_⟩
    · rw [Disjunction.lexemes, unplaced_append, unplaced_cons, Stack.run_append_of_eq_ok hrun,
        Stack.run_cons_of_step (.or 0 hg.modifier hg.joiner hg.hasClause), hrun']
    · simp only [Disjunction.trees?, Option.map_eq_some_iff, Option.bind_eq_some_iff] at hns
      obtain ⟨ms, hms, ns, hns, rfl⟩ := hns
      -- to end a conjunction moves its parts, it adds none
      have hflush : Group.finished { g.flush with joiner := some (.or, 0) } = g.finished := rfl
      rw [Group.finished_of_chain (htree' ns hns) (Conjunction.ne_nil_of_trees? hns), hflush,
        htree ms hms, List.append_assoc]
end

/-! ## Acceptance -/

/-- Compiling the lexemes of a derivation disjoins the alternatives that are left in the end. There
is one when a token was read, and they are those of the derivation when it has a tree. -/
theorem Disjunction.compile_lexemes (d : Disjunction) (hphrases : PhrasesHold d.lexemes) :
    ∃ ns : List Node, (ns ≠ [] → compile (unplaced d.lexemes) = .ok (Node.anyOf ns)) ∧
      ((∃ l ∈ d.lexemes, l.hasToken = true) → ns ≠ []) ∧ ∀ ms, d.trees? = some ms → ns = ms := by
  obtain ⟨g, hrun, hg, hopen, htree⟩ := d.run_lexemes hphrases {} rfl rfl
  refine ⟨g.finished, fun hfin => hg.compile_eq_ok hfin hrun, fun htoken => ?_,
    fun ms hms => htree ms hms⟩
  have hholds := (Stack.run_tokens hrun).2
  rw [map_lexeme_unplaced] at hholds
  simpa [Stack.Holds] using hholds.2 htoken

/-- What `compile` accepts is derivable, and something in it has a token. -/
theorem exists_derivation_of_compile {ps : List Placed} {n : Node} (h : compile ps = .ok n) :
    (∃ d : Disjunction, d.lexemes = ps.map Placed.lexeme) ∧ PhrasesHold (ps.map Placed.lexeme) ∧
      ∃ l ∈ ps.map Placed.lexeme, l.hasToken = true := by
  obtain ⟨top, hrun, hclose⟩ := compile_eq_ok_iff.1 h
  have hreads := Stack.Reads.run hrun
  obtain ⟨hphrases, hholds⟩ := Stack.run_tokens hrun
  obtain ⟨hm, hj, -, htree⟩ := Group.close_eq_ok_iff.1 hclose
  have hfin : top.finished ≠ [] := (Group.tree?_isSome top).1 (by simp [htree])
  generalize ps.map Placed.lexeme = ls at hreads hphrases hholds ⊢
  cases hreads with
  | root hls =>
    exact ⟨hls.exists_derivation hm hj (hls.hasClause hfin), hphrases, hholds.1 (.inl hfin)⟩

/-- Every word and every phrase among the lexemes holds a token. -/
def TextsHold (ls : List Lexeme) : Prop :=
  ∀ text, .word text ∈ ls ∨ .phrase text ∈ ls → tokens text ≠ []

@[simp] theorem textsHold_append {as bs : List Lexeme} :
    TextsHold (as ++ bs) ↔ TextsHold as ∧ TextsHold bs := by
  simp only [TextsHold, List.mem_append]
  grind

@[simp] theorem textsHold_cons {l : Lexeme} {ls : List Lexeme} :
    TextsHold (l :: ls) ↔ TextsHold [l] ∧ TextsHold ls := by
  rw [← List.singleton_append, textsHold_append]

@[simp] theorem textsHold_nil : TextsHold [] := by
  simp [TextsHold]

theorem TextsHold.phrasesHold {ls : List Lexeme} (h : TextsHold ls) : PhrasesHold ls :=
  fun content hmem => h content (.inr hmem)

-- a derivation has a tree by recursion exactly when none of its leaves lacks one
mutual
/-- A primary has a tree by recursion over the grammar if each of its words and phrases has a token.
-/
theorem Primary.tree?_isSome_iff (p : Primary) : p.tree?.isSome ↔ TextsHold p.lexemes := by
  match p with
  | .word text => simp [Primary.tree?, compileWord_isSome, Primary.lexemes, TextsHold]
  | .phrase content => simp [Primary.tree?, compilePhrase_isSome, Primary.lexemes, TextsHold]
  | .group inner =>
    have := inner.trees?_isSome_iff
    simpa [Primary.tree?, Primary.lexemes, TextsHold] using this

theorem Unary.tree?_isSome_iff (u : Unary) : u.tree?.isSome ↔ TextsHold u.lexemes := by
  match u with
  | .plain p => exact p.tree?_isSome_iff
  | .modified m p =>
    have := p.tree?_isSome_iff
    simpa [Unary.tree?, Unary.lexemes, TextsHold] using this

theorem Conjunction.trees?_isSome_iff (c : Conjunction) :
    c.trees?.isSome ↔ TextsHold c.lexemes := by
  match c with
  | .single u =>
    have := u.tree?_isSome_iff
    simpa [Conjunction.trees?, Conjunction.lexemes] using this
  | .and c u =>
    -- operators have no text
    have hand : TextsHold [.operator .and] := by simp [TextsHold]
    rw [Conjunction.lexemes, textsHold_append, textsHold_cons, ← c.trees?_isSome_iff,
      ← u.tree?_isSome_iff, Conjunction.trees?]
    cases c.trees? <;> simp [hand]

/-- A disjunction has its trees under the same condition. -/
theorem Disjunction.trees?_isSome_iff (d : Disjunction) :
    d.trees?.isSome ↔ TextsHold d.lexemes := by
  match d with
  | .single c =>
    have := c.trees?_isSome_iff
    simpa [Disjunction.trees?, Disjunction.lexemes] using this
  | .beside d c =>
    rw [Disjunction.lexemes, textsHold_append, ← d.trees?_isSome_iff, ← c.trees?_isSome_iff,
      Disjunction.trees?]
    cases d.trees? <;> simp
  | .or d c =>
    have hor : TextsHold [.operator .or] := by simp [TextsHold]
    rw [Disjunction.lexemes, textsHold_append, textsHold_cons, ← d.trees?_isSome_iff,
      ← c.trees?_isSome_iff, Disjunction.trees?]
    cases d.trees? <;> simp [hor]
end

/-- The lexemes of a derivation with a tree compile to that tree. -/
theorem Disjunction.compile_of_tree? {d : Disjunction} {n : Node} (h : d.tree? = some n) :
    compile (unplaced d.lexemes) = .ok n := by
  obtain ⟨ns, hns, rfl⟩ := Option.map_eq_some_iff.1 h
  have htexts : TextsHold d.lexemes := d.trees?_isSome_iff.1 (by simp [hns])
  obtain ⟨ms, hcompile, -, htrees⟩ := d.compile_lexemes htexts.phrasesHold
  obtain rfl := htrees ns hns
  exact hcompile (ne_nil_of_trees? hns)

/-- **The stack parser implements the grammar.** A sequence of lexemes has a tree exactly when it is
derivable, each of its phrases holds a token, and some word or phrase does. When no word of it is
without a token, the tree is the one that recursion over the grammar gives. -/
theorem compile_derivation_iff (ps : List Placed) :
    ((∃ n, compile ps = .ok n) ↔
      (∃ d : Disjunction, d.lexemes = ps.map Placed.lexeme) ∧
        (∀ content, .phrase content ∈ ps.map Placed.lexeme → tokens content ≠ []) ∧
        ∃ l ∈ ps.map Placed.lexeme, l.hasToken = true) ∧
    ∀ n, compile ps = .ok n →
      (∀ text, .word text ∈ ps.map Placed.lexeme → tokens text ≠ []) →
      ∀ d : Disjunction, d.lexemes = ps.map Placed.lexeme → d.tree? = some n := by
  refine ⟨⟨fun ⟨n, hn⟩ => exists_derivation_of_compile hn, ?_⟩, ?_⟩
  · rintro ⟨⟨d, hd⟩, hphrases, htoken⟩
    obtain ⟨ns, hcompile, hne, -⟩ := d.compile_lexemes (hd ▸ hphrases)
    have hok := hcompile (hne (hd ▸ htoken))
    rw [hd] at hok
    exact ⟨Node.anyOf ns, compile_unplaced_eq_ok_iff.1 hok⟩
  · -- both trees are the outcome of one run, so no uniqueness of derivations is needed
    intro n hn hwords d hd
    obtain ⟨-, hphrases, -⟩ := exists_derivation_of_compile hn
    -- with a token in every word the grammar gives a tree, and the run gives that one
    have htexts : TextsHold d.lexemes := by
      rw [hd]
      exact fun text => Or.rec (hwords text) (hphrases text)
    obtain ⟨ns, hns⟩ := Option.isSome_iff_exists.1 (d.trees?_isSome_iff.2 htexts)
    have htree : d.tree? = some (Node.anyOf ns) := by simp [Disjunction.tree?, hns]
    have hok := Disjunction.compile_of_tree? htree
    rw [hd, compile_unplaced_eq_ok_iff, hn] at hok
    rw [htree, Except.ok.inj hok]

end TextQuery.Query
