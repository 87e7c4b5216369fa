import TextQuery.Query.Parser

/-!
# Open groups, one lexeme at a time

What the operations on a `Group` do to its fields, and what a single lexeme does to the `Stack` of
open groups.

* `Group.close_eq_ok_iff` — a group ends well exactly when nothing in it is left hanging.
* `Stack.Step` — every way in which a lexeme is accepted, guards included; `Stack.step_eq_ok_iff`
  ties it to `Stack.step`. Properties of whole runs are proved against `Stack.Step`, one case for
  each way.
* `Stack.run_append`, `Stack.run_history`, `Stack.run_invariant`, `Stack.run_keeps` — runs compose,
  and what every step keeps a run keeps.
* `Stack.agree_outcome` — two runs that stay related agree in what comes of them.
* `verdict_unplaced` — offsets decide about the position of a fault and about nothing else.
-/

namespace TextQuery.Query

/-! ## Groups -/

namespace Group

@[simp] theorem flush_chain (g : Group) : g.flush.chain = [] := rfl

@[simp] theorem flush_alternatives (g : Group) : g.flush.alternatives = g.finished := rfl

theorem finished_of_chain_nil {g : Group} (h : g.chain = []) : g.finished = g.alternatives := by
  unfold finished
  rw [h]

/-- An open conjunction is the last alternative. -/
theorem finished_of_chain_ne_nil {g : Group} (h : g.chain ≠ []) :
    g.finished = g.alternatives ++ [Node.allOf g.chain] := by
  unfold finished
  split
  · contradiction
  · rfl

/-- The clause as it enters the tree: with the modifier that waits for it. -/
def modify (g : Group) (n : Node) : Node :=
  match g.modifier with
  | none => n
  | some (m, _) => m.apply n

/-- Whether the clause that comes next continues the conjunction. -/
def continues (g : Group) : Bool :=
  match g.joiner with
  | some (.and, _) => true
  | _ => false

/-- A clause does not change where the group was opened. -/
@[simp] theorem addClause_opened (g : Group) (c : Option Node) :
    (g.addClause c).opened = g.opened := by
  unfold addClause attach flush
  split
  · rfl
  · split <;> rfl
  · split <;> rfl

@[simp] theorem addClause_modifier (g : Group) (c : Option Node) :
    (g.addClause c).modifier = none := rfl

@[simp] theorem addClause_joiner (g : Group) (c : Option Node) : (g.addClause c).joiner = none := rfl

@[simp] theorem addClause_none_alternatives (g : Group) :
    (g.addClause none).alternatives = g.alternatives := rfl

@[simp] theorem addClause_none_chain (g : Group) : (g.addClause none).chain = g.chain := rfl

/-- A kept clause continues the conjunction, or starts the next alternative with the conjunction so
far finished. -/
theorem addClause_some (g : Group) (n : Node) :
    g.addClause (some n) =
      { g with
        alternatives := if g.continues then g.alternatives else g.finished
        chain := if g.continues then g.chain ++ [g.modify n] else [g.modify n]
        modifier := none, joiner := none, hasClause := true } := by
  have hattach (m : Node) : g.attach m =
      { g with
        alternatives := if g.continues then g.alternatives else g.finished
        chain := if g.continues then g.chain ++ [m] else [m] } := by
    unfold attach continues flush
    rcases g.joiner with _ | ⟨_ | _, _⟩ <;> simp
  unfold addClause modify
  cases hm : g.modifier with
  | none => simp [hattach]
  | some mo => simp [hattach]

/-- A group has something for the tree when it had before or the clause is kept. -/
theorem addClause_finished_ne_nil (g : Group) (c : Option Node) :
    (g.addClause c).finished ≠ [] ↔ g.finished ≠ [] ∨ c.isSome := by
  cases c with
  | none =>
    have : (g.addClause none).finished = g.finished := rfl
    simp [this]
  | some n =>
    have hchain : (g.addClause (some n)).chain ≠ [] := by
      rw [addClause_some]
      simp only
      split <;> simp
    simp [finished_of_chain_ne_nil hchain]

/-- The tree of the group as it stands, none when every clause was dropped. -/
def tree? (g : Group) : Option Node :=
  match g.finished with
  | [] => none
  | alternatives => some (Node.anyOf alternatives)

/-- The tree of a group with clauses is the disjunction of its alternatives. -/
theorem tree?_of_ne_nil {g : Group} (h : g.finished ≠ []) :
    g.tree? = some (Node.anyOf g.finished) := by
  unfold tree?
  split
  · contradiction
  · rfl

theorem tree?_isSome (g : Group) : g.tree?.isSome ↔ g.finished ≠ [] := by
  unfold tree?
  split <;> simp_all

/-- What is left hanging when the group ends, if anything is. -/
def fault? (g : Group) : Option Fault :=
  match g.modifier, g.joiner with
  | some (m, place), _ => some ⟨.danglingModifier m.spelling, some place⟩
  | none, some (op, place) => some ⟨.missingOperand op.spelling, some place⟩
  | none, none => if !g.hasClause && g.opened.isSome then some ⟨.emptyGroup, g.opened⟩ else none

/-- A group closes with what it left hanging as a fault, or else with its tree. -/
theorem close_eq (g : Group) :
    g.close =
      match g.fault? with
      | some fault => .error fault
      | none => .ok g.tree? := by
  -- with a modifier or an operator left hanging both sides are the same fault
  unfold close fault? tree?
  rcases g.modifier with _ | ⟨m, place⟩ <;> rcases g.joiner with _ | ⟨op, place'⟩ <;>
    try rfl
  cases hf : g.finished <;> by_cases hc : (!g.hasClause && g.opened.isSome) = true <;> simp [hc]

/-- Nothing is left hanging when no modifier and no operator waits and the group is not a pair of
parentheses around nothing. -/
theorem fault?_eq_none_iff {g : Group} :
    g.fault? = none ↔
      g.modifier = none ∧ g.joiner = none ∧ (g.hasClause = true ∨ g.opened = none) := by
  unfold fault?
  cases hm : g.modifier with
  | some mo => simp
  | none =>
    cases hj : g.joiner with
    | some jo => simp
    | none => cases hc : g.hasClause <;> simp

/-- A group ends well when nothing is left hanging, and hands on its tree. -/
theorem close_eq_ok_iff {g : Group} {c : Option Node} :
    g.close = .ok c ↔
      g.modifier = none ∧ g.joiner = none ∧ (g.hasClause = true ∨ g.opened = none) ∧
        g.tree? = c := by
  rw [close_eq]
  cases hf : g.fault? with
  | some fault =>
    have hnot : g.fault? ≠ none := by simp [hf]
    rw [Ne, fault?_eq_none_iff] at hnot
    simp only [reduceCtorEq, false_iff]
    rintro ⟨hm, hj, hc, -⟩
    exact hnot ⟨hm, hj, hc⟩
  | none =>
    obtain ⟨hm, hj, hc⟩ := fault?_eq_none_iff.1 hf
    simp [hm, hj, hc]

end Group

/-! ## Steps -/

namespace Stack

/-- Every way in which the open groups can take in a lexeme. -/
inductive Step (s : Stack) : Placed → Stack → Prop where
  | word (text : String) (offset : Nat) :
      Step s ⟨.word text, offset⟩ { s with top := s.top.addClause (compileWord text) }
  | phrase (content : String) (offset : Nat) (n : Node) (hn : compilePhrase content = some n) :
      Step s ⟨.phrase content, offset⟩ { s with top := s.top.addClause (some n) }
  | modifier (m : Modifier) (offset : Nat) (hm : s.top.modifier = none) :
      Step s ⟨.modifier m, offset⟩
        { s with top := { s.top with modifier := some (m, offset) } }
  | and (offset : Nat) (hm : s.top.modifier = none) (hj : s.top.joiner = none)
      (hc : s.top.hasClause = true) :
      Step s ⟨.operator .and, offset⟩
        { s with top := { s.top with joiner := some (.and, offset) } }
  | or (offset : Nat) (hm : s.top.modifier = none) (hj : s.top.joiner = none)
      (hc : s.top.hasClause = true) :
      Step s ⟨.operator .or, offset⟩
        { s with top := { s.top.flush with joiner := some (.or, offset) } }
  | openParen (offset : Nat) :
      Step s ⟨.openParen, offset⟩ ⟨{ opened := some offset }, s.top :: s.outer⟩
  | closeParen (offset : Nat) (parent : Group) (outer : List Group)
      (hs : s.outer = parent :: outer) (hm : s.top.modifier = none) (hj : s.top.joiner = none)
      (hc : s.top.hasClause = true ∨ s.top.opened = none) :
      Step s ⟨.closeParen, offset⟩ ⟨parent.addClause s.top.tree?, outer⟩

/-- A step that does not fail is one of the ways to step. Case analysis along `step`: whatever would
be a fault contradicts the hypothesis, and the conditions of the other branches are what the
constructor asks for. -/
theorem step_of_step_eq_ok {s s' : Stack} {p : Placed} (h : s.step p = .ok s') : s.Step p s' := by
  obtain ⟨lexeme, offset⟩ := p
  cases lexeme with
  | word text =>
    obtain rfl := Except.ok.inj h
    exact .word text offset
  | phrase content =>
    simp only [step] at h
    cases hn : compilePhrase content with
    | none => rw [hn] at h; cases h
    | some n =>
      rw [hn] at h
      obtain rfl := Except.ok.inj h
      exact .phrase content offset n hn
  | operator op =>
    simp only [step, Group.addOperator, Group.afterClause] at h
    cases hm : s.top.modifier with
    | some mo => rw [hm] at h; cases h
    | none =>
      rw [hm] at h
      simp only [Bool.and_eq_true, Option.isNone_iff_eq_none] at h
      split at h
      · next hac =>
        cases op with
        | and =>
          obtain rfl := Except.ok.inj h
          -- `Step.and` keeps the modifier of the group as it is, and there is none
          simpa only [hm] using Step.and (s := s) offset hm hac.2 hac.1
        | or =>
          obtain rfl := Except.ok.inj h
          exact .or offset hm hac.2 hac.1
      · cases h
  | modifier m =>
    simp only [step, Group.addModifier] at h
    cases hm : s.top.modifier with
    | some mo => rw [hm] at h; cases h
    | none =>
      rw [hm] at h
      obtain rfl := Except.ok.inj h
      exact .modifier m offset hm
  | openParen =>
    obtain rfl := Except.ok.inj h
    exact .openParen offset
  | closeParen =>
    simp only [step] at h
    cases hs : s.outer with
    | nil => rw [hs] at h; cases h
    | cons parent outer =>
      rw [hs] at h
      cases hclose : s.top.close with
      | error fault => simp only [hclose] at h; cases h
      | ok c =>
        simp only [hclose] at h
        obtain rfl := Except.ok.inj h
        obtain ⟨hm, hj, hc, rfl⟩ := Group.close_eq_ok_iff.1 hclose
        exact .closeParen offset parent outer hs hm hj hc

/-- Each of the ways to step is a step that does not fail. -/
theorem Step.step_eq_ok {s s' : Stack} {p : Placed} (h : s.Step p s') : s.step p = .ok s' := by
  cases h with
  | word text offset => rfl
  | phrase content offset n hn => simp [step, hn]
  | modifier m offset hm => simp [step, Group.addModifier, hm, Except.map]
  | and offset hm hj hc => simp [step, Group.addOperator, Group.afterClause, hm, hj, hc, Except.map]
  | or offset hm hj hc => simp [step, Group.addOperator, Group.afterClause, hm, hj, hc, Except.map]
  | openParen offset => rfl
  | closeParen offset parent outer hs hm hj hc =>
    -- a parenthesis closes the group and adds its tree to the one around it
    have hclose : s.top.close = .ok s.top.tree? := Group.close_eq_ok_iff.2 ⟨hm, hj, hc, rfl⟩
    simp [step, hs, hclose, Except.map]

/-- A lexeme is accepted exactly in the ways of `Step`. -/
theorem step_eq_ok_iff {s s' : Stack} {p : Placed} : s.step p = .ok s' ↔ s.Step p s' :=
  ⟨step_of_step_eq_ok, Step.step_eq_ok⟩

/-! ## Runs -/

/-- A run is a step and the run of the rest. -/
theorem run_cons_eq_ok_iff {s s' : Stack} {p : Placed} {ps : List Placed} :
    s.run (p :: ps) = .ok s' ↔ ∃ t, s.Step p t ∧ t.run ps = .ok s' := by
  rw [run]
  cases hstep : s.step p with
  | error fault =>
    refine ⟨fun h => by simp at h, fun ⟨t, ht, _⟩ => ?_⟩
    rw [ht.step_eq_ok] at hstep
    cases hstep
  | ok t =>
    refine ⟨fun h => ⟨t, step_of_step_eq_ok hstep, h⟩, fun ⟨u, hu, h⟩ => ?_⟩
    rw [hu.step_eq_ok] at hstep
    obtain rfl := Except.ok.inj hstep
    exact h

/-- Reading two pieces in a row is reading the first and going on from there. -/
theorem run_append (s : Stack) (ps qs : List Placed) :
    s.run (ps ++ qs) =
      match s.run ps with
      | .ok t => t.run qs
      | .error fault => .error fault := by
  induction ps generalizing s with
  | nil => rfl
  | cons p ps ih =>
    rw [List.cons_append, run, run]
    cases s.step p with
    | error fault => rfl
    | ok t => exact ih t

/-- What every step keeps, with what has been read so far in view, a run keeps. -/
theorem run_history {P : Stack → List Placed → Prop}
    (hstep : ∀ s p s' before, P s before → s.Step p s' → P s' (before ++ [p])) {s s' : Stack}
    {ps before : List Placed} (hs : P s before) (hrun : s.run ps = .ok s') : P s' (before ++ ps) := by
  induction ps generalizing s before with
  | nil =>
    obtain rfl := Except.ok.inj hrun
    simpa using hs
  | cons p ps ih =>
    obtain ⟨t, ht, hrun⟩ := run_cons_eq_ok_iff.1 hrun
    have := ih (hstep s p t before hs ht) hrun
    simpa using this

/-- What every step keeps, with the lexemes read so far in view, a run keeps. -/
theorem run_invariant {P : Stack → List Lexeme → Prop}
    (hstep : ∀ s p s' ls, P s ls → s.Step p s' → P s' (ls ++ [p.lexeme]))
    {s s' : Stack} {ps : List Placed} {ls : List Lexeme} (hs : P s ls)
    (hrun : s.run ps = .ok s') : P s' (ls ++ ps.map Placed.lexeme) := by
  let Q (s : Stack) (read : List Placed) : Prop := P s (ls ++ read.map Placed.lexeme)
  have hQ (s : Stack) (p : Placed) (s' : Stack) (before : List Placed) (h : Q s before)
      (hst : s.Step p s') : Q s' (before ++ [p]) := by
    have := hstep s p s' _ h hst
    simpa [Q] using this
  have hstart : Q s [] := by simpa [Q] using hs
  exact run_history hQ hstart hrun

/-- What every step keeps a run keeps. -/
theorem run_keeps {P : Stack → Prop} (hstep : ∀ s p s', P s → s.Step p s' → P s') {s s' : Stack}
    {ps : List Placed} (hs : P s) (hrun : s.run ps = .ok s') : P s' :=
  @run_invariant (fun s _ => P s) (fun s p s' _ => hstep s p s') s s' ps [] hs hrun

/-- At the end there is a tree if only the outermost group is open and it closes with one. -/
theorem finish_eq_ok_iff {s : Stack} {n : Node} :
    s.finish = .ok n ↔ s.outer = [] ∧ s.top.close = .ok (some n) := by
  unfold finish
  cases s.outer with
  | cons parent outer => simp
  | nil =>
    cases s.top.close with
    | error fault => simp
    | ok c => cases c <;> simp

end Stack

/-- Lexemes have a tree when the run over them ends with no parenthesis open, and the outermost
group hands it on. -/
theorem compile_eq_ok_iff {ps : List Placed} {n : Node} :
    compile ps = .ok n ↔ ∃ g, ({} : Stack).run ps = .ok ⟨g, []⟩ ∧ g.close = .ok (some n) := by
  unfold compile
  cases ({} : Stack).run ps with
  | error fault => simp
  | ok s =>
    obtain ⟨top, outer⟩ := s
    simp only [Stack.finish_eq_ok_iff, Except.ok.injEq, Stack.mk.injEq]
    constructor
    · rintro ⟨houter, hclose⟩
      exact ⟨top, ⟨rfl, houter⟩, hclose⟩
    · rintro ⟨g, ⟨rfl, houter⟩, hclose⟩
      exact ⟨houter, hclose⟩

/-! ## Two runs side by side -/

/-- Both computations fail, with faults related by `E`, or both give results, related by `Q`. -/
inductive Agree {α : Type} (E : Fault → Fault → Prop) (Q : α → α → Prop) :
    Except Fault α → Except Fault α → Prop where
  | fault {f f' : Fault} (h : E f f') : Agree E Q (.error f) (.error f')
  | result {a b : α} (h : Q a b) : Agree E Q (.ok a) (.ok b)

namespace Agree

variable {α β : Type} {E : Fault → Fault → Prop} {Q : α → α → Prop} {x y : Except Fault α}

/-- A computation agrees with itself, if faults and results agree with themselves. -/
theorem of_eq (hE : ∀ f, E f f) (hQ : ∀ a, Q a a) (x : Except Fault α) : Agree E Q x x := by
  cases x with
  | error f => exact .fault (hE f)
  | ok a => exact .result (hQ a)

/-- Computations that agree still do with functions applied to their results, if these take results
that agree to results that agree. -/
theorem map {R : β → β → Prop} {f g : α → β} (h : Agree E Q x y)
    (hfg : ∀ a b, Q a b → R (f a) (g b)) : Agree E R (x.map f) (y.map g) := by
  cases h with
  | fault he => exact .fault he
  | result hq => exact .result (hfg _ _ hq)

/-- What holds of each result on its own may be added to the relation. -/
theorem and {P P' : α → Prop} (h : Agree E Q x y) (hx : ∀ a, x = .ok a → P a)
    (hy : ∀ b, y = .ok b → P' b) : Agree E (fun a b => Q a b ∧ P a ∧ P' b) x y := by
  cases h with
  | fault he => exact .fault he
  | result hq => exact .result ⟨hq, hx _ rfl, hy _ rfl⟩

end Agree

namespace Stack

/-- What comes of the lexemes that are still to be read. -/
def outcome (s : Stack) (ps : List Placed) : Except Fault Node :=
  match s.run ps with
  | .ok t => t.finish
  | .error fault => .error fault

/-- The outcome is that of the rest, from where the first lexeme leads. -/
theorem outcome_cons (s : Stack) (p : Placed) (ps : List Placed) :
    s.outcome (p :: ps) =
      match s.step p with
      | .ok t => t.outcome ps
      | .error fault => .error fault := by
  unfold outcome
  rw [run]
  cases s.step p <;> rfl

/-- The outcome of two sequences is that of the second, from where the first leads. -/
theorem outcome_append (s : Stack) (ps qs : List Placed) :
    s.outcome (ps ++ qs) =
      match s.run ps with
      | .ok t => t.outcome qs
      | .error fault => .error fault := by
  unfold outcome
  rw [run_append]
  cases s.run ps <;> rfl

/-- A relation between two stacks that every lexeme keeps and that makes the ends agree makes the
outcomes agree. It may depend on the lexemes to come, and the second run may read them changed. -/
theorem agree_outcome {E : Fault → Fault → Prop} {Q : List Placed → Stack → Stack → Prop}
    {R : Node → Node → Prop} {f : Placed → Placed}
    (hstep : ∀ p ps s s', Q (p :: ps) s s' → Agree E (Q ps) (s.step p) (s'.step (f p)))
    (hfin : ∀ s s', Q [] s s' → Agree E R s.finish s'.finish) {s s' : Stack} {ps : List Placed}
    (h : Q ps s s') : Agree E R (s.outcome ps) (s'.outcome (ps.map f)) := by
  induction ps generalizing s s' with
  | nil => exact hfin s s' h
  | cons p ps ih =>
    have hagree := hstep p ps s s' h
    rw [List.map_cons, outcome_cons, outcome_cons]
    generalize s.step p = x at hagree ⊢
    generalize s'.step (f p) = y at hagree ⊢
    cases hagree with
    | fault he => exact .fault he
    | result hq => exact ih hq

end Stack

/-! ## Offsets

A lexeme's offset is only ever handed on to a fault. Forgetting all offsets before reading gives
the same tree, or a fault with the same problem. -/

/-- The lexeme at no place in particular. -/
def Placed.unplaced (p : Placed) : Placed := ⟨p.lexeme, 0⟩

/-- Lexemes at no place in particular. -/
def unplaced (ls : List Lexeme) : List Placed := ls.map (⟨·, 0⟩)

/-- Lexemes without their offsets, whether these are dropped before or after. -/
theorem map_unplaced (ps : List Placed) :
    ps.map Placed.unplaced = unplaced (ps.map Placed.lexeme) := by
  simp [unplaced, Placed.unplaced]

@[simp] theorem unplaced_cons (l : Lexeme) (ls : List Lexeme) :
    unplaced (l :: ls) = ⟨l, 0⟩ :: unplaced ls := rfl

@[simp] theorem unplaced_nil : unplaced [] = [] := rfl

@[simp] theorem map_lexeme_unplaced (ls : List Lexeme) :
    (unplaced ls).map Placed.lexeme = ls := by
  simp [unplaced, Function.comp_def]

@[simp] theorem unplaced_append (as bs : List Lexeme) :
    unplaced (as ++ bs) = unplaced as ++ unplaced bs := by
  simp [unplaced]

/-- The faults differ in their position at most. -/
def SameProblem (f f' : Fault) : Prop := f'.problem = f.problem

namespace Group

/-- The group with its offsets forgotten. -/
def unplaced (g : Group) : Group :=
  { g with
    opened := g.opened.map fun _ => 0
    modifier := g.modifier.map fun (m, _) => (m, 0)
    joiner := g.joiner.map fun (op, _) => (op, 0) }

/-- A clause is added alike with and without offsets. -/
theorem unplaced_addClause (g : Group) (c : Option Node) :
    g.unplaced.addClause c = (g.addClause c).unplaced := by
  cases c with
  | none => rfl
  | some n =>
    -- the waiting modifier and operator count, not where they stood
    have hmod : g.unplaced.modify n = g.modify n := by
      unfold modify unplaced
      rcases g.modifier with _ | ⟨m, _⟩ <;> rfl
    have hcont : g.unplaced.continues = g.continues := by
      unfold continues unplaced
      rcases g.joiner with _ | ⟨_ | _, _⟩ <;> rfl
    rw [addClause_some, addClause_some, hmod, hcont]
    rfl

/-- A group is closed alike with and without offsets, but for where a fault points. -/
theorem unplaced_close (g : Group) : Agree SameProblem Eq g.close g.unplaced.close := by
  have htree : g.unplaced.tree? = g.tree? := rfl
  rw [close_eq, close_eq, htree]
  unfold fault? unplaced
  rcases g.modifier with _ | ⟨m, o⟩ <;> rcases g.joiner with _ | ⟨op, o'⟩ <;> try exact .fault rfl
  cases g.hasClause <;> cases g.opened <;> first | exact .fault rfl | exact .result rfl

end Group

namespace Stack

/-- The stack with its offsets forgotten. -/
def unplaced (s : Stack) : Stack := ⟨s.top.unplaced, s.outer.map Group.unplaced⟩

/-- A step is made alike with and without offsets, but for where a fault points. One case for each
lexeme. -/
theorem step_unplaced (s : Stack) (p : Placed) :
    Agree SameProblem (fun t u => u = t.unplaced) (s.step p) (s.unplaced.step p.unplaced) := by
  obtain ⟨lexeme, offset⟩ := p
  cases lexeme with
  | word text => exact .result (by simp [unplaced, Group.unplaced_addClause])
  | phrase content =>
    simp only [step, Placed.unplaced]
    cases compilePhrase content with
    | none => exact .fault rfl
    | some n => exact .result (by simp [unplaced, Group.unplaced_addClause])
  | operator op =>
    -- the offset of the operator shows in the fault only, so each case computes
    obtain ⟨⟨opened, alternatives, chain, modifier, joiner, hasClause⟩, outer⟩ := s
    rcases modifier with _ | ⟨m, o⟩
    · rcases joiner with _ | ⟨op', o'⟩ <;> cases hasClause <;> cases op <;>
        first | exact .fault rfl | exact .result rfl
    · exact .fault rfl
  | modifier m =>
    simp only [step, Placed.unplaced, unplaced, Group.addModifier, Group.unplaced]
    rcases s.top.modifier with _ | ⟨m', o⟩
    · exact .result rfl
    · exact .fault rfl
  | openParen => exact .result rfl
  | closeParen =>
    simp only [step, Placed.unplaced, unplaced]
    cases s.outer with
    | nil => exact .fault rfl
    | cons parent outer =>
      -- the two groups hand on the same clause
      refine s.top.unplaced_close.map fun c c' hc => ?_
      obtain rfl := hc
      simp [Group.unplaced_addClause]

/-- The end of a run is judged alike with and without offsets, but for where a fault points. -/
theorem finish_unplaced (s : Stack) : Agree SameProblem Eq s.finish s.unplaced.finish := by
  have hclose := s.top.unplaced_close
  simp only [finish, unplaced]
  cases s.outer with
  | cons parent outer => exact .fault rfl
  | nil =>
    simp only [List.map_nil]
    generalize s.top.close = x at hclose ⊢
    generalize s.top.unplaced.close = y at hclose ⊢
    cases hclose with
    | fault he => exact .fault he
    | @result c c' hc =>
      obtain rfl := hc
      cases c with
      | none => exact .fault rfl
      | some n => exact .result rfl

end Stack

/-! ## Verdicts -/

@[simp] theorem mapError_ok {ε ε' α : Type} (f : ε → ε') (a : α) :
    (Except.ok a : Except ε α).mapError f = .ok a := rfl

@[simp] theorem mapError_error {ε ε' α : Type} (f : ε → ε') (e : ε) :
    (Except.error e : Except ε α).mapError f = .error (f e) := rfl

/-- What comes of a sequence of lexemes: its tree, or what is wrong with it. -/
def verdict (ps : List Placed) : Except Problem Node := (compile ps).mapError Fault.problem

theorem verdict_eq_ok_iff {ps : List Placed} {n : Node} : verdict ps = .ok n ↔ compile ps = .ok n := by
  unfold verdict
  cases compile ps <;> simp

/-- What comes of lexemes does not depend on where they stand. Offsets go into faults and nowhere
else, and each step keeps the two stacks the same up to them. -/
theorem verdict_unplaced (ps : List Placed) :
    verdict (unplaced (ps.map Placed.lexeme)) = verdict ps := by
  have hagree : Agree SameProblem Eq (({} : Stack).outcome ps)
      (({} : Stack).outcome (ps.map Placed.unplaced)) := by
    refine Stack.agree_outcome (Q := fun _ s s' => s' = s.unplaced) ?_ ?_ rfl
    · rintro p ps s _ rfl
      exact s.step_unplaced p
    · rintro s _ rfl
      exact s.finish_unplaced
  rw [← map_unplaced]
  change (({} : Stack).outcome (ps.map Placed.unplaced)).mapError Fault.problem =
    (({} : Stack).outcome ps).mapError Fault.problem
  generalize ({} : Stack).outcome ps = x at hagree ⊢
  generalize ({} : Stack).outcome (ps.map Placed.unplaced) = y at hagree ⊢
  cases hagree with
  | fault he => exact congrArg Except.error he
  | result hn => rw [hn]

theorem compile_unplaced_eq_ok_iff {ps : List Placed} {n : Node} :
    compile (unplaced (ps.map Placed.lexeme)) = .ok n ↔ compile ps = .ok n := by
  rw [← verdict_eq_ok_iff, verdict_unplaced, verdict_eq_ok_iff]

end TextQuery.Query
