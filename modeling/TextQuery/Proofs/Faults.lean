import TextQuery.Proofs.Parsed
import TextQuery.Proofs.Sources

/-!
# What a fault points at

Where the position of a fault comes from, and what stands there:

* `Stack.Refuses` — every way in which a lexeme is refused; `Stack.refuses_of_step_eq_error` ties it
  to `Stack.step`, as `Stack.Step` is tied to it for lexemes that are accepted.
* `Group.Anchored` — the offsets that an open group keeps are those of lexemes it has read.
  `exists_about_of_compile` — so a fault of the grammar is at the offset of a lexeme it is about.
* `Unclosed`, `Unopened` — a parenthesis without its partner. `Stack.Nested` — the open groups are
  the parentheses that are unclosed so far, with balanced lexemes between them.
* `Parser.parse_error_points` — the position of every error of a query, with the text that stands
  there.
-/

namespace TextQuery.Query

open Text (isBlank byteLength StandsAt)

/-! ## How a run fails -/

namespace Group

/-- What a group can leave hanging: a modifier, an operator, or its own parenthesis. Each is
reported where it stands. -/
theorem fault?_cases {g : Group} {fault : Fault} (h : g.fault? = some fault) :
    (∃ m place, g.modifier = some (m, place) ∧
      fault = ⟨.danglingModifier m.spelling, some place⟩) ∨
    (∃ op place, g.joiner = some (op, place) ∧
      fault = ⟨.missingOperand op.spelling, some place⟩) ∨
    ∃ place, g.opened = some place ∧ fault = ⟨.emptyGroup, some place⟩ := by
  unfold fault? at h
  cases hm : g.modifier with
  | some waiting =>
    rw [hm] at h
    exact .inl ⟨waiting.1, waiting.2, rfl, (Option.some.inj h).symm⟩
  | none =>
    rw [hm] at h
    cases hj : g.joiner with
    | some waiting =>
      rw [hj] at h
      exact .inr (.inl ⟨waiting.1, waiting.2, rfl, (Option.some.inj h).symm⟩)
    | none =>
      rw [hj] at h
      -- only a group with a parenthesis can be at fault for being empty
      cases ho : g.opened with
      | none => simp [ho] at h
      | some place =>
        cases hc : g.hasClause with
        | true => simp [ho, hc] at h
        | false =>
          simp only [ho, hc] at h
          exact .inr (.inr ⟨place, rfl, (Option.some.inj h).symm⟩)

end Group

namespace Stack

/-- Every way in which the open groups can refuse a lexeme. -/
inductive Refuses (s : Stack) : Placed → Fault → Prop where
  | emptyPhrase {content : String} (offset : Nat) (hcontent : compilePhrase content = none) :
      Refuses s ⟨.phrase content, offset⟩ ⟨.emptyPhrase, some offset⟩
  | stacked (m : Modifier) (offset : Nat) (hm : s.top.modifier.isSome) :
      Refuses s ⟨.modifier m, offset⟩ ⟨.stackedModifier m.spelling, some offset⟩
  | dangling (op : Operator) (offset : Nat) {m : Modifier} {place : Nat}
      (hm : s.top.modifier = some (m, place)) :
      Refuses s ⟨.operator op, offset⟩ ⟨.danglingModifier m.spelling, some place⟩
  | missing (op : Operator) (offset : Nat) (hm : s.top.modifier = none)
      (hclause : s.top.afterClause = false) :
      Refuses s ⟨.operator op, offset⟩ ⟨.missingOperand op.spelling, some offset⟩
  | unexpected (offset : Nat) (hs : s.outer = []) :
      Refuses s ⟨.closeParen, offset⟩ ⟨.unexpectedCloseParen, some offset⟩
  | close (offset : Nat) {fault : Fault} (hs : s.outer ≠ []) (hfault : s.top.fault? = some fault) :
      Refuses s ⟨.closeParen, offset⟩ fault

/-- A step that fails is one of the ways to refuse a lexeme. Case analysis along `step`, where words
and opening parentheses are never refused. -/
theorem refuses_of_step_eq_error {s : Stack} {p : Placed} {fault : Fault}
    (h : s.step p = .error fault) : s.Refuses p fault := by
  obtain ⟨lexeme, offset⟩ := p
  cases lexeme with
  | word text => cases h
  | phrase content =>
    simp only [step] at h
    cases hn : compilePhrase content with
    | some n => rw [hn] at h; cases h
    | none =>
      rw [hn] at h
      obtain rfl := Except.error.inj h
      exact .emptyPhrase offset hn
  | operator op =>
    simp only [step, Group.addOperator] at h
    cases hm : s.top.modifier with
    | some waiting =>
      rw [hm] at h
      obtain rfl := Except.error.inj h
      exact .dangling op offset hm
    | none =>
      rw [hm] at h
      simp only at h
      split at h
      · cases op <;> cases h
      · next hclause =>
        obtain rfl := Except.error.inj h
        exact .missing op offset hm (Bool.eq_false_iff.2 hclause)
  | modifier m =>
    simp only [step, Group.addModifier] at h
    cases hm : s.top.modifier with
    | none => rw [hm] at h; cases h
    | some waiting =>
      rw [hm] at h
      obtain rfl := Except.error.inj h
      exact .stacked m offset (by rw [hm]; rfl)
  | openParen => cases h
  | closeParen =>
    simp only [step] at h
    cases hs : s.outer with
    | nil =>
      rw [hs] at h
      obtain rfl := Except.error.inj h
      exact .unexpected offset hs
    | cons parent outer =>
      -- a parenthesis with a partner fails with what the group leaves hanging
      simp only [hs, Group.close_eq] at h
      cases hfault : s.top.fault? with
      | none => rw [hfault] at h; cases h
      | some fault' =>
        rw [hfault] at h
        obtain rfl := Except.error.inj h
        exact .close offset (by simp [hs]) hfault

/-- A run fails at the first lexeme that is refused: those in front of it were taken in. Induction
on the lexemes. -/
theorem exists_refuses_of_run {s : Stack} {ps : List Placed} {fault : Fault}
    (h : s.run ps = .error fault) :
    ∃ before p after t, ps = before ++ p :: after ∧ s.run before = .ok t ∧ t.Refuses p fault := by
  induction ps generalizing s with
  | nil => cases h
  | cons p ps ih =>
    rw [run] at h
    cases hstep : s.step p with
    | error fault' =>
      rw [hstep] at h
      obtain rfl := Except.error.inj h
      exact ⟨[], p, ps, s, rfl, rfl, refuses_of_step_eq_error hstep⟩
    | ok s' =>
      rw [hstep] at h
      obtain ⟨before, q, after, t, rfl, hrun, hrefuses⟩ := ih h
      refine ⟨p :: before, q, after, t, rfl, ?_, hrefuses⟩
      rw [run, hstep]
      exact hrun

/-- How the end of the lexemes can fail: a parenthesis is open, the outermost group leaves something
hanging, or nothing is left of the query. -/
theorem finish_eq_error {s : Stack} {fault : Fault} (h : s.finish = .error fault) :
    (s.outer ≠ [] ∧ fault = ⟨.unclosedParen, s.top.opened⟩) ∨
      s.top.fault? = some fault ∨ fault = ⟨.emptyQuery, none⟩ := by
  unfold finish at h
  cases hs : s.outer with
  | cons parent outer =>
    rw [hs] at h
    exact .inl ⟨by simp, (Except.error.inj h).symm⟩
  | nil =>
    simp only [hs, Group.close_eq] at h
    cases hfault : s.top.fault? with
    | some fault' =>
      rw [hfault] at h
      exact .inr (.inl (congrArg some (Except.error.inj h)))
    | none =>
      simp only [hfault] at h
      cases htree : s.top.tree? with
      | some n => rw [htree] at h; cases h
      | none =>
        rw [htree] at h
        exact .inr (.inr (Except.error.inj h).symm)

end Stack

/-! ## Offsets that open groups keep -/

/-- What a problem of the grammar is about. -/
inductive Problem.About : Problem → Lexeme → Prop where
  | emptyPhrase (content : String) : About .emptyPhrase (.phrase content)
  | unclosedParen : About .unclosedParen .openParen
  | emptyGroup : About .emptyGroup .openParen
  | unexpectedCloseParen : About .unexpectedCloseParen .closeParen
  | missingOperand (op : Operator) : About (.missingOperand op.spelling) (.operator op)
  | danglingModifier (m : Modifier) : About (.danglingModifier m.spelling) (.modifier m)
  | stackedModifier (m : Modifier) : About (.stackedModifier m.spelling) (.modifier m)

/-- The fault is at one of the lexemes, and about it. -/
def Fault.PointsInto (ps : List Placed) (fault : Fault) : Prop :=
  ∃ p ∈ ps, fault.position = some p.offset ∧ fault.problem.About p.lexeme

theorem Fault.PointsInto.append {ps : List Placed} {fault : Fault} (h : fault.PointsInto ps)
    (qs : List Placed) : fault.PointsInto (ps ++ qs) := by
  obtain ⟨p, hp, hposition, habout⟩ := h
  exact ⟨p, List.mem_append_left qs hp, hposition, habout⟩

/-- Every offset in the group is that of a lexeme among those given. -/
structure Group.Anchored (ps : List Placed) (g : Group) : Prop where
  opened : ∀ place, g.opened = some place → ⟨.openParen, place⟩ ∈ ps
  modifier : ∀ m place, g.modifier = some (m, place) → ⟨.modifier m, place⟩ ∈ ps
  joiner : ∀ op place, g.joiner = some (op, place) → ⟨.operator op, place⟩ ∈ ps

namespace Group.Anchored

variable {ps : List Placed} {g : Group}

theorem append (h : g.Anchored ps) (qs : List Placed) : g.Anchored (ps ++ qs) where
  opened place hplace := List.mem_append_left qs (h.opened place hplace)
  modifier m place hm := List.mem_append_left qs (h.modifier m place hm)
  joiner op place hj := List.mem_append_left qs (h.joiner op place hj)

-- a clause uses up what waits for it, so only the opening parenthesis is kept
theorem addClause (h : g.Anchored ps) (c : Option Node) : (g.addClause c).Anchored ps where
  opened place hplace := h.opened place (by rwa [addClause_opened] at hplace)
  modifier m place hm := by cases hm
  joiner op place hj := by cases hj

theorem pointsInto (h : g.Anchored ps) {fault : Fault} (hfault : g.fault? = some fault) :
    fault.PointsInto ps := by
  rcases fault?_cases hfault with ⟨m, place, hm, rfl⟩ | ⟨op, place, hj, rfl⟩ | ⟨place, ho, rfl⟩
  · exact ⟨_, h.modifier m place hm, rfl, .danglingModifier m⟩
  · exact ⟨_, h.joiner op place hj, rfl, .missingOperand op⟩
  · exact ⟨_, h.opened place ho, rfl, .emptyGroup⟩

end Group.Anchored

namespace Stack

/-- Every offset in the open groups is that of a lexeme among those given. -/
def Anchored (s : Stack) (ps : List Placed) : Prop := ∀ g ∈ s.top :: s.outer, g.Anchored ps

/-- A step keeps no offset but those kept before and that of its own lexeme. One case for each way
to step; the groups around the innermost one only see their history grow. -/
theorem Anchored.step {s s' : Stack} {p : Placed} {ps : List Placed} (h : s.Anchored ps)
    (hstep : s.Step p s') : s'.Anchored (ps ++ [p]) := by
  have hlast : p ∈ ps ++ [p] := by simp
  obtain ⟨htop, houter⟩ := List.forall_mem_cons.1 h
  have htop' := htop.append [p]
  have houter' : ∀ g ∈ s.outer, g.Anchored (ps ++ [p]) := fun g hg => (houter g hg).append [p]
  cases hstep with
  | word text offset => exact List.forall_mem_cons.2 ⟨htop'.addClause _, houter'⟩
  | phrase content offset n hn => exact List.forall_mem_cons.2 ⟨htop'.addClause _, houter'⟩
  | modifier m offset hm =>
    refine List.forall_mem_cons.2 ⟨⟨htop'.opened, ?_, htop'.joiner⟩, houter'⟩
    rintro _ _ ⟨⟩
    exact hlast
  | and offset hm hj hc =>
    refine List.forall_mem_cons.2 ⟨⟨htop'.opened, htop'.modifier, ?_⟩, houter'⟩
    rintro _ _ ⟨⟩
    exact hlast
  | or offset hm hj hc =>
    refine List.forall_mem_cons.2 ⟨⟨htop'.opened, htop'.modifier, ?_⟩, houter'⟩
    rintro _ _ ⟨⟩
    exact hlast
  | openParen offset =>
    refine List.forall_mem_cons.2 ⟨⟨?_, ?_, ?_⟩, List.forall_mem_cons.2 ⟨htop', houter'⟩⟩
    · rintro _ ⟨⟩
      exact hlast
    · rintro _ _ ⟨⟩
    · rintro _ _ ⟨⟩
  | closeParen offset parent outer hs hm hj hc =>
    -- the tree of the closed group has no offset, so what it kept is dropped with it
    rw [hs] at houter'
    obtain ⟨hparent, houter'⟩ := List.forall_mem_cons.1 houter'
    exact List.forall_mem_cons.2 ⟨hparent.addClause _, houter'⟩

/-- After a run all offsets that are kept are those of lexemes read. Induction on the run, with what
was read as its history. -/
theorem anchored_run {ps : List Placed} {s : Stack} (hrun : ({} : Stack).run ps = .ok s) :
    s.Anchored ps := by
  have hstart : ({} : Stack).Anchored [] := by
    intro g hg
    obtain rfl := List.mem_singleton.1 hg
    exact ⟨by simp, by simp, by simp⟩
  exact run_history (P := Anchored) (fun s p s' before h hstep => h.step hstep) hstart hrun

/-- A lexeme is refused with a fault that points to it or to one in front of it. -/
theorem Refuses.pointsInto {s : Stack} {p : Placed} {fault : Fault} (h : s.Refuses p fault)
    {ps : List Placed} (hs : s.Anchored ps) : fault.PointsInto (ps ++ [p]) := by
  have hlast : p ∈ ps ++ [p] := by simp
  have htop := (List.forall_mem_cons.1 hs).1
  cases h with
  | emptyPhrase offset hcontent => exact ⟨_, hlast, rfl, .emptyPhrase _⟩
  | stacked m offset hm => exact ⟨_, hlast, rfl, .stackedModifier m⟩
  | dangling op offset hm =>
    exact ⟨_, List.mem_append_left _ (htop.modifier _ _ hm), rfl, .danglingModifier _⟩
  | missing op offset hm hclause => exact ⟨_, hlast, rfl, .missingOperand op⟩
  | unexpected offset hs => exact ⟨_, hlast, rfl, .unexpectedCloseParen⟩
  | close offset hs hfault => exact (htop.pointsInto hfault).append _

end Stack

/-! ## Parentheses without a partner -/

/-- A parenthesis that opens in front of the lexemes is not closed by any of them. -/
def Unclosed (after : List Lexeme) : Prop :=
  ∀ inner rest, after = inner ++ .closeParen :: rest → ¬ Balanced inner

/-- A parenthesis that closes behind the lexemes was not opened by any of them. -/
def Unopened (before : List Lexeme) : Prop :=
  ∀ rest inner, before = rest ++ .openParen :: inner → ¬ Balanced inner

namespace Balanced

variable {ls : List Lexeme}

/-- In a balanced sequence each opening parenthesis has its partner, with a balanced sequence
between them. Induction on the sequence: the parenthesis stands in the front, is the one of the last
group, or stands inside that group. -/
theorem exists_close (h : Balanced ls) {before after : List Lexeme}
    (hls : ls = before ++ .openParen :: after) :
    ∃ inner rest, Balanced inner ∧ after = inner ++ .closeParen :: rest := by
  induction h generalizing before after with
  | nil => simp at hls
  | @snoc ls l h hopen hclose ih =>
    rcases append_eq_append_cons hls with ⟨more, hmore, rfl⟩ | ⟨inner, -, hinner⟩
    · obtain ⟨inner, rest, hinner, rfl⟩ := ih hmore
      exact ⟨inner, rest ++ [l], hinner, by simp⟩
    · rcases List.singleton_eq_append_iff.1 hinner with ⟨-, heq⟩ | ⟨-, heq⟩
      · exact absurd (List.cons.inj heq).1.symm hopen
      · cases heq
  | @group ls content h hcontent ih ihcontent =>
    rw [List.append_assoc, List.cons_append] at hls
    rcases append_eq_append_cons hls with ⟨more, hmore, rfl⟩ | ⟨inner, -, hinner⟩
    · -- the parenthesis stands in front of the last group
      obtain ⟨inner, rest, hinner, rfl⟩ := ih hmore
      exact ⟨inner, _, hinner, List.append_assoc ..⟩
    · cases inner with
      -- it is the one of the last group
      | nil =>
        obtain rfl := (List.cons.inj hinner).2
        exact ⟨content, [], hcontent, rfl⟩
      | cons l inner =>
        rcases append_eq_append_cons (List.cons.inj hinner).2 with ⟨more, hmore, rfl⟩ | ⟨_, -, hend⟩
        · obtain ⟨inner', rest, hinner', rfl⟩ := ihcontent hmore
          exact ⟨inner', _, hinner', List.append_assoc ..⟩
        · rcases List.singleton_eq_append_iff.1 hend with ⟨-, heq⟩ | ⟨-, heq⟩
          · cases heq
          · cases heq

/-- In a balanced sequence each closing parenthesis has its partner, with a balanced sequence
between them. The three cases are those of `exists_close`. -/
theorem exists_open (h : Balanced ls) {before after : List Lexeme}
    (hls : ls = before ++ .closeParen :: after) :
    ∃ rest inner, Balanced inner ∧ before = rest ++ .openParen :: inner := by
  induction h generalizing before after with
  | nil => simp at hls
  | @snoc ls l h hopen hclose ih =>
    rcases append_eq_append_cons hls with ⟨more, hmore, -⟩ | ⟨inner, -, hinner⟩
    · exact ih hmore
    · rcases List.singleton_eq_append_iff.1 hinner with ⟨-, heq⟩ | ⟨-, heq⟩
      · exact absurd (List.cons.inj heq).1.symm hclose
      · cases heq
  | @group ls content h hcontent ih ihcontent =>
    rw [List.append_assoc, List.cons_append] at hls
    rcases append_eq_append_cons hls with ⟨more, hmore, -⟩ | ⟨inner, rfl, hinner⟩
    · exact ih hmore
    · cases inner with
      | nil => cases (List.cons.inj hinner).1
      | cons l inner =>
        obtain ⟨rfl, htail⟩ := List.cons.inj hinner
        rcases append_eq_append_cons htail with ⟨more, hmore, -⟩ | ⟨last, rfl, hend⟩
        · obtain ⟨rest, inner', hinner', rfl⟩ := ihcontent hmore
          exact ⟨ls ++ .openParen :: rest, inner', hinner', by simp⟩
        · rcases List.singleton_eq_append_iff.1 hend with ⟨rfl, -⟩ | ⟨-, heq⟩
          · exact ⟨ls, content, hcontent, by simp⟩
          · cases heq

/-- Balanced lexemes close no parenthesis in front of them. -/
theorem unclosed (h : Balanced ls) : Unclosed ls := by
  induction hlength : ls.length using Nat.strong_induction_on generalizing ls with
  | _ n ih =>
    rintro inner rest rfl hinner
    -- the partner of the parenthesis, and what closes that one once more further inside
    obtain ⟨front, content, hcontent, rfl⟩ := h.exists_open rfl
    obtain ⟨content', rest', hcontent', rfl⟩ := hinner.exists_close rfl
    refine ih _ ?_ hcontent rfl content' rest' rfl hcontent'
    rw [← hlength]
    simp only [List.length_append, List.length_cons]
    omega

/-- Balanced lexemes open no parenthesis behind them. -/
theorem unopened (h : Balanced ls) : Unopened ls := by
  rintro rest inner rfl hinner
  obtain ⟨content, rest', hcontent, rfl⟩ := h.exists_close rfl
  exact hinner.unclosed content rest' rfl hcontent

end Balanced

/-- A parenthesis opens at the offset and is not closed, and every one that opens behind it is. -/
def LastUnclosed (ps : List Placed) (offset : Nat) : Prop :=
  ∃ before after, ps = before ++ ⟨.openParen, offset⟩ :: after ∧
    Unclosed (after.map Placed.lexeme) ∧
    ∀ inner rest, after.map Placed.lexeme = inner ++ .openParen :: rest → ¬ Unclosed rest

/-- A parenthesis closes at the offset and was not opened, and every one that closes in front of it
was. -/
def FirstUnopened (ps : List Placed) (offset : Nat) : Prop :=
  ∃ before after, ps = before ++ ⟨.closeParen, offset⟩ :: after ∧
    Unopened (before.map Placed.lexeme) ∧
    ∀ front inner, before.map Placed.lexeme = front ++ .closeParen :: inner → ¬ Unopened front

theorem Balanced.lastUnclosed {after : List Placed} (h : Balanced (after.map Placed.lexeme))
    (before : List Placed) (offset : Nat) :
    LastUnclosed (before ++ ⟨.openParen, offset⟩ :: after) offset := by
  refine ⟨before, after, rfl, h.unclosed, fun inner rest hafter hrest => ?_⟩
  obtain ⟨content, rest', hcontent, heq⟩ := h.exists_close hafter
  exact hrest content rest' heq hcontent

/-- With only balanced lexemes in front of it, a closing parenthesis is the first one without a
partner. -/
theorem Balanced.firstUnopened {before : List Placed} (h : Balanced (before.map Placed.lexeme))
    (offset : Nat) (after : List Placed) :
    FirstUnopened (before ++ ⟨.closeParen, offset⟩ :: after) offset := by
  refine ⟨before, after, rfl, h.unopened, fun front inner hbefore hfront => ?_⟩
  obtain ⟨rest, content, hcontent, heq⟩ := h.exists_open hbefore
  exact hfront rest content heq hcontent

/-! ### Open groups -/

/-- The places where the open groups begin, from the inside out: the lexemes are balanced behind the
parenthesis of each group up to that of the next one. -/
inductive Nests : List (Option Nat) → List Placed → Prop where
  | query {ps : List Placed} (h : Balanced (ps.map Placed.lexeme)) : Nests [none] ps
  | group {places : List (Option Nat)} {before inner : List Placed} {offset : Nat}
      (h : Nests places before) (hinner : Balanced (inner.map Placed.lexeme)) :
      Nests (some offset :: places) (before ++ ⟨.openParen, offset⟩ :: inner)

theorem Nests.balanced {place : Option Nat} {ps : List Placed} (h : Nests [place] ps) :
    Balanced (ps.map Placed.lexeme) := by
  cases h with
  | query h => exact h
  | group h hinner => cases h

/-- With a parenthesis open, the lexemes behind it are balanced, and those in front of it leave the
other groups open. -/
theorem Nests.exists_group {place parent : Option Nat} {places : List (Option Nat)}
    {ps : List Placed} (h : Nests (place :: parent :: places) ps) :
    ∃ before offset inner, place = some offset ∧ ps = before ++ ⟨.openParen, offset⟩ :: inner ∧
      Nests (parent :: places) before ∧ Balanced (inner.map Placed.lexeme) := by
  cases h with
  | group h hinner => exact ⟨_, _, _, rfl, rfl, h, hinner⟩

theorem Nests.append {places : List (Option Nat)} {ps qs : List Placed} (h : Nests places ps)
    (hqs : Balanced (qs.map Placed.lexeme)) : Nests places (ps ++ qs) := by
  cases h with
  | query h =>
    refine .query ?_
    rw [List.map_append]
    exact h.append hqs
  | group h hinner =>
    rw [List.append_assoc, List.cons_append]
    refine .group h ?_
    rw [List.map_append]
    exact hinner.append hqs

namespace Stack

/-- The open groups nest in what has been read. -/
def Nested (s : Stack) (ps : List Placed) : Prop :=
  Nests ((s.top :: s.outer).map Group.opened) ps

/-- A step keeps track of the open parentheses: the stack has one group for each of them. A closing
parenthesis makes a balanced piece of what stood inside, in front of which the group around goes on.
-/
theorem Nested.step {s s' : Stack} {p : Placed} {ps : List Placed} (h : s.Nested ps)
    (hstep : s.Step p s') : s'.Nested (ps ++ [p]) := by
  -- a lexeme other than a parenthesis is balanced by itself
  have hone (hopen : p.lexeme ≠ .openParen) (hclose : p.lexeme ≠ .closeParen) :
      s.Nested (ps ++ [p]) := Nests.append h (.snoc .nil hopen hclose)
  cases hstep with
  | word text offset =>
    have := hone (by simp) (by simp)
    simpa [Nested] using this
  | phrase content offset n hn =>
    have := hone (by simp) (by simp)
    simpa [Nested] using this
  | modifier m offset hm => exact hone (by simp) (by simp)
  | and offset hm hj hc => exact hone (by simp) (by simp)
  | or offset hm hj hc => exact hone (by simp) (by simp)
  | openParen offset => exact .group h .nil
  | closeParen offset parent outer hs hm hj hc =>
    rw [Nested, hs] at h
    obtain ⟨before, opened, inner, -, rfl, hbefore, hinner⟩ := h.exists_group
    show Nests ((parent.addClause s.top.tree?).opened :: outer.map Group.opened) _
    rw [Group.addClause_opened, List.append_assoc, List.cons_append]
    refine Nests.append hbefore ?_
    have hgroup := Balanced.group .nil hinner
    simpa using hgroup

theorem nested_run {ps : List Placed} {s : Stack} (hrun : ({} : Stack).run ps = .ok s) :
    s.Nested ps := by
  have hnone : Balanced (([] : List Placed).map Placed.lexeme) := .nil
  have hstart : ({} : Stack).Nested [] := .query hnone
  exact run_history (P := Nested) (fun s p s' before h hstep => h.step hstep) hstart hrun

/-- With no parenthesis open, what has been read is balanced. -/
theorem Nested.balanced {s : Stack} {ps : List Placed} (h : s.Nested ps) (hs : s.outer = []) :
    Balanced (ps.map Placed.lexeme) := by
  rw [Nested, hs] at h
  exact h.balanced

/-- The innermost open group begins at the last parenthesis that is unclosed. -/
theorem Nested.lastUnclosed {s : Stack} {ps : List Placed} (h : s.Nested ps) (hs : s.outer ≠ []) :
    ∃ offset, s.top.opened = some offset ∧ LastUnclosed ps offset := by
  obtain ⟨parent, outer, houter⟩ := List.exists_cons_of_ne_nil hs
  rw [Nested, houter] at h
  obtain ⟨before, offset, inner, hopened, rfl, -, hinner⟩ := h.exists_group
  exact ⟨offset, hopened, hinner.lastUnclosed before offset⟩

end Stack

/-! ## Faults of the grammar -/

/-- Lexemes do not compile because one of them is refused, or because of what is open at the end. -/
theorem compile_eq_error {ps : List Placed} {fault : Fault} (h : compile ps = .error fault) :
    (∃ before p after t, ps = before ++ p :: after ∧ ({} : Stack).run before = .ok t ∧
      t.Refuses p fault) ∨
    ∃ s, ({} : Stack).run ps = .ok s ∧ s.finish = .error fault := by
  unfold compile at h
  cases hrun : ({} : Stack).run ps with
  | error fault' =>
    rw [hrun] at h
    obtain rfl := Except.error.inj h
    exact .inl (Stack.exists_refuses_of_run hrun)
  | ok s =>
    rw [hrun] at h
    exact .inr ⟨s, rfl, h⟩

/-- A fault of the grammar is at a lexeme that it is about, unless the query holds no word. -/
theorem exists_about_of_compile {ps : List Placed} {fault : Fault}
    (h : compile ps = .error fault) :
    fault = ⟨.emptyQuery, none⟩ ∨ fault.PointsInto ps := by
  rcases compile_eq_error h with ⟨before, p, after, t, rfl, hrun, hrefuses⟩ | ⟨s, hrun, hfinish⟩
  · have hpoints := (hrefuses.pointsInto (Stack.anchored_run hrun)).append after
    rw [List.append_assoc, List.singleton_append] at hpoints
    exact .inr hpoints
  · have htop := (List.forall_mem_cons.1 (Stack.anchored_run hrun)).1
    rcases Stack.finish_eq_error hfinish with ⟨hs, rfl⟩ | hfault | rfl
    · obtain ⟨offset, hopened, -⟩ := (Stack.nested_run hrun).lastUnclosed hs
      exact .inr ⟨_, htop.opened offset hopened, hopened, .unclosedParen⟩
    · exact .inr (htop.pointsInto hfault)
    · exact .inl rfl

theorem Group.problem_ne_of_fault? {g : Group} {fault : Fault} (h : g.fault? = some fault) :
    fault.problem ≠ .unclosedParen ∧ fault.problem ≠ .unexpectedCloseParen := by
  rcases fault?_cases h with ⟨m, place, -, rfl⟩ | ⟨op, place, -, rfl⟩ | ⟨place, -, rfl⟩ <;> simp

theorem lastUnclosed_of_compile {ps : List Placed} {fault : Fault}
    (h : compile ps = .error fault) (hproblem : fault.problem = .unclosedParen) :
    ∃ offset, fault.position = some offset ∧ LastUnclosed ps offset := by
  rcases compile_eq_error h with ⟨before, p, after, t, -, -, hrefuses⟩ | ⟨s, hrun, hfinish⟩
  · -- no lexeme is refused for this reason
    cases hrefuses with
    | close offset hs hfault => exact absurd hproblem (Group.problem_ne_of_fault? hfault).1
    | _ => cases hproblem
  · rcases Stack.finish_eq_error hfinish with ⟨hs, rfl⟩ | hfault | rfl
    · exact (Stack.nested_run hrun).lastUnclosed hs
    · exact absurd hproblem (Group.problem_ne_of_fault? hfault).1
    · cases hproblem

/-- A parenthesis is reported as not opened where it is the first such one. -/
theorem firstUnopened_of_compile {ps : List Placed} {fault : Fault}
    (h : compile ps = .error fault) (hproblem : fault.problem = .unexpectedCloseParen) :
    ∃ offset, fault.position = some offset ∧ FirstUnopened ps offset := by
  rcases compile_eq_error h with ⟨before, p, after, t, rfl, hrun, hrefuses⟩ | ⟨s, hrun, hfinish⟩
  · -- only a closing parenthesis without a partner is refused for this reason
    cases hrefuses with
    | unexpected offset hs =>
      exact ⟨offset, rfl, ((Stack.nested_run hrun).balanced hs).firstUnopened offset after⟩
    | close offset hs hfault => exact absurd hproblem (Group.problem_ne_of_fault? hfault).2
    | _ => cases hproblem
  · rcases Stack.finish_eq_error hfinish with ⟨hs, rfl⟩ | hfault | rfl
    · cases hproblem
    · exact absurd hproblem (Group.problem_ne_of_fault? hfault).2
    · cases hproblem

/-! ## Faults of the lexer -/

/-- The lexer fails at a character that begins no lexeme. In front of it every quote is closed.
Induction along `lexFrom`, with the text that has been read put together piece by piece. -/
theorem lexFrom_eq_error {offset : Nat} {cs : List Char} {fault : Fault}
    (h : lexFrom offset cs = .error fault) :
    ∃ before c rest, cs = before ++ c :: rest ∧
      fault.position = some (offset + byteLength before) ∧
      readLexeme c rest = .error fault.problem ∧ QuotesOnly (fun _ => True) before := by
  fun_induction lexFrom offset cs with
  | case1 offset => cases h
  | case2 offset c cs hc ih =>
    obtain ⟨before, d, rest, rfl, hposition, hread, hquotes⟩ := ih h
    refine ⟨c :: before, d, rest, rfl, ?_, hread, .other (ne_quote_of_isBlank hc) hquotes⟩
    rw [hposition, Text.byteLength_cons, Nat.add_assoc]
  | case3 offset c cs hc problem hread =>
    obtain rfl := Except.error.inj h
    exact ⟨[], c, cs, rfl, rfl, hread, .nil⟩
  | case4 offset c cs hc r hread fault' hmore ih =>
    obtain rfl := Except.error.inj h
    obtain ⟨before, d, rest, hrest, hposition, hread', hquotes⟩ := ih hmore
    obtain ⟨taken, htext, htaken⟩ := (readsAs_of_readLexeme (by simpa using hc) hread).exists_taken
    -- the reader's own account of what it took is the text of the lexeme
    have heq : r.taken = taken := List.append_cancel_right ((readLexeme_append hread).1.trans htext)
    refine ⟨r.taken ++ before, d, rest, ?_, ?_, hread', ?_⟩
    · rw [List.append_assoc, ← hrest]
      exact (readLexeme_append hread).1.symm
    · rw [hposition, Text.byteLength_append, Nat.add_assoc]
    · rw [heq]
      exact htaken.append hquotes
  | case5 offset c cs hc r hread more hmore ih => cases h

theorem readLexeme_eq_error {c : Char} {cs : List Char} {problem : Problem}
    (h : readLexeme c cs = .error problem) :
    (c = '"' ∧ problem = .unclosedQuote) ∨
      (c = '+' ∨ c = '-') ∧ problem = .danglingModifier (String.singleton c) := by
  unfold readLexeme at h
  split at h
  · -- a quote fails only for want of its partner
    next hc =>
    split at h
    · cases h
    · exact .inl ⟨eq_of_beq hc, (Except.error.inj h).symm⟩
  split at h
  · cases h
  split at h
  · cases h
  split at h
  · next hc =>
    obtain rfl := eq_of_beq hc
    split at h
    · cases h
    · exact .inr ⟨.inl rfl, (Except.error.inj h).symm⟩
  split at h
  · next hc =>
    obtain rfl := eq_of_beq hc
    split at h
    · cases h
    · exact .inr ⟨.inr rfl, (Except.error.inj h).symm⟩
  · cases h

/-! ## What stands at the position of an error -/

/-- The texts of which one stands where the problem is noticed. -/
def Problem.marks : Problem → List String
  | .unclosedQuote | .emptyPhrase => ["\""]
  | .unclosedParen | .emptyGroup => ["("]
  | .unexpectedCloseParen => [")"]
  | .missingOperand operator =>
    if operator = "AND" then ["AND", "&&"] else if operator = "OR" then ["OR", "||"] else []
  | .danglingModifier modifier | .stackedModifier modifier =>
    if modifier ∈ ["+", "-", "NOT"] then [modifier] else []
  | .emptyQuery | .tooLong .. => []

theorem Problem.not_mem_marks (problem : Problem) : "" ∉ problem.marks := by
  have hmodifier (m : String) : "" ∉ if m ∈ ["+", "-", "NOT"] then [m] else [] := by
    split
    · next hm =>
      intro hempty
      obtain rfl := List.mem_singleton.1 hempty
      exact absurd hm (by decide)
    · simp
  cases problem with
  | missingOperand operator =>
    rw [marks]
    split
    · decide
    · split <;> decide
  | danglingModifier m => exact hmodifier m
  | stackedModifier m => exact hmodifier m
  | emptyQuery => simp [marks]
  | tooLong length limit => simp [marks]
  | _ => decide

/-- A lexeme that a problem is about begins with a mark of the problem, however it is written. -/
theorem Problem.About.exists_mark {problem : Problem} {l : Lexeme} (h : problem.About l)
    {source : String} (hsource : source ∈ l.sources) :
    ∃ mark ∈ problem.marks, ∃ more, source = mark ++ more := by
  -- signs, operators and parentheses are written in one way, which is the mark
  have hself {mark : String} (hmark : mark ∈ problem.marks) :
      ∃ m ∈ problem.marks, ∃ more, mark = m ++ more := ⟨mark, hmark, "", by simp⟩
  cases h with
  | emptyPhrase content =>
    obtain rfl := List.mem_singleton.1 hsource
    exact ⟨"\"", by simp [marks], content ++ "\"", by rw [String.append_assoc]⟩
  | unclosedParen => exact hself hsource
  | emptyGroup => exact hself hsource
  | unexpectedCloseParen => exact hself hsource
  | missingOperand op => cases op <;> exact hself hsource
  | danglingModifier m => cases m <;> exact hself hsource
  | stackedModifier m => cases m <;> exact hself hsource

/-- On a query that is not too long, settings have no say in how it is read. -/
theorem Parser.parse_of_lengthFault? {p : Parser} {query : String}
    (h : p.lengthFault? query = none) : p.parse query = Query.parse query := by
  rw [parse, h]
  rfl

theorem Parser.parse_eq {p : Parser} (hp : p.maxLength = none) (query : String) :
    p.parse query = Query.parse query := by
  refine parse_of_lengthFault? ?_
  rw [lengthFault?, hp]

theorem lexFrom_of_lex_eq_error {query : String} {e : Error} (h : lex query = .error e) :
    e.query = query ∧ lexFrom 0 query.toList = .error e.toFault := by
  unfold lex at h
  split at h
  · cases h
  · next fault hfrom =>
    obtain rfl := Except.error.inj h
    exact ⟨rfl, hfrom⟩

theorem parse_eq_error {query : String} {e : Error} (h : parse query = .error e) :
    e.query = query ∧
      (lexFrom 0 query.toList = .error e.toFault ∨
        ∃ ps, lex query = .ok ps ∧ compile ps = .error e.toFault) := by
  rw [parse_eq] at h
  cases hlex : lex query with
  | error e' =>
    rw [hlex] at h
    obtain rfl := Except.error.inj h
    obtain ⟨hquery, hfrom⟩ := lexFrom_of_lex_eq_error hlex
    exact ⟨hquery, .inl hfrom⟩
  | ok ps =>
    simp only [hlex] at h
    cases hcompile : compile ps with
    | ok n => rw [hcompile] at h; cases h
    | error fault =>
      rw [hcompile] at h
      obtain rfl := Except.error.inj h
      exact ⟨rfl, .inr ⟨ps, rfl, hcompile⟩⟩

/-- One of the marks of the problem stands where the fault is. -/
def Fault.Marked (query : String) (fault : Fault) : Prop :=
  ∃ offset, fault.position = some offset ∧ ∃ mark ∈ fault.problem.marks, StandsAt query offset mark

theorem Fault.PointsInto.marked {query : String} {ps : List Placed} {fault : Fault}
    (h : fault.PointsInto ps) (hlex : lex query = .ok ps) : fault.Marked query := by
  obtain ⟨p, hp, hposition, habout⟩ := h
  obtain ⟨source, hsource, hstands⟩ := (lex_eq_ok_iff.1 hlex).exists_standsAt p hp
  rw [List.nil_append, String.ofList_toList] at hstands
  obtain ⟨mark, hmark, more, rfl⟩ := habout.exists_mark hsource
  exact ⟨p.offset, hposition, mark, hmark, hstands.left⟩

/-- The lexer stops at a quote or at a sign, which is the mark of its problem and stands at the
position that is reported. -/
theorem marked_of_lexFrom {query : String} {fault : Fault}
    (h : lexFrom 0 query.toList = .error fault) :
    fault.Marked query ∧ (fault.problem = .unclosedQuote ∨
      ∃ modifier, fault.problem = .danglingModifier modifier) := by
  obtain ⟨before, c, rest, htext, hposition, hread, -⟩ := lexFrom_eq_error h
  -- the character behind what was read is the one that the lexer stopped at
  have hstands : StandsAt query (byteLength before) (String.singleton c) := by
    have := Text.standsAt_append before (String.singleton c) rest
    rwa [String.toList_singleton, List.append_assoc, List.singleton_append, ← htext,
      String.ofList_toList] at this
  rw [Nat.zero_add] at hposition
  rcases readLexeme_eq_error hread with ⟨rfl, hproblem⟩ | ⟨hsign, hproblem⟩
  · refine ⟨⟨_, hposition, _, ?_, hstands⟩, .inl hproblem⟩
    rw [hproblem]
    decide
  · refine ⟨⟨_, hposition, _, ?_, hstands⟩, .inr ⟨_, hproblem⟩⟩
    rw [hproblem]
    rcases hsign with rfl | rfl <;> decide

/-- **Every error points at what it is about.** An error carries its query. That the query holds no
word has no position; every other error has one, on a boundary between characters inside the query,
and what stands there is what the problem is about. The unclosed parenthesis is the last one, the
unexpected one the first. -/
theorem Parser.parse_error_points {p : Parser} (hp : p.maxLength = none) {query : String}
    {e : Error} (h : p.parse query = .error e) :
    e.query = query ∧
      (e.problem = .emptyQuery → e.position = none) ∧
      (e.problem ≠ .emptyQuery → ∃ offset, e.position = some offset ∧
        (String.Pos.Raw.mk offset).IsValid query ∧ offset < query.utf8ByteSize ∧
        ∃ mark ∈ e.problem.marks, StandsAt query offset mark) ∧
      (e.problem = .unclosedParen → ∃ ps offset, lex query = .ok ps ∧
        e.position = some offset ∧ LastUnclosed ps offset) ∧
      (e.problem = .unexpectedCloseParen → ∃ ps offset, lex query = .ok ps ∧
        e.position = some offset ∧ FirstUnopened ps offset) := by
  rw [parse_eq hp] at h
  obtain ⟨hquery, hfault⟩ := parse_eq_error h
  -- only the query without words points nowhere; all other faults come from the lexer or a lexeme
  have hmarked : e.toFault = ⟨.emptyQuery, none⟩ ∨ e.problem ≠ .emptyQuery ∧
      e.toFault.Marked query := by
    rcases hfault with hlex | ⟨ps, hlex, hcompile⟩
    · obtain ⟨hmarked, hproblem | ⟨m, hproblem⟩⟩ := marked_of_lexFrom hlex
      · exact .inr ⟨by simp [hproblem], hmarked⟩
      · exact .inr ⟨by simp [hproblem], hmarked⟩
    · rcases exists_about_of_compile hcompile with hempty | hpoints
      · exact .inl hempty
      · refine .inr ⟨fun hempty => ?_, hpoints.marked hlex⟩
        obtain ⟨_, _, _, habout⟩ := hpoints
        rw [hempty] at habout
        cases habout
  refine ⟨hquery, fun hempty => ?_, fun hne => ?_, fun hproblem => ?_, fun hproblem => ?_⟩
  · rcases hmarked with hfault | ⟨hne, -⟩
    · rw [hfault]
    · exact absurd hempty hne
  · rcases hmarked with hfault | ⟨-, offset, hposition, mark, hmark, hstands⟩
    · exact absurd (congrArg Fault.problem hfault) hne
    · have hmark' : mark ≠ "" := fun hempty => e.problem.not_mem_marks (hempty ▸ hmark)
      exact ⟨offset, hposition, hstands.isValid, hstands.lt_utf8ByteSize hmark', mark, hmark,
        hstands⟩
  · -- parentheses are not the lexer's business
    rcases hfault with hlex | ⟨ps, hlex, hcompile⟩
    · obtain ⟨-, hother | ⟨m, hother⟩⟩ := marked_of_lexFrom hlex <;> simp [hother] at hproblem
    · obtain ⟨offset, hposition, hlast⟩ := lastUnclosed_of_compile hcompile hproblem
      exact ⟨ps, offset, hlex, hposition, hlast⟩
  · rcases hfault with hlex | ⟨ps, hlex, hcompile⟩
    · obtain ⟨-, hother | ⟨m, hother⟩⟩ := marked_of_lexFrom hlex <;> simp [hother] at hproblem
    · obtain ⟨offset, hposition, hfirst⟩ := firstUnopened_of_compile hcompile hproblem
      exact ⟨ps, offset, hlex, hposition, hfirst⟩

/-- Behind a letter of two bytes, `(é (a) "(d" (b (c)`: the last parenthesis that is unclosed is
neither the first one nor the one of the last group. -/
theorem Parser.parse_error_points_nested_parentheses :
    let query := "(é (a) \"(d\" (b (c)"
    let e : Error := ⟨⟨.unclosedParen, some 13⟩, query⟩
    (({ defaultField := "body" } : Parser).parse query = .error e) ∧
      e.query = query ∧
        (e.problem = .emptyQuery → e.position = none) ∧
        (e.problem ≠ .emptyQuery → ∃ offset, e.position = some offset ∧
          (String.Pos.Raw.mk offset).IsValid query ∧ offset < query.utf8ByteSize ∧
          ∃ mark ∈ e.problem.marks, StandsAt query offset mark) ∧
        (e.problem = .unclosedParen → ∃ ps offset, lex query = .ok ps ∧
          e.position = some offset ∧ LastUnclosed ps offset) ∧
        (e.problem = .unexpectedCloseParen → ∃ ps offset, lex query = .ok ps ∧
          e.position = some offset ∧ FirstUnopened ps offset) := by
  intro query e
  have h : ({ defaultField := "body" } : Parser).parse query = .error e := by decide +kernel
  exact ⟨h, parse_error_points rfl h⟩

end TextQuery.Query
