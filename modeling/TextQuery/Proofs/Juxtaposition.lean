import TextQuery.Proofs.Grammar
import TextQuery.Proofs.Versions

/-!
# Clauses side by side

Clauses side by side are alternatives, as if there were an `OR` between them. The `OR` does one
thing that the missing one does not: it ends the conjunction in front of it at once. Without it the
conjunction ends only when the next clause is kept, so an `AND` behind a dropped clause still
reaches the conjunction in front of the place: `a ! AND b` is `a AND b`, but `a OR ! AND b` is
`a OR b`.

* `heldBefore`, `joinsNext` — the two sides of the place: the conjunction in front of it holds
  something, and what is kept next behind it is an operand of `AND`.
* `Stack.chain_ne_nil_iff` — `heldBefore` tells what the innermost group holds.
* `Sim` — what the two runs have in common behind the place: they are equal, or one group is cut in
  two in one of them (`Group.Split`), or its two versions differ for good (`Group.Apart`).
* `Sim.step`, `Sim.outcome` — each lexeme keeps `Sim`, so at the end both runs fail alike or both
  give a tree, and the trees are equal exactly when the groups never came apart.
* `verdict_insert_or_iff` — an `OR` changes what comes of the lexemes exactly when both sides are
  met and the lexemes have a tree.
-/

namespace TextQuery.Query

/-! ## The place between two clauses -/

/-- A clause ends with the lexeme. -/
def Lexeme.endsClause : Lexeme → Bool
  | .word _ | .phrase _ | .closeParen => true
  | .operator _ | .modifier _ | .openParen => false

/-- A clause starts with the lexeme. -/
def Lexeme.startsClause : Lexeme → Bool
  | .word _ | .phrase _ | .openParen | .modifier _ => true
  | .operator _ | .closeParen => false

/-- Read backwards, `depth` groups inside the one of the place: there is a token before the next
`OR` or opening parenthesis of that group, so its conjunction holds something. -/
def heldBefore : Nat → List Lexeme → Bool
  | _, [] => false
  | depth, l :: ls =>
    l.hasToken ||
      match depth, l with
      | 0, .operator .or | 0, .openParen => false
      | depth + 1, .openParen => heldBefore depth ls
      | depth, .closeParen => heldBefore (depth + 1) ls
      | depth, _ => heldBefore depth ls

/-- Read forwards, `depth` groups inside the one of the place: the first clause with a token, before
any `OR` of that group and before its end, has an `AND` in front of it. `joined` tells whether the
clause that is being read has one. -/
def joinsNext (joined : Bool) : Nat → List Lexeme → Bool
  | _, [] => false
  | depth, l :: ls =>
    if l.hasToken then joined
    else
      match depth, l with
      | 0, .operator .and => joinsNext true 0 ls
      | 0, .operator .or | 0, .closeParen => false
      | 0, .word _ | 0, .phrase _ => joinsNext false 0 ls
      | depth, .openParen => joinsNext joined (depth + 1) ls
      | 1, .closeParen => joinsNext false 0 ls
      | depth + 2, .closeParen => joinsNext joined (depth + 1) ls
      | depth, _ => joinsNext joined depth ls

theorem hasToken_of_compileWord (text : String) :
    (Lexeme.word text).hasToken = (compileWord text).isSome := by
  rw [Bool.eq_iff_iff, compileWord_isSome]
  simp [Lexeme.hasToken]

theorem hasToken_of_compilePhrase (content : String) :
    (Lexeme.phrase content).hasToken = (compilePhrase content).isSome := by
  rw [Bool.eq_iff_iff, compilePhrase_isSome]
  simp [Lexeme.hasToken]

/-! ## In front of the place -/

/-- In the group that is `depth` groups below the innermost one, the conjunction holds something, or
will when the groups inside it have ended. -/
def Stack.heldAt : Nat → Group → List Group → Prop
  | 0, g, _ => g.chain ≠ []
  | _ + 1, g, [] => g.finished ≠ []
  | depth + 1, g, parent :: outer => g.finished ≠ [] ∨ heldAt depth parent outer

theorem Group.chain_addClause_ne_nil (g : Group) (c : Option Node) :
    (g.addClause c).chain ≠ [] ↔ c.isSome ∨ g.chain ≠ [] := by
  cases c with
  | none => simp
  | some n =>
    rw [addClause_some]
    cases g.continues <;> simp

theorem Stack.heldAt_addClause (depth : Nat) (g : Group) (outer : List Group) (c : Option Node) :
    heldAt depth (g.addClause c) outer ↔ c.isSome ∨ heldAt depth g outer := by
  cases depth with
  | zero => exact g.chain_addClause_ne_nil c
  | succ depth =>
    cases outer with
    | nil => simp only [heldAt, Group.addClause_finished_ne_nil, or_comm]
    | cons parent outer =>
      simp only [heldAt, Group.addClause_finished_ne_nil]
      grind

theorem Stack.heldAt_congr {g g' : Group} (hfin : g'.finished = g.finished)
    (hchain : g'.chain = g.chain) (depth : Nat) (outer : List Group) :
    heldAt depth g' outer ↔ heldAt depth g outer := by
  cases depth with
  | zero => simp only [heldAt, hchain]
  | succ depth => cases outer <;> simp only [heldAt, hfin]

/-- Reading backwards tells what the open groups hold, also behind one more lexeme. One case for
each way to step: a clause adds to all groups, an operator ends the conjunction or not, and
parentheses change which group is which. -/
theorem Stack.heldAt_step {s s' : Stack} {p : Placed} {ls : List Lexeme} (hstep : s.Step p s')
    (h : ∀ depth ≤ s.outer.length, heldAt depth s.top s.outer ↔ heldBefore depth ls = true) :
    ∀ depth ≤ s'.outer.length,
      heldAt depth s'.top s'.outer ↔ heldBefore depth (p.lexeme :: ls) = true := by
  intro depth hdepth
  cases hstep with
  | word text offset =>
    show heldAt depth (s.top.addClause (compileWord text)) s.outer ↔
      heldBefore depth (.word text :: ls) = true
    have hsame : heldBefore depth (.word text :: ls) =
        ((Lexeme.word text).hasToken || heldBefore depth ls) := by
      cases depth <;> rfl
    rw [hsame, heldAt_addClause, h depth hdepth, hasToken_of_compileWord, Bool.or_eq_true]
  | phrase content offset n hn =>
    show heldAt depth (s.top.addClause (some n)) s.outer ↔
      heldBefore depth (.phrase content :: ls) = true
    have hsame : heldBefore depth (.phrase content :: ls) =
        ((Lexeme.phrase content).hasToken || heldBefore depth ls) := by
      cases depth <;> rfl
    rw [hsame, heldAt_addClause, hasToken_of_compilePhrase, hn]
    simp
  -- what waits for a clause holds nothing yet, so the groups keep what they held
  | modifier m offset hm =>
    show heldAt depth { s.top with modifier := some (m, offset) } s.outer ↔
      heldBefore depth (.modifier m :: ls) = true
    have hsame : heldBefore depth (.modifier m :: ls) = heldBefore depth ls := by
      cases depth <;> rfl
    rw [hsame, ← h depth hdepth]
    exact heldAt_congr (by rfl) (by rfl) depth s.outer
  | and offset hm hj hc =>
    show heldAt depth { s.top with joiner := some (.and, offset) } s.outer ↔
      heldBefore depth (.operator .and :: ls) = true
    have hsame : heldBefore depth (.operator .and :: ls) = heldBefore depth ls := by
      cases depth <;> rfl
    rw [hsame, ← h depth hdepth]
    exact heldAt_congr (by rfl) (by rfl) depth s.outer
  -- the conjunction is ended, but the group that is left for an outer one keeps all its parts
  | or offset hm hj hc =>
    show heldAt depth { s.top.flush with joiner := some (.or, offset) } s.outer ↔
      heldBefore depth (.operator .or :: ls) = true
    cases depth with
    | zero => simp [heldAt, heldBefore, Lexeme.hasToken]
    | succ depth =>
      have hsame : heldBefore (depth + 1) (.operator .or :: ls) = heldBefore (depth + 1) ls := rfl
      rw [hsame, ← h (depth + 1) hdepth]
      cases s.outer <;> rfl
  | openParen offset =>
    cases depth with
    | zero => simp [heldAt, heldBefore, Lexeme.hasToken]
    | succ depth =>
      show Group.finished { opened := some offset } ≠ [] ∨ heldAt depth s.top s.outer ↔
        heldBefore depth ls = true
      rw [← h depth (by simpa using hdepth)]
      simp [Group.finished]
  -- the closed group is a clause of its parent, which holds what either of them held
  | closeParen offset parent outer hs hm hj hc =>
    have hinner := h (depth + 1) (by simpa [hs] using hdepth)
    show heldAt depth (parent.addClause s.top.tree?) outer ↔ heldBefore depth (.closeParen :: ls) = true
    have hsame : heldBefore depth (.closeParen :: ls) = heldBefore (depth + 1) ls := by
      cases depth <;> rfl
    rw [hsame, ← hinner, hs, heldAt_addClause, heldAt, Group.tree?_isSome]

/-- The conjunction in front of the place holds something exactly when the lexemes say so. -/
theorem Stack.chain_ne_nil_iff {s : Stack} {ps : List Placed} (hrun : ({} : Stack).run ps = .ok s) :
    s.top.chain ≠ [] ↔ heldBefore 0 (ps.map Placed.lexeme).reverse = true := by
  let P (s : Stack) (ls : List Lexeme) : Prop :=
    ∀ depth ≤ s.outer.length, heldAt depth s.top s.outer ↔ heldBefore depth ls.reverse = true
  have hstart : P {} [] := by
    intro depth hdepth
    obtain rfl : depth = 0 := by simpa using hdepth
    simp [heldAt, heldBefore]
  have hstep (s : Stack) (p : Placed) (s' : Stack) (ls : List Lexeme) (h : P s ls)
      (hst : s.Step p s') : P s' (ls ++ [p.lexeme]) := by
    intro depth hdepth
    rw [List.reverse_append, List.reverse_singleton, List.singleton_append]
    exact heldAt_step hst h depth hdepth
  have := run_invariant (P := P) hstep hstart hrun 0 (Nat.zero_le _)
  simpa [heldAt] using this

/-! ## Inside a group -/

namespace Group

/-- Whether something in the group will reach the tree. -/
def holds (g : Group) : Bool := !g.finished.isEmpty

theorem holds_iff (g : Group) : g.holds = true ↔ g.finished ≠ [] := by
  simp [holds]

theorem holds_addClause (g : Group) (c : Option Node) :
    (g.addClause c).holds = (g.holds || c.isSome) := by
  rw [Bool.eq_iff_iff, holds_iff, addClause_finished_ne_nil, Bool.or_eq_true, holds_iff]

theorem isSome_tree? (g : Group) : g.tree?.isSome = g.holds := by
  rw [Bool.eq_iff_iff, holds_iff, tree?_isSome]

/-- The group holds something new exactly when the lexeme has a token. -/
theorem holds_of_read {g g' : Group} {p : Placed} (hopen : p.lexeme ≠ .openParen)
    (hclose : p.lexeme ≠ .closeParen) (h : g.read p = .ok g') :
    g'.holds = (g.holds || p.lexeme.hasToken) := by
  -- the group by itself is a stack, and reading the lexeme is a step of it
  have hstep : Stack.step ⟨g, []⟩ p = .ok ⟨g', []⟩ := by
    rw [Stack.step_eq_read _ hopen hclose, h]
    rfl
  have hholds := Stack.holds_step_iff (Stack.step_of_step_eq_ok hstep)
  rw [Bool.eq_iff_iff, Bool.or_eq_true, holds_iff, holds_iff]
  simpa [Stack.Holds] using hholds

end Group

theorem joinsNext_succ {l : Lexeme} (hopen : l ≠ .openParen) (hclose : l ≠ .closeParen)
    (joined : Bool) (depth : Nat) (ls : List Lexeme) :
    joinsNext joined (depth + 1) (l :: ls) =
      if l.hasToken then joined else joinsNext joined (depth + 1) ls := by
  cases l with
  | openParen => exact absurd rfl hopen
  | closeParen => exact absurd rfl hclose
  | _ => cases depth <;> rfl

theorem joinsNext_of_clause {l : Lexeme} {c : Option Node} (h : l.Clause c) (joined : Bool)
    (ls : List Lexeme) :
    joinsNext joined 0 (l :: ls) = if c.isSome then joined else joinsNext false 0 ls := by
  cases h with
  | word text =>
    rw [← hasToken_of_compileWord]
    rfl
  | @phrase content n hn =>
    have htoken : (Lexeme.phrase content).hasToken = true := by simp [hasToken_of_compilePhrase, hn]
    rw [joinsNext, if_pos htoken]
    rfl

namespace Stack

/-- The stack with the group `g` below the groups `inner`, which are inside it, and above
`outer`. -/
def nested : List Group → Group → List Group → Stack
  | [], g, outer => ⟨g, outer⟩
  | top :: inner, g, outer => ⟨top, inner ++ g :: outer⟩

/-- Whether the clause that will be kept next in the group below `inner` has an `AND` in front of
it. When a group inside holds something already, that is the clause. -/
def joins (joined : Bool) (inner : List Group) (ls : List Lexeme) : Bool :=
  if inner.any Group.holds then joined else joinsNext joined inner.length ls

/-- What a lexeme does inside a group does not depend on that group, until the group has the inside
as a clause. -/
theorem step_nested (top : Group) (inner outer : List Group) (p : Placed) :
    (∃ f, ∀ g, (nested (top :: inner) g outer).step p = .error f) ∨
    (∃ top' inner', (∀ g, (nested (top :: inner) g outer).step p =
        .ok (nested (top' :: inner') g outer)) ∧
      ∀ joined ls, joins joined (top :: inner) (p.lexeme :: ls) = joins joined (top' :: inner') ls) ∨
    (∀ g, (nested (top :: inner) g outer).step p = .ok (nested [] (g.addClause top.tree?) outer)) ∧
      ∀ joined ls, joins joined (top :: inner) (p.lexeme :: ls) =
        if top.tree?.isSome then joined else joinsNext false 0 ls := by
  by_cases hopen : p.lexeme = .openParen
  · refine .inr (.inl ⟨{ opened := some p.offset }, top :: inner, fun g => ?_, fun joined ls => ?_⟩)
    · simp only [nested, step, hopen]
      rfl
    · have hnew : Group.holds { opened := some p.offset } = false := rfl
      simp only [joins, hopen, List.any_cons, hnew, Bool.false_or]
      rfl
  by_cases hclose : p.lexeme = .closeParen
  · cases htop : top.close with
    | error f =>
      refine .inl ⟨f, fun g => ?_⟩
      cases inner <;> simp [nested, step, hclose, htop, Except.map]
    | ok c =>
      obtain ⟨-, -, -, rfl⟩ := Group.close_eq_ok_iff.1 htop
      cases inner with
      | nil =>
        refine .inr (.inr ⟨fun g => ?_, fun joined ls => ?_⟩)
        · simp [nested, step, hclose, htop, Except.map]
        · simp only [joins, hclose, List.any_cons, List.any_nil, Bool.or_false, Group.isSome_tree?]
          rfl
      | cons parent inner =>
        refine .inr (.inl ⟨parent.addClause top.tree?, inner, fun g => ?_, fun joined ls => ?_⟩)
        · simp [nested, step, hclose, htop, Except.map]
        · simp only [joins, hclose, List.any_cons, Group.holds_addClause, Group.isSome_tree?,
            Bool.or_comm top.holds, Bool.or_right_comm]
          rfl
  -- any other lexeme is read by the innermost group
  have hstep (g : Group) : (nested (top :: inner) g outer).step p =
      (top.read p).map fun top' => nested (top' :: inner) g outer :=
    step_eq_read _ hopen hclose
  cases hread : top.read p with
  | error f =>
    refine .inl ⟨f, fun g => ?_⟩
    rw [hstep, hread]
    rfl
  | ok top' =>
    refine .inr (.inl ⟨top', inner, fun g => ?_, fun joined ls => ?_⟩)
    · rw [hstep, hread]
      rfl
    · rw [joins, joins, List.any_cons, List.any_cons, Group.holds_of_read hopen hclose hread,
        List.length_cons, List.length_cons, joinsNext_succ hopen hclose]
      cases top.holds <;> cases p.lexeme.hasToken <;> cases inner.any Group.holds <;> rfl

end Stack

/-! ## Two runs behind the place -/

/-- How two runs that are about to read `ls` are related, and whether their trees will `differ`:
they are equal, or one group is cut in two and the conjunction in front of the cut is or is not
continued, or the group's two versions differ for good. -/
inductive Sim (differ : Bool) (ls : List Lexeme) : Stack → Stack → Prop where
  | same (s : Stack) (hdiffer : differ = false) : Sim differ ls s s
  | split (inner : List Group) {g g' : Group} (outer : List Group) {joined : Bool}
      (h : g.Split joined g')
      (hwait : g'.joiner = g.joiner ∨ inner ≠ [] ∨ g.modifier ≠ none ∨
        ∃ l ∈ ls.head?, l.startsClause = true)
      (hdiffer : differ = (!g.chain.isEmpty && Stack.joins joined inner ls)) :
      Sim differ ls (Stack.nested inner g outer) (Stack.nested inner g' outer)
  | apart (inner : List Group) {g g' : Group} (outer : List Group) (h : g.Apart g')
      (hdiffer : differ = true) :
      Sim differ ls (Stack.nested inner g outer) (Stack.nested inner g' outer)

namespace Sim

variable {differ : Bool} {ls : List Lexeme}

/-- A clause for both versions of a group that is cut in two. A dropped one changes nothing, one
that starts a conjunction makes the versions equal, and one that goes on with it sets them apart for
good. -/
theorem of_addClause {joined : Bool} {g g' : Group} (h : g.Split joined g') (hg : g.Canonical)
    {c : Option Node} (hc : ∀ n ∈ c, n.Canonical) (outer : List Group)
    (hdiffer : differ = (!g.chain.isEmpty && if c.isSome then joined else joinsNext false 0 ls)) :
    Sim differ ls ⟨g.addClause c, outer⟩ ⟨g'.addClause c, outer⟩ := by
  cases c with
  | none => exact .split [] outer h.addClause_none (.inl rfl) hdiffer
  | some n =>
    -- the versions come apart exactly when there is a conjunction and the clause continues it
    by_cases hcut : joined = false ∨ g.chain = []
    · rw [h.addClause_some_eq hcut]
      refine .same _ ?_
      rcases hcut with rfl | hnil
      · simpa using hdiffer
      · simpa [hnil] using hdiffer
    · rw [not_or, Bool.not_eq_false] at hcut
      obtain ⟨rfl, hne⟩ := hcut
      refine .apart [] outer (h.addClause_some_apart hg hne (hc n rfl)) ?_
      rw [hdiffer]
      simpa using hne

/-- The group that is cut in two reads a lexeme itself. The cases are those in which a group can
read one; `AND` and a modifier leave it cut in two, and `OR` ends the conjunction in both versions.
-/
theorem read_split {joined : Bool} {g g' : Group} {p : Placed} (h : g.Split joined g')
    (hg : g.Canonical) (outer : List Group) (hopen : p.lexeme ≠ .openParen)
    (hclose : p.lexeme ≠ .closeParen)
    (hwait : g'.joiner = g.joiner ∨ g.modifier ≠ none ∨ p.lexeme.startsClause = true)
    (hdiffer : differ = (!g.chain.isEmpty && joinsNext joined 0 (p.lexeme :: ls))) :
    Agree Eq (fun a b => Sim differ ls ⟨a, outer⟩ ⟨b, outer⟩) (g.read p) (g'.read p) := by
  refine Group.agree_read hopen hclose h.modifier ?after ?clause ?modifier ?and ?or
  case after =>
    intro op hop hm
    -- no clause is waited for, so the inserted operator is used up
    have hjoiner : g'.joiner = g.joiner := by
      rcases hwait with hj | hmod | hstart
      · exact hj
      · exact absurd hm hmod
      · rw [hop] at hstart
        cases hstart
    unfold Group.afterClause
    rw [h.hasClause, hjoiner]
  case clause =>
    intro c hc
    refine of_addClause h hg hc.canonical outer ?_
    rw [hdiffer, joinsNext_of_clause hc]
  case modifier =>
    intro m hlex
    have hsplit : Group.Split joined { g with modifier := some (m, p.offset) }
        { g' with modifier := some (m, p.offset) } := { h with modifier := rfl }
    rw [hlex] at hdiffer
    exact .split [] outer hsplit (.inr (.inr (.inl (by simp)))) hdiffer
  case and =>
    intro hlex
    rw [hlex] at hdiffer
    exact .split [] outer { h with continues := rfl, joiner := .inl rfl } (.inl rfl) hdiffer
  case or =>
    intro hlex
    -- the conjunction ends in both versions, behind which they are equal
    have heq : ({ g'.flush with joiner := some (.or, p.offset) } : Group) =
        { g.flush with joiner := some (.or, p.offset) } := by
      simp [Group.flush, h.finished, h.opened, h.modifier, h.hasClause]
    rw [heq]
    refine .same _ ?_
    simpa [hlex, joinsNext, Lexeme.hasToken] using hdiffer

/-- The group that is cut in two is the innermost one. A parenthesis opens a group inside it or
closes it, with the same tree in both versions; any other lexeme it reads itself. -/
theorem step_split {joined : Bool} {g g' : Group} {p : Placed} (h : g.Split joined g')
    {outer : List Group} (hg : g.Canonical)
    (hwait : g'.joiner = g.joiner ∨ g.modifier ≠ none ∨ p.lexeme.startsClause = true)
    (hdiffer : differ = (!g.chain.isEmpty && joinsNext joined 0 (p.lexeme :: ls))) :
    Agree Eq (Sim differ ls) (Stack.step ⟨g, outer⟩ p) (Stack.step ⟨g', outer⟩ p) := by
  by_cases hopen : p.lexeme = .openParen
  · simp only [Stack.step, hopen]
    refine .result (.split [{ opened := some p.offset }] outer h (.inr (.inl (by simp))) ?_)
    rw [hdiffer, hopen]
    rfl
  by_cases hclose : p.lexeme = .closeParen
  · -- the group ends alike in both versions
    have hend : g'.close = g.close := by
      refine h.close_eq ?_
      rcases hwait with hj | hmod | hstart
      · exact .inl hj
      · exact .inr hmod
      · rw [hclose] at hstart
        cases hstart
    have hsame : differ = false := by
      rw [hdiffer, hclose]
      simp [joinsNext, Lexeme.hasToken]
    simp only [Stack.step, hclose, hend]
    cases outer with
    | nil => exact .fault rfl
    | cons parent outer => exact Agree.of_eq (fun _ => rfl) (fun t => .same t hsame) _
  · rw [Stack.step_eq_read _ hopen hclose, Stack.step_eq_read _ hopen hclose]
    exact (read_split h hg outer hopen hclose hwait hdiffer).map fun _ _ hsim => hsim

/-- The group whose versions are apart is the innermost one. When it is closed, the two trees are
different clauses of the group around it, whose versions are then apart. -/
theorem step_apart {g g' : Group} (h : g.Apart g') {outer : List Group} (p : Placed)
    (hc : Stack.Canonical ⟨g, outer⟩) (hc' : Stack.Canonical ⟨g', outer⟩) (hdiffer : differ = true) :
    Agree Eq (Sim differ ls) (Stack.step ⟨g, outer⟩ p) (Stack.step ⟨g', outer⟩ p) := by
  by_cases hopen : p.lexeme = .openParen
  · simp only [Stack.step, hopen]
    exact .result (.apart [{ opened := some p.offset }] outer h hdiffer)
  by_cases hclose : p.lexeme = .closeParen
  · simp only [Stack.step, hclose]
    cases outer with
    | nil => exact .fault rfl
    | cons parent outer =>
      -- the different trees are different clauses of the parent
      obtain ⟨n, n', hn, hn', hne⟩ := h.exists_trees
      have hcn : n.Canonical := (hc g (by simp)).tree? n hn
      have hcn' : n'.Canonical := (hc' g' (by simp)).tree? n' hn'
      refine h.close.map fun c c' hcc => ?_
      obtain ⟨rfl, rfl⟩ := hcc
      rw [hn, hn']
      exact .apart [] outer (Group.apart_addClause (hc parent (by simp)) hcn hcn' hne) hdiffer
  · rw [Stack.step_eq_read _ hopen hclose, Stack.step_eq_read _ hopen hclose]
    exact (h.read hopen hclose).map fun _ _ hapart => .apart [] outer hapart hdiffer

/-- Each lexeme keeps the two runs related. While they are equal they stay equal. Otherwise the
group that differs is the innermost one, or the lexeme is read in a group inside it. -/
theorem step {s s' : Stack} {p : Placed} (h : Sim differ (p.lexeme :: ls) s s')
    (hc : s.Canonical) (hc' : s'.Canonical) : Agree Eq (Sim differ ls) (s.step p) (s'.step p) := by
  cases h with
  | same s hdiffer => exact Agree.of_eq (fun _ => rfl) (fun t => .same t hdiffer) _
  | @split inner g g' outer joined h hwait hdiffer =>
    cases inner with
    | nil =>
      refine step_split h (hc g (by simp [Stack.nested])) ?_ hdiffer
      simpa using hwait
    | cons top inner =>
      -- the lexeme is read inside the group, which notices it only as a clause
      rcases Stack.step_nested top inner outer p with ⟨f, hf⟩ | ⟨top', inner', hok, hj⟩ | ⟨hok, hj⟩
      · rw [hf, hf]
        exact .fault rfl
      · -- the group inside goes on
        rw [hok, hok]
        exact .result (.split (top' :: inner') outer h (.inr (.inl (by simp))) (by rw [hdiffer, hj]))
      · rw [hok, hok]
        have htop : top.Canonical := hc top (by simp [Stack.nested])
        have hg : g.Canonical := hc g (by simp [Stack.nested])
        exact .result (of_addClause h hg htop.tree? outer (by rw [hdiffer, hj]))
  | @apart inner g g' outer h hdiffer =>
    cases inner with
    | nil => exact step_apart h p hc hc' hdiffer
    | cons top inner =>
      rcases Stack.step_nested top inner outer p with ⟨f, hf⟩ | ⟨top', inner', hok, -⟩ | ⟨hok, -⟩
      · rw [hf, hf]
        exact .fault rfl
      · rw [hok, hok]
        exact .result (.apart (top' :: inner') outer h hdiffer)
      · rw [hok, hok]
        have htop : top.Canonical := hc top (by simp [Stack.nested])
        exact .result (.apart [] outer (h.addClause htop.tree?) hdiffer)

/-- At the end both runs fail alike, or both give a tree, and these are different if the versions
came apart. A group that is still cut in two has the same tree in both. -/
theorem finish {s s' : Stack} (h : Sim differ [] s s') :
    Agree Eq (fun n m => m = n ↔ differ = false) s.finish s'.finish := by
  cases h with
  | same s hdiffer => exact Agree.of_eq (fun _ => rfl) (fun n => by simp [hdiffer]) _
  | @split inner g g' outer joined h hwait hdiffer =>
    cases inner with
    | cons top inner => cases inner <;> exact .fault rfl
    | nil =>
      cases outer with
      | cons parent outer =>
        simp only [Stack.nested, Stack.finish, h.opened]
        exact .fault rfl
      | nil =>
        have hend : g'.close = g.close := h.close_eq (by simpa using hwait)
        have hsame : differ = false := by simpa [Stack.joins, joinsNext] using hdiffer
        simp only [Stack.nested, Stack.finish, hend]
        exact Agree.of_eq (fun _ => rfl) (fun n => by simp [hsame]) _
  | @apart inner g g' outer h hdiffer =>
    cases inner with
    | cons top inner => cases inner <;> exact .fault rfl
    | nil =>
      cases outer with
      | cons parent outer =>
        simp only [Stack.nested, Stack.finish, h.opened]
        exact .fault rfl
      | nil =>
        obtain ⟨n, n', hn, hn', hne⟩ := h.exists_trees
        have hclose := h.close
        simp only [Stack.nested, Stack.finish]
        generalize g.close = x at hclose ⊢
        generalize g'.close = y at hclose ⊢
        cases hclose with
        | fault he => exact .fault he
        | result hcc =>
          obtain ⟨rfl, rfl⟩ := hcc
          rw [hn, hn']
          exact .result (by simp [hdiffer, Ne.symm hne])

/-- Two related runs fail alike, or both give a tree, and the trees are equal exactly when `differ`
says so. -/
theorem outcome {s s' : Stack} {ps : List Placed} (h : Sim differ (ps.map Placed.lexeme) s s')
    (hc : s.Canonical) (hc' : s'.Canonical) :
    Agree Eq (fun n m => m = n ↔ differ = false) (s.outcome ps) (s'.outcome ps) := by
  let Q (ps : List Placed) (s s' : Stack) : Prop :=
    Sim differ (ps.map Placed.lexeme) s s' ∧ s.Canonical ∧ s'.Canonical
  have hstep (p : Placed) (ps : List Placed) (s s' : Stack) (h : Q (p :: ps) s s') :
      Agree Eq (Q ps) (s.step p) (s'.step (id p)) := by
    obtain ⟨hsim, hc, hc'⟩ := h
    exact (hsim.step hc hc').and (fun t ht => hc.step (Stack.step_of_step_eq_ok ht))
      (fun t ht => hc'.step (Stack.step_of_step_eq_ok ht))
  have hagree := Stack.agree_outcome hstep (fun s s' h => h.1.finish) ⟨h, hc, hc'⟩
  rwa [List.map_id] at hagree

end Sim

/-! ## An `OR` between clauses -/

/-- A run that ends with a clause leaves the innermost group settled. -/
theorem Stack.settled_of_run {s s' : Stack} {ps : List Placed} {p : Placed}
    (hend : p.lexeme.endsClause = true) (h : s.run (ps ++ [p]) = .ok s') : s'.top.Settled := by
  rw [run_append] at h
  split at h
  · next t ht =>
    obtain ⟨u, hstep, hu⟩ := run_cons_eq_ok_iff.1 h
    obtain rfl := Except.ok.inj hu
    cases hstep with
    | word text offset => exact Group.settled_addClause _ _
    | phrase content offset n hn => exact Group.settled_addClause _ _
    | closeParen offset parent outer hs hm hj hc => exact Group.settled_addClause _ _
    | modifier m offset hm => cases hend
    | and offset hm hj hc => cases hend
    | or offset hm hj hc => cases hend
    | openParen offset => cases hend
  · cases h

/-- An `OR` cuts the group of the place in two. -/
theorem Group.Settled.split {g : Group} (h : g.Settled) (offset : Nat) :
    g.Split false { g.flush with joiner := some (.or, offset) } where
  opened := rfl
  modifier := rfl
  hasClause := rfl
  chain := rfl
  alternatives := rfl
  continues := by simp [Group.continues, h.joiner]
  joiner := .inr ⟨h.joiner, offset, rfl⟩

/-- What comes of the lexemes behind a place, without and with an `OR` there. -/
theorem outcome_insert_or {s : Stack} (hs : s.top.Settled) (hc : s.Canonical) {right : Lexeme}
    (hright : right.startsClause = true) (after : List Lexeme) :
    Agree Eq (fun n m => m = n ↔ (!s.top.chain.isEmpty && joinsNext false 0 (right :: after)) = false)
      (s.outcome (unplaced (right :: after)))
      (s.outcome (unplaced (.operator .or :: right :: after))) := by
  have hor : s.Step ⟨.operator .or, 0⟩ { s with top := { s.top.flush with joiner := some (.or, 0) } } :=
    .or 0 hs.modifier hs.joiner hs.hasClause
  have hsim : Sim (!s.top.chain.isEmpty && joinsNext false 0 (right :: after))
      ((unplaced (right :: after)).map Placed.lexeme) s
      { s with top := { s.top.flush with joiner := some (.or, 0) } } := by
    rw [map_lexeme_unplaced]
    exact .split [] s.outer (hs.split 0) (.inr (.inr (.inr ⟨right, rfl, hright⟩))) rfl
  rw [unplaced_cons (.operator .or), Stack.outcome_cons, hor.step_eq_ok]
  exact hsim.outcome hc (hc.step hor)

/-- **Where an `OR` between clauses matters.** Between a lexeme that ends a clause and one that
starts one, an `OR` changes what comes of the lexemes exactly when they have a tree, the conjunction
in front of the place holds a token, and the next clause with a token behind the place is joined by
`AND`: then a dropped clause stands between, and only the `OR` keeps the two conjunctions apart. -/
theorem verdict_insert_or_iff (before after : List Lexeme) {left right : Lexeme}
    (hleft : left.endsClause = true) (hright : right.startsClause = true) {ps ps' : List Placed}
    (hps : ps.map Placed.lexeme = before ++ left :: right :: after)
    (hps' : ps'.map Placed.lexeme = before ++ left :: .operator .or :: right :: after) :
    verdict ps' = verdict ps ↔
      ¬ (heldBefore 0 (left :: before.reverse) = true ∧ joinsNext false 0 (right :: after) = true) ∨
        ∃ problem, verdict ps = .error problem := by
  rw [← verdict_unplaced ps, ← verdict_unplaced ps', hps, hps']
  have hsplit (ls : List Lexeme) : unplaced (before ++ left :: ls) =
      unplaced (before ++ [left]) ++ unplaced ls := by simp
  have hverdict (ls : List Lexeme) : verdict (unplaced (before ++ left :: ls)) =
      (({} : Stack).outcome (unplaced (before ++ [left]) ++ unplaced ls)).mapError Fault.problem := by
    rw [← hsplit]
    rfl
  rw [hverdict, hverdict, Stack.outcome_append, Stack.outcome_append]
  -- up to the place the two runs are one
  cases hrun : ({} : Stack).run (unplaced (before ++ [left])) with
  | error f => simp
  | ok s =>
    have hheld : heldBefore 0 (left :: before.reverse) = !s.top.chain.isEmpty := by
      have := Stack.chain_ne_nil_iff hrun
      rw [map_lexeme_unplaced, List.reverse_append, List.reverse_singleton,
        List.singleton_append] at this
      rw [Bool.eq_iff_iff, ← this]
      simp
    have hsettled : s.top.Settled := by
      rw [unplaced_append] at hrun
      exact Stack.settled_of_run hleft hrun
    have hcanon : s.Canonical := by
      have hstart : ({} : Stack).Canonical := by simp [Stack.Canonical, Group.Canonical]
      exact hstart.run hrun
    have hagree := outcome_insert_or hsettled hcanon hright after
    rw [← hheld] at hagree
    simp only
    generalize s.outcome (unplaced (right :: after)) = x at hagree ⊢
    generalize s.outcome (unplaced (.operator .or :: right :: after)) = y at hagree ⊢
    cases hagree with
    | fault he => simp [he]
    | result h => simpa using h

/-- `x (a ! AND b)`: the place lies between `a` and the dropped clause `!`, in a group of its
own. -/
theorem verdict_insert_or_before_dropped :
    let before : List Lexeme := [.word "x", .openParen]
    let after : List Lexeme := [.operator .and, .word "b", .closeParen]
    let ps := unplaced (before ++ .word "a" :: .word "!" :: after)
    let ps' := unplaced (before ++ .word "a" :: .operator .or :: .word "!" :: after)
    (Lexeme.word "a").endsClause = true ∧ (Lexeme.word "!").startsClause = true ∧
      (verdict ps' = verdict ps ↔
        ¬ (heldBefore 0 (.word "a" :: before.reverse) = true ∧
          joinsNext false 0 (.word "!" :: after) = true) ∨
        ∃ problem, verdict ps = .error problem) :=
  ⟨rfl, rfl, verdict_insert_or_iff [.word "x", .openParen] [.operator .and, .word "b", .closeParen]
    rfl rfl (map_lexeme_unplaced _) (map_lexeme_unplaced _)⟩

/-- Clauses side by side are not alternatives everywhere: `a ! AND b` is a conjunction, and with an
`OR` behind `a` it is a disjunction. -/
theorem not_forall_verdict_insert_or :
    ¬ ∀ (before after : List Lexeme) (left right : Lexeme), left.endsClause = true →
      right.startsClause = true →
      verdict (unplaced (before ++ left :: .operator .or :: right :: after)) =
        verdict (unplaced (before ++ left :: right :: after)) := by
  intro h
  have heq := h [] [.operator .and, .word "b"] (.word "a") (.word "!") rfl rfl
  have hor : (verdict (unplaced [.word "a", .operator .or, .word "!", .operator .and,
      .word "b"])).toOption = some (.or [.term "a", .term "b"]) := by
    decide +kernel
  have hand : (verdict (unplaced [.word "a", .word "!", .operator .and, .word "b"])).toOption =
      some (.and [.term "a", .term "b"]) := by
    decide +kernel
  rw [List.nil_append, List.nil_append] at heq
  rw [heq, hand] at hor
  cases hor

end TextQuery.Query
