import TextQuery.Proofs.Trees
import TextQuery.Proofs.Segmentation

/-!
# The leaves of a tree

Terms and phrases are neither lost nor reordered on their way from a lexeme into the tree:

* `Node.Collects` — what is collected from a tree child by child. Merging groups keeps it
  (`Collects.merge`), and so do the open groups (`Group.flatMap_tree?`, `Group.flatMap_addClause`).
* `Stack.leaves_step` — a lexeme adds its own leaves behind those of the open groups.
* `leaves_of_compile` — the leaves of a compiled tree are those of its lexemes, one after another.
* `compileWord_eq_compilePhrase` — a word without blanks is read like the same text in quotes.
* `Lexeme.flatMap_words_leaves`, `words_of_compile` — the words of a lexeme's leaves, and so of a
  compiled tree, are the texts of the tokens.
-/

namespace TextQuery.Query

open Text (isBlank)

namespace Node

/-- Whether a node has no children. -/
def isLeaf : Node → Bool
  | .term _ | .phrase _ => true
  | .and _ | .or _ | .not _ | .required _ => false

/-- The terms and phrases of the tree, from left to right. -/
def leaves (n : Node) : List Node := n.subtrees.filter isLeaf

/-- The words of a leaf. -/
def words : Node → List String
  | .term text => [text]
  | .phrase ws => ws
  | .and _ | .or _ | .not _ | .required _ => []

@[simp] theorem leaves_term (text : String) : (Node.term text).leaves = [.term text] := rfl

@[simp] theorem leaves_phrase (ws : List String) : (Node.phrase ws).leaves = [.phrase ws] := rfl

@[simp] theorem leaves_not (child : Node) : (Node.not child).leaves = child.leaves := rfl

@[simp] theorem leaves_required (child : Node) : (Node.required child).leaves = child.leaves := rfl

/-- A conjunction has the leaves of its children, from left to right. -/
@[simp] theorem leaves_and (children : List Node) :
    (Node.and children).leaves = children.flatMap leaves := by
  simp [leaves, subtrees, subtreesAll_eq_flatMap, isLeaf, List.filter_flatMap]
  rfl

/-- A disjunction has the leaves of its children, from left to right. -/
@[simp] theorem leaves_or (children : List Node) :
    (Node.or children).leaves = children.flatMap leaves := by
  simp [leaves, subtrees, subtreesAll_eq_flatMap, isLeaf, List.filter_flatMap]
  rfl

@[simp] theorem leaves_apply (m : Modifier) (n : Node) : (m.apply n).leaves = n.leaves := by
  cases m <;> rfl

/-- A property that groups and modifiers have anyway holds everywhere if the leaves have it. -/
theorem everywhere_iff_leaves {P : Node → Prop} (hP : ∀ n, n.isLeaf = false → P n) {n : Node} :
    n.Everywhere P ↔ ∀ leaf ∈ n.leaves, P leaf := by
  constructor
  · intro h leaf hleaf
    exact h leaf (List.mem_filter.1 hleaf).1
  · intro h m hm
    cases hl : m.isLeaf with
    | false => exact hP m hl
    | true => exact h m (List.mem_filter.2 ⟨hm, hl⟩)

/-- `f` collects something from a tree: from a group, what it collects from each child in turn. -/
structure Collects {α : Type} (f : Node → List α) : Prop where
  and : ∀ children, f (.and children) = children.flatMap f
  or : ∀ children, f (.or children) = children.flatMap f

/-- Merging groups keeps what is collected: a group collects from its children in order, and so the
parts of a node collect what the node does. -/
theorem Merges.flatMap_merge {α : Type} {f : Node → List α} {parts : Node → List Node}
    {group merge : List Node → Node} (h : Merges parts group merge)
    (hgroup : ∀ children, f (group children) = children.flatMap f) (ns : List Node) :
    f (merge ns) = ns.flatMap f := by
  -- a node that is split up is a group of its parts
  have hparts (n : Node) : (parts n).flatMap f = f n := by
    rcases h.parts_eq n with hself | hn
    · simp [hself]
    · rw [← hgroup, ← hn]
  have hflat : (ns.flatMap parts).flatMap f = ns.flatMap f := by
    rw [List.flatMap_assoc]
    simp only [hparts]
  by_cases hsingle : ∃ n, ns.flatMap parts = [n]
  · obtain ⟨n, hn⟩ := hsingle
    rw [h.merge_of_singleton hn, ← hflat, hn, List.flatMap_singleton]
  · rw [h.merge_of_ne_singleton (not_exists.1 hsingle), hgroup, hflat]

theorem Collects.allOf {α : Type} {f : Node → List α} (hf : Collects f) (ns : List Node) :
    f (allOf ns) = ns.flatMap f :=
  conjunctions.flatMap_merge hf.and ns

/-- Disjunction collects from its clauses in order, merged or not. -/
theorem Collects.anyOf {α : Type} {f : Node → List α} (hf : Collects f) (ns : List Node) :
    f (anyOf ns) = ns.flatMap f :=
  disjunctions.flatMap_merge hf.or ns

theorem collects_leaves : Collects leaves := ⟨leaves_and, leaves_or⟩

/-- A phrase is a leaf by itself, with its words, also where a single word makes it a term. -/
theorem leaves_of_phrase? {ws : List String} {n : Node} (h : phrase? ws = some n) :
    n.leaves = [n] ∧ n.words = ws := by
  match ws, h with
  | [w], h =>
    obtain rfl := Option.some.inj h
    exact ⟨rfl, rfl⟩
  | _ :: _ :: _, h =>
    obtain rfl := Option.some.inj h
    exact ⟨rfl, rfl⟩

theorem eq_nil_of_phrase? {ws : List String} (h : phrase? ws = none) : ws = [] := by
  unfold phrase? at h
  split at h
  · rfl
  · cases h
  · cases h

end Node

/-! ## Leaves in the open groups -/

/-- The leaves that a clause brings, none when it was dropped. -/
def clauseLeaves (c : Option Node) : List Node := c.toList.flatMap Node.leaves

@[simp] theorem clauseLeaves_none : clauseLeaves none = [] := rfl

@[simp] theorem clauseLeaves_some (n : Node) : clauseLeaves (some n) = n.leaves := by
  simp [clauseLeaves]

/-- The leaves that a lexeme brings. -/
def Lexeme.leaves : Lexeme → List Node
  | .word text => clauseLeaves (compileWord text)
  | .phrase content => clauseLeaves (compilePhrase content)
  | .operator _ | .modifier _ | .openParen | .closeParen => []

namespace Group

section
variable {α : Type} {f : Node → List α}

/-- Closing the conjunction of a group keeps what is collected. -/
theorem flatMap_finished (hf : Node.Collects f) (g : Group) :
    g.finished.flatMap f = (g.alternatives ++ g.chain).flatMap f := by
  by_cases hc : g.chain = []
  · simp [finished_of_chain_nil hc, hc]
  · simp [finished_of_chain_ne_nil hc, hf.allOf]

/-- The tree of a group has what the group holds. -/
theorem flatMap_tree? (hf : Node.Collects f) (g : Group) :
    g.tree?.toList.flatMap f = (g.alternatives ++ g.chain).flatMap f := by
  rw [← flatMap_finished hf]
  by_cases hne : g.finished = []
  · simp [tree?, hne]
  · rw [tree?_of_ne_nil hne, Option.toList_some, List.flatMap_singleton, hf.anyOf]

/-- A clause adds what is collected from it, modified as it is, behind all that the group holds. -/
theorem flatMap_addClause (hf : Node.Collects f) (g : Group) (c : Option Node) :
    ((g.addClause c).alternatives ++ (g.addClause c).chain).flatMap f =
      (g.alternatives ++ g.chain).flatMap f ++ c.toList.flatMap fun n => f (g.modify n) := by
  cases c with
  | none => simp
  | some n =>
    rw [addClause_some]
    cases g.continues with
    | true => simp
    | false =>
      have hfin := flatMap_finished hf g
      simp only [List.flatMap_append] at hfin
      simp [hfin]

end

/-- The leaves in the group, from left to right. -/
def leaves (g : Group) : List Node := (g.alternatives ++ g.chain).flatMap Node.leaves

theorem leaves_tree? (g : Group) : clauseLeaves g.tree? = g.leaves :=
  flatMap_tree? Node.collects_leaves g

/-- A clause adds its leaves behind those of the group, with whatever modifiers. -/
theorem leaves_addClause (g : Group) (c : Option Node) :
    (g.addClause c).leaves = g.leaves ++ clauseLeaves c := by
  have hmod (n : Node) : (g.modify n).leaves = n.leaves := by
    unfold modify
    split <;> simp
  unfold leaves clauseLeaves
  rw [flatMap_addClause Node.collects_leaves]
  simp only [hmod]

end Group

namespace Stack

/-- The leaves in all open groups, from left to right. -/
def leaves (s : Stack) : List Node := s.outer.reverse.flatMap Group.leaves ++ s.top.leaves

/-- A lexeme adds its leaves behind all others. -/
theorem leaves_step {s s' : Stack} {p : Placed} (h : s.Step p s') :
    s'.leaves = s.leaves ++ p.lexeme.leaves := by
  cases h with
  | word text offset => simp [leaves, Lexeme.leaves, Group.leaves_addClause]
  | phrase content offset n hn => simp [leaves, Lexeme.leaves, Group.leaves_addClause, hn]
  | modifier m offset hm => simp [leaves, Lexeme.leaves, Group.leaves]
  | and offset hm hj hc => simp [leaves, Lexeme.leaves, Group.leaves]
  | or offset hm hj hc =>
    have hfin := Group.flatMap_finished Node.collects_leaves s.top
    simpa [leaves, Lexeme.leaves, Group.leaves] using hfin
  | openParen offset => simp [leaves, Lexeme.leaves, Group.leaves]
  | closeParen offset parent outer hs hm hj hc =>
    simp [leaves, Lexeme.leaves, hs, Group.leaves_addClause, Group.leaves_tree?]

/-- A run adds the leaves of its lexemes in order. Induction on the lexemes, one step each. -/
theorem leaves_run {s s' : Stack} {ps : List Placed} (hrun : s.run ps = .ok s') :
    s'.leaves = s.leaves ++ (ps.map Placed.lexeme).flatMap Lexeme.leaves := by
  have hstep (t : Stack) (p : Placed) (t' : Stack) (ls : List Lexeme)
      (h : t.leaves = s.leaves ++ ls.flatMap Lexeme.leaves) (hst : t.Step p t') :
      t'.leaves = s.leaves ++ (ls ++ [p.lexeme]).flatMap Lexeme.leaves := by
    simp [leaves_step hst, h]
  have hstart : s.leaves = s.leaves ++ [].flatMap Lexeme.leaves := by simp
  have := run_invariant hstep hstart hrun
  simpa using this

end Stack

/-- The leaves of a compiled tree are those of its lexemes, one after another. -/
theorem leaves_of_compile {ps : List Placed} {n : Node} (h : compile ps = .ok n) :
    n.leaves = (ps.map Placed.lexeme).flatMap Lexeme.leaves := by
  obtain ⟨top, hrun, hclose⟩ := compile_eq_ok_iff.1 h
  obtain ⟨-, -, -, htree⟩ := Group.close_eq_ok_iff.1 hclose
  have hleaves := Stack.leaves_run hrun
  have htop := top.leaves_tree?
  rw [htree, clauseLeaves_some] at htop
  -- nothing is outside the outermost group, and there were no leaves to begin with
  simpa [htop, Stack.leaves, Group.leaves] using hleaves

/-! ## Leaves of a lexeme -/

/-- The leaves of a word are its compounds. -/
theorem leaves_compileWord (text : String) :
    clauseLeaves (compileWord text) =
      (compounds (tokens text)).filterMap fun c => Node.phrase? c.texts := by
  -- each compound is a leaf by itself
  have hself (cs : List Compound) :
      (cs.filterMap fun c => Node.phrase? c.texts).flatMap Node.leaves =
        cs.filterMap fun c => Node.phrase? c.texts := by
    refine Node.flatMap_eq_self fun n hn => ?_
    obtain ⟨c, -, hc⟩ := List.mem_filterMap.1 hn
    exact (Node.leaves_of_phrase? hc).1
  unfold compileWord
  split
  · next hnil => rw [hnil, clauseLeaves_none]
  · rw [clauseLeaves_some, Node.collects_leaves.anyOf, hself]

/-- A phrase is one leaf, or none if it has no token. -/
theorem leaves_compilePhrase (content : String) :
    clauseLeaves (compilePhrase content) =
      (Node.phrase? ((tokens content).map Token.text)).toList := by
  unfold compilePhrase
  cases h : Node.phrase? ((tokens content).map Token.text) with
  | none => rfl
  | some n => rw [clauseLeaves_some, (Node.leaves_of_phrase? h).1, Option.toList_some]

/-- A word without blanks is one compound, so it has the tree of a phrase. -/
theorem compileWord_eq_compilePhrase {text : String} (h : ∀ c ∈ text.toList, isBlank c = false) :
    compileWord text = compilePhrase text := by
  have hjoined := tokens_joined h
  unfold compileWord compilePhrase
  cases htokens : tokens text with
  | nil => simp [compounds, Node.phrase?]
  | cons t ts =>
    rw [htokens, List.tail_cons] at hjoined
    have htexts : Compound.texts ⟨t, ts⟩ = (t :: ts).map Token.text := rfl
    rw [compounds_cons_of_joined hjoined, List.filterMap_cons, htexts, List.filterMap_nil]
    cases hn : Node.phrase? ((t :: ts).map Token.text) with
    | none => rfl
    | some n => exact congrArg some (Node.disjunctions.merge_singleton (Node.canonical_of_phrase? hn))

theorem flatMap_tokens_compounds (ts : List Token) : (compounds ts).flatMap Compound.tokens = ts := by
  fun_induction compounds ts with
  | case1 => rfl
  | case2 t ts ih =>
    rw [List.flatMap_cons, ih, Compound.tokens, List.cons_append, List.takeWhile_append_dropWhile]

/-- The words of phrases are those that they were made of, since a phrase is left out only if it has
none. -/
theorem words_filterMap_phrase? {α : Type} (f : α → List String) (as : List α) :
    (as.filterMap fun a => Node.phrase? (f a)).flatMap Node.words = as.flatMap f := by
  induction as with
  | nil => rfl
  | cons a as ih =>
    rw [List.filterMap_cons, List.flatMap_cons, ← ih]
    cases h : Node.phrase? (f a) with
    | none => rw [Node.eq_nil_of_phrase? h, List.nil_append]
    | some n => rw [List.flatMap_cons, (Node.leaves_of_phrase? h).2]

/-- The texts of the tokens of a lexeme. -/
def Lexeme.texts : Lexeme → List String
  | .word text | .phrase text => (tokens text).map Token.text
  | .operator _ | .modifier _ | .openParen | .closeParen => []

/-- The words of a lexeme's leaves are the texts of its tokens. -/
theorem Lexeme.flatMap_words_leaves (l : Lexeme) : l.leaves.flatMap Node.words = l.texts := by
  cases l with
  | word text =>
    have hcompounds := congrArg (List.map Token.text) (flatMap_tokens_compounds (tokens text))
    rw [List.map_flatMap] at hcompounds
    rw [leaves, leaves_compileWord, words_filterMap_phrase?, texts, ← hcompounds]
    rfl
  | phrase content =>
    rw [leaves, leaves_compilePhrase, texts]
    cases h : Node.phrase? ((tokens content).map Token.text) with
    | none => simp [Node.eq_nil_of_phrase? h]
    | some n => simp [(Node.leaves_of_phrase? h).2]
  | _ => rfl

/-- The words of a compiled tree are the texts of the tokens of its lexemes. -/
theorem words_of_compile {ps : List Placed} {n : Node} (h : compile ps = .ok n) :
    n.leaves.flatMap Node.words = (ps.map Placed.lexeme).flatMap Lexeme.texts := by
  rw [leaves_of_compile h, List.flatMap_assoc]
  simp only [Lexeme.flatMap_words_leaves]

end TextQuery.Query
