import TextQuery.Proofs.Groups

/-!
# The shape of query trees

Induction over trees, properties that hold at every node, and the canonical form that the
constructors `Node.phrase?`, `Node.allOf` and `Node.anyOf` keep:

* `Node.childInduction` — induction with a hypothesis for each child.
* `Node.Everywhere` — a property of every subtree; it can be decided where the property can.
* `Node.Canonical` — no group of fewer than two, no conjunction in a conjunction, no plain
  disjunction in a disjunction, no phrase of fewer than two words.
* `Node.Merges` — what making a conjunction and making a disjunction have in common
  (`Node.conjunctions`, `Node.disjunctions`). Merging canonical nodes gives a canonical node
  (`Merges.canonical_merge`) and tells them apart (`Merges.eq_of_merge_eq`).
* `canonical_of_compile` — every compiled tree is canonical, since every node in every open group
  is.
-/

namespace TextQuery.Query

namespace Node

/-- Nodes that each stand for themselves are left as they are. -/
theorem flatMap_eq_self {f : Node → List Node} {ns : List Node} (h : ∀ n ∈ ns, f n = [n]) :
    ns.flatMap f = ns := by
  induction ns with
  | nil => rfl
  | cons n ns ih =>
    rw [List.flatMap_cons, h n (by simp), ih fun m hm => h m (by simp [hm])]
    rfl

/-- Induction over trees with a hypothesis for each child of a group. The recursor of the type would
ask for a second motive, over lists of nodes. -/
@[elab_as_elim]
theorem childInduction {motive : Node → Prop}
    (term : ∀ text, motive (.term text))
    (phrase : ∀ words, motive (.phrase words))
    (and : ∀ children, (∀ c ∈ children, motive c) → motive (.and children))
    (or : ∀ children, (∀ c ∈ children, motive c) → motive (.or children))
    (not : ∀ child, motive child → motive (.not child))
    (required : ∀ child, motive child → motive (.required child)) :
    ∀ n, motive n
  | .term text => term text
  | .phrase words => phrase words
  | .and children =>
    and children fun c _ => childInduction term phrase and or not required c
  | .or children =>
    or children fun c _ => childInduction term phrase and or not required c
  | .not child => not child (childInduction term phrase and or not required child)
  | .required child => required child (childInduction term phrase and or not required child)

/-! ## Equality is decidable -/

mutual
/-- Trees that compare as equal are equal. Mutual recursion with the lists of children. -/
theorem eq_of_node_beq : ∀ {a b : Node}, a.beq b = true → a = b
  | .term _, .term _, h => congrArg Node.term (eq_of_beq h)
  | .phrase _, .phrase _, h => congrArg Node.phrase (eq_of_beq h)
  | .and _, .and _, h => congrArg Node.and (eq_of_beqAll h)
  | .or _, .or _, h => congrArg Node.or (eq_of_beqAll h)
  | .not _, .not _, h => congrArg Node.not (eq_of_node_beq h)
  | .required _, .required _, h => congrArg Node.required (eq_of_node_beq h)

/-- Lists of trees that compare as equal are equal. -/
theorem eq_of_beqAll : ∀ {as bs : List Node}, beqAll as bs = true → as = bs
  | [], [], _ => rfl
  | a :: as, b :: bs, h => by
    simp only [beqAll, Bool.and_eq_true] at h
    rw [eq_of_node_beq h.1, eq_of_beqAll h.2]
end

mutual
/-- A tree compares as equal to itself. -/
theorem node_beq_self : ∀ a : Node, a.beq a = true
  | .term _ => beq_self_eq_true _
  | .phrase _ => beq_self_eq_true _
  | .and children => beqAll_self children
  | .or children => beqAll_self children
  | .not child => node_beq_self child
  | .required child => node_beq_self child

/-- A list of trees compares as equal to itself. -/
theorem beqAll_self : ∀ as : List Node, beqAll as as = true
  | [] => rfl
  | a :: as => by
    simp only [beqAll, Bool.and_eq_true]
    exact ⟨node_beq_self a, beqAll_self as⟩
end

instance : DecidableEq Node := fun a b =>
  decidable_of_iff (a.beq b = true) ⟨eq_of_node_beq, fun h => h ▸ node_beq_self a⟩

/-- Results are compared through their trees: faults need no comparison. -/
theorem eq_ok_of_toOption {ε α : Type} {x : Except ε α} {n : α} (h : x.toOption = some n) :
    x = .ok n := by
  cases x with
  | error e => cases h
  | ok m => exact congrArg Except.ok (Option.some.inj h)

/-! ## Properties of every node -/

mutual
/-- The node itself and all nodes below it. -/
def subtrees : Node → List Node
  | .term text => [.term text]
  | .phrase words => [.phrase words]
  | .and children => .and children :: subtreesAll children
  | .or children => .or children :: subtreesAll children
  | .not child => .not child :: child.subtrees
  | .required child => .required child :: child.subtrees

/-- The subtrees of the nodes in turn. -/
def subtreesAll : List Node → List Node
  | [] => []
  | n :: ns => n.subtrees ++ subtreesAll ns
end

/-- The nodes below a list of trees are those of each tree in turn. -/
theorem subtreesAll_eq_flatMap (ns : List Node) : subtreesAll ns = ns.flatMap subtrees := by
  induction ns with
  | nil => rfl
  | cons n ns ih => simp [subtreesAll, ih]

/-- The property holds of the node and of every node below it. -/
def Everywhere (P : Node → Prop) (n : Node) : Prop := ∀ m ∈ n.subtrees, P m

instance (P : Node → Prop) [DecidablePred P] (n : Node) : Decidable (n.Everywhere P) :=
  inferInstanceAs (Decidable (∀ m ∈ n.subtrees, P m))

section
variable {P : Node → Prop}

@[simp] theorem everywhere_term {text : String} :
    (Node.term text).Everywhere P ↔ P (.term text) := by
  simp [Everywhere, subtrees]

@[simp] theorem everywhere_phrase {words : List String} :
    (Node.phrase words).Everywhere P ↔ P (.phrase words) := by
  simp [Everywhere, subtrees]

@[simp] theorem everywhere_and {children : List Node} :
    (Node.and children).Everywhere P ↔ P (.and children) ∧ ∀ c ∈ children, c.Everywhere P := by
  simp only [Everywhere, subtrees, subtreesAll_eq_flatMap, List.forall_mem_cons, List.mem_flatMap]
  grind

@[simp] theorem everywhere_or {children : List Node} :
    (Node.or children).Everywhere P ↔ P (.or children) ∧ ∀ c ∈ children, c.Everywhere P := by
  simp only [Everywhere, subtrees, subtreesAll_eq_flatMap, List.forall_mem_cons, List.mem_flatMap]
  grind

@[simp] theorem everywhere_not {child : Node} :
    (Node.not child).Everywhere P ↔ P (.not child) ∧ child.Everywhere P := by
  simp [Everywhere, subtrees]

@[simp] theorem everywhere_required {child : Node} :
    (Node.required child).Everywhere P ↔ P (.required child) ∧ child.Everywhere P := by
  simp [Everywhere, subtrees]

/-- What holds of every node of a tree holds of its root. -/
theorem Everywhere.self {n : Node} (h : n.Everywhere P) : P n := by
  apply h
  cases n <;> simp [subtrees]

end

/-! ## Canonical form -/

/-- A group has two children or more and none that could be merged into it; a phrase has two words
or more. -/
def CanonicalAt : Node → Prop
  | .phrase words => 2 ≤ words.length
  | .and children => 2 ≤ children.length ∧ ∀ inner, .and inner ∉ children
  | .or children =>
    2 ≤ children.length ∧ ∀ inner, .or inner ∈ children → ∃ c ∈ inner, c.isModified = true
  | .term _ | .not _ | .required _ => True

/-- The tree is in canonical form. -/
def Canonical (n : Node) : Prop := n.Everywhere CanonicalAt

theorem canonical_term (text : String) : (Node.term text).Canonical := by
  simp [Canonical, CanonicalAt]

/-- A phrase of two words or more is in canonical form, and one of a single word is a term. -/
theorem canonical_of_phrase? {words : List String} {n : Node} (h : phrase? words = some n) :
    n.Canonical := by
  match words, h with
  | [word], h =>
    obtain rfl := Option.some.inj h
    exact canonical_term word
  | _ :: _ :: _, h =>
    obtain rfl := Option.some.inj h
    simp [Canonical, CanonicalAt]

theorem Canonical.apply {n : Node} (h : n.Canonical) (m : Modifier) : (m.apply n).Canonical := by
  cases m <;> simpa [Modifier.apply, Canonical, CanonicalAt] using h

/-! ### Merging

Conjunctions and disjunctions merge in the same way, with different nodes that merge into an
enclosing group. -/

/-- How groups of one kind are made: `parts` is what a node contributes to an enclosing `group`, and
`merge` makes a group of all contributions, or none when there is only one. -/
structure Merges (parts : Node → List Node) (group merge : List Node → Node) : Prop where
  group_inj : ∀ {as bs}, group as = group bs → as = bs
  parts_eq : ∀ n, parts n = [n] ∨ n = group (parts n)
  canonical_group : ∀ {children}, (group children).Canonical ↔
    2 ≤ children.length ∧ ∀ c ∈ children, c.Canonical ∧ parts c = [c]
  merge_of_singleton : ∀ {ns n}, ns.flatMap parts = [n] → merge ns = n
  merge_of_ne_singleton : ∀ {ns}, (∀ n, ns.flatMap parts ≠ [n]) → merge ns = group (ns.flatMap parts)

/-- The nodes are canonical and contribute themselves, whichever way that is said. -/
theorem forall_parts_iff {parts : Node → List Node} {group : List Node → Node}
    {R : List Node → Prop} {children : List Node}
    (hself : ∀ c, c.Canonical → (parts c = [c] ↔ ∀ inner, group inner = c → R inner)) :
    ((∀ inner, group inner ∈ children → R inner) ∧ ∀ c ∈ children, c.Canonical) ↔
      ∀ c ∈ children, c.Canonical ∧ parts c = [c] := by
  constructor
  · rintro ⟨hat, hall⟩ c hc
    exact ⟨hall c hc, (hself c (hall c hc)).2 fun inner heq => hat inner (heq ▸ hc)⟩
  · intro hall
    refine ⟨fun inner hc => ?_, fun c hc => (hall c hc).1⟩
    obtain ⟨hcanon, hparts⟩ := hall _ hc
    exact (hself _ hcanon).1 hparts inner rfl

/-- Conjunctions merge into the conjunction around them. A canonical conjunction has two clauses or
more, so it is never its own only part. -/
theorem conjunctions : Merges conjuncts .and allOf where
  group_inj h := Node.and.inj h
  parts_eq n := by
    cases n with
    | and children => exact .inr rfl
    | _ => exact .inl rfl
  canonical_group {children} := by
    -- a canonical conjunction contributes two nodes or more, so not itself
    have hself (c : Node) (hc : c.Canonical) :
        c.conjuncts = [c] ↔ ∀ inner, .and inner = c → False := by
      cases c with
      | and inner =>
        have htwo : 2 ≤ inner.length := hc.self.1
        refine ⟨fun h => ?_, fun h => absurd rfl (h inner)⟩
        rw [show inner = [.and inner] from h] at htwo
        simp at htwo
      | _ => simp [conjuncts]
    exact everywhere_and.trans (and_assoc.trans (and_congr_right fun _ => forall_parts_iff hself))
  merge_of_singleton h := by
    unfold allOf
    rw [h]
  merge_of_ne_singleton h := by
    unfold allOf
    split
    · next n hn => exact absurd hn (h n)
    · rfl

/-- Disjunctions merge into the disjunction around them, unless one of their children is modified: a
modified child stays inside its own group. -/
theorem disjunctions : Merges disjuncts .or anyOf where
  group_inj h := Node.or.inj h
  parts_eq n := by
    cases n with
    | or children =>
      rw [disjuncts]
      split
      · exact .inl rfl
      · exact .inr rfl
    | _ => exact .inl rfl
  canonical_group {children} := by
    -- only a disjunction with a modified child stays whole
    have hself (c : Node) (hc : c.Canonical) :
        c.disjuncts = [c] ↔ ∀ inner, .or inner = c → ∃ d ∈ inner, d.isModified = true := by
      cases c with
      | or inner =>
        have htwo : 2 ≤ inner.length := hc.self.1
        rw [disjuncts]
        cases hmod : inner.any isModified with
        | true => simpa using hmod
        | false =>
          have hne : inner ≠ [.or inner] := by
            intro h
            rw [h] at htwo
            simp at htwo
          simpa [hne] using hmod
      | _ => simp [disjuncts]
    exact everywhere_or.trans (and_assoc.trans (and_congr_right fun _ => forall_parts_iff hself))
  merge_of_singleton h := by
    unfold anyOf
    rw [h]
  merge_of_ne_singleton h := by
    unfold anyOf
    split
    · next n hn => exact absurd hn (h n)
    · rfl

/-- A list is empty, a single element, or of length two or more. -/
theorem nil_or_singleton_or_two_le {α : Type} (l : List α) :
    l = [] ∨ (∃ a, l = [a]) ∨ 2 ≤ l.length := by
  match l with
  | [] => exact .inl rfl
  | [a] => exact .inr (.inl ⟨a, rfl⟩)
  | _ :: _ :: _ => exact .inr (.inr (by simp))

/-- If each node gives at least one part, there are at least as many parts as nodes. -/
theorem length_le_length_flatMap {f : Node → List Node} {ns : List Node}
    (hne : ∀ n ∈ ns, f n ≠ []) : ns.length ≤ (ns.flatMap f).length := by
  induction ns with
  | nil => simp
  | cons n ns ih =>
    have hn := List.length_pos_iff.2 (hne n (by simp))
    have := ih fun m hm => hne m (by simp [hm])
    simp only [List.flatMap_cons, List.length_append, List.length_cons]
    omega

namespace Merges

variable {parts : Node → List Node} {group merge : List Node → Node} {n m : Node}

/-- A canonical node contributes itself, or is a group of two or more and contributes these. -/
theorem canonical_cases (h : Merges parts group merge) (hn : n.Canonical) :
    parts n = [n] ∨ n = group (parts n) ∧ 2 ≤ (parts n).length ∧
      ∀ c ∈ parts n, c.Canonical ∧ parts c = [c] := by
  rcases h.parts_eq n with hself | hgroup
  · exact .inl hself
  · rw [hgroup] at hn
    exact .inr ⟨hgroup, h.canonical_group.1 hn⟩

theorem parts_ne_nil (h : Merges parts group merge) (hn : n.Canonical) : parts n ≠ [] := by
  rcases h.canonical_cases hn with hself | ⟨-, htwo, -⟩
  · simp [hself]
  · exact List.ne_nil_of_length_pos (by omega)

/-- What a canonical node contributes is canonical and does not merge again. -/
theorem of_mem_parts (h : Merges parts group merge) (hn : n.Canonical) {c : Node}
    (hc : c ∈ parts n) : c.Canonical ∧ parts c = [c] := by
  rcases h.canonical_cases hn with hself | ⟨-, -, hall⟩
  · rw [hself, List.mem_singleton] at hc
    exact hc ▸ ⟨hn, hself⟩
  · exact hall c hc

theorem merge_of_two_le (h : Merges parts group merge) {ns : List Node}
    (htwo : 2 ≤ (ns.flatMap parts).length) : merge ns = group (ns.flatMap parts) := by
  refine h.merge_of_ne_singleton fun n hn => ?_
  rw [hn] at htwo
  simp at htwo

/-- Two canonical nodes or more make up a group. -/
theorem merge_of_canonical (h : Merges parts group merge) {ns : List Node} (htwo : 2 ≤ ns.length)
    (hall : ∀ n ∈ ns, n.Canonical) : merge ns = group (ns.flatMap parts) := by
  have hle : ns.length ≤ (ns.flatMap parts).length :=
    length_le_length_flatMap fun n hn => h.parts_ne_nil (hall n hn)
  exact h.merge_of_two_le (Nat.le_trans htwo hle)

/-- Merging canonical nodes gives a canonical node. -/
theorem canonical_merge (h : Merges parts group merge) {ns : List Node} (hne : ns ≠ [])
    (hall : ∀ n ∈ ns, n.Canonical) : (merge ns).Canonical := by
  have hmem : ∀ c ∈ ns.flatMap parts, c.Canonical ∧ parts c = [c] := by
    intro c hc
    obtain ⟨n, hn, hc⟩ := List.mem_flatMap.1 hc
    exact h.of_mem_parts (hall n hn) hc
  rcases nil_or_singleton_or_two_le (ns.flatMap parts) with hnil | ⟨c, hc⟩ | htwo
  · obtain ⟨n, hn⟩ := List.exists_mem_of_ne_nil ns hne
    exact absurd (List.flatMap_eq_nil_iff.1 hnil n hn) (h.parts_ne_nil (hall n hn))
  · rw [h.merge_of_singleton hc]
    exact (hmem c (by simp [hc])).1
  · rw [h.merge_of_two_le htwo]
    exact h.canonical_group.2 ⟨htwo, hmem⟩

/-- A canonical node by itself is merged into nothing else. -/
theorem merge_singleton (h : Merges parts group merge) (hn : n.Canonical) : merge [n] = n := by
  have hflat : [n].flatMap parts = parts n := by simp
  rcases h.canonical_cases hn with hself | ⟨hgroup, htwo, -⟩
  · exact h.merge_of_singleton (hflat.trans hself)
  · rw [h.merge_of_two_le (by rwa [hflat]), hflat, ← hgroup]

/-- The children of a canonical group make it up again. -/
theorem merge_children (h : Merges parts group merge) {children : List Node}
    (hcanon : (group children).Canonical) : merge children = group children := by
  obtain ⟨htwo, hall⟩ := h.canonical_group.1 hcanon
  have hflat : children.flatMap parts = children := flatMap_eq_self fun c hc => (hall c hc).2
  rw [h.merge_of_two_le (by rwa [hflat]), hflat]

/-- Canonical nodes that contribute the same are the same. -/
theorem eq_of_parts (h : Merges parts group merge) (hn : n.Canonical) (hm : m.Canonical)
    (heq : parts n = parts m) : n = m := by
  rcases h.canonical_cases hn with hns | ⟨hns, htwo, -⟩ <;>
    rcases h.canonical_cases hm with hms | ⟨hms, htwo', -⟩
  · rw [hns, hms] at heq
    exact (List.cons.inj heq).1
  · rw [← heq, hns] at htwo'
    simp at htwo'
  · rw [heq, hms] at htwo
    simp at htwo
  · rw [hns, hms, heq]

/-- One node is determined by what it merges into and by the nodes beside it. The parts of those are
cut off in front and behind, and what is left are the parts of the node. -/
theorem eq_of_merge_eq (h : Merges parts group merge) {as bs : List Node}
    (hn : ∀ a ∈ as ++ n :: bs, a.Canonical) (hm : ∀ a ∈ as ++ m :: bs, a.Canonical)
    (heq : merge (as ++ n :: bs) = merge (as ++ m :: bs)) : n = m := by
  have hcn : n.Canonical := hn n (by simp)
  have hcm : m.Canonical := hm m (by simp)
  by_cases hsingle : as = [] ∧ bs = []
  · -- a node by itself is not merged into anything
    obtain ⟨rfl, rfl⟩ := hsingle
    simpa [h.merge_singleton hcn, h.merge_singleton hcm] using heq
  · have hpos : 0 < as.length + bs.length := by
      rwa [← List.length_append, List.length_pos_iff, Ne, List.append_eq_nil_iff]
    have hflat {a : Node} (ha : ∀ b ∈ as ++ a :: bs, b.Canonical) :
        merge (as ++ a :: bs) = group ((as ++ a :: bs).flatMap parts) := by
      refine h.merge_of_canonical ?_ ha
      rw [List.length_append, List.length_cons]
      omega
    rw [hflat hn, hflat hm] at heq
    have hparts := h.group_inj heq
    rw [List.flatMap_append, List.flatMap_append, List.append_cancel_left_eq, List.flatMap_cons,
      List.flatMap_cons, List.append_cancel_right_eq] at hparts
    exact h.eq_of_parts hcn hcm hparts

end Merges

/-- A conjunction that takes in the next clause differs from one that ends before it, whatever the
other alternatives are. -/
theorem anyOf_split_ne {as bs c e : List Node} {n : Node} (hne : c ≠ [])
    (hall : ∀ a ∈ c ++ n :: e, a.Canonical) :
    anyOf (as ++ allOf (c ++ n :: e) :: bs) ≠ anyOf (as ++ allOf c :: allOf (n :: e) :: bs) := by
  have hleft := conjunctions.canonical_merge hne fun a ha => hall a (List.mem_append_left _ ha)
  have hright := conjunctions.canonical_merge (List.cons_ne_nil n e) fun a ha =>
    hall a (List.mem_append_right _ ha)
  have hjoint : allOf (c ++ n :: e) = .and ((c ++ n :: e).flatMap conjuncts) := by
    refine conjunctions.merge_of_canonical ?_ hall
    have hpos := List.length_pos_iff.2 hne
    rw [List.length_append, List.length_cons]
    omega
  -- the alternatives on the right are one more than those on the left
  have hlength : ((as ++ allOf (c ++ n :: e) :: bs).flatMap disjuncts).length <
      ((as ++ allOf c :: allOf (n :: e) :: bs).flatMap disjuncts).length := by
    have h1 := List.length_pos_iff.2 (disjunctions.parts_ne_nil hleft)
    have h2 := List.length_pos_iff.2 (disjunctions.parts_ne_nil hright)
    have h3 : (allOf (c ++ n :: e)).disjuncts.length = 1 := by
      rw [hjoint]
      rfl
    simp only [List.flatMap_append, List.flatMap_cons, List.length_append]
    omega
  have hmem : allOf (c ++ n :: e) ∈ (as ++ allOf (c ++ n :: e) :: bs).flatMap disjuncts := by
    refine List.mem_flatMap.2 ⟨allOf (c ++ n :: e), by simp, ?_⟩
    rw [hjoint]
    simp [disjuncts]
  have hpos := List.length_pos_of_mem hmem
  have hor : 2 ≤ ((as ++ allOf c :: allOf (n :: e) :: bs).flatMap disjuncts).length := by omega
  rw [disjunctions.merge_of_two_le hor]
  -- on the left there may be no disjunction at all, but then it is a conjunction
  rcases nil_or_singleton_or_two_le ((as ++ allOf (c ++ n :: e) :: bs).flatMap disjuncts) with
    hnil | ⟨a, ha⟩ | htwo
  · rw [hnil] at hpos
    simp at hpos
  · rw [ha, List.mem_singleton] at hmem
    rw [disjunctions.merge_of_singleton ha, ← hmem, hjoint]
    simp
  · rw [disjunctions.merge_of_two_le htwo]
    intro h
    rw [Node.or.inj h] at hlength
    omega

end Node

/-! ## Compiled trees are canonical -/

theorem canonical_of_compilePhrase {content : String} {n : Node}
    (h : compilePhrase content = some n) : n.Canonical :=
  Node.canonical_of_phrase? h

/-- The tree of a word is canonical: its compounds are phrases or terms, and they are merged. -/
theorem canonical_of_compileWord {word : String} {n : Node} (h : compileWord word = some n) :
    n.Canonical := by
  unfold compileWord at h
  split at h
  · cases h
  · next hne =>
    obtain rfl := Option.some.inj h
    refine Node.disjunctions.canonical_merge hne fun m hm => ?_
    obtain ⟨c, _, hc⟩ := List.mem_filterMap.1 hm
    exact Node.canonical_of_phrase? hc

/-- Every node in the group is canonical. -/
def Group.Canonical (g : Group) : Prop := ∀ n ∈ g.alternatives ++ g.chain, n.Canonical

namespace Group

/-- When the conjunction is closed, the alternatives of the group are canonical. -/
theorem Canonical.finished {g : Group} (h : g.Canonical) : ∀ n ∈ g.finished, n.Canonical := by
  intro n hn
  by_cases hc : g.chain = []
  · rw [finished_of_chain_nil hc] at hn
    exact h n (List.mem_append_left _ hn)
  · rw [finished_of_chain_ne_nil hc, List.mem_append, List.mem_singleton] at hn
    rcases hn with hn | rfl
    · exact h n (List.mem_append_left _ hn)
    · exact Node.conjunctions.canonical_merge hc fun m hm => h m (List.mem_append_right _ hm)

theorem Canonical.tree? {g : Group} (h : g.Canonical) : ∀ n ∈ g.tree?, n.Canonical := by
  intro n hn
  have hne : g.finished ≠ [] := (tree?_isSome g).1 (Option.isSome_of_mem hn)
  rw [tree?_of_ne_nil hne, Option.mem_some_iff] at hn
  exact hn ▸ Node.disjunctions.canonical_merge hne h.finished

/-- The waiting modifiers keep a clause canonical. -/
theorem canonical_modify {g : Group} {n : Node} (hn : n.Canonical) : (g.modify n).Canonical := by
  unfold modify
  split
  · exact hn
  · exact hn.apply _

/-- A clause that is canonical is added to a group that is. It goes on the conjunction, or it begins
a new one behind the finished alternatives. -/
theorem Canonical.addClause {g : Group} (h : g.Canonical) {c : Option Node}
    (hc : ∀ n ∈ c, n.Canonical) : (g.addClause c).Canonical := by
  cases c with
  | none => exact h
  | some n =>
    have hmod : (g.modify n).Canonical := canonical_modify (hc n rfl)
    intro m hm
    rw [addClause_some] at hm
    cases hcont : g.continues with
    | true =>
      simp only [hcont, if_true, List.mem_append, List.mem_singleton] at hm
      -- the clause joins the conjunction: finished alternatives, its older parts, the clause itself
      rcases hm with hm | hm | rfl
      · exact h m (List.mem_append_left _ hm)
      · exact h m (List.mem_append_right _ hm)
      · exact hmod
    | false =>
      simp only [hcont, Bool.false_eq_true, if_false, List.mem_append, List.mem_singleton] at hm
      -- the conjunction so far becomes an alternative
      rcases hm with hm | rfl
      · exact h.finished m hm
      · exact hmod

end Group

/-- Every node in every open group is canonical. -/
def Stack.Canonical (s : Stack) : Prop := ∀ g ∈ s.top :: s.outer, g.Canonical

/-- A step keeps all open groups canonical, with one case for each way to step. New clauses are
canonical, and so is the tree of the group that a parenthesis closes. -/
theorem Stack.Canonical.step {s s' : Stack} {p : Placed} (h : s.Canonical) (hstep : s.Step p s') :
    s'.Canonical := by
  have htop : s.top.Canonical := h _ (by simp)
  have houter : ∀ g ∈ s.outer, g.Canonical := fun g hg => h g (by simp [hg])
  cases hstep with
  | word text offset =>
    exact List.forall_mem_cons.2
      ⟨htop.addClause fun n hn => canonical_of_compileWord hn, houter⟩
  | phrase content offset n hn =>
    refine List.forall_mem_cons.2 ⟨htop.addClause fun m hm => ?_, houter⟩
    obtain rfl := Option.some.inj hm
    exact canonical_of_compilePhrase hn
  | modifier m offset hm => exact List.forall_mem_cons.2 ⟨htop, houter⟩
  | and offset hm hj hc => exact List.forall_mem_cons.2 ⟨htop, houter⟩
  | or offset hm hj hc =>
    -- the conjunction that `OR` ends becomes one alternative, which was canonical as such
    refine List.forall_mem_cons.2 ⟨fun n hn => htop.finished n ?_, houter⟩
    simpa [Group.flush] using hn
  | openParen offset =>
    refine List.forall_mem_cons.2 ⟨fun n hn => ?_, h⟩
    simp at hn
  | closeParen offset parent outer hs hm hj hc =>
    rw [hs] at houter
    obtain ⟨hparent, houter⟩ := List.forall_mem_cons.1 houter
    exact List.forall_mem_cons.2 ⟨hparent.addClause htop.tree?, houter⟩

theorem Stack.Canonical.run {s s' : Stack} {ps : List Placed} (h : s.Canonical)
    (hrun : s.run ps = .ok s') : s'.Canonical :=
  Stack.run_keeps (fun _ _ _ h hstep => h.step hstep) h hrun

/-- Every compiled tree is in canonical form. -/
theorem canonical_of_compile {ps : List Placed} {n : Node} (h : compile ps = .ok n) :
    n.Canonical := by
  obtain ⟨top, hrun, hclose⟩ := compile_eq_ok_iff.1 h
  obtain ⟨-, -, -, htree⟩ := Group.close_eq_ok_iff.1 hclose
  have hstart : ({} : Stack).Canonical := by simp [Stack.Canonical, Group.Canonical]
  have htop : top.Canonical := hstart.run hrun top (by simp)
  exact htop.tree? n htree

end TextQuery.Query
