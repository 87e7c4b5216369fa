import TextQuery.Proofs.Meaning

/-!
# Small trees in place of large ones

`Node.allOf` and `Node.anyOf` merge groups and drop those with a single child. What becomes of the
meaning, of the group itself and of a tree that it is part of:

* `Node.selects_allOf`, `Node.selects_anyOf` — the group selects the same documents, but for a
  disjunction of a single prohibited clause, which turns from nothing into a negation.
* `Node.Context` — a tree with a place left open. `Node.Alike` — two nodes that select the same and
  that a group around them does not tell apart; `Node.Alike.fill` — one may stand for the other
  anywhere.
* `Node.selects_merged` — so the group may be replaced in any tree, unless the result is a modified
  clause, which would speak about the group around it.
-/

namespace TextQuery.Query.Node

variable {d : Document}

/-! ## The group itself -/

/-- A conjunction that merges inner ones selects the same documents. -/
theorem selects_and_flatMap (d : Document) (ns : List Node) :
    (Node.and (ns.flatMap conjuncts)).selects d = (Node.and ns).selects d := by
  have hparts (n : Node) : (∀ c ∈ n.conjuncts, c.selects d = true) ↔ n.selects d = true := by
    cases n with
    | and children => exact selects_and.symm
    | _ => simp [conjuncts]
  rw [Bool.eq_iff_iff, selects_and, selects_and]
  constructor
  · intro h n hn
    exact (hparts n).1 fun c hc => h c (List.mem_flatMap.2 ⟨n, hn, hc⟩)
  · intro h c hc
    obtain ⟨n, hn, hc⟩ := List.mem_flatMap.1 hc
    exact (hparts n).2 (h n hn) c hc

theorem selects_allOf (d : Document) (ns : List Node) :
    (allOf ns).selects d = (Node.and ns).selects d := by
  rw [← selects_and_flatMap]
  unfold allOf
  split
  · next n hn =>
    rw [hn, Bool.eq_iff_iff, selects_and]
    simp only [List.mem_singleton, forall_eq]
  · rfl

/-- A disjunction of one node is that node, if it is not prohibited. -/
theorem selects_or_singleton {n : Node} (h : n.isProhibited = false) :
    (Node.or [n]).selects d = n.selects d := by
  rw [Bool.eq_iff_iff, selects_or]
  constructor
  · rintro ⟨-, c, hc, -, hholds⟩
    rwa [List.mem_singleton.1 hc] at hholds
  · intro hn
    exact ⟨List.forall_mem_singleton.2 fun _ => hn, n, List.mem_singleton_self n, h, hn⟩

theorem selects_anyOf {ns : List Node} (h : ∀ n, ns.flatMap disjuncts ≠ [.not n]) (d : Document) :
    (anyOf ns).selects d = (Node.or ns).selects d := by
  rw [← selects_or_flatMap]
  unfold anyOf
  split
  · next n hn =>
    rw [hn, selects_or_singleton]
    cases hp : n.isProhibited with
    | false => rfl
    | true =>
      obtain ⟨operand, rfl⟩ := exists_not_of_isProhibited hp
      exact absurd hn (h operand)
  · rfl

/-- The exception: nothing is left to select when all that a disjunction holds is prohibited. -/
theorem selects_or_of_prohibited {ns : List Node} {n : Node} (h : ns.flatMap disjuncts = [.not n])
    (d : Document) : anyOf ns = .not n ∧ (Node.or ns).selects d = false := by
  refine ⟨by rw [anyOf, h], ?_⟩
  rw [← selects_or_flatMap, h, Bool.eq_false_iff, Ne, selects_or]
  rintro ⟨-, c, hc, hp, -⟩
  obtain rfl := List.mem_singleton.1 hc
  cases hp

/-! ## Places in a tree -/

/-- A tree with a place left open. -/
inductive Context where
  | hole
  | and (before : List Node) (inner : Context) (after : List Node)
  | or (before : List Node) (inner : Context) (after : List Node)
  | not (inner : Context)
  | required (inner : Context)

/-- The tree with a node at the open place. -/
def Context.fill (n : Node) : Context → Node
  | .hole => n
  | .and before inner after => .and (before ++ inner.fill n :: after)
  | .or before inner after => .or (before ++ inner.fill n :: after)
  | .not inner => .not (inner.fill n)
  | .required inner => .required (inner.fill n)

/-- The nodes select the same documents, and are modified in the same way. -/
structure Alike (a b : Node) : Prop where
  selects : ∀ d, a.selects d = b.selects d
  required : a.isRequired = b.isRequired
  prohibited : a.isProhibited = b.isProhibited

theorem Alike.isModified {a b : Node} (h : Alike a b) : a.isModified = b.isModified := by
  rw [Bool.eq_iff_iff, isModified_iff, isModified_iff, h.required, h.prohibited]

theorem alike_of_not_isModified {a b : Node} (ha : a.isModified = false) (hb : b.isModified = false)
    (h : ∀ d, a.selects d = b.selects d) : Alike a b := by
  rw [Bool.eq_false_iff, Ne, isModified_iff, not_or] at ha hb
  simp only [Bool.not_eq_true] at ha hb
  exact ⟨h, ha.1.trans hb.1.symm, ha.2.trans hb.2.symm⟩

/-- One of two nodes that are alike may stand for the other, at any place of a tree. -/
theorem Alike.fill {a b : Node} (h : Alike a b) (c : Context) : Alike (c.fill a) (c.fill b) := by
  induction c with
  | hole => exact h
  | and before inner after ih =>
    refine ⟨fun d => ?_, rfl, rfl⟩
    rw [Context.fill, Context.fill, Bool.eq_iff_iff, selects_and, selects_and]
    simp only [List.mem_append, List.mem_cons, or_imp, forall_and, forall_eq, ih.selects d]
  | or before inner after ih =>
    -- a disjunction asks a child how it is modified and whether it matches, and nothing else
    refine ⟨fun d => ?_, rfl, rfl⟩
    rw [Context.fill, Context.fill, Bool.eq_iff_iff, selects_or, selects_or]
    simp only [List.mem_append, List.mem_cons, or_imp, forall_and, forall_eq, or_and_right,
      exists_or, exists_eq_left, ih.selects d, ih.isModified, ih.prohibited]
  | not inner ih => exact ⟨fun d => by simp [Context.fill, ih.selects d], rfl, rfl⟩
  | required inner ih => exact ⟨fun d => by simp [Context.fill, ih.selects d], rfl, rfl⟩

/-- **Making a group small keeps the meaning.** A conjunction of any nodes selects what the bare
group does, and so does a disjunction, unless all that it comes to is one prohibited clause: then
the bare group selects nothing. Either may be put in the place of the bare group in any tree, unless
it is a modified clause. -/
theorem selects_merged (ns : List Node) :
    (∀ d, (allOf ns).selects d = (Node.and ns).selects d) ∧
      ((∀ n, ns.flatMap disjuncts ≠ [.not n]) →
        ∀ d, (anyOf ns).selects d = (Node.or ns).selects d) ∧
      (∀ n, ns.flatMap disjuncts = [.not n] →
        ∀ d, anyOf ns = .not n ∧ (Node.or ns).selects d = false) ∧
      ((allOf ns).isModified = false → ∀ (c : Context) (d : Document),
        (c.fill (allOf ns)).selects d = (c.fill (.and ns)).selects d) ∧
      ((anyOf ns).isModified = false → ∀ (c : Context) (d : Document),
        (c.fill (anyOf ns)).selects d = (c.fill (.or ns)).selects d) := by
  refine ⟨fun d => selects_allOf d ns, selects_anyOf, fun n => selects_or_of_prohibited,
    fun hmod c d => ?_, fun hmod c d => ?_⟩
  · have halike : Alike (allOf ns) (.and ns) :=
      alike_of_not_isModified hmod rfl fun d => selects_allOf d ns
    exact (halike.fill c).selects d
  · -- the exception makes a modified clause
    have hne (n : Node) : ns.flatMap disjuncts ≠ [.not n] := by
      intro hn
      rw [(selects_or_of_prohibited hn []).1] at hmod
      cases hmod
    have halike : Alike (anyOf ns) (.or ns) := alike_of_not_isModified hmod rfl (selects_anyOf hne)
    exact (halike.fill c).selects d

/-- A group with a modified clause beside one that merges, under `-` beside a required clause; and
the group of a single prohibited clause. -/
theorem selects_merged_beside_required :
    let ns : List Node := [.or [.term "a", .term "b"], .or [.term "e", .not (.term "f")],
      .not (.term "c")]
    let c : Context := .or [.required (.term "x")] (.not .hole) []
    ((∀ n, ns.flatMap disjuncts ≠ [.not n]) ∧
      ∀ d, (anyOf ns).selects d = (Node.or ns).selects d) ∧
    ((allOf ns).isModified = false ∧
      ∀ d, (c.fill (allOf ns)).selects d = (c.fill (.and ns)).selects d) ∧
    ((anyOf ns).isModified = false ∧
      ∀ d, (c.fill (anyOf ns)).selects d = (c.fill (.or ns)).selects d) ∧
    ([Node.not (.term "c")].flatMap disjuncts = [.not (.term "c")] ∧
      ∀ d, anyOf [.not (.term "c")] = .not (.term "c") ∧
        (Node.or [.not (.term "c")]).selects d = false) := by
  intro ns c
  have hne : ∀ n, ns.flatMap disjuncts ≠ [.not n] := by simp [ns, disjuncts, isModified]
  obtain ⟨-, hany, -, hall, hfill⟩ := selects_merged ns
  obtain ⟨-, -, hnot, -, -⟩ := selects_merged [.not (.term "c")]
  exact ⟨⟨hne, hany hne⟩, ⟨rfl, hall rfl c⟩, ⟨rfl, hfill rfl c⟩, rfl, hnot _ rfl⟩

end TextQuery.Query.Node
