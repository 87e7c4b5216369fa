import Mathlib.Data.List.Infix
import TextQuery.Proofs.Composition

/-!
# What a query finds

The documents that a tree selects, and what becomes of the meaning of a query that is put in
parentheses beside another one:

* `Node.selects` — the contract of the nodes as an evaluator over documents; `Node.selects_and_iff`
  and `Node.selects_or_iff` say it clause by clause.
* `Node.selects_or_flatMap` — a disjunction that merges plain inner ones selects the same documents.
* `selects_beside_iff` — a modifier stays inside its group unless it is all that the group holds: a
  group of a single modified clause is that clause, and its modifier speaks about the clauses beside
  the group.
-/

namespace TextQuery.Query

/-- The tokens of a document, in the order of their positions. -/
abbrev Document := List String

namespace Node

/-- Whether a clause must hold. -/
def isRequired : Node → Bool
  | .required _ => true
  | _ => false

/-- Whether a clause must not hold. -/
def isProhibited : Node → Bool
  | .not _ => true
  | _ => false

mutual
/-- Whether the tree matches the document. -/
def selects (d : Document) : Node → Bool
  | .term text => d.contains text
  | .phrase words => decide (words <:+: d)
  | .and children => (answers d children).all fun (_, holds) => holds
  | .or children =>
    -- a prohibited child holds when its operand does not match
    ((answers d children).all fun (c, holds) => !c.isModified || holds) &&
      (children.any isRequired || (answers d children).any fun (c, holds) => !c.isProhibited && holds)
  | .not child => !child.selects d
  | .required child => child.selects d

/-- Each node with whether it matches the document. -/
def answers (d : Document) : List Node → List (Node × Bool)
  | [] => []
  | n :: ns => (n, n.selects d) :: answers d ns
end

variable {d : Document}

/-- The answers of children are their answers one by one. -/
theorem answers_eq_map (d : Document) (ns : List Node) :
    answers d ns = ns.map fun n => (n, n.selects d) := by
  induction ns with
  | nil => rfl
  | cons n ns ih => rw [answers, ih, List.map_cons]

@[simp] theorem selects_not (child : Node) : (Node.not child).selects d = !child.selects d := by
  rw [selects]

@[simp] theorem selects_required (child : Node) :
    (Node.required child).selects d = child.selects d := by
  rw [selects]

theorem exists_not_of_isProhibited {n : Node} (h : n.isProhibited = true) : ∃ c, n = .not c := by
  cases n with
  | not c => exact ⟨c, rfl⟩
  | _ => cases h

theorem exists_required_of_isRequired {n : Node} (h : n.isRequired = true) :
    ∃ c, n = .required c := by
  cases n with
  | required c => exact ⟨c, rfl⟩
  | _ => cases h

theorem isModified_iff {n : Node} :
    n.isModified = true ↔ n.isRequired = true ∨ n.isProhibited = true := by
  cases n <;> simp [isModified, isRequired, isProhibited]

/-- A clause without a modifier is not prohibited. -/
theorem not_isProhibited_of_not_isModified {n : Node} (h : n.isModified = false) :
    n.isProhibited = false := by
  cases n with
  | not c => cases h
  | _ => rfl

theorem not_isProhibited_of_isRequired {n : Node} (h : n.isRequired = true) :
    n.isProhibited = false := by
  obtain ⟨c, rfl⟩ := exists_required_of_isRequired h
  rfl

theorem selects_and {children : List Node} :
    (Node.and children).selects d = true ↔ ∀ c ∈ children, c.selects d = true := by
  simp [selects, answers_eq_map]

/-- A conjunction: every child that is not prohibited matches, and no operand of a prohibited one
does. -/
theorem selects_and_iff {children : List Node} :
    (Node.and children).selects d = true ↔
      (∀ c ∈ children, c.isProhibited = false → c.selects d = true) ∧
        ∀ c, .not c ∈ children → c.selects d = false := by
  rw [selects_and]
  constructor
  · intro h
    refine ⟨fun c hc _ => h c hc, fun c hc => ?_⟩
    simpa using h _ hc
  · rintro ⟨hplain, hnot⟩ c hc
    cases hp : c.isProhibited with
    | false => exact hplain c hc hp
    | true =>
      obtain ⟨operand, rfl⟩ := exists_not_of_isProhibited hp
      simp [hnot operand hc]

/-- The modified children of a disjunction hold, and one child that is not prohibited does: a
required child is such a one. -/
theorem selects_or {children : List Node} :
    (Node.or children).selects d = true ↔
      (∀ c ∈ children, c.isModified = true → c.selects d = true) ∧
        ∃ c ∈ children, c.isProhibited = false ∧ c.selects d = true := by
  have hor : (Node.or children).selects d = true ↔
      (∀ c ∈ children, c.isModified = true → c.selects d = true) ∧
        ((∃ c ∈ children, c.isRequired = true) ∨
          ∃ c ∈ children, c.isProhibited = false ∧ c.selects d = true) := by
    simp only [selects, answers_eq_map, List.all_map, List.any_map, Bool.and_eq_true,
      Bool.or_eq_true, List.all_eq_true, List.any_eq_true]
    grind
  rw [hor]
  refine and_congr_right fun hmod => ⟨?_, .inr⟩
  rintro (⟨c, hc, hreq⟩ | h)
  · exact ⟨c, hc, not_isProhibited_of_isRequired hreq, hmod c hc (isModified_iff.2 (.inl hreq))⟩
  · exact h

/-- A disjunction: every required child matches, no operand of a prohibited one does, and without a
required child one that is not prohibited matches. -/
theorem selects_or_iff {children : List Node} :
    (Node.or children).selects d = true ↔
      (∀ c, .required c ∈ children → c.selects d = true) ∧
        (∀ c, .not c ∈ children → c.selects d = false) ∧
        ((∀ c, .required c ∉ children) →
          ∃ c ∈ children, c.isProhibited = false ∧ c.selects d = true) := by
  rw [selects_or]
  constructor
  · rintro ⟨hmod, hsome⟩
    refine ⟨fun c hc => ?_, fun c hc => ?_, fun _ => hsome⟩
    · simpa using hmod _ hc rfl
    · simpa using hmod _ hc rfl
  · rintro ⟨hreq, hnot, hsome⟩
    refine ⟨fun c hc hmod => ?_, ?_⟩
    · cases c with
      | not operand => simp [hnot operand hc]
      | required operand => simp [hreq operand hc]
      | _ => cases hmod
    · by_cases hnone : ∀ c, .required c ∉ children
      · exact hsome hnone
      · obtain ⟨c, hc⟩ := Classical.not_forall_not.1 hnone
        exact ⟨_, hc, rfl, by simp [hreq c hc]⟩

/-! ## Merging keeps the meaning -/

/-- Only a modified node hands on a modified one, namely itself. -/
theorem mem_disjuncts_iff_of_isModified {n c : Node} (hc : c.isModified = true) :
    c ∈ n.disjuncts ↔ c = n := by
  cases n with
  | or children =>
    rw [disjuncts]
    split
    · rw [List.mem_singleton]
    · next hplain =>
      refine ⟨fun hmem => ?_, ?_⟩
      · exact absurd (List.any_eq_true.2 ⟨c, hmem, hc⟩) hplain
      · rintro rfl
        cases hc
  | _ => simp [disjuncts]

/-- What a node hands on holds where the node does. -/
theorem exists_disjunct_iff {n : Node} :
    (∃ c ∈ n.disjuncts, c.isProhibited = false ∧ c.selects d = true) ↔
      n.isProhibited = false ∧ n.selects d = true := by
  cases n with
  | or children =>
    rw [disjuncts]
    split
    · simp
    · next hplain =>
      -- no child is modified, so the first half of the contract says nothing
      have hmod : ∀ c ∈ children, c.isModified = true → c.selects d = true := fun c hc h =>
        absurd (List.any_eq_true.2 ⟨c, hc, h⟩) hplain
      rw [selects_or]
      exact ⟨fun h => ⟨rfl, hmod, h⟩, fun h => h.2.2⟩
  | _ => simp [disjuncts]

/-- A disjunction that merges plain inner ones selects the same documents. Both halves of the
contract are kept: the modified children are the same, and some child of an inner one holds if that
one does. -/
theorem selects_or_flatMap (d : Document) (ns : List Node) :
    (Node.or (ns.flatMap disjuncts)).selects d = (Node.or ns).selects d := by
  rw [Bool.eq_iff_iff, selects_or, selects_or]
  refine and_congr ?_ ?_
  · -- the modified children of a disjunction are those of the inner ones that are left whole
    constructor
    · intro h c hc hmod
      exact h c (List.mem_flatMap.2 ⟨c, hc, (mem_disjuncts_iff_of_isModified hmod).2 rfl⟩) hmod
    · intro h c hc hmod
      obtain ⟨n, hn, hc⟩ := List.mem_flatMap.1 hc
      obtain rfl := (mem_disjuncts_iff_of_isModified hmod).1 hc
      exact h c hn hmod
  · constructor
    · rintro ⟨c, hc, hholds⟩
      obtain ⟨n, hn, hc⟩ := List.mem_flatMap.1 hc
      exact ⟨n, hn, exists_disjunct_iff.1 ⟨c, hc, hholds⟩⟩
    · rintro ⟨n, hn, hholds⟩
      obtain ⟨c, hc, hholds⟩ := exists_disjunct_iff.2 hholds
      exact ⟨c, List.mem_flatMap.2 ⟨n, hn, hc⟩, hholds⟩

/-- The disjunction of two canonical trees selects what a bare disjunction of them does. -/
theorem selects_anyOf_pair {n m : Node} (hn : n.Canonical) (hm : m.Canonical) :
    (anyOf [n, m]).selects d = (Node.or [n, m]).selects d := by
  have hmerge : anyOf [n, m] = .or ([n, m].flatMap disjuncts) := by
    refine disjunctions.merge_of_canonical (by simp) ?_
    simp [hn, hm]
  rw [hmerge, selects_or_flatMap]

end Node

/-! ## Groups side by side -/

/-- **How far a modifier reaches.** Two queries in parentheses, side by side, select a document when
every one of their trees that is itself modified does, and one of them that is not prohibited does.
So the outcome is that of either query exactly where, if one of them matches, that much holds as
well: always when neither tree is a single modified clause, but `(+a) (b)` does not find a document
with `b` alone. -/
theorem selects_beside_iff {q₁ q₂ : String} {n₁ n₂ : Node} (h₁ : parse q₁ = .ok n₁)
    (h₂ : parse q₂ = .ok n₂) :
    ∃ n, parse ("(" ++ q₁ ++ ") (" ++ q₂ ++ ")") = .ok n ∧
      (n₁.isModified = false → n₂.isModified = false → ∀ d : Document,
        (n.selects d = true ↔ n₁.selects d = true ∨ n₂.selects d = true)) ∧
      ∀ d : Document,
        ((n.selects d = true ↔ n₁.selects d = true ∨ n₂.selects d = true) ↔
          (n₁.selects d = true ∨ n₂.selects d = true →
            (∀ m ∈ [n₁, n₂], m.isModified = true → m.selects d = true) ∧
              ∃ m ∈ [n₁, n₂], m.isProhibited = false ∧ m.selects d = true)) := by
  obtain ⟨_, _, hn₁⟩ := parse_eq_ok_iff.1 h₁
  obtain ⟨_, _, hn₂⟩ := parse_eq_ok_iff.1 h₂
  have hpair (d : Document) := Node.selects_anyOf_pair (d := d) (canonical_of_compile hn₁)
    (canonical_of_compile hn₂)
  refine ⟨Node.anyOf [n₁, n₂], parse_beside h₁ h₂, fun hm₁ hm₂ d => ?_, fun d => ?_⟩
  · -- neither tree is modified, so neither is prohibited
    have hp₁ : n₁.isProhibited = false := Node.not_isProhibited_of_not_isModified hm₁
    have hp₂ : n₂.isProhibited = false := Node.not_isProhibited_of_not_isModified hm₂
    simp [hpair, Node.selects_or, hm₁, hm₂, hp₁, hp₂]
  · rw [hpair, Node.selects_or]
    constructor
    · intro h heither
      exact h.2 heither
    · intro h
      refine ⟨?_, h⟩
      rintro ⟨-, m, hm, -, hholds⟩
      simp only [List.mem_cons, List.not_mem_nil, or_false] at hm
      rcases hm with rfl | rfl
      · exact .inl hholds
      · exact .inr hholds

/-- `(a -b) (+c)`: one group keeps its modifier, the other one is a single modified clause. -/
theorem selects_beside_modified_clause :
    let n₁ : Node := .or [.term "a", .not (.term "b")]
    let n₂ : Node := .required (.term "c")
    parse "a -b" = .ok n₁ ∧ parse "+c" = .ok n₂ ∧
      ∃ n, parse ("(" ++ "a -b" ++ ") (" ++ "+c" ++ ")") = .ok n ∧
        (n₁.isModified = false → n₂.isModified = false → ∀ d : Document,
          (n.selects d = true ↔ n₁.selects d = true ∨ n₂.selects d = true)) ∧
        ∀ d : Document,
          ((n.selects d = true ↔ n₁.selects d = true ∨ n₂.selects d = true) ↔
            (n₁.selects d = true ∨ n₂.selects d = true →
              (∀ m ∈ [n₁, n₂], m.isModified = true → m.selects d = true) ∧
                ∃ m ∈ [n₁, n₂], m.isProhibited = false ∧ m.selects d = true)) :=
  have h₁ := Node.eq_ok_of_toOption (by decide +kernel)
  have h₂ := Node.eq_ok_of_toOption (by decide +kernel)
  ⟨h₁, h₂, selects_beside_iff h₁ h₂⟩

/-- A modifier does not always stay inside its group: `(+a) (b)` leaves out a document with `b`
alone, which `b` finds. -/
theorem not_forall_selects_beside :
    ¬ ∀ (q₁ q₂ : String) (n₁ n₂ n : Node) (d : Document), parse q₁ = .ok n₁ → parse q₂ = .ok n₂ →
      parse ("(" ++ q₁ ++ ") (" ++ q₂ ++ ")") = .ok n →
      (n.selects d = true ↔ n₁.selects d = true ∨ n₂.selects d = true) := by
  intro h
  have hread := h "+a" "b" (.required (.term "a")) (.term "b")
    (.or [.required (.term "a"), .term "b"]) ["b"] (Node.eq_ok_of_toOption (by decide +kernel))
    (Node.eq_ok_of_toOption (by decide +kernel)) (Node.eq_ok_of_toOption (by decide +kernel))
  exact absurd hread (by decide +kernel)

end TextQuery.Query
