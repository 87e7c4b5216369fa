import TextQuery.Proofs.Meaning

/-!
# Groups inside groups of the same kind

Clauses with the same operator between them may be put in parentheses in any way:

* `Merges.merge_congr` — what nodes merge into is a matter of what they contribute.
* `Merges.parts_merge`, `Merges.merge_merge` — so some of them may be merged before the others,
  unless the group they make up stays whole inside another one.
* `gathered_gathered` — a conjunction never stays whole, and a disjunction of nodes that are not
  modified does not either.
* `parse_regrouped` — so three queries in parentheses have the same tree whichever two are put
  together first.
-/

namespace TextQuery.Query

/-! ## Merging in steps -/

namespace Node

namespace Merges

variable {parts : Node → List Node} {group merge : List Node → Node} {as bs cs : List Node}

theorem merge_congr (h : Merges parts group merge) (heq : as.flatMap parts = bs.flatMap parts) :
    merge as = merge bs := by
  by_cases hsingle : ∃ n, bs.flatMap parts = [n]
  · obtain ⟨n, hn⟩ := hsingle
    rw [h.merge_of_singleton (heq.trans hn), h.merge_of_singleton hn]
  · have hbs : ∀ n, bs.flatMap parts ≠ [n] := fun n hn => hsingle ⟨n, hn⟩
    rw [h.merge_of_ne_singleton (heq ▸ hbs), h.merge_of_ne_singleton hbs, heq]

/-- Merged nodes contribute what they contributed one by one, if their group does not stay whole. -/
theorem parts_merge (h : Merges parts group merge) (hbs : ∀ b ∈ bs, b.Canonical)
    (hgroup : parts (group (bs.flatMap parts)) = bs.flatMap parts) :
    parts (merge bs) = bs.flatMap parts := by
  by_cases hsingle : ∃ n, bs.flatMap parts = [n]
  · -- a single contribution stands for itself, and does not merge again
    obtain ⟨n, hn⟩ := hsingle
    obtain ⟨b, hb, hmem⟩ := List.mem_flatMap.1 (hn ▸ List.mem_singleton_self n)
    rw [h.merge_of_singleton hn, hn]
    exact (h.of_mem_parts (hbs b hb) hmem).2
  · rw [h.merge_of_ne_singleton fun n hn => hsingle ⟨n, hn⟩, hgroup]

theorem merge_merge (h : Merges parts group merge) (hbs : ∀ b ∈ bs, b.Canonical)
    (hgroup : parts (group (bs.flatMap parts)) = bs.flatMap parts) :
    merge (as ++ merge bs :: cs) = merge (as ++ bs ++ cs) := by
  refine h.merge_congr ?_
  rw [List.flatMap_append, List.flatMap_cons, h.parts_merge hbs hgroup, List.flatMap_append,
    List.flatMap_append, List.append_assoc]

end Merges

/-- A disjunction of nodes that are not modified merges into an enclosing one. -/
theorem disjuncts_or_flatMap {ns : List Node} (h : ∀ n ∈ ns, n.isModified = false) :
    (Node.or (ns.flatMap disjuncts)).disjuncts = ns.flatMap disjuncts := by
  have hplain : ¬ (ns.flatMap disjuncts).any isModified = true := by
    intro hany
    obtain ⟨c, hc, hmod⟩ := List.any_eq_true.1 hany
    obtain ⟨n, hn, hc⟩ := List.mem_flatMap.1 hc
    -- only a modified node hands on a modified one
    obtain rfl := (mem_disjuncts_iff_of_isModified hmod).1 hc
    rw [h c hn] at hmod
    cases hmod
  rw [disjuncts, if_neg hplain]

end Node

/-- Clauses may be gathered in steps: always around `AND`, and otherwise if none of those gathered
first is modified. -/
theorem gathered_gathered (op : Option Operator) (as bs cs : List Node)
    (hbs : ∀ b ∈ bs, b.Canonical)
    (hplain : op ≠ some .and → ∀ b ∈ bs, b.isModified = false) :
    gathered op (as ++ gathered op bs :: cs) = gathered op (as ++ bs ++ cs) := by
  have hdisjoin (hor : op ≠ some .and) :
      Node.anyOf (as ++ Node.anyOf bs :: cs) = Node.anyOf (as ++ bs ++ cs) :=
    Node.disjunctions.merge_merge hbs (Node.disjuncts_or_flatMap (hplain hor))
  match op with
  | some .and => exact Node.conjunctions.merge_merge hbs rfl
  | some .or => exact hdisjoin (by simp)
  | none => exact hdisjoin (by simp)

/-! ## Three queries -/

/-- The two ways to put three clauses together in pairs, and all three at once. -/
theorem parse_three (op : Option Operator) (between : List Char)
    (hbetween : ∀ {cs ls}, Spells cs ls → Spells (between ++ cs) (op.toList.map .operator ++ ls))
    {q₁ q₂ q₃ : String} {n₁ n₂ n₃ : Node} (h₁ : parse q₁ = .ok n₁) (h₂ : parse q₂ = .ok n₂)
    (h₃ : parse q₃ = .ok n₃)
    (hplain : op ≠ some .and → ∀ n ∈ [n₁, n₂, n₃], n.isModified = false)
    {left right flat : String}
    (hleft : left.toList = '(' :: ('(' :: q₁.toList ++ ')' :: (between ++ '(' :: q₂.toList ++ [')'])) ++
      ')' :: (between ++ '(' :: q₃.toList ++ [')']))
    (hright : right.toList = '(' :: q₁.toList ++
      ')' :: (between ++ '(' :: ('(' :: q₂.toList ++ ')' :: (between ++ '(' :: q₃.toList ++ [')'])) ++
        [')']))
    (hflat : flat.toList = '(' :: q₁.toList ++
      ')' :: (between ++ '(' :: q₂.toList ++ ')' :: (between ++ '(' :: q₃.toList ++ [')']))) :
    parse left = .ok (gathered op [n₁, n₂, n₃]) ∧ parse right = .ok (gathered op [n₁, n₂, n₃]) ∧
      parse flat = .ok (gathered op [n₁, n₂, n₃]) := by
  have hcanon {q : String} {n : Node} (h : parse q = .ok n) : n.Canonical := by
    obtain ⟨_, _, hn⟩ := parse_eq_ok_iff.1 h
    exact canonical_of_compile hn
  have hpair {q r text : String} {n m : Node} (hq : parse q = .ok n) (hr : parse r = .ok m)
      (htext : text.toList = '(' :: q.toList ++ ')' :: (between ++ '(' :: r.toList ++ [')'])) :
      parse text = .ok (gathered op [n, m]) := by
    rw [← joined_eq_gathered]
    exact parse_joined op hq hr htext hbetween
  refine ⟨?_, ?_, ?_⟩
  · -- the pair is a query of its own, and its tree goes into the outer one as a part
    have hinner := hpair h₁ h₂ String.toList_ofList
    rw [hpair hinner h₃ (by rw [hleft, String.toList_ofList])]
    have hassoc := gathered_gathered op [] [n₁, n₂] [n₃]
      (by simp [hcanon h₁, hcanon h₂])
      fun hor b hb => hplain hor b (List.mem_append_left [n₃] hb)
    exact congrArg Except.ok hassoc
  · have hinner := hpair h₂ h₃ String.toList_ofList
    rw [hpair h₁ hinner (by rw [hright, String.toList_ofList])]
    have hassoc := gathered_gathered op [n₁] [n₂, n₃] []
      (by simp [hcanon h₂, hcanon h₃])
      fun hor b hb => hplain hor b (List.mem_cons_of_mem n₁ hb)
    exact congrArg Except.ok hassoc
  · exact parse_chain op h₁ [(q₂, n₂), (q₃, n₃)] (by simp [h₂, h₃])
      (by simpa using hflat) hbetween

/-- **Regrouping changes nothing.** Three queries in parentheses with `AND` between them have the
same tree whichever two are put in parentheses first, and so they have side by side, unless the tree
of one of them is a single modified clause. -/
theorem parse_regrouped {q₁ q₂ q₃ : String} {n₁ n₂ n₃ : Node} (h₁ : parse q₁ = .ok n₁)
    (h₂ : parse q₂ = .ok n₂) (h₃ : parse q₃ = .ok n₃) :
    (parse ("((" ++ q₁ ++ ") AND (" ++ q₂ ++ ")) AND (" ++ q₃ ++ ")") =
        .ok (Node.allOf [n₁, n₂, n₃]) ∧
      parse ("(" ++ q₁ ++ ") AND ((" ++ q₂ ++ ") AND (" ++ q₃ ++ "))") =
        .ok (Node.allOf [n₁, n₂, n₃]) ∧
      parse ("(" ++ q₁ ++ ") AND (" ++ q₂ ++ ") AND (" ++ q₃ ++ ")") =
        .ok (Node.allOf [n₁, n₂, n₃])) ∧
      (n₁.isModified = false → n₂.isModified = false → n₃.isModified = false →
        parse ("((" ++ q₁ ++ ") (" ++ q₂ ++ ")) (" ++ q₃ ++ ")") =
            .ok (Node.anyOf [n₁, n₂, n₃]) ∧
          parse ("(" ++ q₁ ++ ") ((" ++ q₂ ++ ") (" ++ q₃ ++ "))") =
            .ok (Node.anyOf [n₁, n₂, n₃]) ∧
          parse ("(" ++ q₁ ++ ") (" ++ q₂ ++ ") (" ++ q₃ ++ ")") =
            .ok (Node.anyOf [n₁, n₂, n₃])) := by
  refine ⟨?_, fun hm₁ hm₂ hm₃ => ?_⟩
  · exact parse_three (some .and) " AND ".toList (fun hs => hs.operatorBetween .and)
      h₁ h₂ h₃ (fun h => absurd rfl h) (by simp) (by simp) (by simp)
  · exact parse_three none [' '] (fun hs => .blank (by decide) hs) h₁ h₂ h₃
      (fun _ => by simp [hm₁, hm₂, hm₃]) (by simp) (by simp) (by simp)

/-- With `+a b`, which stays whole beside others, `c d`, which does not, and `e AND f`. -/
theorem parse_regrouped_modified_group :
    let n₁ : Node := .or [.required (.term "a"), .term "b"]
    let n₂ : Node := .or [.term "c", .term "d"]
    let n₃ : Node := .and [.term "e", .term "f"]
    parse "+a b" = .ok n₁ ∧ parse "c d" = .ok n₂ ∧ parse "e AND f" = .ok n₃ ∧
      n₁.isModified = false ∧ n₂.isModified = false ∧ n₃.isModified = false ∧
      Node.allOf [n₁, n₂, n₃] = .and [n₁, n₂, .term "e", .term "f"] ∧
      Node.anyOf [n₁, n₂, n₃] = .or [n₁, .term "c", .term "d", n₃] ∧
      (parse ("((" ++ "+a b" ++ ") AND (" ++ "c d" ++ ")) AND (" ++ "e AND f" ++ ")") =
          .ok (Node.allOf [n₁, n₂, n₃]) ∧
        parse ("(" ++ "+a b" ++ ") AND ((" ++ "c d" ++ ") AND (" ++ "e AND f" ++ "))") =
          .ok (Node.allOf [n₁, n₂, n₃]) ∧
        parse ("(" ++ "+a b" ++ ") AND (" ++ "c d" ++ ") AND (" ++ "e AND f" ++ ")") =
          .ok (Node.allOf [n₁, n₂, n₃])) ∧
      parse ("((" ++ "+a b" ++ ") (" ++ "c d" ++ ")) (" ++ "e AND f" ++ ")") =
        .ok (Node.anyOf [n₁, n₂, n₃]) ∧
      parse ("(" ++ "+a b" ++ ") ((" ++ "c d" ++ ") (" ++ "e AND f" ++ "))") =
        .ok (Node.anyOf [n₁, n₂, n₃]) ∧
      parse ("(" ++ "+a b" ++ ") (" ++ "c d" ++ ") (" ++ "e AND f" ++ ")") =
        .ok (Node.anyOf [n₁, n₂, n₃]) :=
  have h₁ := Node.eq_ok_of_toOption (by decide +kernel)
  have h₂ := Node.eq_ok_of_toOption (by decide +kernel)
  have h₃ := Node.eq_ok_of_toOption (by decide +kernel)
  have h := parse_regrouped h₁ h₂ h₃
  ⟨h₁, h₂, h₃, rfl, rfl, rfl, rfl, rfl, h.1, h.2 rfl rfl rfl⟩

end TextQuery.Query
