import TextQuery.Proofs.Trees

/-!
# Two versions of a group

Two runs that have read different lexemes can go on with groups that differ in what they hold and
agree in what they accept:

* `Group.read` — what a lexeme other than a parenthesis does to the innermost group. Two groups that
  accept the same lexemes read one alike (`Group.agree_read`).
* `Group.Apart` — the versions accept the same lexemes and their trees stay different, whatever is
  added to both. Clauses, operators and the end of the group keep it (`Apart.read`, `Apart.close`),
  and different clauses bring it about (`apart_addClause`).
* `Group.Split` — in one version the conjunction has ended. The next clause makes the versions equal
  (`Split.addClause_some_eq`) or sets them apart (`Split.addClause_some_apart`).
-/

namespace TextQuery.Query

/-! ## Reading a lexeme -/

/-- The lexeme is a clause by itself, and `c` is what comes of it. -/
inductive Lexeme.Clause : Lexeme → Option Node → Prop where
  | word (text : String) : Clause (.word text) (compileWord text)
  | phrase {content : String} {n : Node} (hn : compilePhrase content = some n) :
      Clause (.phrase content) (some n)

theorem Lexeme.Clause.canonical {l : Lexeme} {c : Option Node} (h : l.Clause c) :
    ∀ n ∈ c, n.Canonical := by
  cases h with
  | word text => exact fun n hn => canonical_of_compileWord hn
  | phrase hn =>
    intro n hmem
    obtain rfl := Option.some.inj hmem
    exact canonical_of_compilePhrase hn

namespace Group

/-- What a lexeme other than a parenthesis does to the innermost group. -/
def read (g : Group) (p : Placed) : Except Fault Group :=
  match p.lexeme with
  | .word text => .ok (g.addClause (compileWord text))
  | .phrase content =>
    match compilePhrase content with
    | some n => .ok (g.addClause (some n))
    | none => .error ⟨.emptyPhrase, some p.offset⟩
  | .modifier m => g.addModifier m p.offset
  | .operator op => g.addOperator op p.offset
  | .openParen | .closeParen => .ok g

/-- Two groups read a lexeme alike when they wait for the same modifier and the same operators: both
fail, or both take the lexeme in and are related the way it asks for. -/
theorem agree_read {g g' : Group} {Q : Group → Group → Prop} {p : Placed}
    (hopen : p.lexeme ≠ .openParen) (hclose : p.lexeme ≠ .closeParen)
    (hmodifier : g'.modifier = g.modifier)
    (hafter : ∀ op, p.lexeme = .operator op → g.modifier = none → g'.afterClause = g.afterClause)
    (hclause : ∀ c, p.lexeme.Clause c → Q (g.addClause c) (g'.addClause c))
    (hmod : ∀ m, p.lexeme = .modifier m →
      Q { g with modifier := some (m, p.offset) } { g' with modifier := some (m, p.offset) })
    (hand : p.lexeme = .operator .and →
      Q { g with joiner := some (.and, p.offset) } { g' with joiner := some (.and, p.offset) })
    (hor : p.lexeme = .operator .or →
      Q { g.flush with joiner := some (.or, p.offset) }
        { g'.flush with joiner := some (.or, p.offset) }) :
    Agree Eq Q (g.read p) (g'.read p) := by
  obtain ⟨lexeme, offset⟩ := p
  cases lexeme with
  | word text => exact .result (hclause _ (.word text))
  | phrase content =>
    simp only [read]
    cases hn : compilePhrase content with
    | none => exact .fault rfl
    | some n => exact .result (hclause _ (.phrase hn))
  | modifier m =>
    simp only [read, addModifier, hmodifier]
    cases g.modifier with
    | some mo => exact .fault rfl
    | none => exact .result (hmod m rfl)
  | operator op =>
    simp only [read, addOperator, hmodifier]
    cases hm : g.modifier with
    | some mo => exact .fault rfl
    | none =>
      -- no modifier waits, so the groups agree on whether an operator may come
      rw [hafter op rfl hm]
      cases g.afterClause with
      | false => exact .fault rfl
      | true =>
        cases op with
        | and => exact .result (by simpa only [hmodifier, hm] using hand rfl)
        | or => exact .result (by simpa only [flush, hmodifier, hm] using hor rfl)
  | openParen => exact absurd rfl hopen
  | closeParen => exact absurd rfl hclose

end Group

/-- A lexeme other than a parenthesis concerns the innermost group only. -/
theorem Stack.step_eq_read (s : Stack) {p : Placed} (hopen : p.lexeme ≠ .openParen)
    (hclose : p.lexeme ≠ .closeParen) :
    s.step p = (s.top.read p).map fun g => { s with top := g } := by
  obtain ⟨lexeme, offset⟩ := p
  cases lexeme with
  | phrase content =>
    simp only [step, Group.read]
    cases compilePhrase content <;> rfl
  | openParen => exact absurd rfl hopen
  | closeParen => exact absurd rfl hclose
  | _ => rfl

/-! ## A group whose two versions differ for good -/

namespace Group

/-- The group with more operands in its conjunction. -/
def extend (g : Group) (ns : List Node) : Group := { g with chain := g.chain ++ ns }

/-- The two versions take in the same lexemes, but whatever is added to both, their trees differ. -/
structure Apart (g g' : Group) : Prop where
  opened : g'.opened = g.opened
  modifier : g'.modifier = g.modifier
  joiner : g'.joiner = g.joiner
  hasClause : g'.hasClause = g.hasClause
  finished_ne_nil : g.finished ≠ []
  finished_ne_nil' : g'.finished ≠ []
  differ : ∀ ns bs, (∀ n ∈ ns ++ bs, n.Canonical) →
    Node.anyOf ((g.extend ns).finished ++ bs) ≠ Node.anyOf ((g'.extend ns).finished ++ bs)

/-- The alternative that the operands make up, none without operands. -/
def conjoined : List Node → List Node
  | [] => []
  | ns => [Node.allOf ns]

theorem conjoined_of_ne_nil {ns : List Node} (h : ns ≠ []) : conjoined ns = [Node.allOf ns] := by
  cases ns with
  | nil => exact absurd rfl h
  | cons n ns => rfl

theorem canonical_conjoined {ns : List Node} (h : ∀ n ∈ ns, n.Canonical) :
    ∀ n ∈ conjoined ns, n.Canonical := by
  cases ns with
  | nil => simp [conjoined]
  | cons n ns =>
    rw [conjoined_of_ne_nil (List.cons_ne_nil n ns)]
    simpa using Node.conjunctions.canonical_merge (List.cons_ne_nil n ns) h

/-- What a group holds is its alternatives and then its conjunction. -/
theorem finished_eq (g : Group) : g.finished = g.alternatives ++ conjoined g.chain := by
  by_cases h : g.chain = []
  · simp [finished_of_chain_nil h, h, conjoined]
  · rw [finished_of_chain_ne_nil h, conjoined_of_ne_nil h]

theorem finished_extend (g : Group) (ns : List Node) :
    (g.extend ns).finished = g.alternatives ++ conjoined (g.chain ++ ns) := finished_eq _

namespace Apart

variable {g g' : Group}

theorem continues (h : g.Apart g') : g'.continues = g.continues := by
  unfold Group.continues
  rw [h.joiner]

theorem modify (h : g.Apart g') (n : Node) : g'.modify n = g.modify n := by
  unfold Group.modify
  rw [h.modifier]

/-- The trees of the versions differ, whatever alternatives are still to come. -/
theorem anyOf_finished_ne (h : g.Apart g') {bs : List Node} (hbs : ∀ n ∈ bs, n.Canonical) :
    Node.anyOf (g.finished ++ bs) ≠ Node.anyOf (g'.finished ++ bs) := by
  have hnil (g : Group) : (g.extend []).finished = g.finished := by
    rw [finished_extend, List.append_nil, finished_eq]
  have := h.differ [] bs (by simpa using hbs)
  rwa [hnil, hnil] at this

end Apart

theorem modify_inj {g : Group} {n m : Node} (h : g.modify n = g.modify m) : n = m := by
  unfold modify at h
  split at h
  · exact h
  · next mo _ _ => cases mo <;> simpa [Modifier.apply] using h

/-- A kept clause is one more operand, or ends the conjunction and starts the next. -/
theorem finished_extend_addClause (g : Group) (n : Node) (ns : List Node) :
    ((g.addClause (some n)).extend ns).finished =
      if g.continues then (g.extend (g.modify n :: ns)).finished
      else g.finished ++ [Node.allOf (g.modify n :: ns)] := by
  rw [finished_extend, finished_extend, addClause_some]
  cases g.continues with
  | true => simp
  | false => simp [conjoined]

/-- A clause for both keeps the two versions apart, since `differ` allows for any clauses and
alternatives that both get. -/
theorem Apart.addClause {g g' : Group} (h : g.Apart g') {c : Option Node}
    (hc : ∀ n ∈ c, n.Canonical) : (g.addClause c).Apart (g'.addClause c) := by
  cases c with
  | none => exact { h with modifier := rfl, joiner := rfl, hasClause := rfl }
  | some n =>
    have hk : (g.modify n).Canonical := canonical_modify (hc n rfl)
    refine {
      opened := by simpa using h.opened
      modifier := rfl
      joiner := rfl
      hasClause := rfl
      finished_ne_nil := (addClause_finished_ne_nil g _).2 (.inr rfl)
      finished_ne_nil' := (addClause_finished_ne_nil g' _).2 (.inr rfl)
      differ := fun ns bs hall => ?_ }
    have hns : ∀ m ∈ ns, m.Canonical := fun m hm => hall m (List.mem_append_left _ hm)
    have hbs : ∀ m ∈ bs, m.Canonical := fun m hm => hall m (List.mem_append_right _ hm)
    have hkns : ∀ m ∈ g.modify n :: ns, m.Canonical := List.forall_mem_cons.2 ⟨hk, hns⟩
    rw [finished_extend_addClause, finished_extend_addClause, h.continues, h.modify]
    cases g.continues with
    | true =>
      -- the clause is one more operand of both
      refine h.differ (g.modify n :: ns) bs fun m hm => ?_
      rcases List.mem_append.1 hm with hm | hm
      · exact hkns m hm
      · exact hbs m hm
    | false =>
      -- the conjunction that it starts is one more alternative of both
      have hnext := Node.conjunctions.canonical_merge (List.cons_ne_nil _ _) hkns
      have := h.anyOf_finished_ne (List.forall_mem_cons.2 ⟨hnext, hbs⟩)
      simpa using this

/-- Ending the conjunction of both keeps the two versions apart. -/
theorem Apart.flush {g g' : Group} (h : g.Apart g') (joiner : Option (Operator × Nat)) :
    Apart { g.flush with joiner := joiner } { g'.flush with joiner := joiner } := by
  refine { h with joiner := rfl, differ := fun ns bs hall => ?_ }
  -- what is still to come for the conjunction becomes an alternative of its own
  have hbs : ∀ m ∈ conjoined ns ++ bs, m.Canonical := by
    intro m hm
    rcases List.mem_append.1 hm with hm | hm
    · exact canonical_conjoined (fun k hk => hall k (List.mem_append_left _ hk)) m hm
    · exact hall m (List.mem_append_right _ hm)
  have := h.anyOf_finished_ne hbs
  simpa [finished_extend] using this

/-- Both versions read a lexeme alike and stay apart. -/
theorem Apart.read {g g' : Group} (h : g.Apart g') {p : Placed} (hopen : p.lexeme ≠ .openParen)
    (hclose : p.lexeme ≠ .closeParen) : Agree Eq Apart (g.read p) (g'.read p) := by
  refine agree_read hopen hclose h.modifier ?after (fun c hc => h.addClause hc.canonical)
    (fun m _ => { h with modifier := rfl }) (fun _ => { h with joiner := rfl }) (fun _ => h.flush _)
  case after =>
    intro op _ _
    unfold afterClause
    rw [h.hasClause, h.joiner]

theorem Apart.fault? {g g' : Group} (h : g.Apart g') : g'.fault? = g.fault? := by
  unfold Group.fault?
  rw [h.modifier, h.joiner, h.hasClause, h.opened]

/-- The two versions have trees, and these differ. -/
theorem Apart.exists_trees {g g' : Group} (h : g.Apart g') :
    ∃ n n', g.tree? = some n ∧ g'.tree? = some n' ∧ n ≠ n' := by
  have hne := h.anyOf_finished_ne (List.forall_mem_nil _)
  rw [List.append_nil, List.append_nil] at hne
  exact ⟨_, _, tree?_of_ne_nil h.finished_ne_nil, tree?_of_ne_nil h.finished_ne_nil', hne⟩

/-- Both versions end alike, each with its tree. -/
theorem Apart.close {g g' : Group} (h : g.Apart g') :
    Agree Eq (fun c c' => c = g.tree? ∧ c' = g'.tree?) g.close g'.close := by
  rw [close_eq, close_eq, h.fault?]
  cases g.fault? with
  | some fault => exact .fault rfl
  | none => exact .result ⟨rfl, rfl⟩

/-- Different clauses set a group apart. They stand at the same place of the last conjunction,
beside the same clauses, and merging cannot make them equal there. -/
theorem apart_addClause {g : Group} (hg : g.Canonical) {n m : Node} (hn : n.Canonical)
    (hm : m.Canonical) (hne : n ≠ m) : (g.addClause (some n)).Apart (g.addClause (some m)) := by
  -- the clause is an operand of the last conjunction, next to what the group has already
  obtain ⟨as, cs, hall, hfin⟩ : ∃ as cs, (∀ a ∈ as ++ cs, a.Canonical) ∧
      ∀ k ns, ((g.addClause (some k)).extend ns).finished =
        as ++ [Node.allOf (cs ++ g.modify k :: ns)] := by
    cases hcont : g.continues with
    | true =>
      refine ⟨g.alternatives, g.chain, hg, fun k ns => ?_⟩
      rw [finished_extend_addClause, hcont, if_pos rfl, finished_extend,
        conjoined_of_ne_nil (by simp)]
    | false =>
      refine ⟨g.finished, [], by simpa using hg.finished, fun k ns => ?_⟩
      rw [finished_extend_addClause, hcont]
      rfl
  refine {
    opened := by simp
    modifier := rfl
    joiner := rfl
    hasClause := rfl
    finished_ne_nil := (addClause_finished_ne_nil g _).2 (.inr rfl)
    finished_ne_nil' := (addClause_finished_ne_nil g _).2 (.inr rfl)
    differ := fun ns bs hnsbs heq => hne (modify_inj (g := g) ?_) }
  -- merging can be undone among canonical nodes only
  have hoperands {k : Node} (hk : k.Canonical) : ∀ a ∈ cs ++ g.modify k :: ns, a.Canonical := by
    intro a ha
    rcases List.mem_append.1 ha with ha | ha
    · exact hall a (List.mem_append_right _ ha)
    · rcases List.mem_cons.1 ha with rfl | ha
      · exact canonical_modify hk
      · exact hnsbs a (List.mem_append_left _ ha)
  have halternatives {k : Node} (hk : k.Canonical) :
      ∀ a ∈ as ++ Node.allOf (cs ++ g.modify k :: ns) :: bs, a.Canonical := by
    intro a ha
    rcases List.mem_append.1 ha with ha | ha
    · exact hall a (List.mem_append_left _ ha)
    · rcases List.mem_cons.1 ha with rfl | ha
      · exact Node.conjunctions.canonical_merge (by simp) (hoperands hk)
      · exact hnsbs a (List.mem_append_right _ ha)
  rw [hfin, hfin, List.append_assoc, List.append_assoc] at heq
  exact Node.conjunctions.eq_of_merge_eq (hoperands hn) (hoperands hm)
    (Node.disjunctions.eq_of_merge_eq (halternatives hn) (halternatives hm) heq)

end Group

/-! ## A group that is cut in two -/

namespace Group

/-- In the second version the conjunction has ended, in the first it may go on. The second version
can still wait for the clause behind its `OR`. -/
structure Split (joined : Bool) (g g' : Group) : Prop where
  opened : g'.opened = g.opened
  modifier : g'.modifier = g.modifier
  hasClause : g'.hasClause = g.hasClause
  chain : g'.chain = []
  alternatives : g'.alternatives = g.finished
  continues : g.continues = joined
  joiner : g'.joiner = g.joiner ∨ g.joiner = none ∧ ∃ place, g'.joiner = some (.or, place)

namespace Split

variable {joined : Bool} {g g' : Group}

/-- The version that was cut holds what the other one has finished, as the conjunction is one of its
alternatives. -/
theorem finished (h : g.Split joined g') : g'.finished = g.finished := by
  rw [finished_of_chain_nil h.chain, h.alternatives]

/-- The version that was cut goes on its conjunction, which is empty, only where an `AND` joins the
next clause. -/
theorem continues' (h : g.Split joined g') : g'.continues = joined := by
  rcases h.joiner with heq | ⟨hnone, place, hor⟩
  · rw [← h.continues]
    unfold Group.continues
    rw [heq]
  · rw [← h.continues]
    simp [Group.continues, hnone, hor]

theorem modify (h : g.Split joined g') (n : Node) : g'.modify n = g.modify n := by
  unfold Group.modify
  rw [h.modifier]

/-- A dropped clause leaves the group cut in two. -/
theorem addClause_none (h : g.Split joined g') :
    (g.addClause none).Split false (g'.addClause none) where
  opened := h.opened
  modifier := rfl
  hasClause := rfl
  chain := h.chain
  alternatives := h.alternatives
  continues := rfl
  joiner := .inl rfl

/-- A kept clause that does not continue the conjunction, or has none to continue, makes the two
versions equal. -/
theorem addClause_some_eq (h : g.Split joined g') (hcut : joined = false ∨ g.chain = []) (n : Node) :
    g'.addClause (some n) = g.addClause (some n) := by
  rw [addClause_some, addClause_some, h.continues, h.continues', h.modify, h.finished, h.opened,
    h.chain, h.alternatives]
  rcases hcut with rfl | hnil
  · simp
  · rw [hnil, finished_of_chain_nil hnil]

/-- A kept clause that continues a conjunction sets the two versions apart: in the one it joins the
clauses in front of the cut, in the other only those behind it. -/
theorem addClause_some_apart (h : g.Split true g') (hg : g.Canonical) (hne : g.chain ≠ [])
    {n : Node} (hn : n.Canonical) : (g.addClause (some n)).Apart (g'.addClause (some n)) := by
  refine {
    opened := by simpa using h.opened
    modifier := rfl
    joiner := rfl
    hasClause := rfl
    finished_ne_nil := (addClause_finished_ne_nil g _).2 (.inr rfl)
    finished_ne_nil' := (addClause_finished_ne_nil g' _).2 (.inr rfl)
    differ := fun ns bs hnsbs => ?_ }
  rw [finished_extend_addClause, finished_extend_addClause, h.continues, h.continues', h.modify,
    if_pos rfl, if_pos rfl, finished_extend, finished_extend, h.chain, h.alternatives,
    finished_of_chain_ne_nil hne, conjoined_of_ne_nil (by simp), conjoined_of_ne_nil (by simp)]
  -- the conjunction whole, and cut in two in front of the clause
  have hall : ∀ a ∈ g.chain ++ g.modify n :: ns, a.Canonical := by
    intro a ha
    rcases List.mem_append.1 ha with ha | ha
    · exact hg a (List.mem_append_right _ ha)
    · rcases List.mem_cons.1 ha with rfl | ha
      · exact canonical_modify hn
      · exact hnsbs a (List.mem_append_left _ ha)
  rw [List.append_assoc, List.append_assoc, List.append_assoc]
  exact Node.anyOf_split_ne hne hall

/-- Both versions close alike, with the same tree, unless one waits for an operator that the other
does not have. -/
theorem close_eq (h : g.Split joined g') (hwait : g'.joiner = g.joiner ∨ g.modifier ≠ none) :
    g'.close = g.close := by
  have htree : g'.tree? = g.tree? := by
    unfold tree?
    rw [h.finished]
  have hfault : g'.fault? = g.fault? := by
    unfold fault?
    rw [h.modifier, h.hasClause, h.opened]
    rcases hwait with hj | hm
    · rw [hj]
    · -- a waiting modifier is complained about before any operator
      cases hmod : g.modifier with
      | none => exact absurd hmod hm
      | some mo => rfl
  rw [Group.close_eq, Group.close_eq, htree, hfault]

end Split

end Group

end TextQuery.Query
