import Mathlib.Tactic.SplitIfs
import TextQuery.Proofs.Writing

/-!
# Reading a tree off its outline

An outline shows a tree in full: two trees with the same outline are the same.

* `Text.ToldApart` — two values are told apart by what is written for them, whatever is written
  behind. A list of such values is read off its text one after the other, up to something that is
  none of them (`Text.eq_of_flatMap_append`).
* `Text.QuotedAs` — the three ways to write a character between quotes. They tell characters apart
  (`Text.toldApart_quoteChar`), hence texts (`Text.toldApart_quote`) and lists of texts
  (`Text.quoteList_inj`).
* `Node.toldApart_line` — so it is with lines: the blanks in front of a line are its depth, and the
  end of a line is the only line end in it.
* `Node.outlineAll_append_inj` — the lines below a node are those behind its own that are deeper.
* `Node.display_inj` — the text gives the lines, and the lines give the tree.
-/

namespace TextQuery

/-! ## Texts told apart -/

namespace Text

/-- What is written for the two tells them apart, and from whatever is written behind. -/
def ToldApart {α : Type} (f : α → List Char) (a b : α) : Prop :=
  ∀ x y, f a ++ x = f b ++ y → a = b ∧ x = y

/-- The values of a list are read off one after the other, up to something that is no value.
Induction on the one list, for any other. -/
theorem eq_of_flatMap_append {α : Type} {f : α → List Char} {as bs : List α} {x y : List Char}
    (hf : ∀ a ∈ as, ∀ b ∈ bs, ToldApart f a b) (hx : ∀ b ∈ bs, ∀ z, x ≠ f b ++ z)
    (hy : ∀ a ∈ as, ∀ z, y ≠ f a ++ z) (h : as.flatMap f ++ x = bs.flatMap f ++ y) :
    as = bs ∧ x = y := by
  induction as generalizing bs with
  | nil =>
    cases bs with
    | nil => exact ⟨rfl, h⟩
    | cons b bs =>
      rw [List.flatMap_cons, List.append_assoc] at h
      exact absurd h (hx b List.mem_cons_self _)
  | cons a as ih =>
    rw [List.flatMap_cons, List.append_assoc] at h
    cases bs with
    | nil => exact absurd h.symm (hy a List.mem_cons_self _)
    | cons b bs =>
      rw [List.flatMap_cons, List.append_assoc] at h
      obtain ⟨rfl, hrest⟩ := hf a List.mem_cons_self b List.mem_cons_self _ _ h
      obtain ⟨rfl, rfl⟩ :=
        ih (fun c hc d hd => hf c (List.mem_cons_of_mem _ hc) d (List.mem_cons_of_mem _ hd))
          (fun d hd => hx d (List.mem_cons_of_mem _ hd))
          (fun c hc => hy c (List.mem_cons_of_mem _ hc)) hrest
      exact ⟨rfl, rfl⟩

/-- A text is read up to a mark that it does not hold. -/
theorem eq_of_append_mark {mark : Char} {as bs x y : List Char} (ha : mark ∉ as) (hb : mark ∉ bs)
    (h : as ++ mark :: x = bs ++ mark :: y) : as = bs ∧ x = y := by
  have hmark {cs z : List Char} (hcs : mark ∉ cs) : ∀ c ∈ cs, ∀ w, mark :: z ≠ [c] ++ w := by
    rintro c hc w heq
    obtain rfl := (List.cons.inj heq).1
    exact hcs hc
  have hflat : as.flatMap ([·]) ++ mark :: x = bs.flatMap ([·]) ++ mark :: y := by simpa using h
  obtain ⟨hcs, hmore⟩ := eq_of_flatMap_append
    (fun _ _ _ _ _ _ heq => List.cons.inj heq) (hmark hb) (hmark ha) hflat
  exact ⟨hcs, (List.cons.inj hmore).2⟩

/-- A text that begins with a run of one character determines how long the run is, if what follows
begins with another one. -/
theorem eq_of_replicate_append {c : Char} {k l : Nat} {x y : List Char} (hx : x.head? ≠ some c)
    (hy : y.head? ≠ some c) (h : List.replicate k c ++ x = List.replicate l c ++ y) :
    k = l ∧ x = y := by
  induction k generalizing l with
  | zero =>
    cases l with
    | zero => exact ⟨rfl, h⟩
    | succ l =>
      rw [List.replicate_succ] at h
      exact absurd (congrArg List.head? h) hx
  | succ k ih =>
    cases l with
    | zero =>
      rw [List.replicate_succ] at h
      exact absurd (congrArg List.head? h).symm hy
    | succ l =>
      rw [List.replicate_succ, List.replicate_succ] at h
      obtain ⟨rfl, rfl⟩ := ih (List.cons.inj h).2
      exact ⟨rfl, rfl⟩

/-! ### Quoted characters -/

/-- A hexadecimal number is written in the sixteen digits. -/
theorem exists_digitChar_of_mem_hexDigits {k : Nat} {c : Char} (h : c ∈ hexDigits k) :
    ∃ d < 16, c = Nat.digitChar d := by
  unfold hexDigits at h
  induction k using Nat.strongRecOn with
  | ind k ih =>
    rw [Nat.toDigits_eq_if (by decide)] at h
    split at h
    · next hk => exact ⟨k, hk, List.mem_singleton.1 h⟩
    · next hk =>
      rcases List.mem_append.1 h with h | h
      · exact ih (k / 16) (by omega) h
      · exact ⟨k % 16, by omega, List.mem_singleton.1 h⟩

theorem digitChar_inj : ∀ d < 16, ∀ e < 16, Nat.digitChar d = Nat.digitChar e → d = e := by decide

theorem singleton_ne_toDigits_append {k : Nat} {c d : Char} : [c] ≠ Nat.toDigits 16 k ++ [d] := by
  intro h
  have hlength := congrArg List.length h
  have hpos : 0 < (Nat.toDigits 16 k).length := Nat.length_toDigits_pos
  rw [List.length_append, List.length_singleton, List.length_singleton] at hlength
  omega

/-- A number is determined by its hexadecimal digits: the last of them is its remainder, and those
in front are the digits of the quotient. -/
theorem hexDigits_inj {k l : Nat} (h : hexDigits k = hexDigits l) : k = l := by
  unfold hexDigits at h
  induction k using Nat.strongRecOn generalizing l with
  | ind k ih =>
    rw [Nat.toDigits_eq_if (by decide), Nat.toDigits_eq_if (n := l) (by decide)] at h
    split_ifs at h with hk hl hl
    · exact digitChar_inj k hk l hl (List.singleton_inj.1 h)
    · exact absurd h singleton_ne_toDigits_append
    · exact absurd h.symm singleton_ne_toDigits_append
    · -- both numbers have two digits or more
      obtain ⟨hfront, hlast⟩ := List.append_singleton_inj.1 h
      have hdiv := ih (k / 16) (by omega) hfront
      have hmod := digitChar_inj (k % 16) (by omega) (l % 16) (by omega) hlast
      omega

/-- The characters with an escape of two characters, and what stands behind the backslash. -/
def shortEscapes : List (Char × Char) :=
  [('\x00', '0'), ('\t', 't'), ('\r', 'r'), ('\n', 'n'), ('"', '"'), ('\\', '\\')]

/-- The three ways to write a character between quotes. -/
inductive QuotedAs (c : Char) : List Char → Prop where
  | plain (hc : ∀ p ∈ shortEscapes, c ≠ p.1) : QuotedAs c [c]
  | short {k : Char} (hk : (c, k) ∈ shortEscapes) : QuotedAs c ['\\', k]
  | code : QuotedAs c ('\\' :: 'u' :: '\x7b' :: (hexDigits c.toNat ++ ['\x7d']))

/-- A character is quoted in one of the three ways. Cases as in `quoteChar`. -/
theorem quotedAs_quoteChar (c : Char) : QuotedAs c (quoteChar c) := by
  have hzero : c.toNat = 0 ↔ c = '\x00' := Char.toNat_inj (d := '\x00')
  simp only [quoteChar, beq_iff_eq, hzero]
  split_ifs with h0 ht hr hn hq hb hv
  · exact .short (by simp [shortEscapes, h0])
  · exact .short (by simp [shortEscapes, ht])
  · exact .short (by simp [shortEscapes, hr])
  · exact .short (by simp [shortEscapes, hn])
  · exact .short (by simp [shortEscapes, hq])
  · exact .short (by simp [shortEscapes, hb])
  · exact .plain (by simp [shortEscapes, h0, ht, hr, hn, hq, hb])
  · exact .code

/-- A character that is no digit does not stand in a hexadecimal number, so a mark behind the number
shows where it ends. -/
theorem mark_not_mem_hexDigits {c : Char} (hc : ∀ d < 16, c ≠ Nat.digitChar d) (k : Nat) :
    c ∉ hexDigits k := by
  intro hmem
  obtain ⟨d, hd, heq⟩ := exists_digitChar_of_mem_hexDigits hmem
  exact hc d hd heq

namespace QuotedAs

variable {c d : Char} {as bs : List Char}

/-- An escape starts with a backslash, goes on with a letter of its own and, if it is a code, ends
with a brace. -/
theorem append_inj {x y : List Char} (hc : QuotedAs c as) (hd : QuotedAs d bs)
    (h : as ++ x = bs ++ y) : c = d ∧ x = y := by
  -- a backslash itself is escaped, so a plain character is none
  have hback {c : Char} (hc : ∀ p ∈ shortEscapes, c ≠ p.1) : c ≠ '\\' :=
    hc ('\\', '\\') (by decide)
  have hletter {c : Char} : (c, 'u') ∉ shortEscapes := by simp [shortEscapes]
  cases hc with
  | plain hc =>
    cases hd with
    | plain hd => exact List.cons.inj h
    | short hd => exact absurd (List.cons.inj h).1 (hback hc)
    | code => exact absurd (List.cons.inj h).1 (hback hc)
  | short hc =>
    cases hd with
    | plain hd => exact absurd (List.cons.inj h).1.symm (hback hd)
    | short hd =>
      obtain ⟨rfl, hrest⟩ := List.cons.inj (List.cons.inj h).2
      have hsame : ∀ p ∈ shortEscapes, ∀ q ∈ shortEscapes, p.2 = q.2 → p.1 = q.1 := by decide
      exact ⟨hsame _ hc _ hd rfl, hrest⟩
    | code =>
      obtain ⟨rfl, -⟩ := List.cons.inj (List.cons.inj h).2
      exact absurd hc hletter
  | code =>
    cases hd with
    | plain hd => exact absurd (List.cons.inj h).1.symm (hback hd)
    | short hd =>
      obtain ⟨rfl, -⟩ := List.cons.inj (List.cons.inj h).2
      exact absurd hd hletter
    | code =>
      have hbrace := mark_not_mem_hexDigits (c := '\x7d') (by decide)
      have hdigits : hexDigits c.toNat ++ '\x7d' :: x = hexDigits d.toNat ++ '\x7d' :: y := by
        simpa using h
      obtain ⟨hcode, hrest⟩ := eq_of_append_mark (hbrace _) (hbrace _) hdigits
      exact ⟨Char.toNat_inj.1 (hexDigits_inj hcode), hrest⟩

theorem not_quote_append (hc : QuotedAs c as) (x z : List Char) : '"' :: x ≠ as ++ z := by
  intro h
  cases hc with
  | plain hc => exact hc ('"', '"') (by decide) (List.cons.inj h).1.symm
  | short hk => exact absurd (List.cons.inj h).1 (by decide)
  | code => exact absurd (List.cons.inj h).1 (by decide)

theorem lineEnd_not_mem (hc : QuotedAs c as) : '\n' ∉ as := by
  intro h
  cases hc with
  | plain hc => exact hc ('\n', 'n') (by decide) (List.mem_singleton.1 h).symm
  | @short k hk =>
    have hnone : ∀ p ∈ shortEscapes, '\n' ∉ ['\\', p.2] := by decide
    exact hnone _ hk h
  | code =>
    have hdigits := mark_not_mem_hexDigits (c := '\n') (by decide) c.toNat
    simp [hdigits] at h

end QuotedAs

theorem toldApart_quoteChar (c d : Char) : ToldApart quoteChar c d :=
  fun _ _ => (quotedAs_quoteChar c).append_inj (quotedAs_quoteChar d)

/-! ### Quoted texts -/

theorem toList_quote (s : String) :
    (quote s).toList = '"' :: (s.toList.flatMap quoteChar ++ ['"']) := by
  rw [quote, String.toList_ofList, List.cons_append]

/-- Quoted texts are told apart whatever follows: the characters are read one by one up to the quote
that closes the text. -/
theorem toldApart_quote (s t : String) : ToldApart (fun s => (quote s).toList) s t := by
  intro x y h
  simp only [toList_quote, List.cons_append, List.append_assoc] at h
  -- the closing quote is not taken for a character of the text
  have hend (z cs : List Char) : ∀ c ∈ cs, ∀ w, '"' :: z ≠ quoteChar c ++ w :=
    fun c _ => (quotedAs_quoteChar c).not_quote_append z
  obtain ⟨htext, hrest⟩ := eq_of_flatMap_append (fun c _ d _ => toldApart_quoteChar c d)
    (hend x t.toList) (hend y s.toList) (List.cons.inj h).2
  exact ⟨String.toList_inj.1 htext, (List.cons.inj hrest).2⟩

theorem lineEnd_not_mem_quote (s : String) : '\n' ∉ (quote s).toList := by
  have hbody : '\n' ∉ s.toList.flatMap quoteChar := by
    intro h
    obtain ⟨c, -, hc⟩ := List.mem_flatMap.1 h
    exact (quotedAs_quoteChar c).lineEnd_not_mem hc
  simp [toList_quote, hbody]

/-- The characters of a list of quoted words, with a comma in front of every word but the first. -/
theorem toList_quoteList_cons (w : String) (ws : List String) :
    (quoteList (w :: ws)).toList = '[' :: ((quote w).toList ++
      (ws.flatMap (fun w => ", ".toList ++ (quote w).toList) ++ [']'])) := by
  simp [quoteList, Query.intercalate_cons, List.flatMap_map]

theorem quoteList_nil_ne (w : String) (ws : List String) : quoteList [] ≠ quoteList (w :: ws) := by
  intro h
  have htext := congrArg String.toList h
  rw [toList_quoteList_cons, toList_quote] at htext
  simp [quoteList] at htext

/-- A list of words is determined by its quoted form. The first word is told apart from the rest,
and the others are read with the commas in front of them up to the bracket. -/
theorem quoteList_inj {ws vs : List String} (h : quoteList ws = quoteList vs) : ws = vs := by
  cases ws with
  | nil =>
    cases vs with
    | nil => rfl
    | cons v vs => exact absurd h (quoteList_nil_ne v vs)
  | cons w ws =>
    cases vs with
    | nil => exact absurd h.symm (quoteList_nil_ne w ws)
    | cons v vs =>
      have htext := congrArg String.toList h
      rw [toList_quoteList_cons, toList_quoteList_cons] at htext
      obtain ⟨rfl, hmore⟩ := toldApart_quote w v _ _ (List.cons.inj htext).2
      -- every further word has a comma in front, which no bracket is
      have hapart (w v : String) : ToldApart (fun w => ", ".toList ++ (quote w).toList) w v := by
        intro x y heq
        rw [List.append_assoc, List.append_assoc] at heq
        exact toldApart_quote w v x y (List.append_cancel_left heq)
      have hend (us : List String) :
          ∀ u ∈ us, ∀ z, [']'] ≠ (", ".toList ++ (quote u).toList) ++ z := by
        simp
      obtain ⟨rfl, -⟩ :=
        eq_of_flatMap_append (fun w _ v _ => hapart w v) (hend vs) (hend ws) hmore
      rfl

theorem lineEnd_not_mem_quoteList (ws : List String) : '\n' ∉ (quoteList ws).toList := by
  cases ws with
  | nil => decide
  | cons w ws =>
    rw [toList_quoteList_cons]
    simp [lineEnd_not_mem_quote]

end Text

open Text (ToldApart quote quoteList)

namespace Query.Node

/-! ## Nodes as lines -/

/-- What the line of a node says. -/
def label : Node → String
  | .term text => "Term(" ++ quote text ++ ")"
  | .phrase words => "Phrase(" ++ quoteList words ++ ")"
  | .and _ => "And"
  | .or _ => "Or"
  | .not _ => "Not"
  | .required _ => "Required"

/-- The nodes right below a node, in order. -/
def children : Node → List Node
  | .term _ | .phrase _ => []
  | .and ns | .or ns => ns
  | .not n | .required n => [n]

/-- The outline of nodes side by side: the line of the first, the lines of its children one level
deeper, and those of the other nodes. -/
theorem outlineAll_cons (depth : Nat) (n : Node) (ns : List Node) :
    outlineAll depth (n :: ns) =
      (depth, n.label) :: (outlineAll (depth + 1) n.children ++ outlineAll depth ns) := by
  rw [outlineAll, ← List.cons_append]
  congr 1
  cases n <;> simp [outline, label, children, outlineAll]

/-- A node is its line and what is below it. The line tells the kind of the node, and the texts of a
leaf; everything else is in the children. -/
theorem eq_of_label {n m : Node} (hlabel : n.label = m.label)
    (hchildren : n.children = m.children) : n = m := by
  -- the first letter tells the six kinds of nodes apart
  have hletter : n.label.toList.head? = m.label.toList.head? := by rw [hlabel]
  cases n with
  | term text =>
    cases m with
    | term text' =>
      have htext : (quote text).toList ++ [')'] = (quote text').toList ++ [')'] := by
        simpa [label, String.ext_iff] using hlabel
      exact congrArg Node.term (Text.toldApart_quote _ _ _ _ htext).1
    | _ => simp [label] at hletter
  | phrase words =>
    cases m with
    | phrase words' =>
      have hwords : quoteList words = quoteList words' := by
        simpa [label, String.ext_iff] using hlabel
      exact congrArg Node.phrase (Text.quoteList_inj hwords)
    | _ => simp [label] at hletter
  | and ns =>
    cases m with
    | and ms => exact congrArg Node.and hchildren
    | _ => simp [label] at hletter
  | or ns =>
    cases m with
    | or ms => exact congrArg Node.or hchildren
    | _ => simp [label] at hletter
  | not n =>
    cases m with
    | not m => exact congrArg Node.not (List.singleton_inj.1 hchildren)
    | _ => simp [label] at hletter
  | required n =>
    cases m with
    | required m => exact congrArg Node.required (List.singleton_inj.1 hchildren)
    | _ => simp [label] at hletter

theorem lineEnd_not_mem_label (n : Node) : '\n' ∉ n.label.toList := by
  cases n with
  | term text => simp [label, Text.lineEnd_not_mem_quote]
  | phrase words => simp [label, Text.lineEnd_not_mem_quoteList]
  | _ => simp [label]

/-- The label of a node does not begin with a blank, so that the blanks in front of it show its
depth. -/
theorem head?_label_ne (n : Node) (cs : List Char) : (n.label.toList ++ cs).head? ≠ some ' ' := by
  cases n <;> simp [label]

/-- The characters of a line: two blanks for each level, the text, and the line feed. -/
theorem toList_outlineLine (depth : Nat) (text : String) :
    (outlineLine (depth, text)).toList =
      List.replicate (2 * depth) ' ' ++ (text.toList ++ ['\n']) := by
  -- core has no lemma on `pushn` as a list
  have hblanks (k : Nat) : ("".pushn ' ' k).toList = List.replicate k ' ' := by
    rw [String.pushn_eq_repeat_push]
    induction k with
    | zero => rfl
    | succ k ih => rw [Nat.repeat, String.toList_push, ih, List.replicate_succ']
  simp [outlineLine, hblanks]

/-- Lines of nodes are told apart, depth and label both. The blanks end where the label begins, and
the label where the line ends. -/
theorem toldApart_line (depth depth' : Nat) (n m : Node) :
    ToldApart (fun line => (outlineLine line).toList) (depth, n.label) (depth', m.label) := by
  intro x y h
  simp only [toList_outlineLine, List.append_assoc] at h
  obtain ⟨hdepth, hline⟩ := Text.eq_of_replicate_append (head?_label_ne n _) (head?_label_ne m _) h
  obtain ⟨hlabel, hrest⟩ :=
    Text.eq_of_append_mark (lineEnd_not_mem_label n) (lineEnd_not_mem_label m) hline
  obtain rfl : depth = depth' := by omega
  exact ⟨by rw [String.toList_inj.1 hlabel], hrest⟩

/-! ## The tree of an outline -/

/-- Induction over forests: over the nodes below the first one and over those beside it. It goes
along the lines of an outline. -/
@[elab_as_elim]
theorem forestInduction {motive : List Node → Prop} (nil : motive [])
    (cons : ∀ n ns, motive n.children → motive ns → motive (n :: ns)) (ns : List Node) :
    motive ns := by
  -- for the nodes of one list, with their children already done
  have hforest (ns : List Node) (h : ∀ n ∈ ns, motive n.children) : motive ns := by
    induction ns with
    | nil => exact nil
    | cons n ns ih =>
      exact cons n ns (h n List.mem_cons_self) (ih fun m hm => h m (List.mem_cons_of_mem _ hm))
  have hnode (n : Node) : motive n.children := by
    induction n using childInduction with
    | term text => exact nil
    | phrase words => exact nil
    | and ns ih => exact hforest ns ih
    | or ns ih => exact hforest ns ih
    | not n ih => exact hforest [n] (by simpa using ih)
    | required n ih => exact hforest [n] (by simpa using ih)
  exact hforest ns fun n _ => hnode n

/-- The lines start, if there are any, with one that is less deep. -/
def Shallow (depth : Nat) (lines : List (Nat × String)) : Prop :=
  ∀ line ∈ lines.head?, line.1 < depth

/-- Behind the nodes of a depth may stand lines that are not deeper. -/
theorem shallow_outlineAll_append {depth : Nat} {lines : List (Nat × String)}
    (h : Shallow depth lines) (ns : List Node) :
    Shallow (depth + 1) (outlineAll depth ns ++ lines) := by
  intro line hline
  cases ns with
  | nil =>
    have := h line hline
    omega
  | cons n ns =>
    rw [outlineAll_cons] at hline
    obtain rfl := Option.some.inj hline
    show depth < depth + 1
    omega

/-- The first line of nodes is at their depth, which is too deep for the nodes around them. -/
theorem not_shallow_outlineAll_cons (depth : Nat) (n : Node) (ns : List Node)
    (lines : List (Nat × String)) : ¬Shallow depth (outlineAll depth (n :: ns) ++ lines) := by
  intro h
  rw [outlineAll_cons] at h
  exact absurd (h _ rfl) (Nat.lt_irrefl depth)

/-- The nodes of a forest are read off its lines, up to a line that is less deep. Induction on the
forest: the first line is that of the first node, the deeper ones behind it are its children, and
the rest are the nodes beside it. -/
theorem outlineAll_append_inj {ns ms : List Node} {depth : Nat} {x y : List (Nat × String)}
    (hx : Shallow depth x) (hy : Shallow depth y)
    (h : outlineAll depth ns ++ x = outlineAll depth ms ++ y) : ns = ms ∧ x = y := by
  induction ns using forestInduction generalizing ms depth x y with
  | nil =>
    cases ms with
    | nil => exact ⟨rfl, h⟩
    | cons m ms =>
      obtain rfl : x = outlineAll depth (m :: ms) ++ y := h
      exact absurd hx (not_shallow_outlineAll_cons depth m ms y)
  | cons n ns below beside =>
    cases ms with
    | nil =>
      obtain rfl : outlineAll depth (n :: ns) ++ x = y := h
      exact absurd hy (not_shallow_outlineAll_cons depth n ns x)
    | cons m ms =>
      rw [outlineAll_cons, outlineAll_cons, List.cons_append, List.cons_append,
        List.append_assoc, List.append_assoc] at h
      obtain ⟨hline, hbelow⟩ := List.cons.inj h
      -- what follows the lines below the first node is no deeper than the node itself
      obtain ⟨hchildren, hbeside⟩ :=
        below (shallow_outlineAll_append hx ns) (shallow_outlineAll_append hy ms) hbelow
      obtain ⟨rfl, rfl⟩ := beside hx hy hbeside
      obtain rfl := eq_of_label (Prod.mk.inj hline).2 hchildren
      exact ⟨rfl, rfl⟩

theorem exists_label_of_mem_outlineAll {ns : List Node} {depth : Nat} {line : Nat × String}
    (h : line ∈ outlineAll depth ns) : ∃ depth' n, line = (depth', label n) := by
  induction ns using forestInduction generalizing depth with
  | nil => cases h
  | cons n ns below beside =>
    rw [outlineAll_cons, List.mem_cons, List.mem_append] at h
    rcases h with rfl | h | h
    · exact ⟨depth, n, rfl⟩
    · exact below h
    · exact beside h

/-- The text of an outline is read line by line, up to its end. Lines of nodes are told apart, and
the end of the text is none. -/
theorem eq_of_outlineLines {ns ms : List Node} {depth : Nat}
    (h : (outlineAll depth ns).flatMap (fun line => (outlineLine line).toList) =
      (outlineAll depth ms).flatMap fun line => (outlineLine line).toList) :
    outlineAll depth ns = outlineAll depth ms := by
  -- only lines of nodes need to be told apart, not any pairs of a depth and a text
  have hapart : ∀ line ∈ outlineAll depth ns, ∀ line' ∈ outlineAll depth ms,
      ToldApart (fun line => (outlineLine line).toList) line line' := by
    intro line hline line' hline'
    obtain ⟨d, n, rfl⟩ := exists_label_of_mem_outlineAll hline
    obtain ⟨d', m, rfl⟩ := exists_label_of_mem_outlineAll hline'
    exact toldApart_line d d' n m
  have hend (lines : List (Nat × String)) :
      ∀ line ∈ lines, ∀ z, [] ≠ (outlineLine line).toList ++ z := by
    rintro ⟨d, text⟩ - z
    simp [toList_outlineLine]
  refine (Text.eq_of_flatMap_append hapart (hend _) (hend _) ?_).1
  rw [h]

theorem toList_display (n : Node) :
    n.display.toList = (outlineAll 0 [n]).flatMap fun line => (outlineLine line).toList := by
  simp [display, outlineAll, String.toList_join, List.flatMap_map]

/-- **An outline shows the whole tree.** Trees with the same outline are the same, whatever texts
and groups they are made of, empty ones included. -/
theorem display_inj {n m : Node} : n.display = m.display ↔ n = m := by
  constructor
  · intro h
    have htext := congrArg String.toList h
    rw [toList_display, toList_display] at htext
    have hend : Shallow 0 [] := nofun
    have hforest : [n] = [m] :=
      (outlineAll_append_inj hend hend (congrArg (· ++ []) (eq_of_outlineLines htext))).1
    exact List.singleton_inj.1 hforest
  · rintro rfl
    rfl

end Query.Node

end TextQuery
