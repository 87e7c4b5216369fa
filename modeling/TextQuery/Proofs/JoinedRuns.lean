import Mathlib.Data.List.TakeWhile
import TextQuery.Proofs.Concatenation

/-!
# The runs of joined tokens

Compounds are the maximal joined runs of a list of tokens, whatever tokens these are: the list may
be what is left of a stream that was read before, and start with a joined token.

* `JoinedRuns` — what it is to be these runs: four properties of a list of lists.
* `joinedRuns_compounds` — compounds have them. The first property is that nothing is lost; the
  others come run by run (`joined_of_mem_compounds`, `not_joined_of_mem_compounds`).
* `JoinedRuns.eq_compounds` — nothing else has them: the first run ends where it has to, and what is
  behind it is cut on its own (`compounds_append`).
-/

namespace TextQuery

/-- The lists are the maximal joined runs of the tokens. -/
structure JoinedRuns (ts : List Token) (runs : List (List Token)) : Prop where
  flatten : runs.flatten = ts
  ne_nil : ∀ run ∈ runs, run ≠ []
  /-- A run goes on with joined tokens only. -/
  joined : ∀ run ∈ runs, ∀ t ∈ run.tail, t.joined = true
  /-- A run behind another one starts with a token that is not joined, else the two would be one. -/
  parted : ∀ run ∈ runs.tail, ∀ t ∈ run.head?, t.joined = false

theorem joined_of_mem_compounds {ts : List Token} {c : Compound} (hc : c ∈ compounds ts) {t : Token}
    (ht : t ∈ c.tail) : t.joined = true := by
  fun_induction compounds ts with
  | case1 => cases hc
  | case2 u us ih =>
    rcases List.mem_cons.1 hc with rfl | hc
    · exact List.mem_takeWhile_imp ht
    · exact ih hc

theorem not_joined_of_head_dropWhile (ts : List Token) :
    ∀ t ∈ (ts.dropWhile Token.joined).head?, t.joined = false := by
  intro t ht
  have := List.head?_dropWhile_not Token.joined ts
  rw [Option.mem_def] at ht
  simpa [ht] using this

/-- If the first token is not joined, no compound starts with a joined one: it would have gone to
the compound before it. -/
theorem not_joined_of_mem_compounds {ts : List Token} (h : ∀ t ∈ ts.head?, t.joined = false)
    {c : Compound} (hc : c ∈ compounds ts) : c.head.joined = false := by
  fun_induction compounds ts with
  | case1 => cases hc
  | case2 u us ih =>
    rcases List.mem_cons.1 hc with rfl | hc
    · exact h u rfl
    · exact ih (not_joined_of_head_dropWhile us) hc

/-- The compounds have the four properties. They hold all tokens, none is empty, and two that follow
each other are parted by a token that is not joined. -/
theorem joinedRuns_compounds (ts : List Token) :
    JoinedRuns ts ((compounds ts).map Compound.tokens) where
  flatten := by
    rw [← List.flatMap_def]
    exact Query.flatMap_tokens_compounds ts
  ne_nil := by
    intro run hrun
    obtain ⟨c, -, rfl⟩ := List.mem_map.1 hrun
    exact List.cons_ne_nil _ _
  joined := by
    intro run hrun t ht
    obtain ⟨c, hc, rfl⟩ := List.mem_map.1 hrun
    exact joined_of_mem_compounds hc ht
  parted := by
    intro run hrun t ht
    cases ts with
    | nil => simp [compounds] at hrun
    | cons u us =>
      -- every compound but the first starts where a joined run stopped
      rw [compounds, List.map_cons, List.tail_cons] at hrun
      obtain ⟨c, hc, rfl⟩ := List.mem_map.1 hrun
      obtain rfl : c.head = t := Option.some.inj ht
      exact not_joined_of_mem_compounds (not_joined_of_head_dropWhile us) hc

/-- Nothing else has the four properties. Induction on the runs: the first run ends where the first
compound does, since behind it comes a token that is not joined. -/
theorem JoinedRuns.eq_compounds {ts : List Token} {runs : List (List Token)}
    (h : JoinedRuns ts runs) : runs = (compounds ts).map Compound.tokens := by
  induction runs generalizing ts with
  | nil =>
    obtain rfl : [] = ts := h.flatten
    simp [compounds]
  | cons run runs ih =>
    obtain ⟨t, us, rfl⟩ := List.exists_cons_of_ne_nil (h.ne_nil run List.mem_cons_self)
    have hfirst : compounds (t :: us) = [⟨t, us⟩] :=
      compounds_cons_of_joined (h.joined _ List.mem_cons_self)
    -- the runs behind the first one are those of the tokens behind it
    have hbehind : JoinedRuns runs.flatten runs :=
      ⟨rfl, fun run hrun => h.ne_nil run (List.mem_cons_of_mem _ hrun),
        fun run hrun => h.joined run (List.mem_cons_of_mem _ hrun),
        fun run hrun => h.parted run (List.mem_of_mem_tail hrun)⟩
    have hcut : ∀ u ∈ runs.flatten.head?, u.joined = false := by
      cases runs with
      | nil => simp
      | cons next runs =>
        have hnext := h.ne_nil next (by simp)
        rw [List.flatten_cons, List.head?_append_of_ne_nil _ hnext]
        exact h.parted next (by simp)
    calc (t :: us) :: runs
      _ = [⟨t, us⟩].map Compound.tokens ++ (compounds runs.flatten).map Compound.tokens := by
        rw [← ih hbehind]
        rfl
      _ = (compounds ((t :: us) ++ runs.flatten)).map Compound.tokens := by
        rw [compounds_append hcut, hfirst, List.map_append]
      _ = (compounds ts).map Compound.tokens := by
        rw [← h.flatten, List.flatten_cons]

/-- **Compounds are the maximal joined runs.** Of all lists of lists, the compounds of a list of
tokens, and they alone, put together give the tokens, are not empty, go on with joined tokens only
and start, but for the first one, with a token that is not joined. -/
theorem joinedRuns_iff (ts : List Token) (runs : List (List Token)) :
    JoinedRuns ts runs ↔ runs = (compounds ts).map Compound.tokens := by
  constructor
  · exact JoinedRuns.eq_compounds
  · rintro rfl
    exact joinedRuns_compounds ts

end TextQuery
