import TextQuery.Proofs.Concatenation
import TextQuery.Token.Session

/-!
# Streams read side by side

The streams of a session all read the tokens of one text, each from where it is, whatever is asked
of the others:

* `TokenStream.next_cases` — one call takes the first of the tokens still to come.
* `Session.handedOut` — the tokens that a stream has handed out so far, by the record of questions
  and answers. A copy starts with what its origin had handed out by then.
* `Session.Asked` — what a question can do to a session: a stream hands out some of the tokens still
  to come, or is copied. What every question keeps is read off it.
* `Session.Accounts` — what a stream has handed out, and behind it what it still has to come, are
  the tokens of the text. One question keeps that (`Accounts.ask`), hence every run does.
* `Session.run_serves` — so what a stream answers depends on the text and on the number of tokens
  that it has handed out, and on nothing else.
-/

namespace TextQuery

/-! ## One stream -/

namespace TokenStream

theorem tokensFrom_nil (position : Nat) : tokensFrom position [] = [] := by
  rw [tokensFrom_eq]
  rfl

/-- What a call of `next` does: it hands out the first token to come, or there is none and none will
come. -/
theorem next_cases (s : TokenStream) :
    (∃ t later, s.next = (some t, later) ∧ s.toList = t :: later.toList) ∨
      ∃ later, s.next = (none, later) ∧ s.toList = [] ∧ later.toList = [] := by
  unfold next toList
  rw [tokensFrom_eq]
  cases scan s.position false s.pending with
  | some r => exact .inl ⟨r.1, _, rfl, rfl⟩
  | none => exact .inr ⟨_, rfl, rfl, tokensFrom_nil _⟩

theorem next_fst (s : TokenStream) : s.next.1 = s.toList.head? := by
  obtain ⟨t, later, hnext, hlist⟩ | ⟨later, hnext, hlist, -⟩ := s.next_cases
  · rw [hnext, hlist, List.head?_cons]
  · rw [hnext, hlist, List.head?_nil]

/-- What a call of `next` hands out and what is left are the tokens that were to come. -/
theorem next_append (s : TokenStream) : s.next.1.toList ++ s.next.2.toList = s.toList := by
  obtain ⟨t, later, hnext, hlist⟩ | ⟨later, hnext, hlist, hlater⟩ := s.next_cases
  · rw [hnext, hlist]
    rfl
  · rw [hnext, hlist, hlater]
    rfl

theorem toList_rest (s : TokenStream) : s.rest.2.toList = [] := tokensFrom_nil _

end TokenStream

/-! ## The record of a session -/

/-- The tokens that an answer hands out. -/
def Answer.handed : Answer → List Token
  | .token t => t.toList
  | .tokens ts => ts
  | .compounds cs => cs.flatMap Compound.tokens
  | .text _ | .number _ => []

namespace Session

/-- A question with its answer. -/
abbrev Exchange := (Nat × Request) × Answer

/-- The tokens that stream number `n` has handed out, by a record with the latest exchange in front.
A copy counts what the stream it was made of had handed out by then. -/
def handedOut (n : Nat) : List Exchange → List Token
  | [] => []
  | ((i, _), a) :: earlier =>
    if a = .number n then handedOut i earlier
    else if i = n then handedOut n earlier ++ a.handed
    else handedOut n earlier

/-- Every question is for a stream that is there by then, with `n` streams at the start. -/
def Addressed : Nat → List (Nat × Request) → Prop
  | _, [] => True
  | n, (i, r) :: questions => i < n ∧ Addressed (if r = .copy then n + 1 else n) questions

/-- Whether every question is for a stream that is there can be checked one question after the
other. -/
instance decidableAddressed : ∀ n questions, Decidable (Addressed n questions)
  | _, [] => inferInstanceAs (Decidable True)
  | n, (i, r) :: questions =>
    have := decidableAddressed (if r = .copy then n + 1 else n) questions
    inferInstanceAs (Decidable (i < n ∧ _))

/-! ## One question -/

/-- What a question to stream number `i` can do: the stream hands out the first of the tokens still
to come, be it none of them, or is copied. All other streams stay as they are. -/
inductive Asked (s : Session) (i : Nat) : Request → Answer → Session → Prop where
  | read {r : Request} {a : Answer} {stream later : TokenStream}
      (hget : s.streams[i]? = some stream) (hr : r ≠ .copy) (ha : ∀ n, a ≠ .number n)
      (htokens : a.handed ++ later.toList = stream.toList) :
      Asked s i r a ⟨s.streams.set i later⟩
  | copied {stream : TokenStream} (hget : s.streams[i]? = some stream) :
      Asked s i .copy (.number s.streams.length) ⟨s.streams ++ [stream]⟩

variable {s s' : Session} {i n : Nat} {r : Request} {a : Answer}

/-- Every question that is answered is a read of one stream or a copy. A read hands out tokens from
the front of what was to come; questions about the stream itself hand out none. -/
theorem asked_of_ask (h : s.ask i r = some (a, s')) : Asked s i r a s' := by
  obtain ⟨stream, hget, h⟩ := Option.map_eq_some_iff.1 h
  -- a question about the stream itself leaves it as it is
  have hkept {r : Request} {text : String} (hr : r ≠ .copy) : Asked s i r (.text text) s := by
    have hread : Asked s i r (.text text) ⟨s.streams.set i stream⟩ := .read hget hr nofun rfl
    obtain ⟨hi, rfl⟩ := List.getElem?_eq_some_iff.1 hget
    rwa [List.set_getElem_self] at hread
  cases r with
  | next =>
    obtain ⟨rfl, rfl⟩ := Prod.mk.inj h
    exact .read hget nofun nofun stream.next_append
  | rest =>
    obtain ⟨rfl, rfl⟩ := Prod.mk.inj h
    refine .read hget nofun nofun ?_
    rw [TokenStream.toList_rest, List.append_nil]
    rfl
  | compounds =>
    obtain ⟨rfl, rfl⟩ := Prod.mk.inj h
    refine .read hget nofun nofun ?_
    rw [TokenStream.toList_rest, List.append_nil]
    exact Query.flatMap_tokens_compounds stream.toList
  | field =>
    obtain ⟨rfl, rfl⟩ := Prod.mk.inj h
    exact hkept nofun
  | describe =>
    obtain ⟨rfl, rfl⟩ := Prod.mk.inj h
    exact hkept nofun
  | copy =>
    obtain ⟨rfl, rfl⟩ := Prod.mk.inj h
    exact .copied hget

namespace Asked

theorem length_streams (h : Asked s i r a s') :
    s'.streams.length = if r = .copy then s.streams.length + 1 else s.streams.length := by
  cases h with
  | read hget hr ha htokens => rw [if_neg hr, List.length_set]
  | copied hget => simp

theorem getElem?_streams (h : Asked s i r a s') (hni : n ≠ i) (hn : n < s.streams.length) :
    s'.streams[n]? = s.streams[n]? := by
  cases h with
  | read hget hr ha htokens => exact List.getElem?_set_ne hni.symm
  | copied hget => exact List.getElem?_append_left hn

/-- Tokens that were handed out do not come back. -/
theorem toList_suffix (h : Asked s i r a s') {stream : TokenStream}
    (hn : s.streams[n]? = some stream) :
    ∃ later, s'.streams[n]? = some later ∧ later.toList <:+ stream.toList := by
  obtain ⟨hlt, -⟩ := List.getElem?_eq_some_iff.1 hn
  by_cases hni : n = i
  · subst hni
    cases h with
    | @read _ _ _ later hget hr ha htokens =>
      obtain rfl := Option.some.inj (hn.symm.trans hget)
      exact ⟨later, List.getElem?_set_self hlt, a.handed, htokens⟩
    | copied hget =>
      refine ⟨stream, ?_, List.suffix_rfl⟩
      rw [List.getElem?_append_left hlt, hn]
  · exact ⟨stream, by rw [h.getElem?_streams hni hlt, hn], List.suffix_rfl⟩

end Asked

/-- The tokens that each stream has handed out by the record, and behind them those it still has to
come, are `ts`. -/
def Accounts (ts : List Token) (record : List Exchange) (s : Session) : Prop :=
  ∀ n stream, s.streams[n]? = some stream → handedOut n record ++ stream.toList = ts

/-- A question keeps the account of every stream: what it has handed out, and what is to come. The
stream that is read hands out what it had to come; a copy has handed out what its origin has. -/
theorem Accounts.ask {ts : List Token} {record : List Exchange} (hs : s.Accounts ts record)
    (h : s.ask i r = some (a, s')) : s'.Accounts ts (((i, r), a) :: record) := by
  intro n stream hn
  cases asked_of_ask h with
  | @read _ _ before later hget hr ha htokens =>
    rw [handedOut, if_neg (ha n)]
    by_cases hni : i = n
    · subst hni
      -- the stream that was asked, or another one
      obtain ⟨hlt, -⟩ := List.getElem?_eq_some_iff.1 hget
      obtain rfl : later = stream := Option.some.inj ((List.getElem?_set_self hlt).symm.trans hn)
      rw [if_pos rfl, List.append_assoc, htokens]
      exact hs i before hget
    · rw [if_neg hni]
      rw [List.getElem?_set_ne hni] at hn
      exact hs n stream hn
  | @copied before hget =>
    -- the copy is the last stream, and has handed out what its origin has
    have hle : n < s.streams.length + 1 := by
      simpa using (List.getElem?_eq_some_iff.1 hn).1
    rcases Nat.lt_succ_iff_lt_or_eq.1 hle with hlt | rfl
    · have hne : Answer.number s.streams.length ≠ .number n := by
        intro heq
        have := Answer.number.inj heq
        omega
      rw [List.getElem?_append_left hlt] at hn
      rw [handedOut, if_neg hne, Answer.handed, List.append_nil, ite_self]
      exact hs n stream hn
    · obtain rfl : before = stream := by simpa using hn
      rw [handedOut, if_pos rfl]
      exact hs i before hget

/-! ## A run of questions -/

variable {questions : List (Nat × Request)} {answers : List Answer}

theorem run_cons_eq_some (h : s.run ((i, r) :: questions) = some (answers, s')) :
    ∃ a middle more, s.ask i r = some (a, middle) ∧ middle.run questions = some (more, s') ∧
      answers = a :: more := by
  rw [run] at h
  split at h
  · cases h
  · next a middle hask =>
    obtain ⟨⟨more, last⟩, hrun, heq⟩ := Option.map_eq_some_iff.1 h
    obtain ⟨rfl, rfl⟩ := Prod.mk.inj heq
    exact ⟨a, middle, more, hask, hrun, rfl⟩

/-- What every question of a run keeps holds behind the run, with the exchanges in the record. -/
theorem run_invariant (P : List Exchange → Session → Prop) (record : List Exchange)
    (hstep : ∀ i r, (i, r) ∈ questions → ∀ record s a s', P record s → s.ask i r = some (a, s') →
      P (((i, r), a) :: record) s')
    (h : s.run questions = some (answers, s')) (hs : P record s) :
    P ((questions.zip answers).reverse ++ record) s' := by
  induction questions generalizing s answers record with
  | nil =>
    obtain ⟨rfl, rfl⟩ := Prod.mk.inj (Option.some.inj h)
    exact hs
  | cons question questions ih =>
    obtain ⟨i, r⟩ := question
    obtain ⟨a, middle, more, hask, hrun, rfl⟩ := run_cons_eq_some h
    have hmiddle := hstep i r List.mem_cons_self record s a middle hs hask
    have hlast := ih _ (fun i r hq => hstep i r (List.mem_cons_of_mem _ hq)) hrun hmiddle
    rwa [List.zip_cons_cons, List.reverse_cons, List.append_assoc]

theorem exists_ask (h : i < s.streams.length) (r : Request) : ∃ a s', s.ask i r = some (a, s') := by
  rw [ask, List.getElem?_eq_getElem h]
  exact ⟨_, _, rfl⟩

/-- Questions to streams that are there all have answers, and each copy makes one stream. Induction
on the questions. -/
theorem exists_run (h : Addressed s.streams.length questions) :
    ∃ answers s', s.run questions = some (answers, s') ∧ answers.length = questions.length ∧
      s'.streams.length = s.streams.length + questions.countP (·.2 = .copy) := by
  induction questions generalizing s with
  | nil => exact ⟨[], s, rfl, rfl, rfl⟩
  | cons question questions ih =>
    obtain ⟨i, r⟩ := question
    obtain ⟨a, middle, hask⟩ := exists_ask h.1 r
    have hlength := (asked_of_ask hask).length_streams
    obtain ⟨answers, s', hrun, hanswers, hstreams⟩ := ih (s := middle) (by rw [hlength]; exact h.2)
    refine ⟨a :: answers, s', ?_, by rw [List.length_cons, hanswers, List.length_cons], ?_⟩
    · rw [run, hask]
      show (middle.run questions).map _ = _
      rw [hrun]
      rfl
    · rw [hstreams, hlength, List.countP_cons]
      by_cases hr : r = .copy
      · simp only [hr, if_true, decide_true]
        omega
      · simp only [hr, if_false, decide_false, Bool.false_eq_true]
        omega

/-! ## What a stream answers -/

/-- Stream number `n` is there and answers so. -/
def Gives (s : Session) (n : Nat) (r : Request) (a : Answer) : Prop :=
  ∃ s', s.ask n r = some (a, s')

/-- Stream number `n` answers as one that has handed out the first `k` of the tokens. -/
structure Serves (s : Session) (n : Nat) (ts : List Token) (k : Nat) : Prop where
  next : s.Gives n .next (.token ts[k]?)
  rest : s.Gives n .rest (.tokens (ts.drop k))
  compounds : s.Gives n .compounds (.compounds (TextQuery.compounds (ts.drop k)))
  copy : s.Gives n .copy (.number s.streams.length)

/-- A stream answers every request by the tokens that it has to come. -/
theorem serves_of_toList {ts : List Token} {k : Nat} {stream : TokenStream}
    (hn : s.streams[n]? = some stream) (h : stream.toList = ts.drop k) : s.Serves n ts k := by
  refine ⟨?_, ?_, ?_, ?_⟩
  · rw [← List.head?_drop, ← h, ← TokenStream.next_fst, Gives, ask, hn]
    exact ⟨_, rfl⟩
  · rw [← h, Gives, ask, hn]
    exact ⟨_, rfl⟩
  · rw [← h, Gives, ask, hn]
    exact ⟨_, rfl⟩
  · rw [Gives, ask, hn]
    exact ⟨_, rfl⟩

theorem exists_toList_of_gives_none (h : s.Gives n .next (.token none)) :
    ∃ stream, s.streams[n]? = some stream ∧ stream.toList = [] := by
  obtain ⟨s', h⟩ := h
  obtain ⟨stream, hn, h⟩ := Option.map_eq_some_iff.1 h
  -- `next` gives nothing only at the end
  have hnext : stream.next.1 = none := Answer.token.inj (Prod.mk.inj h).1
  rw [TokenStream.next_fst, List.head?_eq_none_iff] at hnext
  exact ⟨stream, hn, hnext⟩

/-- A stream that nothing is asked of stays as it is. -/
theorem getElem?_streams_of_run (h : s.run questions = some (answers, s'))
    (hother : ∀ q ∈ questions, q.1 ≠ n) (hn : n < s.streams.length) :
    s'.streams[n]? = s.streams[n]? := by
  obtain ⟨stream, hstream⟩ : ∃ stream, s.streams[n]? = some stream :=
    ⟨_, List.getElem?_eq_getElem hn⟩
  rw [hstream]
  refine run_invariant (fun _ s => s.streams[n]? = some stream) [] ?_ h hstream
  intro i r hq _ s a s' hs hask
  obtain ⟨hlt, -⟩ := List.getElem?_eq_some_iff.1 hs
  rw [(asked_of_ask hask).getElem?_streams (hother _ hq).symm hlt, hs]

/-- A stream at its end stays there. -/
theorem toList_of_run (h : s.run questions = some (answers, s')) {stream : TokenStream}
    (hn : s.streams[n]? = some stream) (hend : stream.toList = []) :
    ∃ later, s'.streams[n]? = some later ∧ later.toList = [] := by
  refine run_invariant (fun _ s => ∃ later, s.streams[n]? = some later ∧ later.toList = []) [] ?_ h
    ⟨stream, hn, hend⟩
  rintro i r - _ s a s' ⟨later, hlater, hnil⟩ hask
  obtain ⟨after, hafter, hsuffix⟩ := (asked_of_ask hask).toList_suffix hlater
  exact ⟨after, hafter, List.suffix_nil.1 (hnil ▸ hsuffix)⟩

/-- **Streams read side by side.** Ask the streams over a text anything in any order, so long as
each question is for a stream that is there. Every question gets an answer, and each stream then
answers by the tokens of the text and the number of those that it has handed out, its origin's
before it was copied included. Questions to other streams leave it as it is, and once it has no
token left it never has one again. -/
theorem run_serves (field text : String) {questions : List (Nat × Request)}
    (h : Addressed 1 questions) :
    ∃ answers s, (ofText field text).run questions = some (answers, s) ∧
      answers.length = questions.length ∧
      s.streams.length = 1 + questions.countP (·.2 = .copy) ∧
      ∀ n < s.streams.length,
        s.Serves n (tokens text) (handedOut n (questions.zip answers).reverse).length ∧
        ∀ more moreAnswers last, s.run more = some (moreAnswers, last) →
          ((∀ q ∈ more, q.1 ≠ n) → last.streams[n]? = s.streams[n]?) ∧
          (s.Gives n .next (.token none) → last.Serves n (tokens text) (tokens text).length) := by
  obtain ⟨answers, s, hrun, hanswers, hstreams⟩ := exists_run (s := ofText field text) h
  refine ⟨answers, s, hrun, hanswers, hstreams,
    fun n hn => ⟨?_, fun more moreAnswers last hmore => ⟨?_, ?_⟩⟩⟩
  · -- nothing has been handed out when the one stream is made
    have hstart : (ofText field text).Accounts (tokens text) [] := by
      intro n stream hget
      cases n with
      | zero =>
        obtain rfl := Option.some.inj hget
        rfl
      | succ n => cases hget
    have haccounts : s.Accounts (tokens text) ((questions.zip answers).reverse ++ []) :=
      run_invariant (fun record s => s.Accounts (tokens text) record) []
        (fun i r _ record s a s' hs hask => hs.ask hask) hrun hstart
    have hget := List.getElem?_eq_getElem hn
    have htokens := haccounts n _ hget
    rw [List.append_nil] at htokens
    refine serves_of_toList hget ?_
    rw [← htokens, List.drop_left]
  · exact fun hother => getElem?_streams_of_run hmore hother hn
  · -- a stream that is at its end stays there, whatever is asked
    intro hnone
    obtain ⟨stream, hget, hend⟩ := exists_toList_of_gives_none hnone
    obtain ⟨later, hlater, hnil⟩ := toList_of_run hmore hget hend
    exact serves_of_toList hlater (by rw [hnil, List.drop_length])

/-- A stream is copied behind its first token and read to its end. The copy has handed out the first
two tokens, the first of them before it was made, and has the third still to come. -/
theorem run_serves_copy_behind_first :
    Addressed 1 [(0, .next), (0, .copy), (1, .next), (0, .rest)] ∧
      ∃ s, (ofText "body" "a-b c").run [(0, .next), (0, .copy), (1, .next), (0, .rest)] =
          some ([.token (some ⟨"a", 0, 0, 1, false⟩), .number 1, .token (some ⟨"b", 1, 2, 3, true⟩),
            .tokens [⟨"b", 1, 2, 3, true⟩, ⟨"c", 2, 4, 5, false⟩]], s) ∧
        s.Serves 0 (tokens "a-b c") 3 ∧ s.Serves 1 (tokens "a-b c") 2 := by
  have h : Addressed 1 [(0, .next), (0, .copy), (1, .next), (0, .rest)] := by decide
  obtain ⟨answers, s, hrun, -, hstreams, hserves⟩ := run_serves "body" "a-b c" h
  have hanswers : ((ofText "body" "a-b c").run
      [(0, .next), (0, .copy), (1, .next), (0, .rest)]).map Prod.fst =
        some [.token (some ⟨"a", 0, 0, 1, false⟩), .number 1, .token (some ⟨"b", 1, 2, 3, true⟩),
          .tokens [⟨"b", 1, 2, 3, true⟩, ⟨"c", 2, 4, 5, false⟩]] := by
    decide +kernel
  rw [hrun] at hanswers
  obtain rfl := Option.some.inj hanswers
  have htwo : s.streams.length = 2 := hstreams
  exact ⟨h, s, hrun, (hserves 0 (by omega)).1, (hserves 1 (by omega)).1⟩

end Session

end TextQuery
