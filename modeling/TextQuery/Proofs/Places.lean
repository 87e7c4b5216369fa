import Mathlib.Data.List.Infix
import TextQuery.Files.Tree

/-!
# Where paths lead

A path is followed name by name through the directories of a tree (`FileTree.follow`), so what it
leads to depends on the directories on the way and on what is listed where it ends. What this comes
to for one more file in a tree:

* `Path.location_join` — the names of a file in a directory are those of the directory and its own.
* `FileTree.fileAt?` — all that a tree shows of a file, which is all that reading depends on.
* `FileTree.isDirectory_set` — a new file inside a directory makes no directory and takes none away.
* `FileTree.place_eq_ok_congr` — so every path leads where it led, and `FileTree.fileAt?_set` says
  what it leads to.
* `FileTree.write_cases` — all that writing a file can come to, on a disk that may give out.
-/

namespace TextQuery

/-! ## The names in a path -/

namespace Path

/-- What is a name anywhere is one at the start of a path too, where even a dot is. -/
theorem isName_of_isName_false {name : String} (h : isName false name = true) (leading : Bool) :
    isName leading name = true := by
  cases leading with
  | false => exact h
  | true => simp_all [isName]

/-- Everything behind the last name is dropped. -/
theorem trimEnd_concat (leading : Bool) (pieces : List String) (piece : String) :
    trimEnd leading (pieces ++ [piece]) =
      if isName (leading && pieces.isEmpty) piece then pieces ++ [piece]
      else trimEnd leading pieces := by
  induction pieces generalizing leading with
  | nil => simp [trimEnd]
  | cons first pieces ih =>
    rw [List.cons_append, trimEnd, ih]
    simp only [Bool.false_and, List.isEmpty_cons, Bool.and_false]
    cases isName false piece with
    | true => cases pieces <;> rfl
    | false => rfl

/-- One more piece is one more name, or none. -/
theorem namesOf_concat (leading : Bool) (pieces : List String) (piece : String) :
    namesOf leading (pieces ++ [piece]) =
      namesOf leading pieces ++ [piece].filter (isName (leading && pieces.isEmpty)) := by
  cases pieces with
  | nil => cases h : isName leading piece <;> simp [namesOf, h]
  | cons first pieces => cases h : isName leading first <;> simp [namesOf, h]

section Join

variable (dir : Path) {name : String} (h : isName false name = true)
include h

/-- A file in a directory has the names of the directory and its own, whether or not the directory
is written with a slash at its end. -/
theorem location_join :
    (dir.join name).location = ⟨dir.absolute, dir.location.names ++ [name]⟩ := by
  have hconcat (pieces : List String) :
      location ⟨dir.absolute, pieces ++ [name]⟩ =
        ⟨dir.absolute, namesOf (!dir.absolute) pieces ++ [name]⟩ := by
    simp [location, namesOf_concat, isName_of_isName_false h]
  unfold join
  split
  · next hlast =>
    -- the empty piece behind a closing slash gives way to the name
    have hbody : dir.body = dir.body.dropLast ++ [""] :=
      (List.dropLast_append_getLast? "" hlast).symm
    have hnames : namesOf (!dir.absolute) dir.body =
        namesOf (!dir.absolute) dir.body.dropLast := by
      rw [hbody, namesOf_concat, List.dropLast_concat]
      simp [isName]
    rw [hconcat, location, hnames]
  · exact hconcat dir.body

/-- A name inside a directory is no directory by the way it is written. -/
theorem endsInside_join : (dir.join name).endsInside = false := by
  have htrim (pieces : List String) :
      trimEnd (!dir.absolute) (pieces ++ [name]) = pieces ++ [name] := by
    rw [trimEnd_concat, if_pos (isName_of_isName_false h _)]
  unfold join
  split <;> simp [endsInside, htrim]

end Join

end Path

/-! ## What lies below what -/

namespace Location

/-- Below a place lies what is directly in it or below that. -/
theorem isBelow_inside {outer l : Location} {name : String} :
    (outer.inside name).isBelow l = true ↔ l = outer ∨ outer.isBelow l = true := by
  obtain ⟨absolute, names⟩ := outer
  obtain ⟨absolute', names'⟩ := l
  simp only [isBelow, inside, Bool.and_eq_true, beq_iff_eq, List.isPrefixOf_iff_prefix,
    decide_eq_true_eq, List.length_append, List.length_singleton, mk.injEq]
  constructor
  · rintro ⟨⟨rfl, hprefix⟩, hlength⟩
    -- a shorter list of names does not reach the last one
    have hfront : names' <+: names :=
      List.prefix_of_prefix_length_le hprefix (List.prefix_append names [name]) (by omega)
    rcases Nat.lt_or_ge names'.length names.length with hlt | hge
    · exact .inr ⟨⟨rfl, hfront⟩, hlt⟩
    · exact .inl ⟨rfl, hfront.eq_of_length_le hge⟩
  · rintro (⟨rfl, rfl⟩ | ⟨⟨rfl, hprefix⟩, hlength⟩)
    · exact ⟨⟨rfl, List.prefix_append names' [name]⟩, by omega⟩
    · exact ⟨⟨rfl, hprefix.trans (List.prefix_append names [name])⟩, by omega⟩

theorem isBelow_trans {inner l outer : Location} (h : inner.isBelow l = true)
    (hl : l.isBelow outer = true) : inner.isBelow outer = true := by
  simp only [isBelow, Bool.and_eq_true, beq_iff_eq, List.isPrefixOf_iff_prefix,
    decide_eq_true_eq] at h hl ⊢
  exact ⟨⟨h.1.1.trans hl.1.1, hl.1.2.trans h.1.2⟩, Nat.lt_trans hl.2 h.2⟩

/-- What lies around a place where paths start is such a place too. -/
theorem isStart_of_isBelow {l outer : Location} (h : l.isBelow outer = true)
    (hstart : l.isStart = true) : outer.isStart = true := by
  simp only [isBelow, Bool.and_eq_true, List.isPrefixOf_iff_prefix] at h
  obtain ⟨rest, hrest⟩ := h.1.2
  rw [isStart, ← hrest, List.all_append, Bool.and_eq_true] at hstart
  exact hstart.1

end Location

namespace FileTree

/-! ## Following names -/

theorem isDirectory_iff {t : FileTree} {l : Location} :
    t.isDirectory l = true ↔ t.entryAt? l = some .directory := by
  simp [isDirectory]

/-- One step on the way: only a directory leads on. -/
theorem follow_cons_eq_ok {t : FileTree} {here l : Location} {name : String} {names : List String} :
    t.follow here (name :: names) = .ok l ↔
      t.isDirectory here = true ∧ t.follow (here.enter name) names = .ok l := by
  rw [isDirectory_iff, follow]
  rcases t.entryAt? here with _ | ⟨_ | _⟩ <;> simp

/-- Before the last name the way has led to a directory, and the last name leads on from there. -/
theorem follow_concat_eq_ok {t : FileTree} {here l : Location} {names : List String}
    {name : String} : t.follow here (names ++ [name]) = .ok l ↔
      ∃ outer, t.follow here names = .ok outer ∧ t.isDirectory outer = true ∧
        l = outer.enter name := by
  induction names generalizing here with
  | nil =>
    rw [List.nil_append, follow_cons_eq_ok]
    simp only [follow, Except.ok.injEq, exists_eq_left', eq_comm]
  | cons first names ih =>
    rw [List.cons_append, follow_cons_eq_ok, ih]
    simp only [follow_cons_eq_ok, and_assoc, exists_and_left]

/-- Trees with the same directories have the same ways through them. -/
theorem follow_eq_ok_congr {t t' : FileTree} (h : ∀ l, t'.isDirectory l = t.isDirectory l)
    {here l : Location} {names : List String} :
    t'.follow here names = .ok l ↔ t.follow here names = .ok l := by
  induction names generalizing here with
  | nil => exact Iff.rfl
  | cons name names ih => rw [follow_cons_eq_ok, follow_cons_eq_ok, h, ih]

theorem place_eq_ok_congr {t t' : FileTree} (h : ∀ l, t'.isDirectory l = t.isDirectory l)
    {p : Path} {l : Location} : t'.place p = .ok l ↔ t.place p = .ok l :=
  follow_eq_ok_congr h

/-- Whether a path leads to a location. -/
def leadsTo (t : FileTree) (p : Path) (l : Location) : Bool :=
  match t.place p with
  | .ok l' => l' == l
  | .error _ => false

theorem leadsTo_iff {t : FileTree} {p : Path} {l : Location} :
    t.leadsTo p l = true ↔ t.place p = .ok l := by
  unfold leadsTo
  cases t.place p <;> simp

/-- Paths with the same names lead to the same place. -/
theorem leadsTo_congr (t : FileTree) {p q : Path} (h : p.location = q.location) (l : Location) :
    t.leadsTo p l = t.leadsTo q l := by
  have habsolute : p.absolute = q.absolute := congrArg Location.absolute h
  rw [leadsTo, leadsTo, place, place, h, habsolute]

/-- A file in a directory leads into that directory. -/
theorem exists_of_place_join {t : FileTree} {dir : Path} {name : String} {l : Location}
    (h : t.place (dir.join name) = .ok l) (hname : Path.isName false name = true)
    (hdots : name ≠ "..") :
    ∃ outer, t.isDirectory outer = true ∧ l = outer.inside name := by
  rw [place, dir.location_join hname, follow_concat_eq_ok] at h
  obtain ⟨outer, -, houter, rfl⟩ := h
  have hdot : name ≠ "." := by
    rintro rfl
    exact absurd hname (by decide)
  exact ⟨outer, houter, by simp [Location.enter, hdot, hdots]⟩

/-! ## What a tree shows of a file -/

/-- The file that a path leads to, none if it leads to no file. -/
def fileAt? (t : FileTree) (p : Path) : Option Entry :=
  match t.resolve p with
  | .ok (.file c fault) => some (.file c fault)
  | _ => none

theorem isFile_eq_isSome (t : FileTree) (p : Path) : t.isFile p = (t.fileAt? p).isSome := by
  unfold isFile fileAt?
  split <;> simp_all

/-- The file is all that reading depends on. -/
theorem read_of_fileAt? {t : FileTree} {p : Path} {e : Entry} (h : t.fileAt? p = some e) :
    t.read p = e.read := by
  unfold fileAt? at h
  split at h
  · next c fault hresolve =>
    obtain rfl := Option.some.inj h
    rw [read, hresolve]
  · cases h

/-- Which file a path leads to is a matter of where it leads and what is listed there. -/
theorem fileAt?_eq (t : FileTree) (p : Path) :
    t.fileAt? p =
      match t.place p with
      | .ok l =>
        match t.get? l with
        | some (.file c fault) => if p.endsInside then none else some (.file c fault)
        | _ => none
      | .error _ => none := by
  unfold fileAt? resolve
  cases t.place p with
  | error e => rfl
  | ok l =>
    dsimp only
    unfold entryAt?
    cases t.get? l with
    | none => cases l.isStart || t.entries.any fun e => e.1.isBelow l <;> rfl
    | some e =>
      cases e with
      | directory => rfl
      | file c fault => cases p.endsInside <;> rfl

/-- A path that leads to nothing may still lead somewhere: to a place where nothing is. -/
theorem entryAt?_eq_none_of_exists? {t : FileTree} {p : Path} {l : Location}
    (h : t.exists? p = false) (hend : p.endsInside = false) (hplace : t.place p = .ok l) :
    t.entryAt? l = none := by
  cases hentry : t.entryAt? l with
  | none => rfl
  | some e =>
    -- a file or directory that is there is what the path leads to
    rw [exists?, resolve, hplace] at h
    cases e <;> simp [hentry, hend, Except.isOk, Except.toBool] at h

theorem get?_eq_none_of_entryAt? {t : FileTree} {l : Location} (h : t.entryAt? l = none) :
    t.get? l = none := by
  unfold entryAt? at h
  cases hget : t.get? l with
  | none => rfl
  | some e => simp [hget] at h

/-! ## One more file in a tree

A file is listed inside a directory where nothing was. That changes what one location holds. It
makes no directory, since those around it were there before, and so leads no path astray. -/

section Set

variable {t : FileTree} {outer : Location} {name : String}

theorem set_of_get?_eq_none {l : Location} (h : t.get? l = none) (e : Entry) :
    t.set l e = ⟨t.entries ++ [(l, e)]⟩ := by
  rw [set, h]
  rfl

/-- A location where nothing is listed is a directory if paths start there or something lies
below. -/
theorem isDirectory_of_get?_eq_none {l : Location} (h : t.get? l = none) :
    t.isDirectory l = (l.isStart || t.entries.any fun e => e.1.isBelow l) := by
  unfold isDirectory entryAt?
  rw [h]
  cases l.isStart || t.entries.any fun e => e.1.isBelow l <;> rfl

/-- A location around a directory is a directory too, unless something else is listed there. -/
theorem isDirectory_of_isBelow (houter : t.isDirectory outer = true) {l : Location}
    (hbelow : outer.isBelow l = true) (hget : t.get? l = none) : t.isDirectory l = true := by
  rw [isDirectory_of_get?_eq_none hget, Bool.or_eq_true, List.any_eq_true]
  cases hlisted : t.get? outer with
  | some e =>
    -- the directory itself is an entry below the location
    obtain ⟨before, after, hentries, -⟩ := List.lookup_eq_some_iff.1 hlisted
    exact .inr ⟨(outer, e), by simp [hentries], hbelow⟩
  | none =>
    rw [isDirectory_of_get?_eq_none hlisted, Bool.or_eq_true, List.any_eq_true] at houter
    rcases houter with hstart | ⟨e, he, hinner⟩
    · exact .inl (Location.isStart_of_isBelow hbelow hstart)
    · exact .inr ⟨e, he, Location.isBelow_trans hinner hbelow⟩

/-- **A new file makes no directory and takes none away.** It lies in one, so the places that it
lies below were directories before. -/
theorem isDirectory_set (houter : t.isDirectory outer = true)
    (hnew : t.entryAt? (outer.inside name) = none) (c : Content)
    (fault : Option FileError) (l : Location) :
    (t.set (outer.inside name) (.file c fault)).isDirectory l = t.isDirectory l := by
  have hunlisted := get?_eq_none_of_entryAt? hnew
  by_cases hl : l = outer.inside name
  · rw [hl, isDirectory, isDirectory, hnew, entryAt?, get?_set, if_pos rfl]
    rfl
  · cases hget : t.get? l with
    | some e => simp only [isDirectory, entryAt?, get?_set, if_neg hl, hget]
    | none =>
      have hget' : (t.set (outer.inside name) (.file c fault)).get? l = none := by
        rw [get?_set, if_neg hl, hget]
      rw [isDirectory_of_get?_eq_none hget', set_of_get?_eq_none hunlisted, List.any_append,
        ← Bool.or_assoc, ← isDirectory_of_get?_eq_none hget]
      -- only places around the new file can have become directories
      cases hbelow : (outer.inside name).isBelow l with
      | false => simp [hbelow]
      | true =>
        have hdirectory : t.isDirectory l = true := by
          rcases Location.isBelow_inside.1 hbelow with rfl | hbelow
          · exact houter
          · exact isDirectory_of_isBelow houter hbelow hget
        rw [hdirectory, Bool.true_or]

/-- What a path leads to with one more file in the tree: the new file if it leads there, and else
what it led to before. -/
theorem fileAt?_set (houter : t.isDirectory outer = true)
    (hnew : t.entryAt? (outer.inside name) = none) (c : Content)
    (fault : Option FileError) (p : Path) :
    (t.set (outer.inside name) (.file c fault)).fileAt? p =
      if t.leadsTo p (outer.inside name) then
        if p.endsInside then none else some (.file c fault)
      else t.fileAt? p := by
  have hplace (l : Location) := place_eq_ok_congr (p := p) (l := l)
    (isDirectory_set houter hnew c fault)
  rw [fileAt?_eq, fileAt?_eq, leadsTo]
  cases hp : t.place p with
  | ok l =>
    simp only [(hplace l).2 hp, get?_set, beq_iff_eq]
    by_cases hl : l = outer.inside name <;> simp [hl]
  | error e =>
    cases hp' : FileTree.place (t.set _ (.file c fault)) p with
    | ok l => rw [(hplace l).1 hp'] at hp; cases hp
    | error e' => rfl

end Set

/-! ## Writing a file -/

/-- A file that is written is the one at the place where its path leads. -/
theorem place_of_target {t : FileTree} {p : Path} {l : Location} {fault : Option FileError}
    (h : t.target p = .ok (l, fault)) : t.place p = .ok l := by
  unfold target at h
  cases hp : t.place p with
  | error e => simp [hp] at h
  | ok l' =>
    rw [hp] at h
    dsimp only at h
    split at h
    · cases h
    all_goals
      split at h
      · cases h
      · simp_all

/-- All that writing can come to: nothing happens, or what the disk takes of the text is in the
file, and it is told whether that is all. -/
theorem write_cases (t : FileTree) (p : Path) (text : String) (device : Device) :
    (∃ e, t.write p text device = (t, some e)) ∨
      ∃ l fault, t.target p = .ok (l, fault) ∧
        t.write p text device =
          (t.set l (.file (.text (Limit.taken device.disk text)) fault),
            Limit.failure? device.disk text) := by
  unfold write
  cases t.target p with
  | error e => exact .inl ⟨e, rfl⟩
  | ok found =>
    obtain ⟨l, fault⟩ := found
    cases device.opening with
    | some e => exact .inl ⟨e, rfl⟩
    | none => exact .inr ⟨l, fault, rfl, rfl⟩

/-- Where nothing was, a new file is made, which nothing keeps from being read. -/
theorem new_of_target {t : FileTree} {p : Path} {l : Location} {fault : Option FileError}
    (h : t.target p = .ok (l, fault)) (hexists : t.exists? p = false)
    (hend : p.endsInside = false) : t.entryAt? l = none ∧ fault = none := by
  have hplace := place_of_target h
  have hnew := entryAt?_eq_none_of_exists? hexists hend hplace
  simp only [target, hplace, hnew, hend, Bool.false_eq_true, if_false, Except.ok.injEq,
    Prod.mk.injEq, true_and] at h
  exact ⟨hnew, h.symm⟩

end FileTree

end TextQuery
