import TextQuery.Config.Template
import TextQuery.Proofs.Discovery

/-!
# Files that define nothing

A configuration file with an empty layer may appear anywhere without a setting changing:

* `Template.parse_take` — a template, all of it commented out, reads as the empty layer, and so does
  what a disk that gives out keeps of it.
* `gainsEmptyLayer_set` — one more such file is seen by the paths that lead to it only.
* `GainsEmptyLayer.walk_eq`, `GainsEmptyLayer.discover_eq` — a search finds what it found before,
  and the new file: an empty layer is not the root, so it hides nothing above it.
* `loadFiles_filter_settings` — files with an empty layer may be left out of what is loaded.
* `GainsEmptyLayer.load_settings` — so every directory keeps its settings.
-/

namespace TextQuery

/-! ## Templates

A template is all comments and empty lines. The reader of statements skips it whole, and so it does
the front of it: the file may have been cut off by a full disk. -/

namespace Toml

/-- Blank space away from line ends: a comment goes on, or one begins, or there is no more of it. -/
theorem skipVoid_cons {c : Char} (hline : c ≠ '\n') (hreturn : c ≠ '\r') (comment : Bool)
    (cs : List Char) :
    skipVoid comment (c :: cs) =
      if comment then
        if isForbidden c then .error (Flaw.trailingContent.before (c :: cs)) else skipVoid true cs
      else if isLineBlank c then skipVoid false cs
      else if c == '#' then skipVoid true cs
      else .ok (c :: cs) :=
  skipVoid.eq_4 _ _ _ hline fun _ h => absurd h hreturn

/-- A comment is skipped up to the line feed that ends it. Induction on its characters. -/
theorem skipVoid_comment {cs : List Char} (h : ∀ c ∈ cs, isForbidden c = false)
    (rest : List Char) : skipVoid true (cs ++ '\n' :: rest) = skipVoid false rest := by
  induction cs with
  | nil => rfl
  | cons c cs ih =>
    obtain ⟨hc, hcs⟩ := List.forall_mem_cons.1 h
    -- neither kind of line end may stand in a comment
    have hline : c ≠ '\n' := by
      rintro rfl
      exact absurd hc (by decide)
    have hreturn : c ≠ '\r' := by
      rintro rfl
      exact absurd hc (by decide)
    rw [List.cons_append, skipVoid_cons hline hreturn, if_pos rfl, hc]
    exact ih hcs

/-- Where nothing but blanks, line ends and comments are, there is nothing else in the front of it.
Only a line end of two characters could be cut in half. -/
theorem skipVoid_take {comment : Bool} {cs : List Char} (h : skipVoid comment cs = .ok [])
    (hreturn : '\r' ∉ cs) (n : Nat) : skipVoid comment (cs.take n) = .ok [] := by
  induction cs generalizing comment n with
  | nil =>
    rw [List.take_nil]
    rfl
  | cons c cs ih =>
    obtain ⟨hc, hcs⟩ := not_or.1 (List.mem_cons.not.1 hreturn)
    cases n with
    | zero => rfl
    | succ n =>
      rw [List.take_succ_cons]
      by_cases hline : c = '\n'
      · subst hline
        exact ih h hcs n
      · -- The character is in a comment, begins one, or is a blank. All that changes is how much is
        -- left.
        rw [skipVoid_cons hline (Ne.symm hc)] at h ⊢
        split at h <;> split at h
        · cases h
        · simp_all
        · simp_all
        · split at h
          · simp_all
          · cases h

end Toml

namespace Config

namespace Template

/-- Whether a line may stand in a comment. -/
def isPlain (line : String) : Bool := line.toList.all fun c => !Toml.isForbidden c

theorem isForbidden_eq_false_of_isPlain {line : String} (h : isPlain line = true) :
    ∀ c ∈ line.toList, Toml.isForbidden c = false := by
  simpa [isPlain] using h

/-- A line that is commented out is skipped, whatever it holds: an empty one stays empty, and any
other becomes a comment. -/
theorem skipVoid_commentOut {line : String} (h : isPlain line = true) (rest : List Char) :
    Toml.skipVoid false (commentOut line.toList ++ '\n' :: rest) = Toml.skipVoid false rest := by
  have hchars := isForbidden_eq_false_of_isPlain h
  unfold commentOut
  split
  · rfl
  · next cs hline =>
    rw [hline] at hchars ⊢
    exact Toml.skipVoid_comment (List.forall_mem_cons.1 hchars).2 rest
  · have hblank : ∀ c ∈ ' ' :: line.toList, Toml.isForbidden c = false :=
      List.forall_mem_cons.2 ⟨by decide, hchars⟩
    exact Toml.skipVoid_comment hblank rest

theorem skipVoid_render {lines : List String} (h : lines.all isPlain = true) :
    Toml.skipVoid false (render lines).toList = .ok [] := by
  rw [render, String.toList_ofList]
  induction lines with
  | nil => rfl
  | cons line lines ih =>
    rw [List.all_cons, Bool.and_eq_true] at h
    rw [List.map_cons, List.flatten_cons, List.append_assoc]
    exact (skipVoid_commentOut h.1 _).trans (ih h.2)

/-- A template begins with a line end or a comment, if with anything. -/
theorem head?_render {lines : List String} {c : Char} (h : c ∈ (render lines).toList.head?) :
    c = '\n' ∨ c = '#' := by
  rw [render, String.toList_ofList] at h
  cases lines with
  | nil => simp at h
  | cons line lines =>
    rw [List.map_cons, List.flatten_cons, List.append_assoc] at h
    unfold commentOut at h
    split at h
    · exact .inl (Option.some.inj h).symm
    · next hline => rw [hline] at h; exact .inr (Option.some.inj h).symm
    · exact .inr (Option.some.inj h).symm

/-- Plain lines have no carriage return, and commenting out adds none. So all line ends of a
template are single characters. -/
theorem return_notMem_render {lines : List String} (h : lines.all isPlain = true) :
    '\r' ∉ (render lines).toList := by
  rw [render, String.toList_ofList, List.mem_flatten]
  rintro ⟨chars, hchars, hreturn⟩
  obtain ⟨line, hline, rfl⟩ := List.mem_map.1 hchars
  have hplain := isForbidden_eq_false_of_isPlain (List.all_eq_true.1 h line hline)
  have hmem : '\r' ∈ line.toList := by
    unfold commentOut at hreturn
    split at hreturn <;> simp_all
  exact absurd (hplain '\r' hmem) (by decide)

/-- What is commented out defines nothing, wherever it is cut off. The reader finds nothing but
comments and line ends, and no byte order mark in front of them. -/
theorem parse_take {lines : List String} (h : lines.all isPlain = true) (n : Nat) :
    Layer.parse (String.ofList ((render lines).toList.take n)) = .ok {} := by
  have hmark : Toml.dropByteOrderMark ((render lines).toList.take n) =
      (render lines).toList.take n := by
    cases hchars : (render lines).toList.take n with
    | nil => rfl
    | cons c cs =>
      -- unless everything is cut off, the first character is that of the whole template
      have hhead : c ∈ (render lines).toList.head? := by
        cases n with
        | zero => simp at hchars
        | succ n => cases htext : (render lines).toList <;> simp_all
      rcases head?_render hhead with rfl | rfl <;> rfl
  have hvoid := Toml.skipVoid_take (skipVoid_render h) (return_notMem_render h) n
  have hparse : Toml.parse (String.ofList ((render lines).toList.take n)) = .ok [] := by
    rw [Toml.parse, String.toList_ofList, hmark, Toml.readStatements, hvoid]
    rfl
  rw [Layer.parse, hparse]
  rfl

theorem isPlain_settings : settings.all isPlain = true := by decide +kernel

theorem isPlain_forDirectory : forDirectory.all isPlain = true := by
  rw [forDirectory, List.all_append, isPlain_settings]
  decide +kernel

theorem isPlain_forHome : forHome.all isPlain = true := by
  rw [forHome, List.all_append, isPlain_settings]
  decide +kernel

end Template

end Config

/-! ## Searching with one more file

`GainsEmptyLayer` says what two trees have in common when the second has one more file that defines
nothing. It speaks of paths, not of locations, since many paths may lead to the new file. -/

namespace Config

theorem endsInside_join_fileName (dir : Path) : (dir.join fileName).endsInside = false :=
  dir.endsInside_join (by decide)

/-- The second tree is the first with one more file, and where that is a configuration file, its
layer is empty. Other paths lead to what they led to before. -/
structure GainsEmptyLayer (t : FileTree) (l : Location) (t' : FileTree) : Prop where
  kept (p : Path) (h : t.leadsTo p l = false) : t'.fileAt? p = t.fileAt? p
  absent (p : Path) (h : t.leadsTo p l = true) : t.fileAt? p = none
  present (dir : Path) (h : t.leadsTo (dir.join fileName) l = true) :
    t'.isFile (dir.join fileName) = true
  empty (dir : Path) (h : t.leadsTo (dir.join fileName) l = true) :
    Layer.load t' (dir.join fileName) = .ok {}

/-- A new file that defines nothing, inside a directory. Paths that do not lead to it keep what they
lead to, and those that do found nothing before. -/
theorem gainsEmptyLayer_set {t : FileTree} {outer : Location} {name text : String}
    (houter : t.isDirectory outer = true) (hnew : t.entryAt? (outer.inside name) = none)
    (hempty : Layer.parse text = .ok {}) :
    GainsEmptyLayer t (outer.inside name) (t.set (outer.inside name) (.file (.text text))) := by
  have hset := FileTree.fileAt?_set houter hnew (.text text) none
  -- only paths without a slash at their end find the file, and these have none
  have hadded (dir : Path) (h : t.leadsTo (dir.join fileName) (outer.inside name) = true) :
      (t.set (outer.inside name) (.file (.text text))).fileAt? (dir.join fileName) =
        some (.file (.text text)) := by
    rw [hset, if_pos h, endsInside_join_fileName]
    rfl
  refine ⟨fun p h => ?_, fun p h => ?_, fun dir h => ?_, fun dir h => ?_⟩
  · rw [hset, h]
    rfl
  · have hlisted := FileTree.get?_eq_none_of_entryAt? hnew
    simp only [FileTree.fileAt?_eq, FileTree.leadsTo_iff.1 h, hlisted]
  · rw [FileTree.isFile_eq_isSome, hadded dir h]
    rfl
  · have hread : (t.set (outer.inside name) (.file (.text text))).read (dir.join fileName) =
        .ok text := FileTree.read_of_fileAt? (hadded dir h)
    rw [Layer.load, hread]
    simp only [hempty]

namespace GainsEmptyLayer

variable {t t' : FileTree} {l : Location} (h : GainsEmptyLayer t l t')
include h

/-- A path that does not lead to the new file leads to a file or not as before. -/
theorem isFile_eq (p : Path) (hp : t.leadsTo p l = false) : t'.isFile p = t.isFile p := by
  rw [FileTree.isFile_eq_isSome, FileTree.isFile_eq_isSome, h.kept p hp]

theorem isFile_eq_false (p : Path) (hp : t.leadsTo p l = true) : t.isFile p = false := by
  rw [FileTree.isFile_eq_isSome, h.absent p hp]
  rfl

theorem load_eq (p : Path) (hp : t.leadsTo p l = false) (hfile : t'.isFile p = true) :
    Layer.load t' p = Layer.load t p :=
  Layer.load_congr (h.kept p hp) (h.isFile_eq p hp ▸ hfile)

/-- The walk finds one more file and stops where it did. The file may be met more than once, by
paths that lead to it through a directory and back out. -/
theorem walk_eq (dirs : List Path) :
    Search.walk t dirs =
      ((Search.walk t' dirs).1.filter fun p => !t.leadsTo p l, (Search.walk t' dirs).2) := by
  induction dirs with
  | nil => rfl
  | cons dir dirs ih =>
    rw [Search.walk, Search.walk, ih]
    cases hl : t.leadsTo (dir.join fileName) l with
    | true =>
      -- the new file: an empty layer is not the root
      have hroot : isRoot t' (dir.join fileName) = false := by
        rw [isRoot, h.empty dir hl]
        rfl
      simp [h.isFile_eq_false _ hl, h.present dir hl, hroot, hl]
    | false =>
      cases hfile : t'.isFile (dir.join fileName) with
      | false => simp [← h.isFile_eq _ hl, hfile]
      | true =>
        have hroot : isRoot t' (dir.join fileName) = isRoot t (dir.join fileName) := by
          rw [isRoot, isRoot, h.load_eq _ hl hfile]
        rw [← h.isFile_eq _ hl, hfile, ← hroot]
        cases isRoot t' (dir.join fileName) <;> simp [hl]

/-- The global file is chosen as before, beside what was found before, except that it may be the new
file. -/
theorem globalBeside_eq (home : Option Path) (found : List Path) :
    Search.globalBeside t home (found.filter fun p => !t.leadsTo p l) =
      (Search.globalBeside t' home found).filter fun p => !t.leadsTo p l := by
  rw [Search.globalBeside, Search.globalBeside, Option.filter_filter]
  cases home with
  | none => rfl
  | some dir =>
    rw [Option.map_some, Option.filter_some, Option.filter_some, List.any_filter]
    cases hl : t.leadsTo (globalFile dir) l with
    | true => simp [h.isFile_eq_false _ hl]
    | false =>
      -- a file found under the name of the global one is not the new file
      have hfound : (fun p : Path => !t.leadsTo p l && p.location == (globalFile dir).location) =
          fun p => p.location == (globalFile dir).location := by
        funext p
        by_cases hp : p.location = (globalFile dir).location
        · simp [hp, t.leadsTo_congr hp l, hl]
        · simp [hp]
      simp [h.isFile_eq _ hl, hfound]

/-- What is found is what was found before, and the new file. -/
theorem discover_eq (home : Option Path) (cwd : Path) :
    discover t home cwd = (discover t' home cwd).filter fun p => !t.leadsTo p l := by
  unfold discover Search.run Search.paths
  rw [h.walk_eq cwd.ancestors]
  dsimp only
  rw [List.filter_append]
  cases (Search.walk t' cwd.ancestors).2 with
  | true => rfl
  | false =>
    simp only [Bool.false_eq_true, if_false]
    rw [h.globalBeside_eq, Option.toList_filter]

end GainsEmptyLayer

/-! ## Loading with one more file

The files that are found are those found before and perhaps the new one, in the same order. Merged,
they give the same settings, because the new one defines nothing. -/

/-- What a walk finds are files of the one name in directories. Induction on the directories. -/
theorem exists_join_of_mem_walk {t : FileTree} {dirs : List Path} {p : Path}
    (h : p ∈ (Search.walk t dirs).1) : t.isFile p = true ∧ ∃ dir : Path, p = dir.join fileName := by
  induction dirs with
  | nil => cases h
  | cons dir dirs ih =>
    rw [Search.walk] at h
    cases hfile : t.isFile (dir.join fileName) with
    | false =>
      rw [hfile] at h
      exact ih h
    | true =>
      -- a root ends the walk behind itself, so the tail of what was found may be missing, but
      -- nothing is added
      have hmem : p = dir.join fileName ∨ p ∈ (Search.walk t dirs).1 := by
        cases hroot : isRoot t (dir.join fileName) with
        | true => exact .inl (by simpa [hfile, hroot] using h)
        | false => simpa [hfile, hroot] using h
      rcases hmem with rfl | hmem
      · exact ⟨hfile, dir, rfl⟩
      · exact ih hmem

/-- What a search finds are such files too, for the global file is the one of that name in the home
directory. -/
theorem exists_join_of_mem_discover {t : FileTree} {home : Option Path} {cwd p : Path}
    (h : p ∈ discover t home cwd) : t.isFile p = true ∧ ∃ dir : Path, p = dir.join fileName := by
  rcases List.mem_append.1 h with hwalk | hglobal
  · exact exists_join_of_mem_walk hwalk
  · have hsome := Option.mem_toList.1 hglobal
    unfold Search.run at hsome
    dsimp only at hsome
    split at hsome
    · cases hsome
    · obtain ⟨hmap, hfile⟩ := Option.filter_eq_some_iff.1 hsome
      obtain ⟨dir, -, rfl⟩ := Option.map_eq_some_iff.1 hmap
      exact ⟨(Bool.and_eq_true_iff.1 hfile).1, dir, rfl⟩

/-- The settings of files are those of the first one over those of the others. -/
theorem loadFiles_cons_settings (t : FileTree) (p : Path) (ps : List Path) :
    (loadFiles t (p :: ps)).map Config.settings =
      (Layer.load t p).bind fun l => ((loadFiles t ps).map Config.settings).map l.over := by
  unfold loadFiles
  rw [List.mapM_cons]
  cases Layer.load t p with
  | error e => rfl
  | ok l => cases ps.mapM fun p => (Layer.load t p).map (p, ·) <;> rfl

/-- Files with an empty layer may be left out, in any number and at any place. Induction on the
files: the settings of the others are put over nothing. -/
theorem loadFiles_filter_settings {t t' : FileTree} {ps : List Path} {keep : Path → Bool}
    (hkeep : ∀ p ∈ ps, keep p = true → Layer.load t' p = Layer.load t p)
    (hempty : ∀ p ∈ ps, keep p = false → Layer.load t' p = .ok {}) :
    (loadFiles t' ps).map Config.settings = (loadFiles t (ps.filter keep)).map Config.settings := by
  induction ps with
  | nil => rfl
  | cons p ps ih =>
    obtain ⟨hkeepHead, hkeepTail⟩ := List.forall_mem_cons.1 hkeep
    obtain ⟨hemptyHead, hemptyTail⟩ := List.forall_mem_cons.1 hempty
    have htail := ih hkeepTail hemptyTail
    rw [loadFiles_cons_settings, htail]
    cases hp : keep p with
    | true => rw [List.filter_cons_of_pos hp, loadFiles_cons_settings, hkeepHead hp]
    | false =>
      rw [List.filter_cons_of_neg (by simp [hp]), hemptyHead hp]
      cases (loadFiles t (ps.filter keep)).map Config.settings <;> rfl

/-- **A file that defines nothing changes nothing.** With one more configuration file of an empty
layer, every directory has the settings it had, or fails to load with the error it had. -/
theorem GainsEmptyLayer.load_settings {t t' : FileTree} {l : Location} (h : GainsEmptyLayer t l t')
    (home : Option Path) (cwd : Path) :
    (load t' home cwd).map Config.settings = (load t home cwd).map Config.settings := by
  rw [load, load, h.discover_eq]
  refine loadFiles_filter_settings (fun p hp hl => ?_) fun p hp hl => ?_
  · exact h.load_eq p (by simpa using hl) (exists_join_of_mem_discover hp).1
  · obtain ⟨-, dir, rfl⟩ := exists_join_of_mem_discover hp
    exact h.empty dir (by simpa using hl)

end Config

end TextQuery
