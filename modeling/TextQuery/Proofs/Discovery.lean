import TextQuery.Config.Discovery
import TextQuery.Proofs.Places

/-!
# How far a search for configuration can see

Which files decide about the configuration of a directory:

* `Path.Climb` — the way up from a directory, found in `Path.ancestors` by
  `Path.Climb.exists_ancestors`.
* `Layer.load_congr` — trees that show the same file at a path load the same layer from it.
* `Search.walk_append`, `loadFiles_eq_error` — the walk goes on over files that are not the root,
  and loading ends at the first file that is no layer.
* `load_eq_of_isDecisive` — so loading is a matter of the files up to the closest one that is the
  root or no layer, though in the second case the search itself goes on.
* `load_insulated` — nothing above that file and nothing about the home directory has a say.
-/

namespace TextQuery

/-! ## The way up -/

namespace Path

/-- What is left without the end is no longer. -/
theorem length_trimEnd_le (leading : Bool) (pieces : List String) :
    (trimEnd leading pieces).length ≤ pieces.length := by
  induction pieces generalizing leading with
  | nil => exact Nat.le_refl _
  | cons piece pieces ih =>
    rw [trimEnd]
    split
    · split <;> simp
    · next kept hkept =>
      have := ih false
      simp only [List.length_cons]
      omega

/-- The path above has fewer pieces, so the way up ends. -/
theorem length_body_lt_of_parent? {p q : Path} (h : p.parent? = some q) :
    q.body.length < p.body.length := by
  unfold parent? at h
  split at h
  · cases h
  · next kept hkept =>
    obtain rfl := Option.some.inj h
    have hle := length_trimEnd_le (!p.absolute) p.body
    -- the last name is dropped, and there is one
    have hpos : 0 < (trimEnd (!p.absolute) p.body).length := List.length_pos_iff.2 hkept
    have hlast := length_trimEnd_le (!p.absolute) (trimEnd (!p.absolute) p.body).dropLast
    rw [List.length_dropLast] at hlast
    show (trimEnd (!p.absolute) (trimEnd (!p.absolute) p.body).dropLast).length < p.body.length
    omega

theorem chain_of_parent?_eq_none {p : Path} (h : p.parent? = none) (n : Nat) : chain n p = [p] := by
  cases n with
  | zero => rfl
  | succ n => rw [chain, h]

/-- A path has no more paths above it than pieces, so a larger bound finds no more. Induction on the
one bound, for any other; each path above has fewer pieces. -/
theorem chain_congr {n m : Nat} {p : Path} (hn : p.body.length ≤ n) (hm : p.body.length ≤ m) :
    chain n p = chain m p := by
  induction n generalizing p m with
  | zero =>
    cases h : p.parent? with
    | none => rw [chain_of_parent?_eq_none h, chain_of_parent?_eq_none h]
    | some q =>
      -- a path without pieces has none above it
      have := length_body_lt_of_parent? h
      omega
  | succ n ih =>
    cases h : p.parent? with
    | none => rw [chain_of_parent?_eq_none h, chain_of_parent?_eq_none h]
    | some q =>
      have hlt := length_body_lt_of_parent? h
      cases m with
      | zero => omega
      | succ m =>
        rw [chain, chain, h]
        exact congrArg (p :: ·) (ih (by omega) (by omega))

/-- The way up from a path is the path and the way up from the one above it. -/
theorem ancestors_of_parent? {p q : Path} (h : p.parent? = some q) :
    p.ancestors = p :: q.ancestors := by
  have hlt := length_body_lt_of_parent? h
  calc p.ancestors = chain (q.body.length + p.body.length + 1) p :=
        chain_congr (Nat.le_refl _) (by omega)
    _ = p :: chain (q.body.length + p.body.length) q := by rw [chain, h]
    _ = p :: q.ancestors := congrArg (p :: ·) (chain_congr (by omega) (Nat.le_refl _))

theorem exists_ancestors (p : Path) : ∃ above, p.ancestors = p :: above := by
  cases h : p.parent? with
  | some q => exact ⟨q.ancestors, ancestors_of_parent? h⟩
  | none => exact ⟨[], chain_of_parent?_eq_none h _⟩

/-- From one directory up to another, with those on the way from the inside out. -/
inductive Climb : Path → List Path → Path → Prop where
  | here (dir : Path) : Climb dir [] dir
  | up {p q dir : Path} {inner : List Path} (h : p.parent? = some q) (hrest : Climb q inner dir) :
      Climb p (p :: inner) dir

theorem Climb.exists_ancestors {p dir : Path} {inner : List Path} (h : Climb p inner dir) :
    ∃ above, p.ancestors = inner ++ dir :: above := by
  induction h with
  | here dir => exact dir.exists_ancestors
  | up hparent _ ih =>
    obtain ⟨above, habove⟩ := ih
    exact ⟨above, by rw [ancestors_of_parent? hparent, habove, List.cons_append]⟩

end Path

namespace Config

theorem Layer.load_congr {t t' : FileTree} {p : Path} (h : t'.fileAt? p = t.fileAt? p)
    (hfile : t.isFile p = true) : Layer.load t' p = Layer.load t p := by
  rw [FileTree.isFile_eq_isSome] at hfile
  obtain ⟨e, he⟩ := Option.isSome_iff_exists.1 hfile
  rw [load, load, FileTree.read_of_fileAt? he, FileTree.read_of_fileAt? (h.trans he)]

/-! ## Searching and loading -/

/-- Whether the file at a path settles what comes of loading: it is the root, or no layer at all. -/
def isDecisive (t : FileTree) (p : Path) : Bool :=
  t.isFile p &&
    match Layer.load t p with
    | .ok l => l.root == some true
    | .error _ => true

theorem isDecisive_iff {t : FileTree} {p : Path} :
    isDecisive t p = true ↔
      t.isFile p = true ∧ (isRoot t p = true ∨ ∃ e, Layer.load t p = .error e) := by
  unfold isDecisive isRoot
  cases Layer.load t p <;> simp

theorem isDecisive_congr {t t' : FileTree} {p : Path} (h : t'.fileAt? p = t.fileAt? p) :
    isDecisive t' p = isDecisive t p := by
  -- what does not lead to a file is not loaded
  have hfile : t'.isFile p = t.isFile p := by
    rw [FileTree.isFile_eq_isSome, FileTree.isFile_eq_isSome, h]
  unfold isDecisive
  cases hp : t.isFile p with
  | false => rw [hfile, hp, Bool.false_and, Bool.false_and]
  | true => rw [hfile, Layer.load_congr h hp, hp]

/-- A file that decides nothing defines a layer and is not the root. -/
theorem exists_layer_of_not_isDecisive {t : FileTree} {p : Path} (h : isDecisive t p = false)
    (hfile : t.isFile p = true) : isRoot t p = false ∧ ∃ l, Layer.load t p = .ok l := by
  unfold isDecisive at h
  unfold isRoot
  cases hload : Layer.load t p with
  | error e => simp [hfile, hload] at h
  | ok l => simpa [hfile, hload] using h

/-- The configuration files of directories. -/
def filesOf (t : FileTree) (dirs : List Path) : List Path :=
  (dirs.map fun dir => dir.join fileName).filter t.isFile

/-- A directory that has a file adds it to those of the directories in front. -/
theorem filesOf_append_of_isFile {t : FileTree} {dir : Path}
    (h : t.isFile (dir.join fileName) = true) (dirs : List Path) :
    filesOf t (dirs ++ [dir]) = filesOf t dirs ++ [dir.join fileName] := by
  simp [filesOf, h]

theorem filesOf_congr {t t' : FileTree} {dirs : List Path}
    (h : ∀ dir ∈ dirs, t'.fileAt? (dir.join fileName) = t.fileAt? (dir.join fileName)) :
    filesOf t' dirs = filesOf t dirs := by
  refine List.filter_congr fun p hp => ?_
  obtain ⟨dir, hdir, rfl⟩ := List.mem_map.1 hp
  rw [FileTree.isFile_eq_isSome, FileTree.isFile_eq_isSome, h dir hdir]

/-- The walk goes on over directories whose files decide nothing. -/
theorem Search.walk_append {t : FileTree} {inner : List Path}
    (h : ∀ dir ∈ inner, isDecisive t (dir.join fileName) = false) (dirs : List Path) :
    walk t (inner ++ dirs) = (filesOf t inner ++ (walk t dirs).1, (walk t dirs).2) := by
  induction inner with
  | nil => rfl
  | cons dir inner ih =>
    obtain ⟨hdir, hinner⟩ := List.forall_mem_cons.1 h
    rw [List.cons_append, walk, ih hinner]
    cases hfile : t.isFile (dir.join fileName) with
    | false => simp [filesOf, hfile]
    | true =>
      have hroot := (exists_layer_of_not_isDecisive hdir hfile).1
      simp [filesOf, hfile, hroot]

/-- If each of the files can be loaded, then all of them can. Induction on the files. -/
theorem exists_mapM_load {t : FileTree} {ps : List Path}
    (h : ∀ p ∈ ps, ∃ l, Layer.load t p = .ok l) :
    ∃ files, ps.mapM (fun p => (Layer.load t p).map (p, ·)) = .ok files ∧
      files.map Prod.fst = ps := by
  induction ps with
  | nil => exact ⟨[], rfl, rfl⟩
  | cons p ps ih =>
    obtain ⟨⟨l, hl⟩, hps⟩ := List.forall_mem_cons.1 h
    obtain ⟨files, hfiles, hpaths⟩ := ih hps
    refine ⟨(p, l) :: files, ?_, by rw [List.map_cons, hpaths]⟩
    rw [List.mapM_cons, hl, hfiles]
    rfl

/-- Files that can all be loaded make up a configuration, and they are its sources. -/
theorem loadFiles_eq_ok {t : FileTree} {ps : List Path}
    (h : ∀ p ∈ ps, ∃ l, Layer.load t p = .ok l) :
    ∃ config, loadFiles t ps = .ok config ∧ config.sources = ps := by
  obtain ⟨files, hfiles, hpaths⟩ := exists_mapM_load h
  refine ⟨merge files, ?_, hpaths⟩
  rw [loadFiles, hfiles]

/-- Loading ends at the first file that is no layer. -/
theorem loadFiles_eq_error {t : FileTree} {ps : List Path}
    (h : ∀ p ∈ ps, ∃ l, Layer.load t p = .ok l) {p : Path} {e : Error}
    (hp : Layer.load t p = .error e) (more : List Path) :
    loadFiles t (ps ++ p :: more) = .error e := by
  obtain ⟨files, hfiles, -⟩ := exists_mapM_load h
  rw [loadFiles, List.mapM_append, hfiles, List.mapM_cons, hp]
  rfl

/-- Files that load alike make up the same configuration. -/
theorem loadFiles_congr {t t' : FileTree} {ps : List Path}
    (h : ∀ p ∈ ps, Layer.load t' p = Layer.load t p) : loadFiles t' ps = loadFiles t ps := by
  have hmap : ps.mapM (fun p => (Layer.load t' p).map (p, ·)) =
      ps.mapM (fun p => (Layer.load t p).map (p, ·)) := by
    induction ps with
    | nil => rfl
    | cons p ps ih =>
      obtain ⟨hp, hps⟩ := List.forall_mem_cons.1 h
      rw [List.mapM_cons, List.mapM_cons, hp, ih hps]
  rw [loadFiles, loadFiles, hmap]

/-! ## The closest file that decides -/

section Decisive

variable {t : FileTree} {cwd dir : Path} {inner : List Path}

theorem exists_layer_of_mem_filesOf (h : ∀ d ∈ inner, isDecisive t (d.join fileName) = false) :
    ∀ p ∈ filesOf t inner, ∃ l, Layer.load t p = .ok l := by
  intro p hp
  obtain ⟨hp, hfile⟩ := List.mem_filter.1 hp
  obtain ⟨d, hd, rfl⟩ := List.mem_map.1 hp
  exact (exists_layer_of_not_isDecisive (h d hd) hfile).2

/-- What is found begins with the files up to the one that decides, and ends there if it is the
root. -/
theorem exists_discover (hclimb : cwd.Climb inner dir)
    (hinner : ∀ d ∈ inner, isDecisive t (d.join fileName) = false)
    (hfile : t.isFile (dir.join fileName) = true) (home : Option Path) :
    ∃ more, discover t home cwd = filesOf t inner ++ dir.join fileName :: more ∧
      (isRoot t (dir.join fileName) = true → more = []) := by
  obtain ⟨above, habove⟩ := hclimb.exists_ancestors
  have hpaths : discover t home cwd =
      (Search.walk t cwd.ancestors).1 ++ (Search.run t home cwd).global.toList := rfl
  have hwalk := Search.walk_append hinner (dir :: above)
  rw [hpaths, habove, hwalk, List.append_assoc]
  cases hroot : isRoot t (dir.join fileName) with
  -- the walk ends here, and there is no global file behind a root
  | true =>
    have hdir : Search.walk t (dir :: above) = ([dir.join fileName], true) := by
      simp [Search.walk, hfile, hroot]
    have hglobal : (Search.run t home cwd).global = none := by
      simp [Search.run, habove, hwalk, hdir]
    exact ⟨[], by rw [hdir, hglobal]; rfl, fun _ => rfl⟩
  -- the file is not the root, so the walk goes on behind it
  | false =>
    have hdir : (Search.walk t (dir :: above)).1 =
        dir.join fileName :: (Search.walk t above).1 := by
      simp [Search.walk, hfile, hroot]
    exact ⟨_, by rw [hdir, List.cons_append], by simp⟩

/-- Loading is a matter of the files up to the closest one that decides. -/
theorem load_eq_of_isDecisive (hclimb : cwd.Climb inner dir)
    (hinner : ∀ d ∈ inner, isDecisive t (d.join fileName) = false)
    (hdir : isDecisive t (dir.join fileName) = true) (home : Option Path) :
    load t home cwd = loadFiles t (filesOf t (inner ++ [dir])) := by
  obtain ⟨hfile, hcases⟩ := isDecisive_iff.1 hdir
  obtain ⟨more, hmore, hend⟩ := exists_discover hclimb hinner hfile home
  rw [load, hmore, filesOf_append_of_isFile hfile]
  rcases hcases with hroot | ⟨e, he⟩
  · rw [hend hroot]
  · -- the search may go on, but loading does not
    have hlayers := exists_layer_of_mem_filesOf hinner
    rw [loadFiles_eq_error hlayers he, loadFiles_eq_error hlayers he]

/-- **Nothing beyond the closest root or broken file has a say.** Let the closest configuration file
that is the root or no layer lie in `dir`. Every tree that shows the same configuration files from
`cwd` up to `dir` gives the same configuration, with any home directory. If the file is broken, the
outcome is its error; if it is the root, the sources are the files from `cwd` up to it. -/
theorem load_insulated (hclimb : cwd.Climb inner dir)
    (hinner : ∀ d ∈ inner, isDecisive t (d.join fileName) = false)
    (hdir : isDecisive t (dir.join fileName) = true) (home : Option Path) :
    (∀ (t' : FileTree) (home' : Option Path),
      (∀ d ∈ inner ++ [dir], t'.fileAt? (d.join fileName) = t.fileAt? (d.join fileName)) →
        load t' home' cwd = load t home cwd) ∧
      (∀ cause, t.read (dir.join fileName) = .error cause →
        load t home cwd = .error (.unreadable (dir.join fileName) cause)) ∧
      (∀ text cause, t.read (dir.join fileName) = .ok text → Layer.parse text = .error cause →
        load t home cwd = .error (.rejected (dir.join fileName) text cause)) ∧
      (isRoot t (dir.join fileName) = true →
        ∃ config, load t home cwd = .ok config ∧ config.sources = filesOf t (inner ++ [dir])) := by
  have hfile := (isDecisive_iff.1 hdir).1
  -- the search ends at the file that decides, or loading does: either way only these files count
  have heq := load_eq_of_isDecisive hclimb hinner hdir home
  have herror {e : Error} (he : Layer.load t (dir.join fileName) = .error e) :
      load t home cwd = .error e := by
    rw [heq, filesOf_append_of_isFile hfile]
    exact loadFiles_eq_error (exists_layer_of_mem_filesOf hinner) he []
  refine ⟨fun t' home' hsame => ?_, fun cause hread => ?_, fun text cause hread hparse => ?_,
    fun hroot => ?_⟩
  · -- the other tree has the same file decide
    have hinner' : ∀ d ∈ inner, isDecisive t' (d.join fileName) = false := fun d hd => by
      rw [isDecisive_congr (hsame d (List.mem_append_left _ hd)), hinner d hd]
    have hdir' : isDecisive t' (dir.join fileName) = true := by
      rw [isDecisive_congr (hsame dir (by simp)), hdir]
    rw [heq, load_eq_of_isDecisive hclimb hinner' hdir' home', filesOf_congr hsame]
    refine loadFiles_congr fun p hp => ?_
    obtain ⟨hp, hpfile⟩ := List.mem_filter.1 hp
    obtain ⟨d, hd, rfl⟩ := List.mem_map.1 hp
    exact Layer.load_congr (hsame d hd) hpfile
  · exact herror (by rw [Layer.load, hread])
  · exact herror (by rw [Layer.load, hread]; simp only [hparse])
  · rw [heq]
    refine loadFiles_eq_ok fun p hp => ?_
    rw [filesOf_append_of_isFile hfile, List.mem_append, List.mem_singleton] at hp
    rcases hp with hp | rfl
    · exact exists_layer_of_mem_filesOf hinner p hp
    · unfold isRoot at hroot
      cases hload : Layer.load t (dir.join fileName) with
      | ok l => exact ⟨l, rfl⟩
      | error e => simp [hload] at hroot

end Decisive

/-- In `/w/a`, with a layer there, the root in `/w` and a broken file above both. The directory is
written by a way through `/w/b` and back, so that its parent is `/w/b/..`. -/
theorem load_insulated_below_broken :
    let file (names : List String) (text : String) : Location × Entry :=
      (⟨true, names⟩, .file (.text text))
    let t : FileTree := ⟨[file ["w", "a", ".quarry.toml"] "[query]\nmax_length = 5\n",
      file ["w", ".quarry.toml"] "root = true\n", file [".quarry.toml"] "[query",
      (⟨true, ["w", "b"]⟩, .directory)]⟩
    let cwd : Path := ⟨true, ["w", "b", "..", "a"]⟩
    let dir : Path := ⟨true, ["w", "b", ".."]⟩
    let home : Option Path := some ⟨true, []⟩
    cwd.Climb [cwd] dir ∧ isDecisive t (cwd.join fileName) = false ∧
      isDecisive t (dir.join fileName) = true ∧
      (∀ (t' : FileTree) (home' : Option Path),
        (∀ d ∈ [cwd] ++ [dir], t'.fileAt? (d.join fileName) = t.fileAt? (d.join fileName)) →
          load t' home' cwd = load t home cwd) ∧
      (∀ cause, t.read (dir.join fileName) = .error cause →
        load t home cwd = .error (.unreadable (dir.join fileName) cause)) ∧
      (∀ text cause, t.read (dir.join fileName) = .ok text → Layer.parse text = .error cause →
        load t home cwd = .error (.rejected (dir.join fileName) text cause)) ∧
      (isRoot t (dir.join fileName) = true →
        ∃ config, load t home cwd = .ok config ∧ config.sources = filesOf t ([cwd] ++ [dir])) := by
  intro file t cwd dir home
  have hclimb : cwd.Climb [cwd] dir := .up (by decide) (.here dir)
  have hcwd : isDecisive t (cwd.join fileName) = false := by decide +kernel
  have hdir : isDecisive t (dir.join fileName) = true := by decide +kernel
  exact ⟨hclimb, hcwd, hdir, load_insulated hclimb (by simpa using hcwd) hdir home⟩

end Config

end TextQuery
