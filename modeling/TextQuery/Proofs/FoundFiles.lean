import Mathlib.Data.List.Infix
import Mathlib.Data.List.Nodup
import TextQuery.Proofs.Discovery

/-!
# Which files a search finds

The search for configuration files walks up from a directory and stops at the root. What it finds:

* `Path.map_location_ancestors` — the directories on the way have the names of the one where it
  starts, fewer and fewer of them. A path may be written in many ways; only the names in it count
  (`Path.location_parent?`, `Path.location_join`), two dots among them.
* `DeclaresRoot`, `applicable` — the files that apply in these directories, said without the walk.
* `Search.walk_eq` — the walk is one pass over the files of the directories, cut off behind the
  first that declares itself the root.
* `discover_eq_applicable` — the search finds what applies, nothing twice, and a root only as the
last.
-/

namespace TextQuery

/-! ## The way up -/

/-- The location and those with fewer and fewer of its names. -/
def Location.enclosing (l : Location) : List Location :=
  l.names.inits.reverse.map fun names => { l with names }

namespace Location

theorem enclosing_concat (absolute : Bool) (names : List String) (name : String) :
    enclosing ⟨absolute, names ++ [name]⟩ =
      ⟨absolute, names ++ [name]⟩ :: enclosing ⟨absolute, names⟩ := by
  simp [enclosing, List.inits_append]

theorem nodup_enclosing (l : Location) : l.enclosing.Nodup := by
  obtain ⟨absolute, names⟩ := l
  induction names using List.reverseRecOn with
  | nil => simp [enclosing]
  | append_singleton names name ih =>
    rw [enclosing_concat, List.nodup_cons]
    refine ⟨fun hmem => ?_, ih⟩
    -- what lies around has fewer names
    have hfront : names ++ [name] <+: names := by simpa [enclosing] using hmem
    have := hfront.length_le
    simp only [List.length_append, List.length_singleton] at this
    omega

end Location

namespace Path

theorem namesOf_trimEnd (leading : Bool) (pieces : List String) :
    namesOf leading (trimEnd leading pieces) = namesOf leading pieces := by
  induction pieces using List.reverseRecOn with
  | nil => rfl
  | append_singleton pieces piece ih =>
    rw [trimEnd_concat]
    split
    · rfl
    · next hname => simp [namesOf_concat, hname, ih]

/-- The path around one with another piece at its end: where the piece is a name it is dropped, and
where it is none it makes no difference. -/
theorem parent?_concat (absolute : Bool) (pieces : List String) (piece : String) :
    parent? ⟨absolute, pieces ++ [piece]⟩ =
      if isName (!absolute && pieces.isEmpty) piece then
        some ⟨absolute, trimEnd (!absolute) pieces⟩
      else parent? ⟨absolute, pieces⟩ := by
  unfold parent?
  simp only [trimEnd_concat]
  cases isName (!absolute && pieces.isEmpty) piece with
  | false => rfl
  | true =>
    simp only [if_true]
    split
    · next hnil => simp at hnil
    · rw [List.dropLast_concat]

/-- The directory of a path has its names but for the last one. -/
theorem location_parent? (p : Path) :
    p.parent?.map location =
      if p.location.names = [] then none
      else some { p.location with names := p.location.names.dropLast } := by
  obtain ⟨absolute, body⟩ := p
  induction body using List.reverseRecOn with
  | nil => rfl
  | append_singleton pieces piece ih =>
    rw [parent?_concat]
    unfold location at ih ⊢
    split
    · next hname => simp [namesOf_concat, namesOf_trimEnd, hname]
    · next hname => simpa [namesOf_concat, hname] using ih

/-- The paths above a path have the locations around its location, from the inside out. Induction on
the names: each step up drops one. -/
theorem map_location_ancestors (p : Path) : p.ancestors.map location = p.location.enclosing := by
  generalize hl : p.location = l
  obtain ⟨absolute, names⟩ := l
  induction names using List.reverseRecOn generalizing p with
  | nil =>
    -- without a name there is nothing above
    have hnone : p.parent? = none := by simpa [hl] using p.location_parent?
    rw [ancestors, chain_of_parent?_eq_none hnone, List.map_singleton, hl]
    rfl
  | append_singleton names name ih =>
    have hparent : p.parent?.map location = some ⟨absolute, names⟩ := by
      rw [location_parent?, hl]
      simp
    obtain ⟨q, hq, hloc⟩ := Option.map_eq_some_iff.1 hparent
    rw [ancestors_of_parent? hq, List.map_cons, ih q hloc, hl, Location.enclosing_concat]

end Path

namespace Config

/-! ## The files that apply -/

/-- The file can be read, and what it holds declares it the root. -/
def DeclaresRoot (t : FileTree) (p : Path) : Prop :=
  ∃ text l, t.read p = .ok text ∧ Layer.parse text = .ok l ∧ l.root = some true

theorem isRoot_iff {t : FileTree} {p : Path} : isRoot t p = true ↔ DeclaresRoot t p := by
  unfold isRoot Layer.load DeclaresRoot
  cases t.read p with
  | error e => simp
  | ok text => cases hparse : Layer.parse text <;> simp [hparse]

instance (t : FileTree) : DecidablePred (DeclaresRoot t) := fun _ => decidable_of_iff _ isRoot_iff

/-- The files that apply where these are the directories, closest first. A root ends the list;
without one the global file comes last, unless it is one of the others. -/
def applicable (t : FileTree) (home : Option Path) (dirs : List Path) : List Path :=
  let files := filesOf t dirs
  match files.find? (DeclaresRoot t ·) with
  | some root => files.takeWhile (¬ DeclaresRoot t ·) ++ [root]
  | none =>
    files ++ (home.map globalFile).toList.filter fun g =>
      t.isFile g ∧ g.location ∉ files.map Path.location

/-! ## The walk -/

theorem filesOf_cons (t : FileTree) (dir : Path) (dirs : List Path) :
    filesOf t (dir :: dirs) =
      if t.isFile (dir.join fileName) then dir.join fileName :: filesOf t dirs
      else filesOf t dirs := by
  rw [filesOf, List.map_cons, List.filter_cons]
  rfl

/-- The walk passes over the files of the directories up to the first that declares itself the
root. -/
theorem Search.walk_eq (t : FileTree) (dirs : List Path) :
    walk t dirs =
      match (filesOf t dirs).find? (DeclaresRoot t ·) with
      | some root => ((filesOf t dirs).takeWhile (¬ DeclaresRoot t ·) ++ [root], true)
      | none => (filesOf t dirs, false) := by
  induction dirs with
  | nil => rfl
  | cons dir dirs ih =>
    rw [walk, filesOf_cons, ih]
    cases t.isFile (dir.join fileName) with
    | false => rfl
    | true =>
      by_cases hroot : DeclaresRoot t (dir.join fileName)
      · simp [isRoot_iff.2 hroot, hroot]
      · have hnot : isRoot t (dir.join fileName) = false :=
          Bool.eq_false_iff.2 fun h => hroot (isRoot_iff.1 h)
        simp only [if_true, hnot, Bool.false_eq_true, if_false, List.find?_cons, hroot,
          decide_false, List.takeWhile_cons, not_false_eq_true, decide_true]
        cases (filesOf t dirs).find? (DeclaresRoot t ·) <;> rfl

/-- The search gives what applies to the directories on the way up. Both begin with the walk; the
condition on the global file is the same up to its wording. -/
theorem discover_eq (t : FileTree) (home : Option Path) (cwd : Path) :
    discover t home cwd = applicable t home cwd.ancestors := by
  unfold discover Search.run Search.paths applicable
  rw [Search.walk_eq]
  cases hfind : (filesOf t cwd.ancestors).find? (DeclaresRoot t ·) with
  | some root => simp only [hfind, if_true, Option.toList_none, List.append_nil]
  | none =>
    simp only [hfind, Bool.false_eq_true, if_false, Search.globalBeside, Option.toList_filter]
    congr 2
    funext g
    rw [Bool.eq_iff_iff]
    simp

/-! ## What is found -/

/-- Each directory has one file, and no two directories are the same, so no two files are. The
locations of the files are those of the directories with the one name added. -/
theorem nodup_location_filesOf (t : FileTree) (cwd : Path) :
    ((filesOf t cwd.ancestors).map Path.location).Nodup := by
  have hjoin : (cwd.ancestors.map fun dir => dir.join fileName).map Path.location =
      cwd.location.enclosing.map fun l => { l with names := l.names ++ [fileName] } := by
    rw [← Path.map_location_ancestors, List.map_map, List.map_map]
    exact List.map_congr_left fun dir _ => dir.location_join (by decide)
  -- some of the paths lead to no file
  have hsub : ((filesOf t cwd.ancestors).map Path.location).Sublist
      ((cwd.ancestors.map fun dir => dir.join fileName).map Path.location) :=
    List.filter_sublist.map _
  refine hsub.nodup ?_
  rw [hjoin]
  refine List.Nodup.map (fun l l' heq => ?_) cwd.location.nodup_enclosing
  simp only [Location.mk.injEq, List.append_cancel_right_eq] at heq
  cases l
  cases l'
  simpa using heq

/-- Either a root is met and ends the list, or none is and the global file may follow. The cases are
those of the definition, with the files in front of the root named. -/
theorem applicable_cases (t : FileTree) (home : Option Path) (dirs : List Path) :
    (∃ before root after, filesOf t dirs = before ++ root :: after ∧
      (∀ p ∈ before, ¬ DeclaresRoot t p) ∧ applicable t home dirs = before ++ [root]) ∨
    (∀ p ∈ filesOf t dirs, ¬ DeclaresRoot t p) ∧
      ∃ last : Option Path, applicable t home dirs = filesOf t dirs ++ last.toList ∧
        ∀ g ∈ last, g.location ∉ (filesOf t dirs).map Path.location := by
  unfold applicable
  cases hfind : (filesOf t dirs).find? (DeclaresRoot t ·) with
  | some root =>
    obtain ⟨hroot, before, after, hfiles, hbefore⟩ := List.find?_eq_some_iff_append.1 hfind
    -- the files in front of the first root are those that are taken
    have htake : (filesOf t dirs).takeWhile (¬ DeclaresRoot t ·) = before := by
      rw [hfiles, List.takeWhile_append_of_pos (by simpa using hbefore),
        List.takeWhile_cons_of_neg (by simpa using hroot), List.append_nil]
    refine .inl ⟨before, root, after, hfiles, by simpa using hbefore, ?_⟩
    simp only [hfind, htake]
  | none =>
    refine .inr ⟨by simpa using hfind, (home.map globalFile).filter fun g =>
      t.isFile g ∧ g.location ∉ (filesOf t dirs).map Path.location, ?_, fun g hg => ?_⟩
    · simp only [hfind, Option.toList_filter]
    · have hkept := (Option.filter_eq_some_iff.1 hg).2
      exact (of_decide_eq_true hkept).2

/-- No file applies twice. The files of the directories are different, and the global file is left
out if it is one of them. -/
theorem nodup_location_applicable (t : FileTree) (home : Option Path) (cwd : Path) :
    ((applicable t home cwd.ancestors).map Path.location).Nodup := by
  have hnodup := nodup_location_filesOf t cwd
  rcases applicable_cases t home cwd.ancestors with
    ⟨before, root, after, hfiles, -, heq⟩ | ⟨-, last, heq, hlast⟩
  · -- what is kept is the front of what is there
    have hfront : before ++ [root] <+: filesOf t cwd.ancestors := ⟨after, by simp [hfiles]⟩
    rw [heq]
    exact (hfront.sublist.map _).nodup hnodup
  · rw [heq]
    cases last with
    | none => simpa using hnodup
    | some g =>
      rw [Option.toList_some, List.map_append, List.map_singleton, ← List.concat_eq_append]
      exact hnodup.concat (hlast g rfl)

/-- A file that declares itself the root is the last one that applies: it ends the walk, or it is
the global file. -/
theorem getLast?_applicable {t : FileTree} {home : Option Path} {dirs : List Path} {p : Path}
    (hp : p ∈ applicable t home dirs) (hroot : DeclaresRoot t p) :
    (applicable t home dirs).getLast? = some p := by
  rcases applicable_cases t home dirs with
    ⟨before, root, after, -, hbefore, heq⟩ | ⟨hfiles, last, heq, -⟩
  · rw [heq] at hp ⊢
    rcases List.mem_append.1 hp with hp | hp
    · exact absurd hroot (hbefore p hp)
    · rw [List.mem_singleton.1 hp, List.getLast?_concat]
  · rw [heq] at hp ⊢
    rcases List.mem_append.1 hp with hp | hp
    · exact absurd hroot (hfiles p hp)
    · rw [Option.mem_toList.1 hp, Option.toList_some, List.getLast?_concat]

/-- **A search finds exactly the files that apply.** The directories that it visits have the names
of the working directory, one less each time. It finds their configuration files, closest first, up
to and with the first that can be read and declares itself the root; only where there is none it
adds the global file, if it is there and not one of the others. It finds no path twice, however
written, and a file that declares itself the root only as the last. -/
theorem discover_eq_applicable (t : FileTree) (home : Option Path) (cwd : Path) :
    cwd.ancestors.map Path.location = cwd.location.enclosing ∧
      discover t home cwd = applicable t home cwd.ancestors ∧
      ((discover t home cwd).map Path.location).Nodup ∧
      ∀ p ∈ discover t home cwd, DeclaresRoot t p → (discover t home cwd).getLast? = some p := by
  rw [discover_eq]
  exact ⟨cwd.map_location_ancestors, rfl, nodup_location_applicable t home cwd,
    fun p hp hroot => getLast?_applicable hp hroot⟩

/-- In `/w/a/b`, with a broken file there, a directory of the same name in `/w/a`, a file in `/w`,
which is the home directory as well, and the root above all. The way in leads through `/w` and back
into it, so the file there is found by two paths. -/
theorem discover_eq_applicable_home_on_the_way :
    let file (names : List String) (text : String) : Location × Entry :=
      (⟨true, names⟩, .file (.text text))
    let t : FileTree := ⟨[file ["w", "a", "b", ".quarry.toml"] "[query",
      (⟨true, ["w", "a", ".quarry.toml"]⟩, .directory), file ["w", ".quarry.toml"] "",
      file [".quarry.toml"] "root = true\n"]⟩
    let cwd : Path := ⟨true, ["w", "a", "..", "a", "", "b"]⟩
    let home : Option Path := some ⟨true, ["w", ""]⟩
    let root : Path := ⟨true, [".quarry.toml"]⟩
    discover t home cwd =
        [⟨true, ["w", "a", "..", "a", "", "b", ".quarry.toml"]⟩,
          ⟨true, ["w", "a", "..", ".quarry.toml"]⟩, ⟨true, ["w", ".quarry.toml"]⟩, root] ∧
      root ∈ discover t home cwd ∧ DeclaresRoot t root ∧
      cwd.ancestors.map Path.location = cwd.location.enclosing ∧
      discover t home cwd = applicable t home cwd.ancestors ∧
      ((discover t home cwd).map Path.location).Nodup ∧
      (discover t home cwd).getLast? = some root := by
  intro file t cwd home root
  have hfound : discover t home cwd =
      [⟨true, ["w", "a", "..", "a", "", "b", ".quarry.toml"]⟩,
        ⟨true, ["w", "a", "..", ".quarry.toml"]⟩, ⟨true, ["w", ".quarry.toml"]⟩, root] := by
    decide +kernel
  have hmem : root ∈ discover t home cwd := by simp [hfound]
  have hroot : DeclaresRoot t root := by decide +kernel
  obtain ⟨hdirs, heq, hnodup, hlast⟩ := discover_eq_applicable t home cwd
  exact ⟨hfound, hmem, hroot, hdirs, heq, hnodup, hlast root hmem hroot⟩

end Config

end TextQuery
