import TextQuery.Config.Merge

/-!
# Which file decides a setting

Layers are put over the defaults from the farthest file in, so the closest file that defines a
setting has the last word:

* `Setting` — a setting together with what a layer says about it. A layer put over settings decides
  each setting on its own.
* `Setting.value_merge` — so merging gives the setting of the first file that defines it.
* `Settings.ext_of_values` — three settings are all there are.
* `merge_takes_first_defined` — the outcome of merging, and that a file that defines nothing may be
  put in anywhere.
-/

namespace TextQuery.Config

/-- A setting: where it stands, what a layer defines it as, and that this is all that a layer put
over other settings does to it. -/
structure Setting (α : Type) where
  value : Settings → α
  defined? : Layer → Option α
  value_over (l : Layer) (s : Settings) : value (l.over s) = (defined? l).getD (value s)

namespace Setting

/-- The field that a query is about unless it says so. -/
def defaultField : Setting String where
  value s := s.query.defaultField
  defined? l := l.query.bind (·.defaultField)
  value_over l s := by
    unfold Layer.over
    cases l.query <;> rfl

/-- The longest query that is read. -/
def maxLength : Setting Nat where
  value s := s.query.maxLength
  defined? l := l.query.bind (·.maxLength)
  value_over l s := by
    unfold Layer.over
    cases l.query <;> rfl

/-- The format of the output. -/
def format : Setting OutputFormat where
  value s := s.output.format
  defined? l := l.output.bind (·.format)
  value_over l s := by
    unfold Layer.over
    cases l.output <;> rfl

variable {α : Type} (k : Setting α)

/-- The first of the files that defines the setting decides it. -/
theorem value_merge (files : List (Path × Layer)) :
    k.value (merge files).settings =
      (files.findSome? fun file => k.defined? file.2).getD (k.value {}) := by
  show k.value (files.foldr (fun file s => file.2.over s) {}) = _
  induction files with
  | nil => rfl
  | cons file files ih =>
    rw [List.foldr_cons, k.value_over, ih, List.findSome?_cons]
    cases k.defined? file.2 <;> rfl

/-- A file that does not define the setting may be put in anywhere. -/
theorem value_merge_insert {file : Path × Layer} (h : k.defined? file.2 = none)
    (before after : List (Path × Layer)) :
    k.value (merge (before ++ file :: after)).settings =
      k.value (merge (before ++ after)).settings := by
  have hfind : ((before ++ file :: after).findSome? fun f => k.defined? f.2) =
      (before ++ after).findSome? fun f => k.defined? f.2 := by
    rw [List.findSome?_append, List.findSome?_append, List.findSome?_cons, h]
  rw [value_merge, value_merge, hfind]

end Setting

theorem Settings.ext_of_values {s s' : Settings}
    (hfield : Setting.defaultField.value s = Setting.defaultField.value s')
    (hlength : Setting.maxLength.value s = Setting.maxLength.value s')
    (hformat : Setting.format.value s = Setting.format.value s') : s = s' := by
  obtain ⟨⟨field, length⟩, ⟨format⟩⟩ := s
  obtain ⟨⟨field', length'⟩, ⟨format'⟩⟩ := s'
  obtain rfl : field = field' := hfield
  obtain rfl : length = length' := hlength
  obtain rfl : format = format' := hformat
  rfl

/-- The layer defines no setting. A section may be there, but nothing in it. -/
def Layer.DefinesNothing (l : Layer) : Prop :=
  Setting.defaultField.defined? l = none ∧ Setting.maxLength.defined? l = none ∧
    Setting.format.defined? l = none

instance (l : Layer) : Decidable l.DefinesNothing := inferInstanceAs (Decidable (_ ∧ _ ∧ _))

/-- **The closest file that defines a setting decides it.** Each setting has, whatever the others
are, the value of the first file whose section is there and defines it, and its default if there is
none. The sources are the files in their order, and the root is the directory of the first. Hence a
file that defines nothing changes no setting, wherever it is put in. -/
theorem merge_takes_first_defined (files : List (Path × Layer)) :
    (merge files).settings.query.defaultField =
        (files.findSome? fun file => file.2.query.bind (·.defaultField)).getD "text" ∧
      (merge files).settings.query.maxLength =
        (files.findSome? fun file => file.2.query.bind (·.maxLength)).getD 8192 ∧
      (merge files).settings.output.format =
        (files.findSome? fun file => file.2.output.bind (·.format)).getD .tree ∧
      (merge files).sources = files.map (·.1) ∧
      (merge files).root =
        (match files with
        | [] => none
        | (path, _) :: _ => path.parent?) ∧
      ∀ before after, files = before ++ after → ∀ file : Path × Layer, file.2.DefinesNothing →
        (merge (before ++ file :: after)).settings = (merge files).settings := by
  refine ⟨Setting.defaultField.value_merge files, Setting.maxLength.value_merge files,
    Setting.format.value_merge files, rfl, ?_, ?_⟩
  · cases files <;> rfl
  · rintro before after rfl file ⟨hfield, hlength, hformat⟩
    -- each of the three settings skips the file on its own
    exact Settings.ext_of_values (Setting.value_merge_insert _ hfield before after)
      (Setting.value_merge_insert _ hlength before after)
      (Setting.value_merge_insert _ hformat before after)

/-- Two files that each define a part, and between them one with empty sections. -/
theorem merge_takes_first_defined_around_empty_sections :
    let near : Path × Layer :=
      (⟨true, ["w", "a", ".quarry.toml"]⟩, { query := some { defaultField := some "body" } })
    let far : Path × Layer :=
      (⟨true, ["w", ".quarry.toml"]⟩, { query := some ⟨some "title", some 100⟩, output := some {} })
    let empty : Path × Layer :=
      (⟨true, [".quarry.toml"]⟩, { root := some true, query := some {}, output := some {} })
    [near, far] = [near] ++ [far] ∧ empty.2.DefinesNothing ∧
      (merge [near, far]).settings.query.defaultField = "body" ∧
      (merge [near, far]).settings.query.maxLength = 100 ∧
      (merge [near, far]).settings.output.format = .tree ∧
      (merge [near, far]).sources = [near.1, far.1] ∧
      (merge [near, far]).root = some ⟨true, ["w", "a"]⟩ ∧
      (merge ([near] ++ empty :: [far])).settings = (merge [near, far]).settings := by
  intro near far empty
  have hempty : empty.2.DefinesNothing := by decide
  obtain ⟨hfield, hlength, hformat, hsources, hroot, hinsert⟩ :=
    merge_takes_first_defined [near, far]
  exact ⟨rfl, hempty, hfield, hlength, hformat, hsources, hroot,
    hinsert [near] [far] rfl empty hempty⟩

end TextQuery.Config
