import TextQuery.Program.Run
import TextQuery.Proofs.EmptyLayers

/-!
# What runs leave of the files

Only a command that asks for a new configuration file writes one, and without force only where
nothing was:

* `perform_cases` — all that a command can do to the files: `withConfig_tree` for those that only
  read the configuration, `writeTemplate_cases` for the one that writes. `Call.run_cases` is the
  same of a call.
* `gainsEmptyLayer_of_target` — what is written where nothing was defines nothing, even where the
  disk gives out.
* `load_treeAfter` — so no sequence of calls without force changes the settings of a directory.
* `calls_keep_configuration` — this, with what a single call keeps of the files.

Each call brings its own device. What the tree alone decides holds on every device; that a call
which fails changes nothing takes a disk and an output that do not give out halfway.
-/

namespace TextQuery.Program

open TextQuery.CommandLine (Command Invocation)

/-! ## What a command does to the files -/

@[simp] theorem Report.tree_after (r : Report) (records : List Log.Record) :
    (r.after records).tree = r.tree := rfl

/-- A command that leaves the files alone still does with the configuration loaded in front of it.
-/
theorem withConfig_tree {env : Environment} {t : FileTree} {command : Context → Report}
    (h : ∀ ctx, (command ctx).tree = t) : (withConfig env t command).tree = t := by
  unfold withConfig
  dsimp only
  rw [Report.tree_after]
  split
  · rfl
  · exact h _

theorem parse_tree (ctx : Context) (t : FileTree) (query : String) (format : Config.OutputFormat) :
    (parse ctx t query format).tree = t := by
  unfold parse
  dsimp only
  rw [Report.tree_after]
  split <;> rfl

theorem status_tree (ctx : Context) (t : FileTree) (home : Option Path) :
    (status ctx t home).tree = t := by
  unfold status
  split
  · rfl
  · dsimp only
    split <;> rfl

/-- Of the two trees, the second is the first with a template at the target, as far as the disk
takes it. Nothing else changes, and a file that cannot be read stays one that cannot be read. -/
def Wrote (env : Environment) (device : Device) (global : Bool) (target : Path)
    (t t' : FileTree) : Prop :=
  ∃ inHome l fault, templateTarget env global = some (target, inHome) ∧
    t.target target = .ok (l, fault) ∧
    t' = t.set l (.file (.text (Limit.taken device.disk (templateText inHome))) fault)

/-- A new configuration file is there afterwards, or the files are as they were. It replaces
something only by force, and the command fails only if the disk gave out. -/
theorem writeTemplate_cases (env : Environment) (t : FileTree) (device : Device)
    (global force : Bool) :
    (writeTemplate env t device global force).tree = t ∨
      ∃ target, (t.exists? target = true → force = true) ∧
        (device.disk = none → (writeTemplate env t device global force).code = 0 ∧
          (writeTemplate env t device global force).err = "") ∧
        Wrote env device global target t (writeTemplate env t device global force).tree := by
  unfold writeTemplate
  cases htarget : templateTarget env global with
  | none => exact .inl rfl
  | some found =>
    obtain ⟨target, inHome⟩ := found
    dsimp only
    split
    · exact .inl rfl
    · next hfree =>
      rcases t.write_cases target (templateText inHome) device with
        ⟨e, hwrite⟩ | ⟨l, fault, hplace, hwrite⟩
      · rw [hwrite]
        exact .inl rfl
      · refine .inr ⟨target, fun hexists => ?_, fun hdisk => ?_, inHome, l, fault, htarget,
          hplace, ?_⟩
        · simpa [hexists] using hfree
        · -- without a limit the template is written whole
          rw [hwrite, hdisk]
          exact ⟨rfl, rfl⟩
        · rw [hwrite]
          cases Limit.failure? device.disk (templateText inHome) <;> rfl

/-- All that a command can do to the files: only `init` writes, and the other commands leave them
alone whatever the configuration. -/
theorem perform_cases (env : Environment) (t : FileTree) (device : Device) (command : Command) :
    (perform env t device command).tree = t ∨
      ∃ global force target, command = .init global force ∧
        (t.exists? target = true → force = true) ∧
        (device.disk = none →
          (perform env t device command).code = 0 ∧ (perform env t device command).err = "") ∧
        Wrote env device global target t (perform env t device command).tree := by
  cases command with
  | tokenize texts field json => exact .inl (withConfig_tree fun _ => rfl)
  | parse query json string format => exact .inl (withConfig_tree fun _ => parse_tree ..)
  -- the one command that writes
  | init global force =>
    rcases writeTemplate_cases env t device global force with hsame | ⟨target, hwritten⟩
    · exact .inl hsame
    · exact .inr ⟨global, force, target, rfl, hwritten⟩
  | status => exact .inl (withConfig_tree fun _ => status_tree ..)
  | config => exact .inl (withConfig_tree fun _ => rfl)

/-- Printing does nothing to the files, even where a command is broken off. -/
@[simp] theorem Report.tree_printed (device : Device) (r : Report) :
    (r.printed device).tree = r.tree := by
  unfold printed
  dsimp only
  split
  · rfl
  · rfl
  · split <;> rfl
  · rfl

/-- A success that is printed whole stays one. -/
theorem Report.code_printed {device : Device} (houtput : device.output = none) {r : Report}
    (herr : r.err = "") : (r.printed device).code = r.code := by
  unfold printed
  rw [houtput, herr]
  cases device.messages <;> rfl

theorem halt_tree (t : FileTree) (arguments : List String) (h : CommandLine.Halt)
    (device : Device) : (halt t arguments h device).tree = t := by
  unfold halt
  split
  · split
    · exact Report.tree_printed ..
    · rfl
  all_goals rfl

/-! ## Calls -/

/-- One call of the program, with the device that it meets. The home directory and the files are not
part of it. -/
structure Call where
  cwd : Path
  logSetting : Option String := none
  arguments : List String
  device : Device := {}
  deriving DecidableEq, Repr

namespace Call

/-- What surrounds the call. -/
def environment (home : Option Path) (c : Call) : Environment := ⟨c.cwd, home, c.logSetting⟩

/-- What the call comes to. -/
def run (home : Option Path) (t : FileTree) (c : Call) : Outcome :=
  Program.run (c.environment home) t c.arguments c.device

/-- The command that the call asks for, if it asks for one. -/
def command? (c : Call) : Option Command :=
  (Invocation.ofArguments c.arguments).toOption.map (·.command)

/-- Whether the call may replace a configuration file. -/
def isForced (c : Call) : Bool :=
  match c.command? with
  | some (.init _ force) => force
  | _ => false

/-- All that a call can do to the files. Where it did it, it fails only if the disk or the output
gave out. -/
theorem run_cases (home : Option Path) (t : FileTree) (c : Call) :
    (c.run home t).tree = t ∨
      ∃ global force target, c.command? = some (.init global force) ∧
        (t.exists? target = true → force = true) ∧
        (c.device.disk = none → c.device.output = none → (c.run home t).code = 0) ∧
        Wrote (c.environment home) c.device global target t (c.run home t).tree := by
  unfold run command? Program.run
  cases Invocation.ofArguments c.arguments with
  | error h => exact .inl (halt_tree ..)
  | ok i =>
    -- printing what the command did changes no file
    have htree : ((perform (c.environment home) t c.device i.command).printed c.device).tree =
        (perform (c.environment home) t c.device i.command).tree := Report.tree_printed ..
    dsimp only [outcome]
    rw [htree]
    rcases perform_cases (c.environment home) t c.device i.command with
      hsame | ⟨global, force, target, hcommand, hforce, hcode, hwrote⟩
    · exact .inl hsame
    · refine .inr ⟨global, force, target, congrArg some hcommand, hforce, fun hdisk houtput => ?_,
        hwrote⟩
      obtain ⟨hzero, herr⟩ := hcode hdisk
      exact (Report.code_printed houtput herr).trans hzero

end Call

/-- The files after calls, one after the other. -/
def treeAfter (home : Option Path) : FileTree → List Call → FileTree
  | t, [] => t
  | t, c :: calls => treeAfter home (c.run home t).tree calls

/-! ## What is kept -/

/-- What a disk takes of a template defines nothing, be it all of it or not. -/
theorem parse_taken (disk : Option Limit) (inHome : Bool) :
    Config.Layer.parse (Limit.taken disk (templateText inHome)) = .ok {} := by
  have hplain :
      (if inHome then Config.Template.forHome else Config.Template.forDirectory).all
        Config.Template.isPlain = true := by
    cases inHome with
    | false => exact Config.Template.isPlain_forDirectory
    | true => exact Config.Template.isPlain_forHome
  cases disk with
  | none =>
    have hwhole := Config.Template.parse_take hplain (templateText inHome).toList.length
    rwa [templateText, List.take_length, String.ofList_toList] at hwhole
  | some limit => exact Config.Template.parse_take hplain limit.room

theorem exists_join_of_templateTarget {env : Environment} {global inHome : Bool} {target : Path}
    (h : templateTarget env global = some (target, inHome)) :
    ∃ dir : Path, target = dir.join Config.fileName := by
  unfold templateTarget at h
  dsimp only at h
  split at h
  · obtain ⟨dir, -, hdir⟩ := Option.map_eq_some_iff.1 h
    exact ⟨dir, (Prod.ext_iff.1 hdir).1.symm⟩
  · exact ⟨env.cwd, (Prod.ext_iff.1 (Option.some.inj h)).1.symm⟩

/-- What is written where nothing was defines nothing. -/
theorem gainsEmptyLayer_of_target {env : Environment} {t : FileTree} {global inHome : Bool}
    {target : Path} {l : Location} {fault : Option FileError}
    (htarget : templateTarget env global = some (target, inHome))
    (hplace : t.target target = .ok (l, fault)) (hfree : t.exists? target = false)
    (disk : Option Limit) :
    fault = none ∧ Config.GainsEmptyLayer t l
      (t.set l (.file (.text (Limit.taken disk (templateText inHome))))) := by
  obtain ⟨dir, rfl⟩ := exists_join_of_templateTarget htarget
  obtain ⟨hnew, hfault⟩ :=
    FileTree.new_of_target hplace hfree (Config.endsInside_join_fileName dir)
  obtain ⟨outer, houter, rfl⟩ :=
    FileTree.exists_of_place_join (FileTree.place_of_target hplace) (by decide) (by decide)
  exact ⟨hfault, Config.gainsEmptyLayer_set houter hnew (parse_taken disk inHome)⟩

namespace Call

section Unforced

variable {c : Call} (h : c.isForced = false) (home : Option Path) (t : FileTree)
include h

/-- Without force a call leaves the files alone, or adds its target where nothing was. What it adds
defines nothing, even where the disk cut it off. -/
theorem run_cases_of_not_forced :
    (c.run home t).tree = t ∨
      ∃ global target inHome l, c.command? = some (.init global false) ∧
        templateTarget (c.environment home) global = some (target, inHome) ∧
        t.exists? target = false ∧ t.place target = .ok l ∧
        (c.run home t).tree =
          t.set l (.file (.text (Limit.taken c.device.disk (templateText inHome)))) ∧
        Config.GainsEmptyLayer t l (c.run home t).tree := by
  rcases c.run_cases home t with
    hsame | ⟨global, force, target, hcommand, hfree, -, inHome, l, fault, htarget, hplace, htree⟩
  · exact .inl hsame
  · have hforce : force = false := by
      rw [isForced, hcommand] at h
      exact h
    subst hforce
    -- a file that is there would have stopped the call
    have hexists : t.exists? target = false := by
      cases hexists : t.exists? target with
      | false => rfl
      | true => exact absurd (hfree hexists) Bool.false_ne_true
    obtain ⟨rfl, hgains⟩ := gainsEmptyLayer_of_target htarget hplace hexists c.device.disk
    exact .inr ⟨global, target, inHome, l, hcommand, htarget, hexists,
      FileTree.place_of_target hplace, htree, htree ▸ hgains⟩

theorem fileAt?_run {p : Path} {file : Entry} (hp : t.fileAt? p = some file) :
    (c.run home t).tree.fileAt? p = some file := by
  rcases c.run_cases_of_not_forced h home t with
    hsame | ⟨_, _, _, l, -, -, -, -, -, hgains⟩
  · rw [hsame, hp]
  · cases hl : t.leadsTo p l with
    | true =>
      -- the target is where nothing was
      rw [hgains.absent p hl] at hp
      cases hp
    | false => rw [hgains.kept p hl, hp]

theorem load_run (dir : Path) :
    (Config.load (c.run home t).tree home dir).map Config.settings =
      (Config.load t home dir).map Config.settings := by
  rcases c.run_cases_of_not_forced h home t with
    hsame | ⟨_, _, _, _, -, -, -, -, -, hgains⟩
  · rw [hsame]
  · exact hgains.load_settings home dir

end Unforced

theorem tree_of_code_ne_zero {home : Option Path} {t : FileTree} {c : Call}
    (hdisk : c.device.disk = none) (houtput : c.device.output = none)
    (h : (c.run home t).code ≠ 0) : (c.run home t).tree = t := by
  rcases c.run_cases home t with hsame | ⟨_, _, _, -, -, hcode, -⟩
  · exact hsame
  · exact absurd (hcode hdisk houtput) h

end Call

/-- No sequence of calls without force changes what is loaded anywhere. -/
theorem load_treeAfter {calls : List Call} (h : ∀ c ∈ calls, c.isForced = false)
    (home : Option Path) (t : FileTree) (dir : Path) :
    (Config.load (treeAfter home t calls) home dir).map Config.settings =
      (Config.load t home dir).map Config.settings := by
  induction calls generalizing t with
  | nil => rfl
  | cons c calls ih =>
    obtain ⟨hc, hcalls⟩ := List.forall_mem_cons.1 h
    exact (ih hcalls _).trans (c.load_run hc home t dir)

end TextQuery.Program
