import SchemaMigration.Proofs.FileTree
import SchemaMigration.Proofs.Overlooking
import SchemaMigration.Proofs.Path
import SchemaMigration.Proofs.Upgrade.FixedPoint

/-!
# SchemaMigration.Proofs.Upgrade.Isolation — the scripts of other vendors do not matter

A release holds the scripts of every vendor side by side.  Work on the database of one vendor reads its own
scripts, the names of the step directories and the version of the release, so it runs the same whatever the
scripts of the others are.

* `Vendor.IsForeign` : the names below the resource root that belong to another vendor.
* `DiffersAbroad` : two trees that differ at such names only.
* `DiffersAbroad.read?_eq`, `DiffersAbroad.isDirectory_eq` : what is read of both trees is the same.
* `overlooks_initSchema`, `overlooks_step`, `overlooks_latest`, `overlooks_bootstrap` : the operations, one by one.
* `overlooks_foreign_scripts` : all of them run the same on such trees.
-/

namespace SchemaMigration

open Job

variable {site : Site} {files : FileTree} {path name : String} {names : List String}

/-! ## Definitions -/

/-- Below the resource root the names lead to the script that makes the schema for another vendor, or into the
directory of another vendor in a step. -/
def Vendor.IsForeign (v : Vendor) (names : List String) : Prop :=
  ∃ e : Vendor, e ≠ v ∧ (["sql", "dolphinscheduler_" ++ e.name ++ ".sql"] <+: names ∨
    ∃ step, ["sql", "upgrade", step, e.name] <+: names)

/-- The files of the site and the other ones have the same entries in the directory of the steps, the names of the
steps are in one piece, and below the resource root the files differ only at names that belong to other vendors. -/
structure DiffersAbroad (site : Site) (files : FileTree) : Prop where
  agree : site.files.AgreeBelow site.root (fun names => ¬ site.vendor.IsForeign names) files
  entries : files.children (Release.stepDirectory site.root) =
    site.files.children (Release.stepDirectory site.root)
  slashless : ∀ name ∈ site.files.subdirectories (Release.stepDirectory site.root), '/' ∉ name.toList

/-! ## Names of one vendor -/

namespace Vendor

theorem name_injective {v w : Vendor} (h : v.name = w.name) : v = w := by
  have hv := ofExactName?_name v
  rw [h, ofExactName?_name] at hv
  exact (Option.some.inj hv).symm

/-- What leads on from a foreign name is foreign. -/
theorem IsForeign.mono {v : Vendor} {names names' : List String} (h : v.IsForeign names)
    (hbegin : names <+: names') : v.IsForeign names' := by
  obtain ⟨e, he, hinit | ⟨step, hstep⟩⟩ := h
  · exact ⟨e, he, .inl (hinit.trans hbegin)⟩
  · exact ⟨e, he, .inr ⟨step, hstep.trans hbegin⟩⟩

theorem initScript_ne (e : Vendor) :
    "dolphinscheduler_" ++ e.name ++ ".sql" ≠ "upgrade" ∧ "dolphinscheduler_" ++ e.name ++ ".sql" ≠ "soft_version" := by
  cases e <;> decide +kernel

theorem not_isForeign_initScript (v : Vendor) : ¬ v.IsForeign ["sql", "dolphinscheduler_" ++ v.name ++ ".sql"] := by
  rintro ⟨e, he, hinit | ⟨step, hstep⟩⟩
  · refine he (name_injective ?_)
    simpa using hinit
  · simpa using hstep.length_le

theorem not_isForeign_stepScript (v : Vendor) (name file : String) :
    ¬ v.IsForeign ["sql", "upgrade", name, v.name, file] := by
  rintro ⟨e, he, hinit | ⟨step, hstep⟩⟩
  · exact (initScript_ne e).1 (by simpa using hinit)
  · refine he (name_injective ?_)
    have h : step = name ∧ e.name = v.name := by simpa using hstep
    exact h.2

theorem not_isForeign_softVersion (v : Vendor) : ¬ v.IsForeign ["sql", "soft_version"] := by
  rintro ⟨e, he, hinit | ⟨step, hstep⟩⟩
  · exact (initScript_ne e).2 (by simpa using hinit)
  · simpa using hstep.length_le

theorem not_isForeign_stepDirectory (v : Vendor) : ¬ v.IsForeign ["sql", "upgrade"] := fun h =>
  not_isForeign_stepScript v "" "" (h.mono ⟨["", v.name, ""], rfl⟩)

/-! ### The paths of the scripts -/

theorem parse_initScriptPath (v : Vendor) :
    Path.parse v.initScriptPath = ⟨"", ["sql", "dolphinscheduler_" ++ v.name ++ ".sql"]⟩ := by
  cases v <;> decide +kernel

theorem parse_stepScriptPath (v : Vendor) (kind : ScriptKind) (h : Path.IsName name) :
    Path.parse (v.stepScriptPath kind name) =
      ⟨"", ["sql", "upgrade", name, v.name, "dolphinscheduler_" ++ kind.name ++ ".sql"]⟩ := by
  have hpath : v.stepScriptPath kind name =
      "/".intercalate ["sql", "upgrade", name, v.name, "dolphinscheduler_" ++ kind.name ++ ".sql"] := by
    have hdirectory : "sql/upgrade/" = "sql" ++ "/" ++ "upgrade" ++ "/" := by decide +kernel
    have hfile : "/dolphinscheduler_" = "/" ++ "dolphinscheduler_" := by decide +kernel
    unfold stepScriptPath
    rw [hdirectory, hfile]
    simp only [String.intercalate_cons_cons, String.intercalate_singleton, String.append_assoc, -String.reduceAppend]
  have hnames : ∀ s ∈ ["sql", "upgrade", v.name, "dolphinscheduler_" ++ kind.name ++ ".sql"],
      Path.IsName s := by
    cases v <;> cases kind <;> decide +kernel
  rw [hpath, Path.parse_intercalate]
  intro s hs
  simp only [List.mem_cons, List.not_mem_nil, or_false] at hs hnames
  grind

end Vendor

/-! ## What is read of both trees -/

section Reading

/-- A path below the root that is the vendor's own. -/
theorem DiffersAbroad.read?_eq (h : DiffersAbroad site files) (hp : Path.parse path = ⟨"", names⟩)
    (hup : ".." ∉ names) (hown : ¬ site.vendor.IsForeign names) :
    files.read? (site.root.join (.parse path)) = site.files.read? (site.root.join (.parse path)) := by
  rw [hp]
  exact (h.agree.read?_eq rfl hup fun _ hbegin hf => hown (hf.mono hbegin)).symm

theorem DiffersAbroad.read?_initScript (h : DiffersAbroad site files) :
    files.read? (site.root.join (.parse site.vendor.initScriptPath)) =
      site.files.read? (site.root.join (.parse site.vendor.initScriptPath)) := by
  refine h.read?_eq site.vendor.parse_initScriptPath ?_ site.vendor.not_isForeign_initScript
  cases site.vendor <;> decide +kernel

theorem DiffersAbroad.read?_stepScript (h : DiffersAbroad site files) (kind : ScriptKind) (hname : Path.IsName name)
    (hup : name ≠ "..") :
    files.read? (site.root.join (.parse (site.vendor.stepScriptPath kind name))) =
      site.files.read? (site.root.join (.parse (site.vendor.stepScriptPath kind name))) := by
  refine h.read?_eq (site.vendor.parse_stepScriptPath kind hname) ?_
    (site.vendor.not_isForeign_stepScript name _)
  have hrest : ".." ∉ ["sql", "upgrade", site.vendor.name, "dolphinscheduler_" ++ kind.name ++ ".sql"] := by
    cases site.vendor <;> cases kind <;> decide +kernel
  simp only [List.mem_cons, List.not_mem_nil, or_false, not_or] at hrest ⊢
  exact ⟨hrest.1, hrest.2.1, hup.symm, hrest.2.2⟩

theorem DiffersAbroad.read?_softVersion (h : DiffersAbroad site files) :
    files.read? (site.root.join (.parse Release.softVersionFile)) =
      site.files.read? (site.root.join (.parse Release.softVersionFile)) := by
  have hp : Path.parse Release.softVersionFile = ⟨"", ["sql", "soft_version"]⟩ := by decide +kernel
  exact h.read?_eq hp (by decide) site.vendor.not_isForeign_softVersion

theorem DiffersAbroad.isDirectory_eq (h : DiffersAbroad site files) :
    files.isDirectory (Release.stepDirectory site.root) =
      site.files.isDirectory (Release.stepDirectory site.root) := by
  have hp : Path.parse "sql/upgrade" = ⟨"", ["sql", "upgrade"]⟩ := by decide +kernel
  rw [Release.stepDirectory, hp]
  exact (h.agree.isDirectory_eq rfl (by decide)
    fun _ hbegin hf => site.vendor.not_isForeign_stepDirectory (hf.mono hbegin)).symm

/-- The names of the steps of the catalog are parts of paths. -/
theorem DiffersAbroad.isName (h : DiffersAbroad site files) {step : Step} (hstep : step ∈ Release.catalog site) :
    Path.IsName step.name ∧ step.name ≠ ".." := by
  have hno : ∀ s ∈ ["", ".", ".."], (Step.ofName s).toOption = none := by decide +kernel
  obtain ⟨name, hname, hof⟩ := Release.mem_stepsOfNames hstep
  obtain ⟨v, hv, rfl⟩ := map_eq_ok_iff.1 hof
  have hne : ∀ s ∈ ["", ".", ".."], name ≠ s := by
    rintro s hs rfl
    have hnone := hno name hs
    rw [hof] at hnone
    cases hnone
  have hmem : name ∈ site.files.subdirectories (Release.stepDirectory site.root) := by
    unfold Release.stepNames at hname
    split at hname
    · exact hname
    · cases hname
  exact ⟨⟨hne _ (by decide), hne _ (by decide), h.slashless name hmem⟩, hne _ (by decide)⟩

end Reading

/-! ## The release -/

theorem overlooks_steps (h : DiffersAbroad site files) : Overlooks site files Release.steps := by
  refine overlooks_site ?_ (overlooks_bind (overlooks_ofExcept _ _) fun b => ?_)
  · dsimp only
    rw [h.isDirectory_eq, h.entries]
  · cases b with
    | true => exact overlooks_bind (Release.overlooks_readSteps _ _) fun _ => overlooks_pure _
    | false => exact overlooks_bind (overlooks_notify _) fun _ => overlooks_pure _

theorem overlooks_softVersion (h : DiffersAbroad site files) : Overlooks site files Release.softVersion := by
  refine overlooks_site ?_ (overlooks_bind (overlooks_ofExcept _ _) fun found => ?_)
  · dsimp only
    rw [h.read?_softVersion]
  · cases found with
    | none => exact overlooks_failFor _
    | some bytes => exact overlooks_bind (overlooks_ofExcept _ _) fun _ => overlooks_ofExcept _ _

/-! ## Whole operations -/

namespace Upgrade

theorem overlooks_reporting {job : Job Nat} (h : Overlooks site files job) (notice : String → Notice) :
    Overlooks site files (reporting job notice) := by
  refine overlooks_rescue (overlooks_bind h fun _ => overlooks_pure _) fun e => ?_
  cases e with
  | failure f => exact overlooks_bind (overlooks_notify _) fun _ => overlooks_fail _
  | accident a => exact overlooks_fail _

theorem overlooks_initSchema (h : DiffersAbroad site files) : Overlooks site files initSchema := by
  refine overlooks_site (by dsimp only) (overlooks_bind ?_ fun _ => overlooks_notify _)
  exact overlooks_reporting (ScriptRun.overlooks_execute h.read?_initScript) _

theorem overlooks_runStepScript (h : DiffersAbroad site files) (kind : ScriptKind) (hname : Path.IsName name)
    (hup : name ≠ "..") : Overlooks site files (runStepScript name kind) := by
  refine overlooks_site (by dsimp only) (overlooks_bind ?_ fun _ => overlooks_notify _)
  exact overlooks_reporting (ScriptRun.overlooks_execute (h.read?_stepScript kind hname hup)) _

theorem overlooks_step (h : DiffersAbroad site files) {s : Step} (hs : s ∈ Release.catalog site) :
    Overlooks site files (step s.name) := by
  obtain ⟨hname, hup⟩ := h.isName hs
  refine overlooks_bind (overlooks_ofExcept _ _) fun t => ?_
  refine overlooks_bind (overlooks_runStepScript h .ddl hname hup) fun _ => ?_
  refine overlooks_bind (overlooks_runStepScript h .dml hname hup) fun _ => ?_
  exact overlooks_bind (InstalledVersion.overlooks_set _) fun _ => overlooks_pure _

theorem overlooks_updateSizes : Overlooks site files updateSizes := by
  refine overlooks_bind (FolderSize.overlooks_updateAll _) fun outcome => overlooks_bind ?_ fun _ => overlooks_pure _
  induction outcome.errors with
  | nil => exact overlooks_pure _
  | cons f fs ih => exact overlooks_bind (overlooks_notify _) fun _ => ih

theorem overlooks_applyStep (h : DiffersAbroad site files) {s : Step} (hs : s ∈ Release.catalog site)
    (report : Report) : Overlooks site files (applyStep report s) := by
  unfold applyStep
  split
  · exact overlooks_pure _
  · refine overlooks_bind (overlooks_notify _) fun _ => overlooks_bind (overlooks_step h hs) fun _ => ?_
    dsimp only
    split
    · exact overlooks_bind overlooks_updateSizes fun _ => overlooks_pure _
    · exact overlooks_bind (overlooks_pure _) fun _ => overlooks_pure _

theorem overlooks_applySoftVersion (h : DiffersAbroad site files) (report : Report) :
    Overlooks site files (applySoftVersion report) := by
  refine overlooks_bind (overlooks_softVersion h) fun soft => ?_
  split
  · refine overlooks_bind (InstalledVersion.overlooks_set _) fun _ => ?_
    exact overlooks_bind (overlooks_notify _) fun _ => overlooks_pure _
  · exact overlooks_pure _

theorem overlooks_latest (h : DiffersAbroad site files) : Overlooks site files latest := by
  refine overlooks_bind InstalledVersion.overlooks_detect fun current => ?_
  refine overlooks_bind_of_returns (overlooks_steps h) Release.returns_steps fun found hfound => ?_
  subst hfound
  split
  · exact overlooks_bind (overlooks_notify _) fun _ => overlooks_pure _
  · refine overlooks_bind (overlooks_foldlM (fun report s hs => ?_) _) fun _ => overlooks_applySoftVersion h _
    exact overlooks_applyStep h hs report

theorem overlooks_bootstrap (h : DiffersAbroad site files) : Overlooks site files bootstrap := by
  have hinit : Overlooks site files isInitialized := by
    refine overlooks_bind (InstalledVersion.overlooks_tableExists _) fun b => ?_
    cases b with
    | true => exact overlooks_pure _
    | false => exact InstalledVersion.overlooks_tableExists _
  refine overlooks_bind hinit fun b => ?_
  cases b with
  | true => exact overlooks_bind (overlooks_latest h) fun _ => overlooks_pure _
  | false =>
    refine overlooks_bind (overlooks_notify _) fun _ => overlooks_bind (overlooks_initSchema h) fun _ => ?_
    exact overlooks_pure _

/-- Trees that differ only in the scripts of other vendors give the same result, the same database and the same
journal, whatever is carried out and wherever it begins. -/
theorem overlooks_foreign_scripts (h : DiffersAbroad site files) :
    Overlooks site files initSchema ∧ (∀ s ∈ Release.catalog site, Overlooks site files (step s.name)) ∧
      Overlooks site files latest ∧ Overlooks site files bootstrap :=
  ⟨overlooks_initSchema h, fun _ hs => overlooks_step h hs, overlooks_latest h, overlooks_bootstrap h⟩

/-- What another vendor may add to the release with one step. -/
def mysqlEntries : List (List String × Node) :=
  [(["sql", "dolphinscheduler_mysql.sql"], .file (Text.encode "DROP TABLE t_ds_version".toList)),
    (["sql", "upgrade", "1.3.0_user", "mysql"], .directory),
    (["sql", "upgrade", "1.3.0_user", "mysql", "dolphinscheduler_ddl.sql"], .file [0xFF])]

/-- The release with what the other vendor adds. -/
def mysqlFiles : FileTree where
  entries := userSite.files.entries ++ mysqlEntries

theorem differsAbroad_mysqlFiles : DiffersAbroad userSite mysqlFiles where
  agree := by
    refine ⟨rfl, fun base hbase names hown => ?_⟩
    cases hbase
    have hnone : mysqlEntries.lookup names = none := by
      rw [List.lookup_eq_none_iff]
      intro entry hentry
      rw [bne_iff_ne]
      rintro rfl
      refine hown ⟨.mysql, by decide, ?_⟩
      simp only [mysqlEntries, List.mem_cons, List.not_mem_nil, or_false] at hentry
      rcases hentry with rfl | rfl | rfl
      · exact .inl (List.prefix_refl _)
      · exact .inr ⟨_, List.prefix_refl _⟩
      · exact .inr ⟨_, ["dolphinscheduler_ddl.sql"], rfl⟩
    have hroot : userSite.files.start userSite.root = [] := rfl
    simp only [hroot, List.nil_append, FileTree.node?, mysqlFiles, List.lookup_append, hnone, Option.or_none]
  entries := by decide +kernel
  slashless := by decide +kernel

/-- Broken scripts for another vendor do not disturb an upgrade. -/
theorem latest_mysqlEntries :
    DiffersAbroad userSite mysqlFiles ∧
      latest.run { userSite with files := mysqlFiles } ⟨.database oldSchema, []⟩ =
        latest.run userSite ⟨.database oldSchema, []⟩ :=
  ⟨differsAbroad_mysqlFiles, (overlooks_foreign_scripts differsAbroad_mysqlFiles).2.2.1 _⟩

end Upgrade

end SchemaMigration
