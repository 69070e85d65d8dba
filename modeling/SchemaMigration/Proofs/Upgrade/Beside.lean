import SchemaMigration.Proofs.FolderSize.Locality
import SchemaMigration.Proofs.InstalledVersion.Beside
import SchemaMigration.Proofs.Upgrade.Latest

/-!
# SchemaMigration.Proofs.Upgrade.Beside — an upgrade beside the table of the resources

New folder sizes read the table of the resources and may fail in many ways, but nothing else in an upgrade looks at
that table.  So on databases that differ there only, an upgrade goes the same way: it fails at the same point with the
same fault, or reports the same but for the sizes.

* `sizesMargin` : the table of the resources, and the part of a journal that new folder sizes write.
* `Report.Resembles` : reports that are the same but for the sizes.
* `goAlong_updateSizes`, `goAlong_applyStep`, `goAlong_latest` : the runs on two such databases, side by side.
* `latest_disregards_sizes` : what the two runs have in common.
-/

namespace SchemaMigration

open Job
open FolderSize (defaultTable)

variable {site : Site} {m : Margin}

/-! ## Scripts -/

namespace ScriptRun

/-- Reading a script does not look at the database. -/
theorem goAlong_load (path : String) : GoAlong site m Eq (load path) (load path) := by
  refine goAlong_bind_eq (goAlong_bind_site (goAlong_bind_eq (goAlong_ofExcept _ _) fun found => ?_)) fun found => ?_
  · cases found with
    | some bytes => exact goAlong_pure rfl
    | none => exact goAlong_fail _
  · obtain ⟨file, bytes⟩ := found
    dsimp only
    cases Loaded.ofBytes path bytes with
    | ok script => exact goAlong_pure rfl
    | error e => exact goAlong_report _ _

theorem goAlong_runStatement {stmt : String} (h : Sql.StaysOff m.table (site.execute stmt)) (path : String)
    (number : Nat) : GoAlong site m Eq (runStatement path number stmt) (runStatement path number stmt) := by
  refine goAlong_after_record _ (goAlong_bind_site (goAlong_bind_eq ?_ fun _ => goAlong_record _))
  refine goAlong_onDatabaseError (goAlong_send _ _ fun db => ?_) fun _ => goAlong_fail _
  rw [h.blind]
  cases site.execute stmt db <;> rfl

theorem goAlong_runStatements {stmts : List String}
    (h : ∀ stmt ∈ stmts, Sql.StaysOff m.table (site.execute stmt)) (path : String) (number : Nat) :
    GoAlong site m Eq (runStatements path number stmts) (runStatements path number stmts) := by
  induction stmts generalizing number with
  | nil => exact goAlong_pure rfl
  | cons s ss ih =>
    refine goAlong_bind_eq (goAlong_runStatement (h s List.mem_cons_self) path number) fun _ => ?_
    exact ih (fun stmt hstmt => h stmt (List.mem_cons_of_mem _ hstmt)) _

theorem goAlong_execute {path : String}
    (h : ∀ stmt ∈ Upgrade.statementsAt site path, Sql.StaysOff m.table (site.execute stmt)) :
    GoAlong site m Eq (execute path) (execute path) := by
  have hread : ∀ db loaded, (load path).answer site db = .ok loaded → script site path = .ok loaded := by
    intro db loaded hloaded
    rw [← hloaded, (yields_load site db path).answer_eq]
  refine goAlong_bind_of_answer (goAlong_load path) hread fun loaded hloaded => ?_
  rw [Upgrade.statementsAt_ok hloaded] at h
  refine goAlong_bind_eq (goAlong_onDatabaseError ?_ fun _ => goAlong_fail _) fun _ => ?_
  · exact goAlong_bind_eq goAlong_connect fun _ => goAlong_runStatements h path 1
  · exact goAlong_after_record _ (goAlong_pure rfl)

end ScriptRun

/-! ## Releases -/

namespace Release

theorem goAlong_readSteps (directory : Path) (entries : List (String × Node)) :
    GoAlong site m Eq (readSteps directory entries) (readSteps directory entries) := by
  induction entries with
  | nil => exact goAlong_pure rfl
  | cons entry entries ih =>
    refine goAlong_bind_eq ?_ fun _ => goAlong_bind_eq ih fun _ => goAlong_pure rfl
    refine goAlong_bind_eq (goAlong_ofExcept _ _) fun _ => ?_
    split
    · split
      · exact goAlong_pure rfl
      · exact goAlong_after_record _ (goAlong_pure rfl)
      · exact goAlong_fail _
    · exact goAlong_pure rfl

theorem goAlong_steps : GoAlong site m Eq steps steps := by
  refine goAlong_bind_site (goAlong_bind_eq (goAlong_ofExcept _ _) fun b => ?_)
  cases b with
  | true => exact goAlong_bind_eq (goAlong_readSteps _ _) fun _ => goAlong_pure rfl
  | false => exact goAlong_after_record _ (goAlong_pure rfl)

theorem goAlong_softVersion : GoAlong site m Eq softVersion softVersion := by
  refine goAlong_bind_site (goAlong_bind_eq (goAlong_ofExcept _ _) fun found => ?_)
  cases found with
  | none => exact goAlong_fail _
  | some bytes => exact goAlong_bind_eq (goAlong_ofExcept _ _) fun _ => goAlong_ofExcept _ _

end Release

namespace Upgrade

open InstalledVersion (CatalogOverlooks)
open Release (catalog)

/-! ## Definitions -/

/-- The table of the resources, and whatever new folder sizes report and send. -/
def sizesMargin (site : Site) : Margin where
  table := defaultTable
  stretch k := ∃ db errors db', Emits updateSizes site db (.ok errors) db' k

/-- The reports are the same but for the sizes. -/
structure Report.Resembles (r r' : Report) : Prop where
  start : r.start = r'.start
  final : r.final = r'.final
  applied : r.applied = r'.applied
  hadSteps : r.hadSteps = r'.hadSteps

/-! ## Side by side -/

theorem Report.Resembles.refl (r : Report) : r.Resembles r := ⟨rfl, rfl, rfl, rfl⟩

theorem Report.Resembles.after {r r' : Report} (h : r.Resembles r') (s : Step) (errors errors' : List Failure) :
    (r.after s errors).Resembles (r'.after s errors') where
  start := h.start
  final := rfl
  applied := congrArg (· ++ [s.name]) h.applied
  hadSteps := h.hadSteps

theorem versionTables_ne : ∀ name ∈ [InstalledVersion.table, InstalledVersion.legacyTable],
    Sql.sameName name defaultTable = false := by decide +kernel

/-- New folder sizes may end differently, but both runs go on. -/
theorem goAlong_updateSizes : GoAlong site (sizesMargin site) (fun _ _ => True) updateSizes updateSizes := by
  intro db db' heq
  obtain ⟨errors, cs, k, hk, -⟩ := yields_updateSizes site db
  obtain ⟨errors', cs', k', hk', -⟩ := yields_updateSizes site db'
  have hd := (FolderSize.sameBut_resizeAll defaultTable db).others
  have hd' := (FolderSize.sameBut_resizeAll defaultTable db').others
  have halike : Alike (sizesMargin site) k k' := .of_stretch ⟨db, _, _, hk⟩ ⟨db', _, _, hk'⟩
  exact ⟨_, _, _, _, k, k', hk, hk', .ok trivial, hd.trans (heq.trans hd'.symm), halike⟩

theorem goAlong_runStepScript {name : String} {kind : ScriptKind}
    (h : ∀ stmt ∈ statementsAt site (site.vendor.stepScriptPath kind name),
      Sql.StaysOff m.table (site.execute stmt)) :
    GoAlong site m Eq (runStepScript name kind) (runStepScript name kind) := by
  refine goAlong_bind_site (goAlong_bind_eq (goAlong_rescue ?_ fun e => ?_) fun _ => goAlong_record _)
  · exact goAlong_bind_eq (ScriptRun.goAlong_execute h) fun _ => goAlong_pure rfl
  · cases e with
    | failure f => exact goAlong_after_record _ (goAlong_fail _)
    | accident a => exact goAlong_fail _

section Whole

variable (hc : CatalogOverlooks site defaultTable)

include hc

theorem goAlong_step {s : Step} (hname : Step.ofName s.name = .ok s)
    (h : ∀ stmt ∈ statementsOf site s, Sql.StaysOff defaultTable (site.execute stmt)) :
    GoAlong site (sizesMargin site) Eq (step s.name) (step s.name) := by
  refine goAlong_bind_of_returns (goAlong_ofExcept _ _) (returns_ofExcept _ _) fun s' hs' => ?_
  rw [hname] at hs'
  cases hs'
  refine goAlong_bind_eq (goAlong_runStepScript fun stmt hstmt => h stmt (List.mem_append_left _ hstmt)) fun _ => ?_
  refine goAlong_bind_eq (goAlong_runStepScript fun stmt hstmt => h stmt (List.mem_append_right _ hstmt)) fun _ => ?_
  have hset := InstalledVersion.goAlong_set (m := sizesMargin site) hc versionTables_ne s.version
  exact goAlong_bind_eq hset fun _ => goAlong_pure rfl

theorem goAlong_applyStep {s : Step} (hname : Step.ofName s.name = .ok s)
    (h : ∀ stmt ∈ statementsOf site s, Sql.StaysOff defaultTable (site.execute stmt)) {r r' : Report}
    (hr : r.Resembles r') :
    GoAlong site (sizesMargin site) Report.Resembles (applyStep r s) (applyStep r' s) := by
  unfold applyStep
  rw [← hr.final]
  by_cases hle : s.version ≤ r.final
  · rw [if_pos hle, if_pos hle]
    exact goAlong_pure hr
  · rw [if_neg hle, if_neg hle]
    refine goAlong_after_record _ (goAlong_bind_eq (goAlong_step hc hname h) fun _ => ?_)
    by_cases hsame : s.version.Same sizesVersion
    · simp only [if_pos hsame]
      exact goAlong_bind goAlong_updateSizes fun errors errors' _ => goAlong_pure (hr.after s errors errors')
    · simp only [if_neg hsame]
      exact goAlong_bind_eq (goAlong_pure rfl) fun errors => goAlong_pure (hr.after s errors errors)

theorem goAlong_applySoftVersion {r r' : Report} (hr : r.Resembles r') :
    GoAlong site (sizesMargin site) Report.Resembles (applySoftVersion r) (applySoftVersion r') := by
  refine goAlong_bind_eq Release.goAlong_softVersion fun soft => ?_
  rw [← hr.final, ← hr.start]
  by_cases hlt : r.final < soft
  · rw [if_pos hlt, if_pos hlt]
    have hset := InstalledVersion.goAlong_set (m := sizesMargin site) hc versionTables_ne soft
    refine goAlong_bind_eq hset fun _ => ?_
    exact goAlong_after_record _ (goAlong_pure ⟨rfl, rfl, hr.applied, hr.hadSteps⟩)
  · rw [if_neg hlt, if_neg hlt]
    exact goAlong_pure hr

/-- The runs of an upgrade on databases that differ in the table of the resources. -/
theorem goAlong_latest
    (hs : ∀ s ∈ catalog site, ∀ stmt ∈ statementsOf site s, Sql.StaysOff defaultTable (site.execute stmt)) :
    GoAlong site (sizesMargin site) Report.Resembles latest latest := by
  have hdetect := InstalledVersion.goAlong_detect (m := sizesMargin site) hc versionTables_ne
  refine goAlong_bind_eq hdetect fun start => ?_
  refine goAlong_bind_of_returns Release.goAlong_steps Release.returns_steps fun steps hsteps => ?_
  subst hsteps
  by_cases hnil : (catalog site).isEmpty = true
  · rw [if_pos hnil]
    exact goAlong_after_record _ (goAlong_pure (.refl _))
  · rw [if_neg hnil]
    refine goAlong_bind (goAlong_foldlM (fun r r' hr s hmem => ?_) (Report.Resembles.refl _)) fun r r' hr => ?_
    · exact goAlong_applyStep hc (ofName_of_mem_catalog hmem) (hs s hmem) hr
    · exact goAlong_applySoftVersion hc hr

end Whole

/-- On two databases that differ in the table of the resources only, an upgrade by scripts that have nothing to do
with this table fails with the same fault, or ends with reports that are the same but for the sizes.  All other
tables are the same in the end.  What is reported and sent until then is the same as well, but for what new folder
sizes report and send. -/
theorem latest_disregards_sizes {db db' : Sql.Database} (hc : CatalogOverlooks site defaultTable)
    (hs : ∀ s ∈ catalog site, ∀ stmt ∈ statementsOf site s, Sql.StaysOff defaultTable (site.execute stmt))
    (heq : db.without defaultTable = db'.without defaultTable) (j j' : Journal) :
    ∃ r r' d d' k k', latest.run site ⟨.database db, j⟩ = (r, ⟨.database d, j ++ k⟩) ∧
      latest.run site ⟨.database db', j'⟩ = (r', ⟨.database d', j' ++ k'⟩) ∧
      ((∃ e, r = .error e ∧ r' = .error e) ∨
        ∃ report report', r = .ok report ∧ r' = .ok report' ∧ report.start = report'.start ∧
          report.final = report'.final ∧ report.applied = report'.applied ∧ report.hadSteps = report'.hadSteps) ∧
      d.without defaultTable = d'.without defaultTable ∧ Alike (sizesMargin site) k k' := by
  obtain ⟨r, r', d, d', k, k', hk, hk', hend, hd, halike⟩ := goAlong_latest hc hs db db' heq
  refine ⟨r, r', d, d', k, k', hk j, hk' j', ?_, hd, halike⟩
  cases hend with
  | error e => exact .inl ⟨e, rfl, rfl⟩
  | ok hr => exact .inr ⟨_, _, rfl, rfl, hr.start, hr.final, hr.applied, hr.hadSteps⟩

/-- A schema of the version `1.2.0`, with a folder and a file in it. -/
def schemaWithResources : Sql.Database :=
  ⟨oldSchema.tables ++ [
    { name := defaultTable
      columns :=
        [{ name := "type", affinity := .integer }, { name := "full_name", affinity := .text },
          { name := "size", affinity := .integer }, { name := "is_directory", affinity := .integer }]
      rows :=
        [⟨1, [.integer 0, .text "/a", .null, .integer 1]⟩, ⟨2, [.integer 0, .text "/a/b", .integer 3, .integer 0]⟩]
      cells_fit := by decide }]⟩

/-- Without a table of the resources the sizes of either type fail, with it they are written.  Otherwise the upgrades
are the same. -/
theorem latest_disregards_sizes_oneStepSite :
    ∃ r r' d d' j j', latest.run oneStepSite ⟨.database oldSchema, []⟩ = (.ok r, ⟨.database d, j⟩) ∧
      latest.run oneStepSite ⟨.database schemaWithResources, []⟩ = (.ok r', ⟨.database d', j'⟩) ∧
      r.sizeErrors.length = 2 ∧ r'.sizeErrors.length = 0 ∧ r.applied = r'.applied ∧ r.final = r'.final ∧
      d.without defaultTable = d'.without defaultTable := by
  have hcatalog : catalog oneStepSite = [⟨"2.0.6.0_sizes", .ofParts [2, 0, 6, 0]⟩] := by decide +kernel
  have hstatements : statementsOf oneStepSite ⟨"2.0.6.0_sizes", .ofParts [2, 0, 6, 0]⟩ = ["a"] := by decide +kernel
  have hc : CatalogOverlooks oneStepSite defaultTable :=
    InstalledVersion.catalogOverlooks_of_sqlite rfl (by decide +kernel)
  have hscripts : ∀ s ∈ catalog oneStepSite, ∀ stmt ∈ statementsOf oneStepSite s,
      Sql.StaysOff defaultTable (oneStepSite.execute stmt) := by
    rw [hcatalog, List.forall_mem_singleton, hstatements, List.forall_mem_singleton]
    have hname : Sql.sameName "a" defaultTable = false := by decide +kernel
    exact Sql.staysOff_concat hname
  have hdb : oldSchema.without defaultTable = schemaWithResources.without defaultTable := by rfl
  have hsizes :
      (latest.run oneStepSite ⟨.database oldSchema, []⟩).1.toOption.map (·.sizeErrors.length) = some 2 := by
    decide +kernel
  have hsizes' : (latest.run oneStepSite ⟨.database schemaWithResources, []⟩).1.toOption.map
      (·.sizeErrors.length) = some 0 := by
    decide +kernel
  obtain ⟨r, r', d, d', j, j', hrun, hrun', hend, hd, -⟩ := latest_disregards_sizes hc hscripts hdb [] []
  rw [hrun] at hsizes
  rw [hrun'] at hsizes'
  rcases hend with ⟨e, rfl, rfl⟩ | ⟨report, report', rfl, rfl, -, hfinal, happlied, -⟩
  · cases hsizes
  · exact ⟨report, report', d, d', _, _, hrun, hrun', Option.some.inj hsizes, Option.some.inj hsizes', happlied,
      hfinal, hd⟩

end Upgrade

end SchemaMigration
