import SchemaMigration.Proofs.Release
import SchemaMigration.Proofs.Upgrade.Loop

/-!
# SchemaMigration.Proofs.Upgrade.Latest — what an upgrade to the latest version does

An upgrade reads the installed version and the steps of the release, carries out those steps that are above the
version reached so far, and writes the version of the release if that is above all of them.

* `newer`, `plan` : the steps that are carried out, and everything that is done for them.
* `Course` : the version and the operations of an upgrade from a version at the start.
* `latest_ok_inv` : what is known of every upgrade that ends well, also where steps lead to the same version.
* `latest_plan` : an upgrade that ends well performs the plan and nothing else.
-/

namespace SchemaMigration.Upgrade

open Job
open Release (catalog releaseVersion)

/-! ## Definitions -/

/-- The steps to versions above `v`. -/
def newer (v : Version) (steps : List Step) : List Step := steps.filter fun step => v < step.version

/-- What is done in an upgrade from the version `start` by the steps `applied`, for a release of the version
`soft`. -/
def plan (site : Site) (start soft : Version) (applied : List Step) : List Operation :=
  applied.flatMap (operationsOf site) ++
    if start < soft ∧ ∀ step ∈ applied, step.version < soft then [.writeVersion soft] else []

/-- The later of two versions, the first where they are the same. -/
def later (v w : Version) : Version := if v < w then w else v

/-- An upgrade from the version `start` leads to the version `final` by these operations. -/
inductive Course (site : Site) (start : Version) : Version → List Operation → Prop
  | idle (h : catalog site = []) : Course site start start []
  | planned {soft : Version} (h : catalog site ≠ []) (hs : releaseVersion site = .ok soft) :
      Course site start (later (reached start (pending start (catalog site))) soft)
        (plan site start soft (pending start (catalog site)))

/-! ## Newer steps -/

section Newer

variable {v : Version} {step : Step} {steps : List Step}

theorem newer_subset (v : Version) (steps : List Step) : newer v steps ⊆ steps := List.filter_subset_self steps

theorem newer_cons_of_le (h : step.version ≤ v) : newer v (step :: steps) = newer v steps :=
  List.filter_cons_of_neg (by simpa using Version.not_lt.2 h)

theorem newer_of_forall (h : ∀ s ∈ steps, v < s.version) : newer v steps = steps :=
  List.filter_eq_self.2 fun s hs => decide_eq_true (h s hs)

theorem newer_eq_nil (h : ∀ s ∈ steps, s.version ≤ v) : newer v steps = [] :=
  List.filter_eq_nil_iff.2 fun s hs => by simpa using Version.not_lt.2 (h s hs)

/-- Behind a step of an ascending list there are only newer ones. -/
theorem newer_cons_of_lt (h : v < step.version) (hs : ∀ s ∈ steps, step.version < s.version) :
    newer v (step :: steps) = step :: newer step.version steps := by
  rw [newer_of_forall hs]
  refine newer_of_forall fun s hmem => ?_
  rcases List.mem_cons.1 hmem with rfl | hmem
  · exact h
  · exact lt_trans h (hs s hmem)

/-- Of ascending steps all those are carried out that are newer than the version at the start. -/
theorem pending_eq_newer (hsorted : steps.Pairwise fun a b => a.version < b.version) (v : Version) :
    pending v steps = newer v steps := by
  induction steps generalizing v with
  | nil => rfl
  | cons step steps ih =>
    rw [List.pairwise_cons] at hsorted
    by_cases hle : step.version ≤ v
    · rw [pending_cons_of_le hle, newer_cons_of_le hle]
      exact ih hsorted.2 v
    · have hlt := Version.not_le.1 hle
      rw [pending_cons_of_lt hlt, newer_cons_of_lt hlt hsorted.1, ih hsorted.2]

end Newer

/-! ## The version of the release -/

theorem IsGreatestOf.lt_iff {u v : Version} {vs : List Version} (h : IsGreatestOf v vs) :
    v < u ↔ ∀ w ∈ vs, w < u :=
  ⟨fun hlt w hw => lt_of_le_of_lt (h.2 w hw) hlt, fun hall => hall v h.1⟩

theorem later_of_lt {v w : Version} (h : v < w) : later v w = w := if_pos h

theorem later_of_not_lt {v w : Version} (h : ¬ v < w) : later v w = v := if_neg h

theorem le_later (v w : Version) : v ≤ later v w := by
  by_cases h : v < w
  · rw [later_of_lt h]
    exact le_of_lt h
  · rw [later_of_not_lt h]

theorem not_later_lt (v w : Version) : ¬ later v w < w := by
  by_cases h : v < w
  · rw [later_of_lt h]
    exact lt_irrefl w
  · rw [later_of_not_lt h]
    exact h

/-- The later of the greatest version and another one is the greatest of all. -/
theorem IsGreatestOf.concat {v : Version} {vs : List Version} (h : IsGreatestOf v vs) (w : Version) :
    IsGreatestOf (later v w) (vs ++ [w]) := by
  constructor
  · by_cases hlt : v < w
    · rw [later_of_lt hlt]
      exact List.mem_append_right _ (List.mem_singleton.2 rfl)
    · rw [later_of_not_lt hlt]
      exact List.mem_append_left _ h.1
  · intro x hx
    rcases List.mem_append.1 hx with hx | hx
    · exact le_trans (h.2 x hx) (le_later v w)
    · rw [List.mem_singleton.1 hx]
      exact Version.not_lt.1 (not_later_lt v w)

/-- The version of the release is written where it is above the version that was reached. -/
theorem applySoftVersion_cases (site : Site) (report : Report) (db : Sql.Database) :
    (∃ e, Yields (applySoftVersion report) site db (.error e) db []) ∨
      ∃ soft db' cs, releaseVersion site = .ok soft ∧
        Yields (applySoftVersion report) site db (.ok { report with final := later report.final soft }) db' cs ∧
        Performs site (if report.final < soft then [.writeVersion soft] else []) db db' cs := by
  have hread := Release.yields_softVersion site db
  cases hsoft : releaseVersion site with
  | error e =>
    rw [hsoft] at hread
    exact .inl ⟨e, yields_bind_error hread⟩
  | ok soft =>
  rw [hsoft] at hread
  by_cases hlt : report.final < soft
  · rcases InstalledVersion.yields_set site db soft with ⟨e, hy⟩ | ⟨t, db', hy⟩
    · refine .inl ⟨e, yields_bind_of_quiet hread ?_⟩
      rw [if_pos hlt]
      exact yields_bind_error hy
    · refine .inr ⟨soft, db', [InstalledVersion.writing t soft], rfl, yields_bind_of_quiet hread ?_, ?_⟩
      · rw [if_pos hlt, later_of_lt hlt]
        exact yields_bind_quiet hy (yields_bind_of_quiet (yields_notify _) (yields_pure _))
      · rw [if_pos hlt]
        exact .single (.writeVersion hy)
  · refine .inr ⟨soft, db, [], rfl, yields_bind_of_quiet hread ?_, ?_⟩
    · rw [if_neg hlt, later_of_not_lt hlt]
      exact yields_pure report
    · rw [if_neg hlt]
      exact .nil

/-- Where the version that was reached is not below that of the release, nothing is written. -/
theorem yields_applySoftVersion_of_not_lt {site : Site} {report : Report} {soft : Version}
    (hs : releaseVersion site = .ok soft) (hlt : ¬ report.final < soft) (db : Sql.Database) :
    Yields (applySoftVersion report) site db (.ok report) db [] := by
  have hread := Release.yields_softVersion site db
  rw [hs] at hread
  refine yields_bind_of_quiet hread ?_
  rw [if_neg hlt]
  exact yields_pure report

/-! ## The whole upgrade -/

section Whole

variable {site : Site} {db : Sql.Database} {steps : List Step} {start : Version}

/-- The version of the release is the last operation, if it is above the version that was reached. -/
theorem plan_pending (site : Site) (start soft : Version) (steps : List Step) :
    plan site start soft (pending start steps) =
      (pending start steps).flatMap (operationsOf site) ++
        if reached start (pending start steps) < soft then [.writeVersion soft] else [] := by
  have hiff : reached start (pending start steps) < soft ↔
      start < soft ∧ ∀ step ∈ pending start steps, step.version < soft := by
    rw [(isGreatestOf_reached start steps).lt_iff, List.forall_mem_cons, List.forall_mem_map]
  simp only [plan, hiff]

theorem ofName_of_mem_catalog {step : Step} (h : step ∈ catalog site) : Step.ofName step.name = .ok step := by
  obtain ⟨name, -, hname⟩ := Release.mem_stepsOfNames_iff.1 h
  obtain ⟨v, hv, rfl⟩ := map_eq_ok_iff.1 hname
  rw [Step.ofName, hv]
  rfl

/-- An upgrade that finds no steps. -/
theorem yields_latest_of_nil (hd : InstalledVersion.detect.answer site db = .ok start)
    (hs : Release.steps.answer site db = .ok []) :
    Yields latest site db (.ok { start := start, final := start }) db [] := by
  refine yields_bind_of_quiet (InstalledVersion.isReading_detect.yields hd) ?_
  refine yields_bind_of_quiet (Release.isReading_steps.yields hs) ?_
  exact yields_bind_of_quiet (yields_notify _) (yields_pure _)

/-- An upgrade that finds steps does what its loop does. -/
theorem yields_latest_of_steps {r : Except Fault Report} {db' : Sql.Database}
    {cs : List Sent} (hd : InstalledVersion.detect.answer site db = .ok start)
    (hs : Release.steps.answer site db = .ok steps) (hne : steps ≠ [])
    (hy : Yields (steps.foldlM applyStep { start := start, final := start, hadSteps := true } >>=
      applySoftVersion) site db r db' cs) : Yields latest site db r db' cs := by
  refine yields_bind_of_quiet (InstalledVersion.isReading_detect.yields hd) ?_
  refine yields_bind_of_quiet (Release.isReading_steps.yields hs) ?_
  rw [if_neg (by simpa using hne)]
  exact hy

/-- What an upgrade that finds steps does after that. -/
def applyAll (start : Version) (steps : List Step) : Job Report :=
  steps.foldlM applyStep { start := start, final := start, hadSteps := true } >>= applySoftVersion

/-- So the result of an upgrade does not depend on the journal, and it can be computed with the steps in order. -/
theorem latest_run_of_steps (hd : InstalledVersion.detect.answer site db = .ok start)
    (hs : Release.steps.answer site db = .ok steps) (hne : steps ≠ []) (j : Journal) :
    (latest.run site ⟨.database db, j⟩).1 = (applyAll start steps).answer site db ∧
      (latest.run site ⟨.database db, j⟩).2.storage =
        ((applyAll start steps).run site ⟨.database db, []⟩).2.storage := by
  have hyields : ∃ r db' cs, Yields (applyAll start steps) site db r db' cs := by
    obtain rfl := Release.steps_eq_of_ok hs
    rcases foldlM_applyStep_cases site (fun _ => ofName_of_mem_catalog)
        { start := start, final := start, hadSteps := true } db with
      ⟨e, db', cs, hy⟩ | ⟨errors, db₁, cs₁, hy, -⟩
    · exact ⟨_, _, _, yields_bind_error hy⟩
    · rcases applySoftVersion_cases site _ db₁ with ⟨e, hy'⟩ | ⟨soft, db₂, cs₂, -, hy', -⟩
      · exact ⟨_, _, _, yields_bind hy hy'⟩
      · exact ⟨_, _, _, yields_bind hy hy'⟩
  obtain ⟨r, db', cs, hy⟩ := hyields
  cases hlatest : latest.run site ⟨.database db, j⟩ with
  | mk x s =>
  cases hall : (applyAll start steps).run site ⟨.database db, []⟩ with
  | mk y t =>
  obtain ⟨rfl, hst, -⟩ := (yields_latest_of_steps hd hs hne hy).run_eq hlatest
  obtain ⟨rfl, hst', -⟩ := hy.run_eq hall
  exact ⟨hy.answer_eq.symm, hst.trans hst'.symm⟩

/-- An upgrade fails, finds no steps, or carries out those that are pending. -/
theorem latest_runs (site : Site) (db : Sql.Database) :
    (∃ e db' cs, Yields latest site db (.error e) db' cs) ∨
      ∃ start, InstalledVersion.detect.answer site db = .ok start ∧
        Release.steps.answer site db = .ok (catalog site) ∧
        (catalog site = [] ∧ Yields latest site db (.ok { start := start, final := start }) db [] ∨
          catalog site ≠ [] ∧ ∃ soft errors db' cs, releaseVersion site = .ok soft ∧
            Yields latest site db
              (.ok { start := start
                     final := later (reached start (pending start (catalog site))) soft
                     applied := (pending start (catalog site)).map (·.name)
                     sizeErrors := errors
                     hadSteps := true }) db' cs ∧
            Performs site (plan site start soft (pending start (catalog site))) db db' cs) := by
  cases hd : InstalledVersion.detect.answer site db with
  | error e => exact .inl ⟨e, db, [], yields_bind_error (InstalledVersion.isReading_detect.yields hd)⟩
  | ok start =>
  cases hs : Release.steps.answer site db with
  | error e =>
    refine .inl ⟨e, db, [], yields_bind_of_quiet (InstalledVersion.isReading_detect.yields hd) ?_⟩
    exact yields_bind_error (Release.isReading_steps.yields hs)
  | ok found =>
  obtain rfl := Release.steps_eq_of_ok hs
  by_cases hnil : catalog site = []
  · refine .inr ⟨start, rfl, rfl, .inl ⟨hnil, yields_latest_of_nil hd ?_⟩⟩
    rw [← hnil]
    exact hs
  rcases foldlM_applyStep_cases site (fun _ => ofName_of_mem_catalog)
      { start := start, final := start, hadSteps := true } db with
    ⟨e, db', cs, hy⟩ | ⟨errors, db₁, cs₁, hy, hp⟩
  · exact .inl ⟨e, db', cs, yields_latest_of_steps hd hs hnil (yields_bind_error hy)⟩
  rcases applySoftVersion_cases site _ db₁ with ⟨e, hy'⟩ | ⟨soft, db₂, cs₂, hsoft, hy', hw⟩
  · exact .inl ⟨e, db₁, _, yields_latest_of_steps hd hs hnil (yields_bind hy hy')⟩
  · have hlatest := yields_latest_of_steps hd hs hnil (yields_bind hy hy')
    refine .inr ⟨start, rfl, rfl, .inr ⟨hnil, soft, errors, db₂, _, hsoft, hlatest, ?_⟩⟩
    rw [plan_pending]
    exact hp.append hw

/-- What is known of an upgrade that ended well. -/
theorem latest_ok_inv {j : Journal} {r : Report} {s : Store}
    (h : latest.run site ⟨.database db, j⟩ = (.ok r, s)) :
    InstalledVersion.detect.answer site db = .ok r.start ∧ Release.steps.answer site db = .ok (catalog site) ∧
      r.applied = (pending r.start (catalog site)).map (·.name) ∧
      ∃ ops db' cs, Course site r.start r.final ops ∧ Performs site ops db db' cs ∧
        s.storage = .database db' ∧ commits s.journal = commits j ++ cs := by
  rcases latest_runs site db with
    ⟨e, db', cs, hy⟩ | ⟨start, hd, hs, ⟨hnil, hy⟩ | ⟨hne, soft, errors, db', cs, hsoft, hy, hp⟩⟩
  · cases (hy.run_eq h).1
  · obtain ⟨hr, hst, hj⟩ := hy.run_eq h
    cases hr
    refine ⟨hd, hs, ?_, [], db, [], .idle hnil, .nil, hst, hj⟩
    rw [hnil]
    rfl
  · obtain ⟨hr, hst, hj⟩ := hy.run_eq h
    cases hr
    exact ⟨hd, hs, rfl, _, db', cs, .planned hne hsoft, hp, hst, hj⟩

/-- Where the installed version is that of the newest step or above, and not below that of the release, an upgrade
finds it and does nothing. -/
theorem yields_latest_of_le (hd : InstalledVersion.detect.answer site db = .ok start)
    (hs : Release.steps.answer site db = .ok steps) (hle : ∀ step ∈ steps, step.version ≤ start)
    (hsoft : steps ≠ [] → ∃ soft, releaseVersion site = .ok soft ∧ ¬ start < soft) :
    ∃ r, Yields latest site db (.ok r) db [] ∧ r.start = start ∧ r.final = start ∧ r.applied = [] ∧
      r.sizeErrors = [] := by
  by_cases hnil : steps = []
  · rw [hnil] at hs
    exact ⟨_, yields_latest_of_nil hd hs, rfl, rfl, rfl, rfl⟩
  · obtain ⟨soft, hread, hlt⟩ := hsoft hnil
    refine ⟨{ start := start, final := start, hadSteps := true }, ?_, rfl, rfl, rfl, rfl⟩
    refine yields_latest_of_steps hd hs hnil (yields_bind_of_quiet (yields_foldlM_applyStep_of_le hle) ?_)
    exact yields_applySoftVersion_of_not_lt hread hlt db

/-- An upgrade fails, finds no steps, or carries out the plan. -/
theorem latest_cases (hdist : (catalog site).Pairwise fun a b => ¬ a.version.Same b.version)
    (db : Sql.Database) :
    (∃ e db' cs, Yields latest site db (.error e) db' cs) ∨
      ∃ start, InstalledVersion.detect.answer site db = .ok start ∧
        (catalog site = [] ∧ Yields latest site db (.ok { start := start, final := start }) db [] ∨
          catalog site ≠ [] ∧ ∃ r soft db' cs, Yields latest site db (.ok r) db' cs ∧ r.start = start ∧
            r.applied = (newer start (catalog site)).map (·.name) ∧ releaseVersion site = .ok soft ∧
            IsGreatestOf r.final ((start :: (newer start (catalog site)).map (·.version)) ++ [soft]) ∧
            Performs site (plan site start soft (newer start (catalog site))) db db' cs) := by
  rcases latest_runs site db with
    herror | ⟨start, hd, -, hidle | ⟨hne, soft, errors, db', cs, hsoft, hy, hp⟩⟩
  · exact .inl herror
  · exact .inr ⟨start, hd, .inl hidle⟩
  · have hfinal := (isGreatestOf_reached start (catalog site)).concat soft
    have hpending := pending_eq_newer (Release.pairwise_lt_stepsOfNames hdist) start
    unfold catalog at hy hp hfinal ⊢
    rw [hpending] at hy hp hfinal
    exact .inr ⟨start, hd, .inr ⟨hne, _, soft, db', cs, hy, rfl, rfl, hsoft, hfinal, hp⟩⟩

/-- What an upgrade to the latest version has done when it ends well.  Without steps it has done nothing.  With
steps it has carried out those above the version at the start, in ascending order, and after them it has written
the version of the release if that is above all of them; the version that is reached is the greatest of all. -/
theorem latest_plan {j : Journal} {r : Report} {s : Store}
    (hdist : (catalog site).Pairwise fun a b => ¬ a.version.Same b.version)
    (h : latest.run site ⟨.database db, j⟩ = (.ok r, s)) :
    InstalledVersion.detect.answer site db = .ok r.start ∧
    (catalog site = [] →
      r.applied = [] ∧ r.final = r.start ∧ s.storage = .database db ∧ commits s.journal = commits j) ∧
    (catalog site ≠ [] →
      r.applied = (newer r.start (catalog site)).map (·.name) ∧
      (newer r.start (catalog site)).Pairwise (fun a b => a.version < b.version) ∧
      (∀ step, step ∈ newer r.start (catalog site) ↔
        r.start < step.version ∧ ∃ name ∈ Release.stepNames site, Step.ofName name = .ok step) ∧
      ∃ soft db' cs, releaseVersion site = .ok soft ∧
        Performs site (plan site r.start soft (newer r.start (catalog site))) db db' cs ∧
        s.storage = .database db' ∧ commits s.journal = commits j ++ cs ∧
        IsGreatestOf r.final ((r.start :: (newer r.start (catalog site)).map (·.version)) ++ [soft])) := by
  rcases latest_cases hdist db with ⟨e, db', cs, hy⟩ | ⟨start, hd, ⟨hnil, hy⟩ | ⟨hne, r', soft, db', cs, hy, hspec⟩⟩
  · cases (hy.run_eq h).1
  · obtain ⟨hr, hst, hj⟩ := hy.run_eq h
    cases hr
    rw [List.append_nil] at hj
    exact ⟨hd, fun _ => ⟨rfl, rfl, hst, hj⟩, fun hne => absurd hnil hne⟩
  · obtain ⟨hr, hst, hj⟩ := hy.run_eq h
    cases hr
    obtain ⟨rfl, happlied, hsoft, hfinal, hp⟩ := hspec
    have hsorted := Release.pairwise_lt_stepsOfNames hdist
    refine ⟨hd, fun hnil => absurd hnil hne, fun _ => ⟨happlied, hsorted.filter _, fun step => ?_, ?_⟩⟩
    · rw [newer, List.mem_filter, decide_eq_true_iff, and_comm]
      exact and_congr_right fun _ => Release.mem_stepsOfNames_iff
    · exact ⟨soft, db', cs, hsoft, hp, hst, hj, hfinal⟩

end Whole

/-- A release of the version `3` with the one step `2.0.6.0`, whose script for the tables is the statement `a`;
every statement makes a table of its name. -/
def oneStepSite : Site :=
  { InstalledVersion.bareSite with
    files := Release.releaseFiles [("2.0.6.0_sizes", [97], [])] [51]
    execute := fun stmt db => .ok ⟨db.tables ++ [InstalledVersion.versionTable stmt []]⟩ }

/-- A schema of the version `1.2.0`. -/
def oldSchema : Sql.Database := ⟨[InstalledVersion.versionTable InstalledVersion.table ["1.2.0"]]⟩

/-- An upgrade with an operation of every kind. -/
theorem latest_plan_oneStepSite :
    ∃ r s db' cs, latest.run oneStepSite ⟨.database oldSchema, []⟩ = (.ok r, s) ∧
      r.applied = ["2.0.6.0_sizes"] ∧
      Performs oneStepSite [.run "a", .writeVersion (.ofParts [2, 0, 6, 0]), .updateSizes,
        .writeVersion (.ofParts [3])] oldSchema db' cs ∧
      s.storage = .database db' ∧ commits s.journal = cs := by
  have hok : (latest.run oneStepSite ⟨.database oldSchema, []⟩).1.isOk = true := by decide +kernel
  have hdist : (catalog oneStepSite).Pairwise fun a b => ¬ a.version.Same b.version := by decide +kernel
  have hcatalog : catalog oneStepSite = [⟨"2.0.6.0_sizes", .ofParts [2, 0, 6, 0]⟩] := by decide +kernel
  have hdetect : InstalledVersion.detect.answer oneStepSite oldSchema = .ok (.ofParts [1, 2, 0]) := by rfl
  have hsoft : releaseVersion oneStepSite = .ok (.ofParts [3]) := by rfl
  cases hrun : latest.run oneStepSite ⟨.database oldSchema, []⟩ with
  | mk x s =>
  cases x with
  | error e => simp [hrun, Except.isOk, Except.toBool] at hok
  | ok r =>
  obtain ⟨hstart, -, hsteps⟩ := latest_plan hdist hrun
  obtain ⟨happlied, -, -, soft, db', cs, hsoft', hp, hst, hj, -⟩ := hsteps (by rw [hcatalog]; simp)
  rw [hdetect] at hstart
  rw [hsoft] at hsoft'
  cases hsoft'
  rw [← Except.ok.inj hstart, hcatalog] at happlied hp
  have hplan : plan oneStepSite (.ofParts [1, 2, 0]) (.ofParts [3])
      (newer (.ofParts [1, 2, 0]) [⟨"2.0.6.0_sizes", .ofParts [2, 0, 6, 0]⟩]) =
      [.run "a", .writeVersion (.ofParts [2, 0, 6, 0]), .updateSizes, .writeVersion (.ofParts [3])] := by
    decide +kernel
  rw [hplan] at hp
  exact ⟨r, s, db', cs, rfl, happlied, hp, hst, hj⟩

end SchemaMigration.Upgrade
