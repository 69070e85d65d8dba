import SchemaMigration.Proofs.Upgrade.Stored

/-!
# SchemaMigration.Proofs.Upgrade.FixedPoint — an upgrade that ended well has nothing left to do

The last version that an upgrade writes is the one in its report.  If that version is read back, the next
upgrade starts where this one ended.

* `Passes` : the databases between the operations of an upgrade.
* `Course.detect` : after the operations of an upgrade the version in its report is installed.
* `latest_again` : so a second upgrade does nothing.
-/

namespace SchemaMigration.Upgrade

open Job
open InstalledVersion (LeavesVersions HoldsAlone KeepsVersionTexts Shadows detect)
open Release (catalog releaseVersion)

variable {site : Site} {db db' d : Sql.Database} {name : String} {start final v : Version}
  {ops : List Operation} {cs : List Sent}

/-! ## Definitions -/

/-- An upgrade that starts on `db` comes to the database `d`, before, between or behind its operations. -/
def Passes (site : Site) (db d : Sql.Database) : Prop :=
  ∃ start final ops rest cs, detect.answer site db = .ok start ∧ Course site start final (ops ++ rest) ∧
    Performs site ops db d cs

/-! ## The end of an upgrade -/

/-- The version that was written last is installed at the end, if it is not shadowed where it is written. -/
theorem Course.detect (hc : Course site start final ops) (hd : detect.answer site db = .ok start)
    (hp : Performs site ops db db' cs)
    (hpoints : ∀ done rest d ds, ops = done ++ rest → Performs site done db d ds →
      KeepsVersionTexts site d ∧ ¬ ∃ w, Shadows site d w) :
    detect.answer site db' = .ok final := by
  cases hc with
  | idle h =>
    cases hp
    exact hd
  | @planned soft hne hread =>
    rw [plan_pending] at hp hpoints
    obtain ⟨d, ds, cs₂, hsteps, hlast, -⟩ := hp.append_inv
    by_cases hlt : reached start (pending start (catalog site)) < soft
    · -- the version of the release is written last
      obtain ⟨hk, hns⟩ := hpoints _ _ d ds rfl hsteps
      rw [if_pos hlt] at hlast
      rw [later_of_lt hlt]
      cases hlast.single_inv with
      | writeVersion hset =>
        exact (InstalledVersion.isStored_of_set hk (Release.isRead_of_releaseVersion hread) hns hset).detect
    · rw [if_neg hlt] at hlast hpoints
      cases hlast
      rw [later_of_not_lt hlt]
      rcases List.eq_nil_or_concat' (pending start (catalog site)) with hnil | ⟨before, step, hconcat⟩
      · -- nothing is written
        rw [hnil] at hsteps ⊢
        cases hsteps
        exact hd
      · -- the version of the last step is written last
        have hmem : step ∈ catalog site := (pending_sublist start _).mem (by simp [hconcat])
        rw [hconcat, List.flatMap_append, List.flatMap_singleton] at hsteps hpoints
        rw [List.append_nil, operationsOf_eq, ← List.append_assoc] at hpoints
        obtain ⟨d₁, ds₁, cs₁, hbefore, hstep, -⟩ := hsteps.append_inv
        rw [hconcat, reached_append]
        refine (hstep.isStored_step (Release.isRead_of_mem_stepsOfNames hmem) fun d₂ ds₂ hrun => ?_).detect
        exact hpoints _ _ d₂ _ rfl (hbefore.append hrun)

/-- No step and no version of the release is above the version at the end. -/
theorem Course.le_final (h : Course site start final ops) :
    (∀ step ∈ catalog site, step.version ≤ final) ∧
      (catalog site ≠ [] → ∃ soft, releaseVersion site = .ok soft ∧ ¬ final < soft) := by
  cases h with
  | idle h =>
    rw [h]
    exact ⟨fun step hs => (nomatch hs), fun hne => absurd rfl hne⟩
  | @planned soft hne hread =>
    refine ⟨fun step hs => ?_, fun _ => ⟨soft, hread, not_later_lt _ _⟩⟩
    exact le_trans (le_reached_pending hs) (le_later _ _)

/-- Where one version table exists and no script touches it, the way of an upgrade is as it should be. -/
theorem passes_of_holdsAlone (h : HoldsAlone site db name v)
    (hs : ∀ step ∈ catalog site, ∀ stmt ∈ statementsOf site step, LeavesVersions site stmt)
    (hd : Passes site db d) : KeepsVersionTexts site d ∧ ¬ ∃ w, Shadows site d w := by
  obtain ⟨start, final, ops, rest, cs, -, hcourse, hp⟩ := hd
  have halone := hp.holdsAlone (fun op hop => hcourse.isTame hs (List.mem_append_left _ hop)) h
  exact ⟨halone.keepsVersionTexts, halone.not_shadows⟩

/-! ## The next upgrade -/

/-- After an upgrade that ended well, and on whose way no version of before the threshold ever stood in the first
of two version tables, the version in its report is installed.  A second upgrade finds that version, does nothing
and commits nothing. -/
theorem latest_again {j : Journal} {r : Report} {s : Store}
    (h : latest.run site ⟨.database db, j⟩ = (.ok r, s))
    (hpoints : ∀ d, Passes site db d → KeepsVersionTexts site d ∧ ¬ ∃ w, Shadows site d w) :
    (detect.run site s).1 = .ok r.final ∧
      ∃ r' s', latest.run site s = (.ok r', s') ∧ r'.start = r.final ∧ r'.final = r.final ∧ r'.applied = [] ∧
        r'.sizeErrors = [] ∧ s'.storage = s.storage ∧ commits s'.journal = commits s.journal := by
  obtain ⟨hd, hsteps, -, ops, db', cs, hcourse, hp, hst, -⟩ := latest_ok_inv h
  have hd' : detect.answer site db' = .ok r.final := by
    refine hcourse.detect hd hp fun done rest d ds hsplit hdone => ?_
    exact hpoints d ⟨_, _, done, rest, ds, hd, hsplit ▸ hcourse, hdone⟩
  obtain ⟨hle, hsoft⟩ := hcourse.le_final
  rw [Release.answer_steps site db db'] at hsteps
  obtain ⟨r', hy, hstart, hfinal, happlied, herrors⟩ := yields_latest_of_le hd' hsteps hle hsoft
  refine ⟨(InstalledVersion.isReading_detect.run_fst hst).trans hd', ?_⟩
  obtain ⟨storage, k⟩ := s
  cases hst
  cases hrun : latest.run site ⟨.database db', k⟩ with
  | mk x s' =>
    obtain ⟨rfl, hst', hj⟩ := hy.run_eq hrun
    rw [List.append_nil] at hj
    exact ⟨r', s', rfl, hstart, hfinal, happlied, herrors, hst', hj⟩

/-- A statement of a script that makes a table. -/
def createUser : String := "CREATE TABLE t_ds_user (id INTEGER)"

theorem leavesVersions_createUser (files : FileTree) :
    LeavesVersions { InstalledVersion.bareSite with files := files } createUser := by
  have htext : Sql.Statement.ofText? createUser =
      some (.create false "t_ds_user" [{ name := "id", affinity := .integer }]) := by decide +kernel
  exact InstalledVersion.leavesVersions_of_ofText? rfl rfl htext (by decide +kernel)

/-- A release of the version `1.3.2` with the step `1.3.0`, which makes a table. -/
def userSite : Site :=
  { InstalledVersion.bareSite with files := Release.releaseTexts [("1.3.0_user", createUser)] "1.3.2" }

/-- Its one step. -/
def userStep : Step := ⟨"1.3.0_user", .ofParts [1, 3, 0]⟩

theorem catalog_userSite : catalog userSite = [userStep] := by decide +kernel

theorem statementsOf_userSite : statementsOf userSite userStep = [createUser] := by decide +kernel

theorem leavesVersions_userSite : ∀ step ∈ catalog userSite, ∀ stmt ∈ statementsOf userSite step,
    LeavesVersions userSite stmt := by
  rw [catalog_userSite, List.forall_mem_singleton, statementsOf_userSite, List.forall_mem_singleton]
  exact leavesVersions_createUser userSite.files

theorem holdsAlone_oldSchema (files : FileTree) :
    HoldsAlone { InstalledVersion.bareSite with files := files } oldSchema InstalledVersion.table
      (.ofParts [1, 2, 0]) := by
  have hbare : HoldsAlone InstalledVersion.bareSite oldSchema InstalledVersion.table (.ofParts [1, 2, 0]) := by
    refine ⟨by rfl, by rfl, fun t ht => ?_⟩
    have hfind : oldSchema.find? InstalledVersion.table =
        some (InstalledVersion.versionTable InstalledVersion.table ["1.2.0"]) := by rfl
    rw [hfind] at ht
    cases ht
    exact InstalledVersion.keepsTextsIn_versionTable _ _
  exact hbare.withFiles files

/-- A step and the version of the release, and then nothing more. -/
theorem latest_again_userSite :
    ∃ r s, latest.run userSite ⟨.database oldSchema, []⟩ = (.ok r, s) ∧ r.applied = ["1.3.0_user"] ∧
      r.final = .ofParts [1, 3, 2] ∧ (detect.run userSite s).1 = .ok r.final ∧
      ∃ r' s', latest.run userSite s = (.ok r', s') ∧ r'.applied = [] ∧ s'.storage = s.storage := by
  have hok : ((latest.run userSite ⟨.database oldSchema, []⟩).1.map fun r => (r.applied, r.final)) =
      .ok (["1.3.0_user"], .ofParts [1, 3, 2]) := by decide +kernel
  have halone : HoldsAlone userSite oldSchema InstalledVersion.table (.ofParts [1, 2, 0]) :=
    holdsAlone_oldSchema userSite.files
  cases hrun : latest.run userSite ⟨.database oldSchema, []⟩ with
  | mk x s =>
  cases x with
  | error e => simp [hrun, Except.map] at hok
  | ok r =>
  simp only [hrun, Except.map, Except.ok.injEq, Prod.mk.injEq] at hok
  obtain ⟨hdetect, r', s', hrun', -, -, happlied, -, hst, -⟩ :=
    latest_again hrun fun d hd => passes_of_holdsAlone halone leavesVersions_userSite hd
  exact ⟨r, s, rfl, hok.1, hok.2, hdetect, r', s', hrun', happlied, hst⟩

end SchemaMigration.Upgrade
