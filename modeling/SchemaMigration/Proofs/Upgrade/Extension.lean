import Mathlib.Data.List.Sort
import SchemaMigration.Proofs.Upgrade.Resuming

/-!
# SchemaMigration.Proofs.Upgrade.Extension — an upgrade by way of an older release

A release extends another one if it has all steps of that release, and further ones above them and above the
version of that release.  Whether a database is upgraded to the older release first or not, the same steps are
carried out on it, and it ends with the same tables and the same version.

* `Extends` : a release that extends another one.
* `StandsAside` : a statement for which the version table does not matter, and that leaves it alone.
* `Performs.agree` : the same operations on databases that differ in the version table only.
* `Extends.newer_eq` : what both upgrades together carry out.
* `Extends.final_same` : where both ways end.
* `latest_of_extends` : the upgrade by way of the older release and the direct one.
-/

namespace SchemaMigration.Upgrade

open Job
open InstalledVersion (LeavesVersions HoldsAlone detect)
open Release (catalog releaseVersion)

variable {site : Site} {files : FileTree} {db db' d d' : Sql.Database} {name : String}
  {start final mid u v w : Version} {step : Step} {op : Operation} {ops : List Operation} {cs ds : List Sent}

/-! ## Definitions -/

/-- The release with these files has all steps of the release of the site, with the same scripts, and further steps
only above those and above its version; its own version is not lower. -/
structure Extends (site : Site) (files : FileTree) : Prop where
  includes : catalog site ⊆ catalog { site with files := files }
  scripts : ∀ step ∈ catalog site, statementsOf { site with files := files } step = statementsOf site step
  distinct : (catalog site).Pairwise fun a b => ¬ a.version.Same b.version
  distinct' : (catalog { site with files := files }).Pairwise fun a b => ¬ a.version.Same b.version
  above : ∀ step ∈ catalog { site with files := files }, step ∉ catalog site →
    (∀ s ∈ catalog site, s.version < step.version) ∧ ∀ soft, releaseVersion site = .ok soft → soft < step.version
  notLower : ∀ soft soft', releaseVersion site = .ok soft →
    releaseVersion { site with files := files } = .ok soft' → soft ≤ soft'

/-- The statement leaves the version tables alone, and whatever the table `name` holds, it makes the same of the
other tables wherever it ends well. -/
structure StandsAside (site : Site) (name stmt : String) : Prop where
  leaves : LeavesVersions site stmt
  blind : ∀ db db' d d', db.without name = db'.without name → site.execute stmt db = .ok d →
    site.execute stmt db' = .ok d' → d.without name = d'.without name

/-- Versions that are written can be read back, and the statements stand aside of the version table. -/
def Operation.StandsAside (site : Site) (name : String) : Operation → Prop
  | .run stmt => Upgrade.StandsAside site name stmt
  | .writeVersion w => w.IsRead
  | .updateSizes => True

/-! ## Beside the version table -/

/-- A statement that does not name a version table. -/
theorem standsAside_of_ofText? {stmt : String} {statement : Sql.Statement} (hv : site.vendor = .sqlite)
    (he : site.execute = Sql.execute) (hs : Sql.Statement.ofText? stmt = some statement)
    (hne : ∀ name ∈ [InstalledVersion.table, InstalledVersion.legacyTable], ∀ t ∈ statement.names,
      Sql.sameName t name = false)
    (hname : name ∈ [InstalledVersion.table, InstalledVersion.legacyTable]) : StandsAside site name stmt where
  leaves := InstalledVersion.leavesVersions_of_ofText? hv he hs hne
  blind db db' d d' heq hd hd' := by
    rw [he, Sql.execute_of_ofText? hs] at hd hd'
    exact (statement.staysOff_run (hne name hname)).agree heq hd hd'

/-- The files of a release do not matter for what a statement does. -/
theorem StandsAside.withFiles {stmt : String} (h : StandsAside site name stmt) (files : FileTree) :
    StandsAside { site with files := files } name stmt where
  leaves db db' hrun :=
    have hsame := h.leaves db db' hrun
    ⟨hsame.listed, hsame.found⟩
  blind := h.blind

theorem Operation.StandsAside.isTame (h : op.StandsAside site name) (files : FileTree) :
    op.IsTame { site with files := files } := by
  cases op with
  | run stmt => exact (Upgrade.StandsAside.withFiles h files).leaves
  | writeVersion w => exact h
  | updateSizes => trivial

/-- What an operation makes of the other tables does not depend on the version table. -/
theorem Operation.Does.agree (hop : op.Does site db d cs) (hop' : op.Does { site with files := files } db' d' ds)
    (ha : op.StandsAside site name) (h : HoldsAlone site db name v)
    (h' : HoldsAlone { site with files := files } db' name w) (heq : db.without name = db'.without name) :
    d.without name = d'.without name := by
  cases op with
  | run stmt =>
    cases hop with
    | run hrun =>
      cases hop' with
      | run hrun' => exact ha.blind _ _ _ _ heq hrun hrun'
  | writeVersion u =>
    cases hop with
    | writeVersion hset =>
      cases hop' with
      | writeVersion hset' => rw [(h.set ha hset).2, (h'.set ha hset').2, heq]
  | updateSizes =>
    have hne := sizesTable_ne h.mem
    rw [eq_resizeAll_of_does hop, eq_resizeAll_of_does hop', ← FolderSize.resizeAll_without hne,
      ← FolderSize.resizeAll_without hne, heq]

/-- So the same operations lead databases that differ in the version table only to databases that differ there
only. -/
theorem Performs.agree (hp : Performs site ops db d cs) (hp' : Performs { site with files := files } ops db' d' ds)
    (ha : ∀ op ∈ ops, op.StandsAside site name) (h : HoldsAlone site db name v)
    (h' : HoldsAlone { site with files := files } db' name w) (heq : db.without name = db'.without name) :
    d.without name = d'.without name := by
  induction hp generalizing db' ds v w with
  | nil =>
    cases hp'
    exact heq
  | cons hop hrest ih =>
    cases hp' with
    | cons hop' hrest' =>
      -- each of the two databases still has one version table, so writes miss all other tables
      have hhead := ha _ List.mem_cons_self
      exact ih hrest' (fun op hmem => ha op (List.mem_cons_of_mem _ hmem))
        (hop.holdsAlone (hhead.isTame site.files) h) (hop'.holdsAlone (hhead.isTame files) h')
        (hop.agree hop' hhead h h' heq)

/-! ## The version at the end -/

/-- What holds of the version at the start, of those of all steps and of that of the release holds of the version at
the end. -/
theorem Course.final_of {P : Version → Prop} (h : Course site start final ops) (hstart : P start)
    (hsteps : ∀ step ∈ catalog site, P step.version)
    (hsoft : catalog site ≠ [] → ∀ soft, releaseVersion site = .ok soft → P soft) : P final := by
  cases h with
  | idle h => exact hstart
  | @planned soft hne hread =>
    have hreached : P (reached start (pending start (catalog site))) := by
      rcases List.mem_cons.1 (isGreatestOf_reached start (catalog site)).1 with hfirst | hmem
      · rwa [hfirst]
      · obtain ⟨step, hstep, hversion⟩ := List.mem_map.1 hmem
        rw [← hversion]
        exact hsteps step ((pending_sublist start _).mem hstep)
    unfold later
    split
    · exact hsoft hne soft hread
    · exact hreached

theorem Course.start_le_final (h : Course site start final ops) : start ≤ final := by
  cases h with
  | idle h => exact le_refl start
  | planned hne hread => exact le_trans (le_reached_pending_self start _) (le_later _ _)

theorem Course.soft_le {soft : Version} (h : Course site start final ops) (hne : catalog site ≠ [])
    (hread : releaseVersion site = .ok soft) : soft ≤ final := by
  obtain ⟨soft', hread', hlt⟩ := h.le_final.2 hne
  rw [hread] at hread'
  cases hread'
  exact Version.not_lt.1 hlt

/-! ## Beside the version table an upgrade carries out its steps only -/

/-- Writing versions leaves all other tables as they are. -/
theorem Performs.without_of_writes (hp : Performs site ops db d cs)
    (hw : ∀ op ∈ ops, ∃ w, op = .writeVersion w ∧ w.IsRead) (h : HoldsAlone site db name v) :
    d.without name = db.without name := by
  induction hp generalizing v with
  | nil => rfl
  | cons hop _ ih =>
    obtain ⟨w, rfl, hread⟩ := hw _ List.mem_cons_self
    cases hop with
    | writeVersion hset =>
      obtain ⟨hset, hothers⟩ := h.set hread hset
      rw [ih (fun op hmem => hw op (List.mem_cons_of_mem _ hmem)) hset, hothers]

/-- Behind the steps at most the version of the release is written. -/
theorem Course.ops_eq (h : Course site start final ops) :
    ∃ last, ops = (pending start (catalog site)).flatMap (operationsOf site) ++ last ∧
      ∀ op ∈ last, ∃ w, op = .writeVersion w ∧ w.IsRead := by
  cases h with
  | idle h =>
    rw [h]
    exact ⟨[], rfl, fun op hop => (nomatch hop)⟩
  | @planned soft hne hread =>
    refine ⟨_, plan_pending site start soft _, fun op hop => ?_⟩
    split at hop
    · exact ⟨soft, List.mem_singleton.1 hop, Release.isRead_of_releaseVersion hread⟩
    · cases hop

/-- The steps of a release whose scripts stand aside of the version table. -/
theorem standsAside_of_mem_flatMap {steps : List Step} (hsub : steps ⊆ catalog site)
    (hs : ∀ step ∈ catalog site, ∀ stmt ∈ statementsOf site step, StandsAside site name stmt)
    (hop : op ∈ steps.flatMap (operationsOf site)) : op.StandsAside site name := by
  obtain ⟨step, hstep, hop⟩ := List.mem_flatMap.1 hop
  rcases mem_operationsOf_cases hop with ⟨stmt, hstmt, rfl⟩ | rfl | rfl
  · exact hs step (hsub hstep) stmt hstmt
  · exact Release.isRead_of_mem_stepsOfNames (hsub hstep)
  · trivial

/-- What is known of an upgrade that ended well where one version table exists and the scripts stand aside of it. -/
theorem latest_beside {j : Journal} {r : Report} {s : Store} (halone : HoldsAlone site db name start)
    (hdist : (catalog site).Pairwise fun a b => ¬ a.version.Same b.version)
    (haside : ∀ step ∈ catalog site, ∀ stmt ∈ statementsOf site step, StandsAside site name stmt)
    (h : latest.run site ⟨.database db, j⟩ = (.ok r, s)) :
    r.applied = (newer start (catalog site)).map (·.name) ∧ (∃ ops, Course site start r.final ops) ∧
      ∃ d, s.storage = .database d ∧ HoldsAlone site d name r.final ∧
        ∃ e cs, Performs site ((newer start (catalog site)).flatMap (operationsOf site)) db e cs ∧
          d.without name = e.without name := by
  obtain ⟨hd, -, happlied, ops, d, cs, hc, hp, hst, -⟩ := latest_ok_inv h
  rw [halone.detect] at hd
  rw [← Except.ok.inj hd] at happlied hc
  have hpending := pending_eq_newer (Release.pairwise_lt_stepsOfNames hdist) start
  have hfinal := hp.holdsAlone
    (fun op => hc.isTame fun step hstep stmt hstmt => (haside step hstep stmt hstmt).leaves) halone
  rw [hc.written_eq] at hfinal
  obtain ⟨last, hops, hlast⟩ := hc.ops_eq
  rw [hops] at hp
  obtain ⟨e, ds, ds', hsteps, hwrites, -⟩ := hp.append_inv
  have he := hsteps.holdsAlone (fun op hop => (standsAside_of_mem_flatMap
    (pending_sublist start (catalog site)).subset haside hop).isTame site.files) halone
  rw [catalog, hpending] at happlied hsteps
  exact ⟨happlied, ⟨ops, hc⟩, d, hst, hfinal, e, ds, hsteps, hwrites.without_of_writes hlast he⟩

/-! ## The older release and the newer one -/

namespace Extends

variable (h : Extends site files)

include h

theorem flatMap_operationsOf {steps : List Step} (hsub : steps ⊆ catalog site) :
    steps.flatMap (operationsOf { site with files := files }) = steps.flatMap (operationsOf site) := by
  refine List.flatMap_congr fun step hstep => ?_
  rw [operationsOf_eq, operationsOf_eq, h.scripts step (hsub hstep)]

/-- The version that the older release leads to is above none of the newer steps. -/
theorem lt_of_not_mem (hc : Course site start mid ops) (hstep : step ∈ catalog { site with files := files })
    (hnew : step ∉ catalog site) (hlt : start < step.version) : mid < step.version := by
  obtain ⟨hsteps, hsoft⟩ := h.above step hstep hnew
  exact hc.final_of hlt hsteps fun _ => hsoft

/-- From any version on, the newer release has the steps of the older one, and behind them those above the version
that these lead to. -/
theorem newer_eq (hc : Course site start mid ops) :
    newer start (catalog { site with files := files }) =
      newer start (catalog site) ++ newer mid (catalog { site with files := files }) := by
  have hsorted : (catalog site).Pairwise fun a b => a.version < b.version :=
    Release.pairwise_lt_stepsOfNames h.distinct
  have hsorted' : (catalog { site with files := files }).Pairwise fun a b => a.version < b.version :=
    Release.pairwise_lt_stepsOfNames h.distinct'
  have hle := hc.le_final.1
  have hirrefl : Std.Irrefl fun a b : Step => a.version < b.version := ⟨fun a => lt_irrefl a.version⟩
  have hantisymm : Std.Antisymm fun a b : Step => a.version < b.version :=
    ⟨fun a b hab hba => absurd hba (lt_asymm hab)⟩
  -- both sides ascend, so it is enough that they have the same members
  refine List.Pairwise.eq_of_mem_iff (hsorted'.filter _) (List.pairwise_append.2 ⟨hsorted.filter _,
    hsorted'.filter _, fun a ha b hb => ?_⟩) fun step => ?_
  · exact lt_of_le_of_lt (hle a (List.mem_of_mem_filter ha)) (of_decide_eq_true (List.mem_filter.1 hb).2)
  · simp only [newer, List.mem_append, List.mem_filter, decide_eq_true_eq]
    constructor
    · rintro ⟨hstep, hlt⟩
      by_cases hold : step ∈ catalog site
      · exact .inl ⟨hold, hlt⟩
      · exact .inr ⟨hstep, h.lt_of_not_mem hc hstep hold hlt⟩
    · rintro (⟨hstep, hlt⟩ | ⟨hstep, hlt⟩)
      · exact ⟨h.includes hstep, hlt⟩
      · exact ⟨hstep, lt_of_le_of_lt hc.start_le_final hlt⟩

/-- Both ways lead to the same version. -/
theorem final_same {ops₁ ops₂ ops₃ : List Operation} (h₁ : Course site start mid ops₁)
    (h₂ : Course { site with files := files } mid u ops₂) (h₃ : Course { site with files := files } start w ops₃) :
    u.Same w := by
  have hmid : mid ≤ w := by
    refine h₁.final_of (P := (· ≤ w)) h₃.start_le_final (fun step hstep => ?_) fun hne soft hread => ?_
    · exact h₃.le_final.1 step (h.includes hstep)
    · obtain ⟨step, hstep⟩ := List.exists_mem_of_ne_nil _ hne
      obtain ⟨soft', hread', hlt⟩ := h₃.le_final.2 (List.ne_nil_of_mem (h.includes hstep))
      exact le_trans (h.notLower soft soft' hread hread') (Version.not_lt.1 hlt)
  have hle : u ≤ w := h₂.final_of hmid h₃.le_final.1 fun hne soft hread => h₃.soft_le hne hread
  have hstart : start ≤ u := le_trans h₁.start_le_final h₂.start_le_final
  have hge : w ≤ u := h₃.final_of hstart h₂.le_final.1 fun hne soft hread => h₂.soft_le hne hread
  exact Version.same_of_le_of_le hle hge

end Extends

/-- An upgrade to an older release and then to one that extends it carries out the steps that the direct upgrade
carries out, which are all newer ones.  All tables but the version table end the same in both ways, and so does the
version that is stored. -/
theorem latest_of_extends {j j' : Journal} {r₁ r₂ r₃ : Report} {s₁ s₂ s₃ : Store} (hext : Extends site files)
    (halone : HoldsAlone site db name start)
    (haside : ∀ step ∈ catalog { site with files := files },
      ∀ stmt ∈ statementsOf { site with files := files } step, StandsAside { site with files := files } name stmt)
    (h₁ : latest.run site ⟨.database db, j⟩ = (.ok r₁, s₁))
    (h₂ : latest.run { site with files := files } s₁ = (.ok r₂, s₂))
    (h₃ : latest.run { site with files := files } ⟨.database db, j'⟩ = (.ok r₃, s₃)) :
    r₁.applied ++ r₂.applied = r₃.applied ∧
      r₃.applied = (newer start (catalog { site with files := files })).map (·.name) ∧
      ∃ d₂ d₃, s₂.storage = .database d₂ ∧ s₃.storage = .database d₃ ∧ d₂.without name = d₃.without name ∧
        HoldsAlone { site with files := files } d₂ name r₂.final ∧
        HoldsAlone { site with files := files } d₃ name r₃.final ∧ r₂.final.Same r₃.final := by
  have haside₁ : ∀ step ∈ catalog site, ∀ stmt ∈ statementsOf site step, StandsAside site name stmt := by
    intro step hstep stmt hstmt
    rw [← hext.scripts step hstep] at hstmt
    exact (haside step (hext.includes hstep) stmt hstmt).withFiles site.files
  have hstart := halone.withFiles files
  obtain ⟨happlied₁, ⟨ops₁, hc₁⟩, d₁, hst₁, halone₁, e₁, cs₁, hp₁, heq₁⟩ :=
    latest_beside halone hext.distinct haside₁ h₁
  obtain ⟨storage, k⟩ := s₁
  cases hst₁
  have hmid := halone₁.withFiles files
  obtain ⟨happlied₂, ⟨ops₂, hc₂⟩, d₂, hst₂, halone₂, e₂, cs₂, hp₂, heq₂⟩ :=
    latest_beside hmid hext.distinct' haside h₂
  obtain ⟨happlied₃, ⟨ops₃, hc₃⟩, d₃, hst₃, halone₃, e₃, cs₃, hp₃, heq₃⟩ :=
    latest_beside hstart hext.distinct' haside h₃
  -- the direct upgrade carries out the steps of the older release first
  rw [hext.newer_eq hc₁, List.flatMap_append] at hp₃
  obtain ⟨e, cs, cs', hold, hnew, -⟩ := hp₃.append_inv
  have hsub : newer start (catalog site) ⊆ catalog site := newer_subset start _
  rw [hext.flatMap_operationsOf hsub] at hold
  have hasideOld : ∀ op ∈ (newer start (catalog site)).flatMap (operationsOf site), op.StandsAside site name :=
    fun op => standsAside_of_mem_flatMap hsub haside₁
  have he : d₁.without name = e.without name := heq₁.trans (hp₁.agree hold hasideOld halone hstart rfl)
  have haloneOld := hold.holdsAlone (fun op hop => (hasideOld op hop).isTame files) hstart
  have hend : e₂.without name = e₃.without name :=
    hp₂.agree hnew (fun op => standsAside_of_mem_flatMap (newer_subset _ _) haside) hmid haloneOld he
  refine ⟨?_, happlied₃, d₂, d₃, hst₂, hst₃, ?_, halone₂, halone₃, hext.final_same hc₁ hc₂ hc₃⟩
  · rw [happlied₁, happlied₂, happlied₃, hext.newer_eq hc₁, List.map_append]
  · rw [heq₂, hend, heq₃]

theorem statementsOf_repairedSite :
    statementsOf repairedSite userStep = [createUser] ∧ statementsOf repairedSite roleStep = [createRole] := by
  decide +kernel

theorem catalog_repairedSite : catalog repairedSite = [userStep, roleStep] :=
  (steps_userRoleFiles {} repairedSite (List.mem_cons_of_mem _ List.mem_cons_self)).1

/-- The release of both steps extends that of the first one. -/
theorem extends_userSite : Extends userSite (userRoleFiles createRole) := by
  have hnew : catalog { userSite with files := userRoleFiles createRole } = [userStep, roleStep] :=
    catalog_repairedSite
  have hsoft : releaseVersion userSite = .ok (.ofParts [1, 3, 2]) := by decide +kernel
  have hsoft' : releaseVersion { userSite with files := userRoleFiles createRole } = .ok (.ofParts [2, 0, 0]) := by
    decide +kernel
  constructor <;> simp only [catalog_userSite, hnew, hsoft, hsoft', Except.ok.injEq]
  · exact List.cons_subset_cons _ (List.nil_subset _)
  · rw [List.forall_mem_singleton, statementsOf_userSite]
    exact statementsOf_repairedSite.1
  · decide +kernel
  · decide +kernel
  · intro step hstep hnot
    rcases List.mem_pair.1 hstep with rfl | rfl
    · exact absurd List.mem_cons_self hnot
    · exact ⟨by decide +kernel, by rintro soft rfl; decide +kernel⟩
  · rintro soft soft' rfl rfl
    decide +kernel

/-- Their scripts stand aside of the version table. -/
theorem standsAside_repairedSite : ∀ step ∈ catalog repairedSite, ∀ stmt ∈ statementsOf repairedSite step,
    StandsAside repairedSite InstalledVersion.table stmt := by
  have htexts : ∀ stmt ∈ [createUser, createRole], ∃ table ∈ ["t_ds_user", "t_ds_role"],
      Sql.Statement.ofText? stmt = some (.create false table [{ name := "id", affinity := .integer }]) := by
    decide +kernel
  have hother : ∀ table ∈ ["t_ds_user", "t_ds_role"],
      ∀ name ∈ [InstalledVersion.table, InstalledVersion.legacyTable], Sql.sameName table name = false := by
    decide +kernel
  intro step hstep stmt hstmt
  have hmem : stmt ∈ [createUser, createRole] := by
    rw [catalog_repairedSite] at hstep
    rcases List.mem_pair.1 hstep with rfl | rfl
    · rw [statementsOf_repairedSite.1] at hstmt
      exact List.mem_cons.2 (.inl (List.mem_singleton.1 hstmt))
    · rw [statementsOf_repairedSite.2] at hstmt
      exact List.mem_cons_of_mem _ hstmt
  obtain ⟨table, htable, htext⟩ := htexts stmt hmem
  refine standsAside_of_ofText? rfl rfl htext (fun name hname t ht => ?_) InstalledVersion.table_mem
  rw [List.mem_singleton.1 ht]
  exact hother table htable name hname

/-- An upgrade to that release, computed with its steps in order. -/
theorem run_repairedSite {names : List String} (hd : detect.answer repairedSite db = .ok start)
    (happlied : ((applyAll start [userStep, roleStep]).answer repairedSite db).map (·.applied) = .ok names)
    (j : Journal) : ∃ r s, latest.run repairedSite ⟨.database db, j⟩ = (.ok r, s) ∧ r.applied = names := by
  have hsteps := (steps_userRoleFiles db repairedSite (List.mem_cons_of_mem _ List.mem_cons_self)).2
  obtain ⟨hanswer, -⟩ := latest_run_of_steps hd hsteps (by simp) j
  rw [← hanswer] at happlied
  cases hrun : latest.run repairedSite ⟨.database db, j⟩ with
  | mk x s =>
  rw [hrun] at happlied
  obtain ⟨r, rfl, hnames⟩ := map_eq_ok_iff.1 happlied
  exact ⟨r, s, rfl, hnames⟩

/-- By way of the release of the first step, and directly. -/
theorem latest_of_extends_userSite :
    ∃ r₁ r₂ r₃ s₁ s₂ s₃ d₂ d₃, latest.run userSite ⟨.database oldSchema, []⟩ = (.ok r₁, s₁) ∧
      latest.run repairedSite s₁ = (.ok r₂, s₂) ∧
      latest.run repairedSite ⟨.database oldSchema, []⟩ = (.ok r₃, s₃) ∧ r₂.applied = ["2.0.0_role"] ∧
      r₁.applied ++ r₂.applied = r₃.applied ∧ s₂.storage = .database d₂ ∧ s₃.storage = .database d₃ ∧
      d₂.without InstalledVersion.table = d₃.without InstalledVersion.table ∧ r₂.final.Same r₃.final := by
  have hends : ((latest.run userSite ⟨.database oldSchema, []⟩).1.isOk,
      (latest.run userSite ⟨.database oldSchema, []⟩).2.storage) = (true, .database (userSchema "1.3.2")) := by
    decide +kernel
  have hd : detect.answer repairedSite oldSchema = .ok (.ofParts [1, 2, 0]) := by rfl
  have hd' : detect.answer repairedSite (userSchema "1.3.2") = .ok (.ofParts [1, 3, 2]) := by rfl
  cases h₁ : latest.run userSite ⟨.database oldSchema, []⟩ with
  | mk x s₁ =>
  obtain ⟨storage, j⟩ := s₁
  rw [h₁, Prod.mk.injEq] at hends
  obtain ⟨hok, rfl⟩ := hends
  cases x with
  | error e => cases hok
  | ok r₁ =>
  have hrole : ((applyAll (.ofParts [1, 3, 2]) [userStep, roleStep]).answer repairedSite (userSchema "1.3.2")).map
      (·.applied) = .ok ["2.0.0_role"] := by decide +kernel
  have hboth : ((applyAll (.ofParts [1, 2, 0]) [userStep, roleStep]).answer repairedSite oldSchema).map
      (·.applied) = .ok ["1.3.0_user", "2.0.0_role"] := by decide +kernel
  obtain ⟨r₂, s₂, h₂, happlied⟩ := run_repairedSite hd' hrole j
  obtain ⟨r₃, s₃, h₃, -⟩ := run_repairedSite hd hboth []
  obtain ⟨hsame, -, d₂, d₃, hst₂, hst₃, heq, -, -, hversion⟩ :=
    latest_of_extends extends_userSite (holdsAlone_oldSchema _) standsAside_repairedSite h₁ h₂ h₃
  exact ⟨r₁, r₂, r₃, _, s₂, s₃, d₂, d₃, rfl, h₂, h₃, happlied, hsame, hst₂, hst₃, heq, hversion⟩

end SchemaMigration.Upgrade
