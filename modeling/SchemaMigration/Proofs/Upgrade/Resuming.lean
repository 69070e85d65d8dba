import SchemaMigration.Proofs.Upgrade.FixedPoint

/-!
# SchemaMigration.Proofs.Upgrade.Resuming — an upgrade that failed goes on at the step that failed

An upgrade that stops in the scripts of a step has carried out all steps before it, and the version of the last
of these is installed.  The next upgrade therefore begins with the step that failed, whatever was done to the
scripts in the meantime.

* `StopsInScripts` : an upgrade that fails while it runs the scripts of a step.
* `StopsInScripts.stops` : what it has done until then.
* `newer_of_split`, `filter_of_split` : the steps from one step of an ascending list on.
* `latest_resumes` : what is installed after such an upgrade, and what the next one carries out.
-/

namespace SchemaMigration.Upgrade

open Job
open ScriptRun (script alone runAll)
open InstalledVersion (LeavesVersions HoldsAlone detect)
open Release (catalog releaseVersion)

variable {site : Site} {db d d' : Sql.Database} {name : String} {start v : Version} {step k : Step}
  {steps before after : List Step} {cs ds : List Sent} {e : Fault}

/-! ## Definitions -/

/-- Runs both scripts of a step. -/
def runStepScripts (name : String) : Job Unit := do
  runStepScript name .ddl
  runStepScript name .dml

/-- An upgrade of `db` comes to the step `k`, which is above the version that was reached before it, and the
scripts of `k` end with the fault `e`. -/
inductive StopsInScripts (site : Site) (db : Sql.Database) (k : Step) (e : Fault) : Prop
  | intro {start : Version} {before after : List Step} {report : Report} {d d' : Sql.Database} {cs ds : List Sent}
      (hd : detect.answer site db = .ok start)
      (hsteps : Release.steps.answer site db = .ok (before ++ k :: after))
      (hbefore : Yields (before.foldlM applyStep { start := start, final := start, hadSteps := true })
        site db (.ok report) d cs)
      (hnewer : report.final < k.version)
      (hscripts : Yields (runStepScripts k.name) site d (.error e) d' ds) :
      StopsInScripts site db k e

/-! ## The steps from one step on -/

theorem pairwise_of_split (h : (before ++ k :: after).Pairwise fun a b => a.version < b.version) :
    before.Pairwise (fun a b => a.version < b.version) ∧ (∀ s ∈ before, s.version < k.version) ∧
      ∀ s ∈ after, k.version < s.version := by
  obtain ⟨hbefore, hrest, hcross⟩ := List.pairwise_append.1 h
  exact ⟨hbefore, fun s hs => hcross s hs k List.mem_cons_self, (List.pairwise_cons.1 hrest).1⟩

/-- From a version on that lies between two neighbours of an ascending list, the second of them is the first newer
step. -/
theorem newer_of_split (h : (before ++ k :: after).Pairwise fun a b => a.version < b.version)
    (hlt : v < k.version) : newer v (before ++ k :: after) = newer v before ++ k :: after := by
  obtain ⟨-, -, hafter⟩ := pairwise_of_split h
  have hrest : newer v (k :: after) = k :: after := by
    refine newer_of_forall fun s hs => ?_
    rcases List.mem_cons.1 hs with rfl | hs
    · exact hlt
    · exact lt_trans hlt (hafter s hs)
  rw [newer, List.filter_append, ← newer, ← newer, hrest]

theorem filter_of_split (h : (before ++ k :: after).Pairwise fun a b => a.version < b.version) :
    (before ++ k :: after).filter (fun step => k.version ≤ step.version) = k :: after := by
  obtain ⟨-, hbefore, hafter⟩ := pairwise_of_split h
  have hnone : before.filter (fun step => k.version ≤ step.version) = [] := by
    refine List.filter_eq_nil_iff.2 fun s hs => ?_
    simpa using Version.not_le.2 (hbefore s hs)
  have hall : (k :: after).filter (fun step => k.version ≤ step.version) = k :: after := by
    refine List.filter_eq_self.2 fun s hs => decide_eq_true ?_
    rcases List.mem_cons.1 hs with rfl | hs
    · exact le_refl _
    · exact le_of_lt (hafter s hs)
  rw [List.filter_append, hnone, hall, List.nil_append]

/-! ## The upgrade that fails -/

/-- The scripts of a step that ends well end well. -/
theorem yields_runStepScripts_of_completes (h : Completes site step.name d v d' cs) :
    ∃ d₁ ds, Yields (runStepScripts step.name) site d (.ok ()) d₁ ds := by
  obtain ⟨-, hddl, hdml, hrun, -⟩ := h
  obtain ⟨d₁, h₁, h₂⟩ := runAll_append_inv hrun
  exact ⟨_, _, yields_bind (yields_runStepScript_ok (ScriptRun.yields_execute_ok hddl h₁))
    (yields_runStepScript_ok (ScriptRun.yields_execute_ok hdml h₂))⟩

/-- A loop that stops in a step has done what its steps before that do, and what that step does before it stops. -/
theorem yields_foldlM_of_stops {report r : Report} {done : List String}
    (hbefore : Yields (before.foldlM applyStep report) site db (.ok r) d cs) (hnewer : r.final < k.version)
    (hstops : Stops site k.name d e done) :
    ∃ d', runAll site.execute done d = .ok d' ∧
      Yields ((before ++ k :: after).foldlM applyStep report) site db (.error e) d' (cs ++ done.map alone) := by
  obtain ⟨d', hrun, hy⟩ := yields_step_of_stops hstops
  refine ⟨d', hrun, ?_⟩
  rw [List.foldlM_append]
  refine yields_bind hbefore ?_
  rw [List.foldlM_cons]
  refine yields_bind_error ?_
  unfold applyStep
  rw [if_neg (Version.not_le.2 hnewer)]
  exact yields_bind_of_quiet (yields_notify _) (yields_bind_error hy)

/-- An upgrade that stops in the scripts of a step has carried out the steps that are pending before it, and a
beginning of the statements of that step. -/
theorem StopsInScripts.stops {j : Journal} {s : Store} {e' : Fault} (hk : StopsInScripts site db k e)
    (h : latest.run site ⟨.database db, j⟩ = (.error e', s)) :
    ∃ start before after d cs done d', detect.answer site db = .ok start ∧ catalog site = before ++ k :: after ∧
      reached start (pending start before) < k.version ∧
      Performs site ((pending start before).flatMap (operationsOf site)) db d cs ∧
      done <+: statementsOf site k ∧ runAll site.execute done d = .ok d' ∧ s.storage = .database d' ∧
      commits s.journal = commits j ++ (cs ++ done.map alone) := by
  obtain @⟨start, before, after, report, d, d₁, cs, ds, hd, hsteps, hbefore, hnewer, hscripts⟩ := hk
  have hcatalog := Release.steps_eq_of_ok hsteps
  have hnames : ∀ s ∈ before, Step.ofName s.name = .ok s := fun s hs =>
    ofName_of_mem_catalog (hcatalog ▸ List.mem_append_left _ hs)
  rcases foldlM_applyStep_cases site hnames { start := start, final := start, hadSteps := true } db with
    ⟨e, db', cs', hy⟩ | ⟨errors, db', cs', hy, hp⟩
  · cases (hy.unique hbefore).1
  obtain ⟨hreport, rfl, rfl⟩ := hy.unique hbefore
  cases hreport
  rcases step_cases site k.name d with ⟨v, d₂, cs₂, hc⟩ | ⟨e₂, done, hs⟩
  · obtain ⟨d₃, ds₃, hok⟩ := yields_runStepScripts_of_completes hc
    cases (hok.unique hscripts).1
  obtain ⟨d', hrun, hfold⟩ := yields_foldlM_of_stops hbefore hnewer hs
  have hlatest := yields_latest_of_steps hd hsteps (by simp) (yields_bind_error hfold)
  obtain ⟨-, hst, hj⟩ := hlatest.run_eq h
  exact ⟨start, before, after, d, cs, done, d', hd, hcatalog.symm, hnewer, hp, hs.done_prefix, hrun, hst, hj⟩

/-! ## The upgrade after it -/

/-- A beginning of the statements of a step leaves the version alone. -/
theorem holdsAlone_runAll {done : List String} (hleave : ∀ stmt ∈ statementsOf site k, LeavesVersions site stmt)
    (hdone : done <+: statementsOf site k) (hrun : runAll site.execute done d = .ok d')
    (h : HoldsAlone site d name v) : HoldsAlone site d' name v := by
  have hp := (performs_run hrun).holdsAlone (fun op hop => ?_) h
  · rwa [written_run] at hp
  · obtain ⟨stmt, hstmt, rfl⟩ := List.mem_map.1 hop
    exact hleave stmt (hdone.subset hstmt)

/-- An upgrade that fails in the scripts of the step `k` has carried out all newer steps before `k`, a beginning of
the statements of `k`, and nothing else; the version of the step before `k` is installed then, or that at the
start.  Whatever the scripts of the same steps are afterwards, the next upgrade that ends well carries out the
steps from `k` on. -/
theorem latest_resumes {j : Journal} {s : Store}
    (hdist : (catalog site).Pairwise fun a b => ¬ a.version.Same b.version) (halone : HoldsAlone site db name start)
    (hleave : ∀ step ∈ catalog site, ∀ stmt ∈ statementsOf site step, LeavesVersions site stmt)
    (h : latest.run site ⟨.database db, j⟩ = (.error e, s)) (hk : StopsInScripts site db k e) :
    ∃ before after d cs done d', newer start (catalog site) = before ++ k :: after ∧
      Performs site (before.flatMap (operationsOf site)) db d cs ∧
      done <+: statementsOf site k ∧ runAll site.execute done d = .ok d' ∧ s.storage = .database d' ∧
      commits s.journal = commits j ++ (cs ++ done.map alone) ∧
      (detect.run site s).1 = .ok (reached start before) ∧
      ∀ files r s', Release.stepNames { site with files := files } = Release.stepNames site →
        latest.run { site with files := files } s = (.ok r, s') →
        r.applied = ((catalog site).filter fun step => k.version ≤ step.version).map (·.name) ∧
          ((catalog site).filter fun step => k.version ≤ step.version).Pairwise fun a b =>
            a.version < b.version := by
  obtain ⟨u, before, after, d, cs, done, d', hd, hcatalog, hnewer, hp, hdone, hrun, hst, hj⟩ := hk.stops h
  rw [halone.detect] at hd
  cases hd
  have hsorted : (catalog site).Pairwise fun a b => a.version < b.version := Release.pairwise_lt_stepsOfNames hdist
  rw [hcatalog] at hsorted
  have hpending := pending_eq_newer (pairwise_of_split hsorted).1 start
  have hstart : start < k.version := lt_of_le_of_lt (le_reached_pending_self start before) hnewer
  have hbehind : ∀ step ∈ before, step.version ≤ reached start (pending start before) :=
    fun step hstep => le_reached_pending hstep
  rw [hpending] at hp hnewer hbehind
  -- the version of the last step that was carried out is stored, and no statement of `k` touches it
  have hsub : newer start before ⊆ catalog site := fun step hstep => by
    rw [hcatalog]
    exact List.mem_append_left _ (List.mem_of_mem_filter hstep)
  have halone' : HoldsAlone site d' name (reached start (newer start before)) := by
    have hd := hp.holdsAlone
      (fun op hop => isTame_of_mem_flatMap hsub (fun step hstep => hleave step (hsub hstep)) hop) halone
    rw [written_flatMap] at hd
    refine holdsAlone_runAll (hleave k ?_) hdone hrun hd
    rw [hcatalog]
    exact List.mem_append_right _ List.mem_cons_self
  refine ⟨newer start before, after, d, cs, done, d', ?_, hp, hdone, hrun, hst, hj, ?_, ?_⟩
  · rw [hcatalog]
    exact newer_of_split hsorted hstart
  · exact (InstalledVersion.isReading_detect.run_fst hst).trans halone'.detect
  · intro files r s' hsame hrun'
    obtain ⟨storage, j'⟩ := s
    cases hst
    obtain ⟨hd, -, happlied, -⟩ := latest_ok_inv hrun'
    rw [(halone'.withFiles files).detect] at hd
    have hstart' := Except.ok.inj hd
    have hcatalog' : catalog { site with files := files } = before ++ k :: after := by
      rw [← hcatalog, catalog, catalog, hsame]
    rw [hcatalog', ← hstart', pending_eq_newer hsorted, newer_of_split hsorted hnewer,
      newer_eq_nil hbehind, List.nil_append] at happlied
    rw [hcatalog, filter_of_split hsorted]
    exact ⟨happlied, (List.pairwise_append.1 hsorted).2.1⟩

/-- A second step. -/
def roleStep : Step := ⟨"2.0.0_role", .ofParts [2, 0, 0]⟩

/-- Its script. -/
def createRole : String := "CREATE TABLE t_ds_role (id INTEGER)"

/-- A release of the version `2.0.0` with both steps, the second with the script `ddl`. -/
def userRoleFiles (ddl : String) : FileTree :=
  Release.releaseTexts [("1.3.0_user", createUser), ("2.0.0_role", ddl)] "2.0.0"

/-- The release where that script is broken. -/
def brokenSite : Site := { InstalledVersion.bareSite with files := userRoleFiles "BROKEN" }

/-- The same release with a script that works. -/
def repairedSite : Site := { brokenSite with files := userRoleFiles createRole }

theorem stepNames_userRoleFiles :
    ∀ site ∈ [brokenSite, repairedSite], Release.stepNames site = ["1.3.0_user", "2.0.0_role"] := by decide +kernel

theorem steps_userRoleFiles (db : Sql.Database) : ∀ site ∈ [brokenSite, repairedSite],
    catalog site = [userStep, roleStep] ∧ Release.steps.answer site db = .ok [userStep, roleStep] := by
  have hok : ∀ site ∈ [brokenSite, repairedSite], (Release.listing site).isOk = true := by decide +kernel
  intro site hsite
  have hnames := stepNames_userRoleFiles site hsite
  have hcatalog : catalog site = [userStep, roleStep] := by
    refine Release.catalog_eq_of_pairwise ?_ (by decide +kernel)
    rw [hnames]
    decide +kernel
  exact ⟨hcatalog, by rw [Release.steps_eq_ok_catalog (hok site hsite), hcatalog]⟩

theorem leavesVersions_brokenSite : ∀ step ∈ catalog brokenSite, ∀ stmt ∈ statementsOf brokenSite step,
    LeavesVersions brokenSite stmt := by
  have hstmts : (catalog brokenSite).flatMap (statementsOf brokenSite) = [createUser, "BROKEN"] := by
    rw [(steps_userRoleFiles {} brokenSite List.mem_cons_self).1]
    decide +kernel
  intro step hstep stmt hstmt
  have hmem := List.mem_flatMap.2 ⟨step, hstep, hstmt⟩
  rw [hstmts] at hmem
  rcases List.mem_pair.1 hmem with rfl | rfl
  · exact leavesVersions_createUser brokenSite.files
  · intro db db' h
    cases h -- the statement is refused by every database

/-- The fault with which that release stops. -/
def brokenFault : Fault :=
  .ofReason (.scriptFailed (ddlPath brokenSite roleStep.name) (1 + 0 : Nat) "BROKEN" (.database .operational))

theorem yields_runStepScripts_brokenSite (d : Sql.Database) :
    Yields (runStepScripts roleStep.name) brokenSite d (.error brokenFault) d [] := by
  have hok : (script brokenSite (ddlPath brokenSite roleStep.name)).isOk = true := by decide +kernel
  have hstmts : statementsAt brokenSite (ddlPath brokenSite roleStep.name) = [] ++ "BROKEN" :: [] := by
    decide +kernel
  have hrefused : brokenSite.execute "BROKEN" d = .error .operational := by rfl
  cases hload : script brokenSite (ddlPath brokenSite roleStep.name) with
  | error e =>
    rw [hload] at hok
    cases hok
  | ok loaded =>
    rw [statementsAt_ok hload] at hstmts
    exact yields_bind_error
      (yields_runStepScript_error (ScriptRun.yields_execute_failed hload hstmts rfl hrefused))

/-- The upgrade of a database of the version `1.2.0` stops in the second step of that release. -/
theorem stopsInScripts_brokenSite : StopsInScripts brokenSite oldSchema roleStep brokenFault := by
  have hok : (([userStep].foldlM applyStep
      { start := .ofParts [1, 2, 0], final := .ofParts [1, 2, 0], hadSteps := true }).answer
        brokenSite oldSchema).isOk = true := by decide +kernel
  have hnames : ∀ s ∈ [userStep], Step.ofName s.name = .ok s := by decide +kernel
  have hnewer : reached (.ofParts [1, 2, 0]) (pending (.ofParts [1, 2, 0]) [userStep]) < roleStep.version := by
    decide +kernel
  have hsteps : Release.steps.answer brokenSite oldSchema = .ok ([userStep] ++ roleStep :: []) :=
    (steps_userRoleFiles oldSchema brokenSite List.mem_cons_self).2
  rcases foldlM_applyStep_cases brokenSite hnames
      { start := .ofParts [1, 2, 0], final := .ofParts [1, 2, 0], hadSteps := true } oldSchema with
    ⟨e, db', cs, hy⟩ | ⟨errors, db', cs, hy, -⟩
  · rw [hy.answer_eq] at hok
    cases hok
  · exact .intro (by rfl) hsteps hy hnewer (yields_runStepScripts_brokenSite db')

/-- The schema after the first step, with a version. -/
def userSchema (version : String) : Sql.Database :=
  ⟨[InstalledVersion.versionTable InstalledVersion.table [version],
    { name := "t_ds_user", columns := [{ name := "id", affinity := .integer }] }]⟩

/-- The first step is done and stays done; the script of the second is repaired, and only this step is carried
out. -/
theorem latest_resumes_brokenSite :
    ∃ s r s', latest.run brokenSite ⟨.database oldSchema, []⟩ = (.error brokenFault, s) ∧
      (detect.run brokenSite s).1 = .ok (.ofParts [1, 3, 0]) ∧ latest.run repairedSite s = (.ok r, s') ∧
      r.applied = ["2.0.0_role"] := by
  obtain ⟨hcatalog, hsteps⟩ := steps_userRoleFiles oldSchema brokenSite List.mem_cons_self
  have hdist : (catalog brokenSite).Pairwise fun a b => ¬ a.version.Same b.version := by
    rw [hcatalog]
    decide +kernel
  -- what the two upgrades end with
  have hd : detect.answer brokenSite oldSchema = .ok (.ofParts [1, 2, 0]) := by rfl
  have hd' : detect.answer repairedSite (userSchema "1.3.0") = .ok (.ofParts [1, 3, 0]) := by rfl
  obtain ⟨hfails, hleft⟩ := latest_run_of_steps hd hsteps (by simp) []
  have hends : ((applyAll (.ofParts [1, 2, 0]) [userStep, roleStep]).answer brokenSite oldSchema,
      ((applyAll (.ofParts [1, 2, 0]) [userStep, roleStep]).run brokenSite ⟨.database oldSchema, []⟩).2.storage) =
        (.error brokenFault, .database (userSchema "1.3.0")) := by decide +kernel
  obtain ⟨hfault, huser⟩ := Prod.mk.inj hends
  have hok : ((applyAll (.ofParts [1, 3, 0]) [userStep, roleStep]).answer repairedSite
      (userSchema "1.3.0")).isOk = true := by decide +kernel
  have hsteps' : Release.steps.answer repairedSite (userSchema "1.3.0") = .ok [userStep, roleStep] :=
    (steps_userRoleFiles _ repairedSite (List.mem_cons_of_mem _ List.mem_cons_self)).2
  cases hrun : latest.run brokenSite ⟨.database oldSchema, []⟩ with
  | mk x s =>
  obtain ⟨storage, j⟩ := s
  rw [hrun] at hfails hleft
  have hx : x = .error brokenFault := hfails.trans hfault
  have hstorage : storage = .database (userSchema "1.3.0") := hleft.trans huser
  subst hx hstorage
  obtain ⟨hends, -⟩ := latest_run_of_steps hd' hsteps' (by simp) j
  rw [← hends] at hok
  cases hrun' : latest.run repairedSite ⟨.database (userSchema "1.3.0"), j⟩ with
  | mk y s' =>
  rw [hrun'] at hok
  cases y with
  | error e => cases hok
  | ok r =>
  obtain ⟨before, after, d, cs, done, d', hsplit, -, -, -, -, -, hdetect, hnext⟩ :=
    latest_resumes hdist (holdsAlone_oldSchema _) leavesVersions_brokenSite hrun stopsInScripts_brokenSite
  have hnewer : newer (.ofParts [1, 2, 0]) (catalog brokenSite) = [userStep, roleStep] := by
    rw [hcatalog]
    decide +kernel
  have hbefore : before = [userStep] := by
    rw [hnewer] at hsplit
    rcases before with _ | ⟨b, _ | ⟨c, rest⟩⟩
    · exact absurd (List.cons.inj hsplit).1 (by decide)
    · rw [(List.cons.inj hsplit).1]
    · have hlength := congrArg List.length hsplit
      simp at hlength
  rw [hbefore] at hdetect
  have hsame : Release.stepNames repairedSite = Release.stepNames brokenSite := by
    rw [stepNames_userRoleFiles _ List.mem_cons_self,
      stepNames_userRoleFiles _ (List.mem_cons_of_mem _ List.mem_cons_self)]
  obtain ⟨happlied, -⟩ := hnext (userRoleFiles createRole) r s' hsame hrun'
  refine ⟨_, r, s', rfl, hdetect, hrun', ?_⟩
  rw [happlied, hcatalog]
  decide +kernel

end SchemaMigration.Upgrade
