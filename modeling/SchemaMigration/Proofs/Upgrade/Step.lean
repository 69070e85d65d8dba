import SchemaMigration.Upgrade
import SchemaMigration.Proofs.InstalledVersion.Faults
import SchemaMigration.Proofs.InstalledVersion.Writing
import SchemaMigration.Proofs.Release
import SchemaMigration.Proofs.ScriptRun

/-!
# SchemaMigration.Proofs.Upgrade.Step — what one step leaves behind

A step runs the statements for the tables, then those for the rows, then writes its version.  Where it stops,
the statements that took effect are a beginning of that sequence, and the fault says how long it is.

* `Completes` : a step that ends well, with the database and the commits that it leaves.
* `Stops` : a step that ends early, with its fault and the statements that were done before it.
* `yields_step_of_completes`, `yields_step_of_stops` : the step does what the two relations say.
* `step_cases` : one of the two always holds.
* `step_ends` : how every run of a step ends.
-/

namespace SchemaMigration.Upgrade

open Job
open ScriptRun (Loaded script alone runAll)

variable {site : Site} {db db' db₁ db₂ : Sql.Database} {name stmt : String} {step : Step}
  {done rest : List String} {ddl dml : Loaded} {e : Fault} {f : Sql.Fault} {v : Version} {j : Journal}

/-! ## Definitions -/

/-- The script of a step for the tables. -/
def ddlPath (site : Site) (name : String) : String := site.vendor.stepScriptPath .ddl name

/-- The script of a step for the rows. -/
def dmlPath (site : Site) (name : String) : String := site.vendor.stepScriptPath .dml name

/-- The statements of a script; none where it cannot be read. -/
def statementsAt (site : Site) (path : String) : List String :=
  match script site path with
  | .ok loaded => loaded.statements
  | .error _ => []

/-- A step that ends well: all statements for the tables ran, then all for the rows, and then the version was
written. -/
inductive Completes (site : Site) (name : String) (db : Sql.Database) :
    Version → Sql.Database → List Sent → Prop
  | intro {step : Step} {ddl dml : Loaded} {db₁ db₂ : Sql.Database} {t : String}
      (hname : Step.ofName name = .ok step) (hddl : script site (ddlPath site name) = .ok ddl)
      (hdml : script site (dmlPath site name) = .ok dml)
      (hrun : runAll site.execute (ddl.statements ++ dml.statements) db = .ok db₁)
      (hset : Yields (InstalledVersion.set step.version) site db₁ (.ok t) db₂
        [InstalledVersion.writing t step.version]) :
      Completes site name db step.version db₂
        ((ddl.statements ++ dml.statements).map alone ++ [InstalledVersion.writing t step.version])

/-- A step that ends with a fault, and the statements that were done before it. -/
inductive Stops (site : Site) (name : String) (db : Sql.Database) : Fault → List String → Prop
  | badName {e : VersionFault} (hname : Step.ofName name = .error e) :
      Stops site name db (.ofVersion e) []
  | ddlUnread {step : Step} {e : Fault} (hname : Step.ofName name = .ok step)
      (hddl : script site (ddlPath site name) = .error e) : Stops site name db e []
  | ddlFails {step : Step} {ddl : Loaded} {done rest : List String} {stmt : String}
      {db' : Sql.Database} {f : Sql.Fault} (hname : Step.ofName name = .ok step)
      (hddl : script site (ddlPath site name) = .ok ddl) (hs : ddl.statements = done ++ stmt :: rest)
      (hd : runAll site.execute done db = .ok db') (hf : site.execute stmt db' = .error f) :
      Stops site name db
        (.ofReason (.scriptFailed (ddlPath site name) (1 + done.length : Nat) stmt (.database f))) done
  | dmlUnread {step : Step} {ddl : Loaded} {db' : Sql.Database} {e : Fault}
      (hname : Step.ofName name = .ok step) (hddl : script site (ddlPath site name) = .ok ddl)
      (hrun : runAll site.execute ddl.statements db = .ok db')
      (hdml : script site (dmlPath site name) = .error e) : Stops site name db e ddl.statements
  | dmlFails {step : Step} {ddl dml : Loaded} {done rest : List String} {stmt : String}
      {db₁ db' : Sql.Database} {f : Sql.Fault} (hname : Step.ofName name = .ok step)
      (hddl : script site (ddlPath site name) = .ok ddl)
      (hrun : runAll site.execute ddl.statements db = .ok db₁)
      (hdml : script site (dmlPath site name) = .ok dml) (hs : dml.statements = done ++ stmt :: rest)
      (hd : runAll site.execute done db₁ = .ok db') (hf : site.execute stmt db' = .error f) :
      Stops site name db
        (.ofReason (.scriptFailed (dmlPath site name) (1 + done.length : Nat) stmt (.database f)))
        (ddl.statements ++ done)
  | notWritten {step : Step} {ddl dml : Loaded} {db' : Sql.Database} {e : Fault}
      (hname : Step.ofName name = .ok step) (hddl : script site (ddlPath site name) = .ok ddl)
      (hdml : script site (dmlPath site name) = .ok dml)
      (hrun : runAll site.execute (ddl.statements ++ dml.statements) db = .ok db')
      (hset : Yields (InstalledVersion.set step.version) site db' (.error e) db' []) :
      Stops site name db e (ddl.statements ++ dml.statements)

/-! ## Paths and statements -/

theorem ddlPath_ne_dmlPath (site : Site) (name : String) : ddlPath site name ≠ dmlPath site name := by
  intro h
  have hkind : ScriptKind.ddl.name = ScriptKind.dml.name :=
    (String.append_right_inj _).1 ((String.append_left_inj _).1 h)
  exact absurd hkind (by decide)

theorem statementsAt_ok {path : String} {loaded : Loaded} (h : script site path = .ok loaded) :
    statementsAt site path = loaded.statements := by
  unfold statementsAt
  rw [h]

theorem runAll_append_ok {ss ts : List String} (hs : runAll site.execute ss db = .ok db₁)
    (ht : runAll site.execute ts db₁ = .ok db₂) : runAll site.execute (ss ++ ts) db = .ok db₂ := by
  rw [ScriptRun.runAll_append, hs]
  exact ht

theorem runAll_append_inv {ss ts : List String} (h : runAll site.execute (ss ++ ts) db = .ok db₂) :
    ∃ db₁, runAll site.execute ss db = .ok db₁ ∧ runAll site.execute ts db₁ = .ok db₂ := by
  rw [ScriptRun.runAll_append] at h
  exact bind_eq_ok_iff.1 h

/-! ## The scripts of a step -/

theorem yields_reporting_ok {job : Job Nat} {notice : String → Notice} {n : Nat} {cs : List Sent}
    (h : Yields job site db (.ok n) db' cs) : Yields (reporting job notice) site db (.ok ()) db' cs :=
  yields_rescue_ok (yields_bind_quiet h (yields_pure ()))

theorem yields_reporting_error {job : Job Nat} {notice : String → Notice} {cs : List Sent}
    (h : Yields job site db (.error e) db' cs) :
    Yields (reporting job notice) site db (.error e) db' cs := by
  rw [← List.append_nil cs]
  refine yields_rescue_error (yields_bind_error h) ?_
  cases e with
  | failure f => exact yields_bind_of_quiet (yields_notify _) (yields_fail _)
  | accident a => exact yields_fail _

theorem yields_runStepScript_ok {kind : ScriptKind} {n : Nat} {cs : List Sent}
    (h : Yields (ScriptRun.execute (site.vendor.stepScriptPath kind name)) site db (.ok n) db' cs) :
    Yields (runStepScript name kind) site db (.ok ()) db' cs :=
  yields_bind_of_quiet yields_site (yields_bind_quiet (yields_reporting_ok h) (yields_notify _))

theorem yields_runStepScript_error {kind : ScriptKind} {cs : List Sent}
    (h : Yields (ScriptRun.execute (site.vendor.stepScriptPath kind name)) site db (.error e) db' cs) :
    Yields (runStepScript name kind) site db (.error e) db' cs :=
  yields_bind_of_quiet yields_site (yields_bind_error (yields_reporting_error h))

/-! ## The two ways in which a step ends -/

/-- The name of a step is read without looking at the database. -/
theorem yields_stepName (db : Sql.Database) (h : Step.ofName name = .ok step) :
    Yields (ofExcept Fault.ofVersion (Step.ofName name)) site db (.ok step) db [] := by
  rw [h]
  exact yields_pure _

theorem yields_step_of_completes {cs : List Sent} (h : Completes site name db v db' cs) :
    Yields (Upgrade.step name) site db (.ok v) db' cs := by
  obtain ⟨hname, hddl, hdml, hrun, hset⟩ := h
  obtain ⟨d, hd, hm⟩ := runAll_append_inv hrun
  rw [List.map_append, List.append_assoc]
  refine yields_bind_of_quiet (yields_stepName db hname) ?_
  refine yields_bind (yields_runStepScript_ok (ScriptRun.yields_execute_ok hddl hd)) ?_
  refine yields_bind (yields_runStepScript_ok (ScriptRun.yields_execute_ok hdml hm)) ?_
  exact yields_bind_quiet hset (yields_pure _)

/-- A step that stops leaves what its statements before that made of the database, and commits just these. -/
theorem yields_step_of_stops (h : Stops site name db e done) :
    ∃ db', runAll site.execute done db = .ok db' ∧
      Yields (Upgrade.step name) site db (.error e) db' (done.map alone) := by
  cases h with
  | badName hname =>
    refine ⟨db, rfl, yields_bind_error ?_⟩
    rw [hname]
    exact yields_fail _
  | ddlUnread hname hddl =>
    refine ⟨db, rfl, yields_bind_of_quiet (yields_stepName db hname) (yields_bind_error ?_)⟩
    exact yields_runStepScript_error (ScriptRun.yields_execute_unread hddl)
  | ddlFails hname hddl hs hd hf =>
    refine ⟨_, hd, yields_bind_of_quiet (yields_stepName db hname) (yields_bind_error ?_)⟩
    exact yields_runStepScript_error (ScriptRun.yields_execute_failed hddl hs hd hf)
  | dmlUnread hname hddl hrun hdml =>
    refine ⟨_, hrun, yields_bind_of_quiet (yields_stepName db hname) ?_⟩
    refine yields_bind_quiet (yields_runStepScript_ok (ScriptRun.yields_execute_ok hddl hrun)) ?_
    exact yields_bind_error (yields_runStepScript_error (ScriptRun.yields_execute_unread hdml))
  | dmlFails hname hddl hrun hdml hs hd hf =>
    refine ⟨_, runAll_append_ok hrun hd, yields_bind_of_quiet (yields_stepName db hname) ?_⟩
    rw [List.map_append]
    refine yields_bind (yields_runStepScript_ok (ScriptRun.yields_execute_ok hddl hrun)) ?_
    exact yields_bind_error (yields_runStepScript_error (ScriptRun.yields_execute_failed hdml hs hd hf))
  | notWritten hname hddl hdml hrun hset =>
    obtain ⟨d, hd, hm⟩ := runAll_append_inv hrun
    refine ⟨_, hrun, yields_bind_of_quiet (yields_stepName db hname) ?_⟩
    rw [List.map_append]
    refine yields_bind (yields_runStepScript_ok (ScriptRun.yields_execute_ok hddl hd)) ?_
    refine yields_bind_quiet (yields_runStepScript_ok (ScriptRun.yields_execute_ok hdml hm)) ?_
    exact yields_bind_error hset

/-- A step ends well or it stops. -/
theorem step_cases (site : Site) (name : String) (db : Sql.Database) :
    (∃ v db' cs, Completes site name db v db' cs) ∨ ∃ e done, Stops site name db e done := by
  cases hname : Step.ofName name with
  | error e => exact .inr ⟨_, _, .badName hname⟩
  | ok step =>
  cases hddl : script site (ddlPath site name) with
  | error e => exact .inr ⟨_, _, .ddlUnread hname hddl⟩
  | ok ddl =>
  rcases ScriptRun.runAll_cases site.execute ddl.statements db with ⟨d, hd⟩ | ⟨done, stmt, rest, db', f, hs, hd, hf⟩
  swap
  · exact .inr ⟨_, _, .ddlFails hname hddl hs hd hf⟩
  cases hdml : script site (dmlPath site name) with
  | error e => exact .inr ⟨_, _, .dmlUnread hname hddl hd hdml⟩
  | ok dml =>
  rcases ScriptRun.runAll_cases site.execute dml.statements d with ⟨d', hm⟩ | ⟨done, stmt, rest, db', f, hs, hm, hf⟩
  swap
  · exact .inr ⟨_, _, .dmlFails hname hddl hd hdml hs hm hf⟩
  have hrun := runAll_append_ok hd hm
  rcases InstalledVersion.yields_set site d' step.version with ⟨e, hy⟩ | ⟨t, d'', hy⟩
  · exact .inr ⟨_, _, .notWritten hname hddl hdml hrun hy⟩
  · exact .inl ⟨_, _, _, .intro hname hddl hdml hrun hy⟩

/-! ## What was done before a fault -/

/-- What was done is a beginning of the statements for the tables and those for the rows. -/
theorem Stops.done_prefix (h : Stops site name db e done) :
    done <+: statementsAt site (ddlPath site name) ++ statementsAt site (dmlPath site name) := by
  cases h with
  | badName | ddlUnread => exact List.nil_prefix
  | ddlFails hname hddl hs hd hf =>
    rw [statementsAt_ok hddl, hs, List.append_assoc]
    exact List.prefix_append _ _
  | dmlUnread hname hddl hrun hdml =>
    rw [statementsAt_ok hddl]
    exact List.prefix_append _ _
  | dmlFails hname hddl hrun hdml hs hd hf =>
    rw [statementsAt_ok hddl, statementsAt_ok hdml, hs, ← List.append_assoc]
    exact List.prefix_append _ _
  | notWritten hname hddl hdml hrun hset =>
    simp only [statementsAt_ok hddl, statementsAt_ok hdml, List.prefix_rfl]

/-- A fault that names a statement of a script says how much was done: every statement before that one. -/
theorem Stops.done_of_scriptFailed (h : Stops site name db e done) {path : String} {k : Int}
    {cause : Accident} (he : e = .ofReason (.scriptFailed path k stmt cause)) (hk : 1 ≤ k) :
    path = ddlPath site name ∧ done = (statementsAt site path).take (k - 1).toNat ∨
      path = dmlPath site name ∧
        done = statementsAt site (ddlPath site name) ++ (statementsAt site path).take (k - 1).toNat := by
  have htake : ∀ (ss ts : List String) (s : String),
      ss = (ss ++ s :: ts).take ((1 + ss.length : Nat) - 1 : Int).toNat := by
    intro ss ts s
    rw [show ((1 + ss.length : Nat) - 1 : Int).toNat = ss.length by omega, List.take_left]
  cases h with
  | badName hname => exact absurd he (InstalledVersion.namesNoScript_ofVersion _ _ _ _ _)
  | ddlUnread hname hddl =>
    subst he
    have := ScriptRun.number_of_script_error hddl
    omega
  | ddlFails hname hddl hs hd hf =>
    cases Fault.ofReason_inj.1 he
    refine .inl ⟨rfl, ?_⟩
    rw [statementsAt_ok hddl, hs]
    exact htake _ _ _
  | dmlUnread hname hddl hrun hdml =>
    subst he
    have := ScriptRun.number_of_script_error hdml
    omega
  | dmlFails hname hddl hrun hdml hs hd hf =>
    cases Fault.ofReason_inj.1 he
    refine .inr ⟨rfl, ?_⟩
    rw [statementsAt_ok hddl, statementsAt_ok hdml, hs]
    exact congrArg _ (htake _ _ _)
  | notWritten hname hddl hdml hrun hset =>
    obtain ⟨k, hk, -⟩ := hset
    have htrouble := (InstalledVersion.failsIn_set _ site ⟨.database _, []⟩ rfl).2 _ (congrArg Prod.fst (hk []))
    exact absurd he (htrouble.namesNoScript _ _ _ _)

/-- How a step ends.  Where it ends well, all its statements ran in order and then its version was written.
Where it ends with a fault, a beginning of the statements ran and the version was not written; the fault tells
which beginning. -/
theorem step_ends {r : Except Fault Version} {s : Store}
    (h : (Upgrade.step name).run site ⟨.database db, j⟩ = (r, s)) :
    (∀ v, r = .ok v → ∃ db' cs, Completes site name db v db' cs ∧ s.storage = .database db' ∧
      commits s.journal = commits j ++ cs) ∧
    ∀ e, r = .error e → ∃ done db', Stops site name db e done ∧
      done <+: statementsAt site (ddlPath site name) ++ statementsAt site (dmlPath site name) ∧
      runAll site.execute done db = .ok db' ∧ s.storage = .database db' ∧
      commits s.journal = commits j ++ done.map alone ∧
      ∀ path k stmt cause, e = .ofReason (.scriptFailed path k stmt cause) → 1 ≤ k →
        path = ddlPath site name ∧ done = (statementsAt site path).take (k - 1).toNat ∨
          path = dmlPath site name ∧
            done = statementsAt site (ddlPath site name) ++ (statementsAt site path).take (k - 1).toNat := by
  rcases step_cases site name db with ⟨v, db', cs, hc⟩ | ⟨e, done, hs⟩
  · obtain ⟨rfl, hst, hj⟩ := (yields_step_of_completes hc).run_eq h
    refine ⟨fun v' hv => ?_, fun e he => nomatch he⟩
    cases hv
    exact ⟨db', cs, hc, hst, hj⟩
  · obtain ⟨db', hrun, hy⟩ := yields_step_of_stops hs
    obtain ⟨rfl, hst, hj⟩ := hy.run_eq h
    refine ⟨fun v hv => (nomatch hv), fun e' he => ?_⟩
    cases he
    exact ⟨done, db', hs, hs.done_prefix, hrun, hst, hj, fun _ _ _ _ he hk => hs.done_of_scriptFailed he hk⟩

/-- A step of the statements `a` and `b` for the tables and `c` for the rows, of which only `a` succeeds; it
makes a table. -/
def failingSite : Site :=
  { InstalledVersion.bareSite with
    files := Release.releaseFiles [("1.3.0_schema", [97, 59, 10, 98, 59, 10], [99])] []
    execute := fun stmt db =>
      if stmt = "a" then .ok ⟨InstalledVersion.versionTable stmt [] :: db.tables⟩ else .error .operational }

/-- The second statement fails: the first is done, and nothing else. -/
theorem step_ends_failingSite :
    ((Upgrade.step "1.3.0_schema").run failingSite ⟨.database {}, []⟩).1 =
        .error (.ofReason (.scriptFailed (ddlPath failingSite "1.3.0_schema") 2 "b" (.database .operational))) ∧
      ((Upgrade.step "1.3.0_schema").run failingSite ⟨.database {}, []⟩).2.storage =
        .database ⟨[InstalledVersion.versionTable "a" []]⟩ ∧
      commits ((Upgrade.step "1.3.0_schema").run failingSite ⟨.database {}, []⟩).2.journal = [alone "a"] := by
  have hres : ((Upgrade.step "1.3.0_schema").run failingSite ⟨.database {}, []⟩).1 = .error
      (.ofReason (.scriptFailed (ddlPath failingSite "1.3.0_schema") 2 "b" (.database .operational))) := by rfl
  have hddl : statementsAt failingSite (ddlPath failingSite "1.3.0_schema") = ["a", "b"] := by rfl
  cases hrun : (Upgrade.step "1.3.0_schema").run failingSite ⟨.database {}, []⟩ with
  | mk r s =>
  rw [hrun] at hres
  obtain ⟨done, db', -, -, hd, hst, hj, hk⟩ := (step_ends hrun).2 _ hres
  rcases hk _ _ _ _ rfl (by decide) with ⟨-, hdone⟩ | ⟨hpath, -⟩
  · rw [hddl] at hdone
    subst hdone
    cases hd
    exact ⟨hres, hst, hj⟩
  · exact absurd hpath (ddlPath_ne_dmlPath _ _)

end SchemaMigration.Upgrade
