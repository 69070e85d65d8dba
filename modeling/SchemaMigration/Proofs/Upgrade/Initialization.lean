import SchemaMigration.Proofs.Upgrade.Bootstrap
import SchemaMigration.Proofs.Upgrade.Latest

/-!
# SchemaMigration.Proofs.Upgrade.Initialization — schemas that are made in part

The statements of the script for new schemas are committed one by one, and a schema counts as made where a version
table exists.  So what a second attempt does depends on whether the statements before the failed one made a version
table, and whether they filled it.

* `initSchema_cases` : the script cannot be read, or all of its statements run, or one of them fails.
* `isInitialized_eq_ok_false_iff` : a schema does not count as made just where no version table exists.
* `bootstrap_ok_inv` : a run that ends well has made the schema, or has found a version in a version table.
* `bootstrap_after_failure` : the second attempt after a statement failed in the first one.
-/

namespace SchemaMigration.Upgrade

open Job
open InstalledVersion (existingTables table legacyTable IsStored)
open ScriptRun (Loaded script alone runAll)

variable {site : Site} {db : Sql.Database} {j : Journal} {s : Store}

/-! ## Definitions -/

/-- The statements of the script for new schemas. -/
def initStatements (site : Site) : List String := statementsAt site site.vendor.initScriptPath

/-! ## The script for new schemas -/

/-- The script cannot be read, or all of its statements run, or those before some statement run and that one
fails. -/
theorem initSchema_cases (site : Site) (db : Sql.Database) :
    (∃ e, script site site.vendor.initScriptPath = .error e ∧ Yields initSchema site db (.error e) db []) ∨
      (∃ db', runAll site.execute (initStatements site) db = .ok db' ∧
        Yields initSchema site db (.ok ()) db' ((initStatements site).map alone)) ∨
      ∃ done stmt rest db' f, initStatements site = done ++ stmt :: rest ∧
        runAll site.execute done db = .ok db' ∧ site.execute stmt db' = .error f ∧
        Yields initSchema site db
          (.error (.ofReason (.scriptFailed site.vendor.initScriptPath (1 + done.length : Nat) stmt (.database f))))
          db' (done.map alone) := by
  cases hs : script site site.vendor.initScriptPath with
  | error e =>
    refine .inl ⟨e, rfl, yields_bind_of_quiet yields_site (yields_bind_error ?_)⟩
    exact yields_reporting_error (ScriptRun.yields_execute_unread hs)
  | ok loaded =>
  unfold initStatements
  rw [statementsAt_ok hs]
  rcases ScriptRun.runAll_cases site.execute loaded.statements db with
    ⟨db', hrun⟩ | ⟨done, stmt, rest, db', f, hsplit, hdone, hf⟩
  · have hreport : Yields (reporting _ (.initFailed site.vendor.initScriptPath)) site db _ _ _ :=
      yields_reporting_ok (ScriptRun.yields_execute_ok hs hrun)
    exact .inr (.inl ⟨db', hrun, yields_bind_of_quiet yields_site (yields_bind_quiet hreport (yields_notify _))⟩)
  · refine .inr (.inr ⟨done, stmt, rest, db', f, hsplit, hdone, hf, ?_⟩)
    refine yields_bind_of_quiet yields_site (yields_bind_error ?_)
    exact yields_reporting_error (ScriptRun.yields_execute_failed hs hsplit hdone hf)

/-- A script that failed at its statement `k` has run the statements before it. -/
theorem initSchema_scriptFailed_inv {path stmt : String} {k : Int} {cause : Accident}
    (h : initSchema.run site ⟨.database db, j⟩ = (.error (.ofReason (.scriptFailed path k stmt cause)), s))
    (hk : 1 ≤ k) :
    path = site.vendor.initScriptPath ∧
      ∃ d, runAll site.execute ((initStatements site).take (k - 1).toNat) db = .ok d ∧ s.storage = .database d := by
  rcases initSchema_cases site db with
    ⟨e, hunread, hy⟩ | ⟨db', -, hy⟩ | ⟨done, stmt', rest, d, f, hsplit, hdone, -, hy⟩
  · obtain ⟨hr, -⟩ := hy.run_eq h
    rw [← Except.error.inj hr] at hunread
    have hzero := ScriptRun.number_of_script_error hunread
    omega
  · obtain ⟨hr, -⟩ := hy.run_eq h
    cases hr
  · obtain ⟨hr, hst, -⟩ := hy.run_eq h
    cases Fault.ofReason_inj.1 (Except.error.inj hr)
    have hnumber : ((1 + done.length : Nat) - 1 : Int).toNat = done.length := by omega
    refine ⟨rfl, d, ?_, hst⟩
    rw [hsplit, hnumber, List.take_left]
    exact hdone

/-! ## Schemas that count as made -/

/-- A schema does not count as made just where no version table exists. -/
theorem isInitialized_eq_ok_false_iff :
    isInitialized.answer site db = .ok false ↔ existingTables.answer site db = .ok [] := by
  refine ⟨fun h => ?_, isInitialized_eq⟩
  have hnext : ∀ c : Bool, IsReading (do if c then return true
                                         InstalledVersion.tableExists legacyTable : Job Bool) := by
    intro c
    cases c with
    | true => exact isReading_pure _
    | false => exact InstalledVersion.isReading_tableExists _
  obtain ⟨a, ha, hb⟩ := (answer_bind_eq_ok (InstalledVersion.isReading_tableExists table) hnext).1 h
  cases a with
  | true => cases hb
  | false =>
    refine InstalledVersion.existingTables_eq_ok_iff.2 ⟨false, false, ?_, ?_, rfl⟩
    · exact (InstalledVersion.tableExists_eq_ok_iff InstalledVersion.table_mem).1 ha
    · exact (InstalledVersion.tableExists_eq_ok_iff InstalledVersion.legacyTable_mem).1 hb

/-- A run that ends well without a report has found no version table and has run the whole script for new schemas.
One that ends with a report has found a version table with the version from which the report starts. -/
theorem bootstrap_ok_inv {o : Option Report} (h : bootstrap.run site ⟨.database db, j⟩ = (.ok o, s)) :
    (o = none ∧ existingTables.answer site db = .ok [] ∧
        ∃ d, runAll site.execute (initStatements site) db = .ok d ∧ s.storage = .database d) ∨
      ∃ report, o = some report ∧ IsStored site db report.start := by
  cases hi : isInitialized.answer site db with
  | error e =>
    have hy : Yields bootstrap site db (.error e) db [] := yields_bind_error (isReading_isInitialized.yields hi)
    cases (hy.run_eq h).1
  | ok made =>
  cases made with
  | false =>
    obtain ⟨k, -, hrun⟩ := bootstrap_of_not_initialized hi j
    rw [h] at hrun
    cases hinit : initSchema.run site ⟨.database db, j ++ k⟩ with
    | mk r s' =>
    rw [hinit] at hrun
    cases r with
    | error e => cases hrun
    | ok u =>
      cases hrun
      rcases initSchema_cases site db with ⟨e, -, hy⟩ | ⟨d, hall, hy⟩ | ⟨done, stmt, rest, d, f, -, -, -, hy⟩
      · cases (hy.run_eq hinit).1
      · exact .inl ⟨rfl, isInitialized_eq_ok_false_iff.1 hi, d, hall, (hy.run_eq hinit).2.1⟩
      · cases (hy.run_eq hinit).1
  | true =>
    obtain ⟨k, -, hrun⟩ := bootstrap_of_initialized hi j
    rw [h] at hrun
    cases hlatest : latest.run site ⟨.database db, j ++ k⟩ with
    | mk r s' =>
    rw [hlatest] at hrun
    cases r with
    | error e => cases hrun
    | ok report =>
      cases hrun
      refine .inr ⟨report, rfl, ?_⟩
      rcases InstalledVersion.detect_eq_ok_cases (latest_ok_inv hlatest).1 with ⟨names, -, he, hs⟩ | ⟨he, -⟩
      · exact ⟨names, he, hs⟩
      · -- a version that only the queue table tells does not make the schema count as made
        rw [isInitialized_eq_ok_false_iff.2 he] at hi
        cases hi

/-! ## A second attempt -/

/-- Where the script for new schemas failed at its statement `k`, the statements before it stay done.  If the same is
tried again, it fails, or the script runs to its end on what is there, or those statements already made a version
table and put the version into it from which the second attempt goes on. -/
theorem bootstrap_after_failure {path stmt : String} {k : Int} {cause : Accident}
    (he : existingTables.answer site db = .ok [])
    (h : bootstrap.run site ⟨.database db, j⟩ = (.error (.ofReason (.scriptFailed path k stmt cause)), s))
    (hk : 1 ≤ k) :
    path = site.vendor.initScriptPath ∧
      ∃ d, runAll site.execute ((initStatements site).take (k - 1).toNat) db = .ok d ∧ s.storage = .database d ∧
        ∀ o s', bootstrap.run site s = (.ok o, s') →
          (o = none ∧ existingTables.answer site d = .ok [] ∧
              ∃ d', runAll site.execute (initStatements site) d = .ok d' ∧ s'.storage = .database d') ∨
            ∃ report, o = some report ∧ IsStored site d report.start := by
  obtain ⟨l, -, hrun⟩ := bootstrap_of_not_initialized (isInitialized_eq_ok_false_iff.2 he) j
  rw [h] at hrun
  cases hinit : initSchema.run site ⟨.database db, j ++ l⟩ with
  | mk r s₁ =>
  rw [hinit] at hrun
  cases r with
  | ok u => cases hrun
  | error e =>
    cases hrun
    obtain ⟨hpath, d, hdone, hst⟩ := initSchema_scriptFailed_inv hinit hk
    obtain ⟨storage, j'⟩ := s₁
    cases hst
    exact ⟨hpath, d, hdone, rfl, fun o s' hagain => bootstrap_ok_inv hagain⟩

/-- A release whose script for new schemas has the statements `a` and `b`, of which only `a` succeeds; it makes and
fills the version table. -/
def markingSite : Site :=
  { InstalledVersion.bareSite with
    files.entries := [(["sql"], .directory), (["sql", "dolphinscheduler_sqlite.sql"], .file [97, 59, 10, 98])]
    execute := fun stmt _ => if stmt = "a" then .ok oldSchema else .error .operational }

/-- The version from which the second attempt goes on was stored by the first statement. -/
theorem bootstrap_after_failure_markingSite :
    ∃ d, runAll markingSite.execute ((initStatements markingSite).take 1) {} = .ok d ∧
      IsStored markingSite d (.ofParts [1, 2, 0]) := by
  have he : existingTables.answer markingSite {} = .ok [] := by rfl
  have hfirst : (bootstrap.run markingSite ⟨.database {}, []⟩).1 =
      .error (.ofReason (.scriptFailed markingSite.vendor.initScriptPath 2 "b" (.database .operational))) := by rfl
  have hsecond : (bootstrap.run markingSite (bootstrap.run markingSite ⟨.database {}, []⟩).2).1 =
      .ok (some { start := .ofParts [1, 2, 0], final := .ofParts [1, 2, 0] }) := by decide +kernel
  cases hrun : bootstrap.run markingSite ⟨.database {}, []⟩ with
  | mk r s =>
  cases hrun' : bootstrap.run markingSite s with
  | mk r' s' =>
  rw [hrun] at hfirst hsecond
  rw [hrun'] at hsecond
  obtain rfl : r = _ := hfirst
  obtain rfl : r' = _ := hsecond
  obtain ⟨-, d, hd, -, hagain⟩ := bootstrap_after_failure he hrun (by decide)
  rcases hagain _ _ hrun' with ⟨hnone, -⟩ | ⟨report, hreport, hstored⟩
  · cases hnone
  · cases hreport
    exact ⟨d, hd, hstored⟩

/-- A release whose script for new schemas makes and fills the version table before its last statement, which
fails. -/
def halfSite : Site :=
  { InstalledVersion.bareSite with
    files.entries :=
      [(["sql"], .directory),
       (["sql", "dolphinscheduler_sqlite.sql"], .file (Text.encode
         ("CREATE TABLE t_ds_version (version TEXT);\n" ++
           "INSERT INTO t_ds_version VALUES ('1.0.0');\nDROP TABLE t").toList))] }

/-- So a schema that was made in part can be taken for a whole one: the second attempt reports that it is of the
version `1.0.0`, and that nothing is left to do. -/
theorem bootstrap_again_halfSite :
    existingTables.answer halfSite {} = .ok [] ∧
      (bootstrap.run halfSite ⟨.database {}, []⟩).1 = .error (.ofReason (.scriptFailed
        halfSite.vendor.initScriptPath 3 "DROP TABLE t" (.database .operational))) ∧
      (bootstrap.run halfSite (bootstrap.run halfSite ⟨.database {}, []⟩).2).1 =
        .ok (some { start := .ofParts [1, 0, 0], final := .ofParts [1, 0, 0] }) := by
  decide +kernel

end SchemaMigration.Upgrade
