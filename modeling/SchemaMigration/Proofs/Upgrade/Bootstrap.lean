import SchemaMigration.Upgrade
import SchemaMigration.Proofs.InstalledVersion.Agreement

/-!
# SchemaMigration.Proofs.Upgrade.Bootstrap — which schemas are made, and which are brought up to date

A schema counts as made where a version table exists.  The installed version is also known of older schemas, by
their queue table; so these are schemas with a version that do not count as made.

* `IsMarked` : a schema whose version only its queue table tells.
* `isInitialized_eq` : a schema counts as made just where a version table exists.
* `bootstrap_of_initialized`, `bootstrap_of_not_initialized` : what happens in each case.
* `bootstrap_of_detect` : so a schema with a known version is brought up to date where a version table holds that
  version, and made anew where the queue table tells it.
-/

namespace SchemaMigration.Upgrade

open Job
open InstalledVersion (tableListed columnListed existingTables oldestVersion detect table legacyTable queueTable
  queueColumn withQueueColumn withQueueTable IsStored)

variable {site : Site} {db : Sql.Database} {names : List String} {v : Version}

/-! ## Definitions -/

/-- No version table exists, and the queue table tells that the version is `v`. -/
def IsMarked (site : Site) (db : Sql.Database) (v : Version) : Prop :=
  existingTables.answer site db = .ok [] ∧
    (columnListed site queueTable queueColumn db = .ok true ∧ v = withQueueColumn ∨
      columnListed site queueTable queueColumn db = .ok false ∧ tableListed site queueTable db = .ok true ∧
        v = withQueueTable)

/-! ## Schemas that count as made -/

theorem isReading_isInitialized : IsReading isInitialized := by
  refine isReading_bind (InstalledVersion.isReading_tableExists _) fun b => ?_
  cases b with
  | true => exact isReading_pure _
  | false => exact InstalledVersion.isReading_tableExists _

/-- A schema counts as made just where a version table exists. -/
theorem isInitialized_eq (he : existingTables.answer site db = .ok names) :
    isInitialized.answer site db = .ok (!names.isEmpty) := by
  obtain ⟨a, b, ha, hb, rfl⟩ := InstalledVersion.existingTables_eq_ok_iff.1 he
  have hnext : ∀ c : Bool, IsReading (do if c then return true
                                         InstalledVersion.tableExists legacyTable : Job Bool) := by
    intro c
    cases c with
    | true => exact isReading_pure _
    | false => exact InstalledVersion.isReading_tableExists _
  refine (answer_bind_eq_ok (InstalledVersion.isReading_tableExists _) hnext).2
    ⟨a, (InstalledVersion.tableExists_eq_ok_iff InstalledVersion.table_mem).2 ha, ?_⟩
  cases a with
  | true => rfl
  | false =>
    refine ((InstalledVersion.tableExists_eq_ok_iff InstalledVersion.legacyTable_mem).2 hb).trans ?_
    cases b <;> rfl

/-! ## What is done -/

/-- Brings a schema up to date that counts as made, and makes it otherwise. -/
def bootstrapIf (isMade : Bool) : Job (Option Report) :=
  if isMade then latest >>= fun report => pure (some report)
  else notify .initializing >>= fun _ => initSchema >>= fun _ => pure none

theorem bootstrap_eq : bootstrap = isInitialized >>= bootstrapIf := rfl

/-- A schema that counts as made is brought up to date. -/
theorem bootstrap_of_initialized (h : isInitialized.answer site db = .ok true) (j : Journal) :
    ∃ k, Commits k [] ∧ bootstrap.run site ⟨.database db, j⟩ =
      (latest.run site ⟨.database db, j ++ k⟩).map (·.map some) id := by
  obtain ⟨k, hk, hc⟩ := isReading_isInitialized.yields h
  refine ⟨k, hc, ?_⟩
  rw [bootstrap_eq, run_bind_ok (hk j)]
  exact run_bind_pure latest some site _

/-- A schema that does not count as made is made. -/
theorem bootstrap_of_not_initialized (h : isInitialized.answer site db = .ok false) (j : Journal) :
    ∃ k, Commits k [] ∧ bootstrap.run site ⟨.database db, j⟩ =
      (initSchema.run site ⟨.database db, j ++ k⟩).map (·.map fun _ => none) id := by
  obtain ⟨k, hk, hc⟩ := isReading_isInitialized.yields h
  refine ⟨k ++ [.notice .initializing], hc.append (commits_notice _), ?_⟩
  have hfresh : bootstrapIf false = notify .initializing >>= fun _ => initSchema >>= fun _ => pure none := rfl
  rw [bootstrap_eq, run_bind_ok (hk j), hfresh, run_after_notify, List.append_assoc]
  exact run_bind_pure initSchema (fun _ => none) site _

/-- A schema whose version is known either holds this version in a version table; then it counts as made and is
brought up to date.  Or its queue table tells the version; then it does not count as made, and all of it is made
again on top of what is there. -/
theorem bootstrap_of_detect (hd : detect.answer site db = .ok v) (j : Journal) :
    ∃ k, Commits k [] ∧
      (IsStored site db v ∧ isInitialized.answer site db = .ok true ∧
          bootstrap.run site ⟨.database db, j⟩ =
            (latest.run site ⟨.database db, j ++ k⟩).map (·.map some) id ∨
        IsMarked site db v ∧ isInitialized.answer site db = .ok false ∧
          bootstrap.run site ⟨.database db, j⟩ =
            (initSchema.run site ⟨.database db, j ++ k⟩).map (·.map fun _ => none) id) := by
  rcases InstalledVersion.detect_eq_ok_cases hd with ⟨names, hne, he, hs⟩ | ⟨he, ho⟩
  · have hi : isInitialized.answer site db = .ok true := by
      rw [isInitialized_eq he]
      simpa using hne
    obtain ⟨k, hc, hrun⟩ := bootstrap_of_initialized hi j
    exact ⟨k, hc, .inl ⟨⟨names, he, hs⟩, hi, hrun⟩⟩
  · have hi : isInitialized.answer site db = .ok false := isInitialized_eq he
    obtain ⟨k, hc, hrun⟩ := bootstrap_of_not_initialized hi j
    exact ⟨k, hc, .inr ⟨⟨he, InstalledVersion.oldestVersion_eq_ok_some_iff.1 ho⟩, hi, hrun⟩⟩

/-- A release whose script for the whole schema begins, as such scripts do, with removing the tables. -/
def queueSite : Site :=
  { InstalledVersion.bareSite with
    files.entries :=
      [(["sql"], .directory),
        (["sql", "dolphinscheduler_sqlite.sql"],
          .file (Text.encode "DROP TABLE IF EXISTS t_escheduler_queue".toList))] }

/-- A schema of the version `1.0.0` with a row in its queue table. -/
def queueSchema : Sql.Database :=
  ⟨[{ name := queueTable
      columns := [{ name := "id", affinity := .integer }]
      rows := [⟨1, [.integer 7]⟩] }]⟩

/-- The version of the schema is known, and all the same the script for new schemas runs on it. -/
theorem bootstrap_of_detect_queueSite :
    detect.answer queueSite queueSchema = .ok withQueueTable ∧ IsMarked queueSite queueSchema withQueueTable ∧
      isInitialized.answer queueSite queueSchema = .ok false ∧
      (bootstrap.run queueSite ⟨.database queueSchema, []⟩).1 = .ok none ∧
      (bootstrap.run queueSite ⟨.database queueSchema, []⟩).2.storage = .database {} := by
  have hd : detect.answer queueSite queueSchema = .ok withQueueTable := by rfl
  have hrun : (bootstrap.run queueSite ⟨.database queueSchema, []⟩).1 = .ok none ∧
      (bootstrap.run queueSite ⟨.database queueSchema, []⟩).2.storage = .database {} := by decide +kernel
  obtain ⟨k, -, ⟨-, hi, -⟩ | ⟨hm, hi, -⟩⟩ := bootstrap_of_detect hd []
  · have hno : isInitialized.answer queueSite queueSchema = .ok false := by rfl
    rw [hno] at hi
    cases hi
  · exact ⟨hd, hm, hi, hrun⟩

end SchemaMigration.Upgrade
