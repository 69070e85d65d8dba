import SchemaMigration.FolderSize
import SchemaMigration.InstalledVersion
import SchemaMigration.Release
import SchemaMigration.ScriptRun
import SchemaMigration.Proofs.JobLogic

/-!
# SchemaMigration.Proofs.Overlooking — jobs that do not see a change of the files

A job overlooks a change of the files if it runs the same with the old files and with the new ones, on every
store: the same result, the same database and the same journal.  Rules for every way in which jobs are put
together; work on the version tables and on the folder sizes overlooks every change, and a script that stays the
same runs the same.

* `Overlooks` : the job runs the same with other files.
* `overlooks_bind`, `overlooks_site`, `overlooks_onDatabaseError`, `overlooks_transaction` : the rules.
* `overlooks_set`, `overlooks_detect`, `overlooks_tableExists`, `overlooks_updateAll` : jobs that read no file.
* `overlooks_execute` : a job that reads one.
-/

namespace SchemaMigration

namespace Job

variable {α β : Type} {site : Site} {files : FileTree}

/-! ## Definitions -/

/-- The job runs the same at the site and with other files. -/
def Overlooks (site : Site) (files : FileTree) (job : Job α) : Prop :=
  ∀ store, job.run { site with files := files } store = job.run site store

/-! ## Jobs put together -/

theorem overlooks_pure (a : α) : Overlooks site files (pure a : Job α) := fun _ => rfl

theorem overlooks_fail (e : Fault) : Overlooks site files (fail e : Job α) := fun _ => rfl

theorem overlooks_failFor (r : Reason) : Overlooks site files (failFor r : Job α) := fun _ => rfl

theorem overlooks_notify (n : Notice) : Overlooks site files (notify n) := fun _ => rfl

theorem overlooks_record (e : Event) : Overlooks site files (record e) := fun _ => rfl

theorem overlooks_connect : Overlooks site files connect := fun _ => rfl

theorem overlooks_ofExcept {ε : Type} (wrap : ε → Fault) (r : Except ε α) :
    Overlooks site files (ofExcept wrap r) := by
  cases r with
  | ok a => exact overlooks_pure a
  | error e => exact overlooks_fail _

theorem overlooks_change (f : Sql.Database → Except Accident (α × Sql.Database)) :
    Overlooks site files (change f) := fun _ => rfl

/-- The second job is asked only for results that the first can have. -/
theorem overlooks_bind_of_returns {P : α → Prop} {job : Job α} {next : α → Job β} (h : Overlooks site files job)
    (hp : Returns site P job) (hn : ∀ a, P a → Overlooks site files (next a)) :
    Overlooks site files (job >>= next) := by
  intro store
  cases hj : job.run site store with
  | mk r after =>
    cases r with
    | ok a =>
      have ha : P a := hp store a (by rw [hj])
      rw [run_bind_ok hj, run_bind_ok ((h store).trans hj), hn a ha after]
    | error e => rw [run_bind_error hj, run_bind_error ((h store).trans hj)]

theorem overlooks_bind {job : Job α} {next : α → Job β} (h : Overlooks site files job)
    (hn : ∀ a, Overlooks site files (next a)) : Overlooks site files (job >>= next) :=
  overlooks_bind_of_returns h (returns_true job) fun a _ => hn a

/-- A job that goes on in the same way whichever of the two it sees. -/
theorem overlooks_site {next : Site → Job β} (h : next { site with files := files } = next site)
    (hn : Overlooks site files (next site)) : Overlooks site files (Job.site >>= next) := by
  intro store
  have hsee : ∀ s : Site, (Job.site >>= next).run s store = (next s).run s store := fun _ => rfl
  rw [hsee, hsee, h, hn store]

theorem overlooks_send (statement : String) (parameters : Parameters)
    (f : Sql.Database → Except Accident (α × Sql.Database)) :
    Overlooks site files (send statement parameters f) := by
  refine overlooks_bind (overlooks_record _) fun _ => overlooks_bind (overlooks_change f) fun a => ?_
  refine overlooks_site rfl ?_
  cases site.slow with
  | true => exact overlooks_bind (overlooks_notify _) fun _ => overlooks_pure _
  | false => exact overlooks_pure _

theorem overlooks_ask (statement : String) (values : List Sql.Value) (f : Sql.Database → Except Sql.Fault α) :
    Overlooks site files (ask statement values f) := overlooks_send _ _ _

theorem overlooks_rescue {job : Job α} {handle : Fault → Job α} (h : Overlooks site files job)
    (hh : ∀ e, Overlooks site files (handle e)) : Overlooks site files (job.rescue handle) := by
  intro store
  have hj := h store
  simp only [run, rescue] at hj ⊢
  rw [hj]
  cases job site store with
  | mk r after =>
    cases r with
    | ok a => rfl
    | error e => exact hh e after

theorem overlooks_onDatabaseError {job : Job α} {handle : Accident → Job α} (h : Overlooks site files job)
    (hh : ∀ c, Overlooks site files (handle c)) : Overlooks site files (job.onDatabaseError handle) := by
  refine overlooks_rescue h fun e => ?_
  split
  · exact hh _
  · exact overlooks_fail _

theorem overlooks_report (n : Notice) (r : Reason) :
    Overlooks site files (do notify n; failFor r : Job α) := fun _ => rfl

theorem overlooks_connected {job : Job α} (h : Overlooks site files job) :
    Overlooks site files (connected job) :=
  overlooks_onDatabaseError (overlooks_bind overlooks_connect fun _ => h) fun _ => overlooks_report _ _

theorem overlooks_transaction {job : Job α} (h : Overlooks site files job) :
    Overlooks site files (transaction job) := by
  intro store
  have hj := overlooks_bind overlooks_connect (fun _ => h) store
  simp only [run] at hj
  simp only [run, transaction, hj]

theorem overlooks_foldlM {f : β → α → Job β} {l : List α} (h : ∀ b, ∀ a ∈ l, Overlooks site files (f b a)) (b : β) :
    Overlooks site files (l.foldlM f b) := by
  induction l generalizing b with
  | nil => exact overlooks_pure b
  | cons a l ih =>
    rw [List.foldlM_cons]
    exact overlooks_bind (h b a List.mem_cons_self) (ih fun b c hc => h b c (List.mem_cons_of_mem _ hc))

end Job

open Job

variable {site : Site} {files : FileTree}

/-! ## The installed version -/

namespace InstalledVersion

/-- A question to the catalog, which knows nothing of files. -/
theorem overlooks_askCatalog (query : (String → String) → Vendor → String) (values : List (String × String))
    {f : Site → Sql.Database → Except Sql.Fault Bool} (hf : f { site with files := files } = f site) :
    Overlooks site files (askCatalog query values f) := by
  refine overlooks_site ?_ (overlooks_onDatabaseError (overlooks_ask _ _ (f site)) fun _ => overlooks_report _ _)
  rw [hf]

theorem overlooks_tableKnown (name : String) : Overlooks site files (tableKnown name) :=
  overlooks_site rfl (overlooks_askCatalog _ _ rfl)

theorem overlooks_columnKnown (name column : String) : Overlooks site files (columnKnown name column) :=
  overlooks_site rfl (overlooks_askCatalog _ _ rfl)

theorem overlooks_tableExists (name : String) : Overlooks site files (tableExists name) :=
  overlooks_connected (overlooks_tableKnown name)

theorem overlooks_existingTables : Overlooks site files existingTables := by
  have hknown : ∀ names, Overlooks site files (keepKnown names) := by
    intro names
    induction names with
    | nil => exact overlooks_pure _
    | cons name names ih =>
      refine overlooks_bind (overlooks_tableKnown name) fun _ => overlooks_bind ih fun _ => ?_
      exact overlooks_pure _
  exact overlooks_connected (hknown _)

theorem overlooks_readRow (name : String) : Overlooks site files (readRow name) := by
  unfold readRow
  exact overlooks_onDatabaseError (overlooks_ask _ _ _) fun _ => overlooks_report _ _

theorem overlooks_current (name : String) : Overlooks site files (current name) := by
  refine overlooks_site rfl (overlooks_bind (overlooks_connected ?_) fun _ => overlooks_ofExcept _ _)
  refine overlooks_bind (overlooks_tableKnown _) fun b => ?_
  cases b with
  | true => exact overlooks_readRow _
  | false => exact overlooks_bind (overlooks_failFor _) fun _ => overlooks_readRow _

theorem overlooks_stored (names : List String) : Overlooks site files (stored names) := by
  induction names with
  | nil => exact overlooks_pure _
  | cons name names ih =>
    refine overlooks_bind (overlooks_current name) fun o => ?_
    cases o with
    | some v => exact overlooks_pure _
    | none => exact ih

theorem overlooks_resolveTable : Overlooks site files resolveTable := by
  refine overlooks_bind overlooks_existingTables fun names => ?_
  match names with
  | [] => exact overlooks_failFor _
  | [_] => exact overlooks_pure _
  | _ :: _ :: _ => exact overlooks_bind (overlooks_stored _) fun _ => overlooks_pure _

theorem overlooks_writeRow (name : String) (v : Version) : Overlooks site files (writeRow name v) := by
  refine overlooks_bind (overlooks_onDatabaseError (overlooks_send _ _ _) fun _ => overlooks_report _ _)
    fun count => ?_
  split
  · exact overlooks_failFor _
  · exact overlooks_pure _

theorem overlooks_set (v : Version) : Overlooks site files (set v) := by
  refine overlooks_bind overlooks_resolveTable fun name => ?_
  refine overlooks_bind (overlooks_connected (overlooks_transaction (overlooks_writeRow name v))) fun _ => ?_
  exact overlooks_bind (overlooks_notify _) fun _ => overlooks_pure _

theorem overlooks_oldestVersion : Overlooks site files oldestVersion := by
  refine overlooks_bind (overlooks_columnKnown _ _) fun b => ?_
  cases b with
  | true => exact overlooks_pure _
  | false =>
    refine overlooks_bind (overlooks_tableKnown _) fun b => ?_
    cases b <;> exact overlooks_pure _

theorem overlooks_detect : Overlooks site files detect := by
  refine overlooks_bind overlooks_existingTables fun names => ?_
  cases names with
  | nil =>
    refine overlooks_bind (overlooks_connected overlooks_oldestVersion) fun o => ?_
    cases o with
    | some v => exact overlooks_pure _
    | none => exact overlooks_report _ _
  | cons name names =>
    refine overlooks_bind (overlooks_stored _) fun o => ?_
    cases o with
    | some v => exact overlooks_pure _
    | none => exact overlooks_failFor _

end InstalledVersion

/-! ## Folder sizes -/

namespace FolderSize

theorem overlooks_updateRows (table : String) (type : ResourceType) :
    Overlooks site files (updateRows table type) := by
  refine overlooks_bind (overlooks_ask _ _ _) fun rows => ?_
  dsimp only
  split
  · exact overlooks_fail _
  · refine overlooks_bind (overlooks_ofExcept _ _) fun totals => ?_
    cases totals with
    | nil => exact overlooks_pure _
    | cons t ts => exact overlooks_bind (overlooks_send _ _ _) fun _ => overlooks_pure _

theorem overlooks_tryType (table : String) (o : Outcome) (type : ResourceType) :
    Overlooks site files (tryType table o type) := by
  refine overlooks_rescue (overlooks_bind ?_ fun _ => overlooks_pure _) fun _ => overlooks_pure _
  refine overlooks_bind (overlooks_transaction (overlooks_updateRows table type)) fun _ => ?_
  exact overlooks_bind (overlooks_notify _) fun _ => overlooks_pure _

theorem overlooks_updateAll (table : String) : Overlooks site files (updateAll table) :=
  overlooks_foldlM (fun o type _ => overlooks_tryType table o type) _

end FolderSize

/-! ## Scripts and steps -/

namespace ScriptRun

variable {path : String}

theorem overlooks_resolve
    (h : files.read? (site.root.join (.parse path)) = site.files.read? (site.root.join (.parse path))) :
    Overlooks site files (resolve path) := by
  refine overlooks_site ?_ (overlooks_bind (overlooks_ofExcept _ _) fun found => ?_)
  · dsimp only
    rw [h]
  · cases found with
    | some bytes => exact overlooks_pure _
    | none => exact overlooks_fail _

theorem overlooks_runStatements (path : String) (number : Nat) (stmts : List String) :
    Overlooks site files (runStatements path number stmts) := by
  induction stmts generalizing number with
  | nil => exact overlooks_pure _
  | cons stmt stmts ih =>
    have hone : Overlooks site files (runStatement path number stmt) := by
      refine overlooks_bind (overlooks_notify _) fun _ => overlooks_site rfl ?_
      refine overlooks_bind (overlooks_onDatabaseError (overlooks_send _ _ _) fun _ => overlooks_failFor _) fun _ => ?_
      exact overlooks_record _
    exact overlooks_bind hone fun _ => ih (number + 1)

/-- A script that is the same file in both trees runs the same. -/
theorem overlooks_execute
    (h : files.read? (site.root.join (.parse path)) = site.files.read? (site.root.join (.parse path))) :
    Overlooks site files (execute path) := by
  have hload : Overlooks site files (load path) := by
    refine overlooks_bind (overlooks_resolve h) fun found => ?_
    dsimp only
    split
    · exact overlooks_pure _
    · exact overlooks_report _ _
  refine overlooks_bind hload fun script => overlooks_bind ?_ fun _ => ?_
  · refine overlooks_onDatabaseError (overlooks_bind overlooks_connect fun _ => ?_) fun _ => overlooks_failFor _
    exact overlooks_runStatements path 1 script.statements
  · exact overlooks_bind (overlooks_notify _) fun _ => overlooks_pure _

end ScriptRun

theorem Release.overlooks_readSteps (directory : Path) (entries : List (String × Node)) :
    Overlooks site files (readSteps directory entries) := by
  induction entries with
  | nil => exact overlooks_pure _
  | cons entry entries ih =>
    refine overlooks_bind ?_ fun _ => overlooks_bind ih fun _ => overlooks_pure _
    refine overlooks_bind (overlooks_ofExcept _ _) fun _ => ?_
    split
    · split
      · exact overlooks_pure _
      · exact overlooks_bind (overlooks_notify _) fun _ => overlooks_pure _
      · exact overlooks_fail _
    · exact overlooks_pure _

end SchemaMigration
