import SchemaMigration.Proofs.InstalledVersion.Reading
import SchemaMigration.Proofs.JobPairs
import SchemaMigration.Proofs.Sql.Statements

/-!
# SchemaMigration.Proofs.InstalledVersion.Beside — the installed version and a table that has nothing to do with it

Reading and writing the installed version looks at the version tables and at the queue table.  So on databases that
differ in another table it goes the same way, whether it ends well or not.

* `CatalogOverlooks` : what the catalog says of those tables does not depend on the other table
  (`catalogOverlooks_of_sqlite`, `catalogOverlooks_of_constant`).
* `returns_existingTables`, `returns_resolveTable` : only version tables are read and written.
* `goAlong_detect`, `goAlong_set` : both runs go side by side.
-/

namespace SchemaMigration.InstalledVersion

open Job

variable {site : Site} {m : Margin} {other : String}

/-! ## Definitions -/

/-- What the catalog says of the version tables and of the queue table does not depend on the table `other`. -/
structure CatalogOverlooks (site : Site) (other : String) : Prop where
  listed : ∀ name ∈ [table, legacyTable, queueTable], ∀ db,
    tableListed site name (db.without other) = tableListed site name db
  column : ∀ db, columnListed site queueTable queueColumn (db.without other) =
    columnListed site queueTable queueColumn db

/-! ## Catalogs -/

/-- A database in a file lists the tables that it has. -/
theorem catalogOverlooks_of_sqlite (hv : site.vendor = .sqlite)
    (hne : ∀ name ∈ [table, legacyTable, queueTable], Sql.sameName name other = false) :
    CatalogOverlooks site other where
  listed name hn db := by simp only [tableListed, hv, Sql.hasTable_without (hne name hn)]
  column db := by
    have hq := hne queueTable (by simp)
    simp only [columnListed, hv, Sql.Database.hasColumn, Sql.find?_without hq]

/-- A server whose catalog does not follow the tables at all. -/
theorem catalogOverlooks_of_constant (hv : site.vendor ≠ .sqlite) {c : Option ServerCatalog} (hc : site.catalog = c) :
    CatalogOverlooks site other where
  listed name _ db := by
    cases h : site.vendor with
    | sqlite => exact absurd h hv
    | _ =>
      simp only [tableListed, h, hc]
      cases c <;> rfl
  column db := by
    cases h : site.vendor with
    | sqlite => exact absurd h hv
    | _ =>
      simp only [columnListed, h, hc]
      cases c <;> rfl

/-! ## The tables that are read and written -/

theorem returns_keepKnown (names : List String) : Returns site (· ⊆ names) (keepKnown names) := by
  induction names with
  | nil => exact returns_pure (List.Subset.refl _)
  | cons n ns ih =>
    refine returns_bind (returns_true _) fun known _ => returns_bind ih fun rest hrest => returns_pure ?_
    cases known with
    | true => exact List.cons_subset_cons n hrest
    | false => exact List.subset_cons_of_subset n hrest

theorem returns_existingTables : Returns site (· ⊆ [table, legacyTable]) existingTables :=
  returns_connected (returns_keepKnown _)

theorem returns_resolveTable : Returns site (· ∈ [table, legacyTable]) resolveTable := by
  refine returns_bind returns_existingTables fun names hnames => ?_
  match names with
  | [] => exact returns_fail _
  | [n] => exact returns_pure (hnames List.mem_cons_self)
  | n :: n' :: ns =>
    refine returns_bind (returns_true _) fun o _ => returns_pure ?_
    rcases chosenTable_cases o with ⟨h, -⟩ | ⟨h, -⟩
    · rw [h]
      exact table_mem
    · rw [h]
      exact legacyTable_mem

/-! ## Questions to the catalog -/

theorem goAlong_askCatalog (query : (String → String) → Vendor → String) (values : List (String × String))
    {f : Site → Sql.Database → Except Sql.Fault Bool} (hf : ∀ db, f site (db.without m.table) = f site db) :
    GoAlong site m Eq (askCatalog query values f) (askCatalog query values f) :=
  goAlong_bind_site (goAlong_onDatabaseError (goAlong_ask _ _ hf) fun _ => goAlong_report _ _)

section Overlooked

variable (hc : CatalogOverlooks site m.table)

include hc

theorem goAlong_tableKnown {name : String} (hn : name ∈ [table, legacyTable, queueTable]) :
    GoAlong site m Eq (tableKnown name) (tableKnown name) := by
  have hfold : site.vendor.foldIdentifier name = name := by
    rcases List.mem_cons.1 hn with rfl | hn
    · exact foldIdentifier_of_mem _ table_mem
    · rcases List.mem_cons.1 hn with rfl | hn
      · exact foldIdentifier_of_mem _ legacyTable_mem
      · rw [List.mem_singleton.1 hn]
        exact (foldIdentifier_queue _).1
  refine goAlong_bind_site (goAlong_askCatalog _ _ fun db => ?_)
  rw [hfold]
  exact hc.listed name hn db

theorem goAlong_columnKnown :
    GoAlong site m Eq (columnKnown queueTable queueColumn) (columnKnown queueTable queueColumn) := by
  refine goAlong_bind_site (goAlong_askCatalog _ _ fun db => ?_)
  rw [(foldIdentifier_queue _).1, (foldIdentifier_queue _).2]
  exact hc.column db

/-- The version tables are among the tables that the catalog is asked for. -/
theorem goAlong_versionTableKnown {name : String} (hn : name ∈ [table, legacyTable]) :
    GoAlong site m Eq (tableKnown name) (tableKnown name) :=
  goAlong_tableKnown hc (List.mem_append_left [queueTable] hn)

theorem goAlong_keepKnown {names : List String} (hnames : names ⊆ [table, legacyTable]) :
    GoAlong site m Eq (keepKnown names) (keepKnown names) := by
  induction names with
  | nil => exact goAlong_pure rfl
  | cons n ns ih =>
    refine goAlong_bind_eq (goAlong_versionTableKnown hc (hnames List.mem_cons_self)) fun _ => ?_
    refine goAlong_bind_eq (ih fun n' hn' => hnames (List.mem_cons_of_mem _ hn')) fun _ => ?_
    exact goAlong_pure rfl

theorem goAlong_existingTables : GoAlong site m Eq existingTables existingTables :=
  goAlong_connected (goAlong_keepKnown hc (List.Subset.refl _))

theorem goAlong_oldestVersion : GoAlong site m Eq oldestVersion oldestVersion := by
  refine goAlong_bind_eq (goAlong_columnKnown hc) fun b => ?_
  cases b with
  | true => exact goAlong_pure rfl
  | false =>
    have hq : queueTable ∈ [table, legacyTable, queueTable] := by simp
    refine goAlong_bind_eq (goAlong_tableKnown hc hq) fun b => ?_
    cases b with
    | true => exact goAlong_pure rfl
    | false => exact goAlong_pure rfl

/-! ## Reading and writing -/

variable (hne : ∀ name ∈ [table, legacyTable], Sql.sameName name m.table = false)

include hne

theorem goAlong_current {name : String} (hn : name ∈ [table, legacyTable]) :
    GoAlong site m Eq (current name) (current name) := by
  have hread : GoAlong site m Eq (readRow name) (readRow name) := by
    unfold readRow
    refine goAlong_onDatabaseError (goAlong_ask _ _ fun db => ?_) fun _ => goAlong_report _ _
    simp only [firstValue, Sql.valuesIn_without (hne name hn)]
  refine goAlong_bind_site ?_
  rw [foldIdentifier_of_mem _ hn]
  refine goAlong_bind_eq (goAlong_connected ?_) fun _ => goAlong_ofExcept _ _
  refine goAlong_bind_eq (goAlong_versionTableKnown hc hn) fun b => ?_
  cases b with
  | true => exact hread
  | false => exact goAlong_bind_eq (goAlong_fail _) fun _ => hread

theorem goAlong_stored {names : List String} (hnames : names ⊆ [table, legacyTable]) :
    GoAlong site m Eq (stored names) (stored names) := by
  induction names with
  | nil => exact goAlong_pure rfl
  | cons n ns ih =>
    refine goAlong_bind_eq (goAlong_current hc hne (hnames List.mem_cons_self)) fun o => ?_
    cases o with
    | some v => exact goAlong_pure rfl
    | none => exact ih fun n' hn' => hnames (List.mem_cons_of_mem _ hn')

theorem goAlong_detect : GoAlong site m Eq detect detect := by
  refine goAlong_bind_of_returns (goAlong_existingTables hc) returns_existingTables fun names hnames => ?_
  cases names with
  | nil =>
    refine goAlong_bind_eq (goAlong_connected (goAlong_oldestVersion hc)) fun o => ?_
    cases o with
    | some v => exact goAlong_pure rfl
    | none => exact goAlong_report _ _
  | cons n ns =>
    refine goAlong_bind_eq (goAlong_stored hc hne hnames) fun o => ?_
    cases o with
    | some v => exact goAlong_pure rfl
    | none => exact goAlong_fail _

theorem goAlong_resolveTable : GoAlong site m Eq resolveTable resolveTable := by
  refine goAlong_bind_of_returns (goAlong_existingTables hc) returns_existingTables fun names hnames => ?_
  match names with
  | [] => exact goAlong_fail _
  | [n] => exact goAlong_pure rfl
  | n :: n' :: ns => exact goAlong_bind_eq (goAlong_stored hc hne hnames) fun _ => goAlong_pure rfl

omit hc in
theorem goAlong_writeRow {name : String} (hn : name ∈ [table, legacyTable]) (v : Version) :
    GoAlong site m Eq (writeRow name v) (writeRow name v) := by
  refine goAlong_bind_eq ?_ fun n => ?_
  · refine goAlong_onDatabaseError (goAlong_send _ _ fun db => ?_) fun _ => goAlong_report _ _
    rw [Sql.setColumn_without (hne name hn)]
    cases db.setColumn name column (.text v.text) <;> rfl
  · split
    · exact goAlong_fail _
    · exact goAlong_pure rfl

theorem goAlong_set (v : Version) : GoAlong site m Eq (set v) (set v) := by
  refine goAlong_bind_of_returns (goAlong_resolveTable hc hne) returns_resolveTable fun name hn => ?_
  refine goAlong_bind_eq (goAlong_connected (goAlong_transaction (goAlong_writeRow hne hn v))) fun _ => ?_
  exact goAlong_after_record _ (goAlong_pure rfl)

end Overlooked

end SchemaMigration.InstalledVersion
