import SchemaMigration.Proofs.InstalledVersion.ReadBack
import SchemaMigration.Proofs.Sql.Statements

/-!
# SchemaMigration.Proofs.InstalledVersion.Agreement — databases with the same version tables

What is read of the installed version depends on the two version tables only.  So a change of other tables
leaves the installed version as it is, and where one version table exists a write has one effect only.

* `SameVersions` : two databases with the same version tables.
* `LeavesVersions` : a statement that never makes, removes or changes a version table
  (`leavesVersions_of_staysOff`).
* `IsStored` : the version that is read from the version tables, which is the one that is detected.
* `HoldsAlone` : one version table exists and it holds a version.
* `HoldsAlone.set` : a write then goes to this table, and the other tables stay as they are.
-/

namespace SchemaMigration.InstalledVersion

open Job

variable {site : Site} {db db' : Sql.Database} {name other t : String} {names : List String} {v w : Version}

/-! ## Definitions -/

/-- The databases have the same version tables. -/
structure SameVersions (site : Site) (db db' : Sql.Database) : Prop where
  listed : ∀ name ∈ [table, legacyTable], tableListed site name db' = tableListed site name db
  found : ∀ name ∈ [table, legacyTable], db'.find? name = db.find? name

/-- The statement never makes, removes or changes a version table. -/
def LeavesVersions (site : Site) (stmt : String) : Prop :=
  ∀ db db', site.execute stmt db = .ok db' → SameVersions site db db'

/-- The version tables hold this version. -/
def IsStored (site : Site) (db : Sql.Database) (v : Version) : Prop :=
  ∃ names, existingTables.answer site db = .ok names ∧ (stored names).answer site db = .ok (some v)

/-- One version table exists, it holds the version `v`, and its column keeps texts. -/
structure HoldsAlone (site : Site) (db : Sql.Database) (name : String) (v : Version) : Prop where
  alone : existingTables.answer site db = .ok [name]
  holds : (current name).answer site db = .ok (some v)
  keepsTexts : ∀ t, db.find? name = some t → t.KeepsTextsIn column

/-! ## The same version tables -/

/-- A change of another table leaves the version tables as they are. -/
theorem sameVersions_of_sameBut (h : db.SameBut other db')
    (hne : ∀ name ∈ [table, legacyTable], Sql.sameName other name = false) : SameVersions site db db' where
  listed name hn := by
    unfold tableListed Sql.Database.hasTable
    rw [h.schema, h.found (hne name hn)]
  found name hn := h.found (hne name hn)

/-- A database in a file lists the tables that it has, so what stays off the version tables leaves them. -/
theorem leavesVersions_of_staysOff {stmt : String} (hv : site.vendor = .sqlite)
    (h : ∀ name ∈ [table, legacyTable], Sql.StaysOff name (site.execute stmt)) : LeavesVersions site stmt := by
  intro db db' he
  have hfound : ∀ name ∈ [table, legacyTable], db'.find? name = db.find? name :=
    fun name hn => (h name hn).leaves db db' he
  refine ⟨fun name hn => ?_, hfound⟩
  simp only [tableListed, hv, Sql.Database.hasTable, hfound name hn]

/-- The same for the text of a statement that does not name a version table. -/
theorem leavesVersions_of_ofText? {stmt : String} {statement : Sql.Statement} (hv : site.vendor = .sqlite)
    (he : site.execute = Sql.execute) (hs : Sql.Statement.ofText? stmt = some statement)
    (hne : ∀ name ∈ [table, legacyTable], ∀ t ∈ statement.names, Sql.sameName t name = false) :
    LeavesVersions site stmt := by
  refine leavesVersions_of_staysOff hv fun name hn => ?_
  rw [he, Sql.execute_of_ofText? hs]
  exact statement.staysOff_run (hne name hn)

theorem SameVersions.existingTables (h : SameVersions site db db')
    (he : existingTables.answer site db = .ok names) : existingTables.answer site db' = .ok names := by
  rw [existingTables_eq_ok_iff] at he ⊢
  rw [h.listed _ table_mem, h.listed _ legacyTable_mem]
  exact he

theorem SameVersions.current (h : SameVersions site db db') {o : Option Version}
    (hn : name ∈ [table, legacyTable]) (hc : (current name).answer site db = .ok o) :
    (current name).answer site db' = .ok o := by
  rw [current_eq_ok_iff hn] at hc ⊢
  unfold firstValue Sql.Database.valuesIn Sql.Database.plain? at hc ⊢
  rw [h.listed _ hn, h.found _ hn]
  exact hc

theorem SameVersions.stored (h : SameVersions site db db') {o : Option Version}
    (hn : ∀ name ∈ names, name ∈ [table, legacyTable]) (hs : (stored names).answer site db = .ok o) :
    (stored names).answer site db' = .ok o := by
  induction names with
  | nil => exact hs
  | cons name names ih =>
    rw [answer_stored_cons] at hs ⊢
    obtain ⟨o', hc, ho⟩ := bind_eq_ok_iff.1 hs
    rw [h.current (hn name List.mem_cons_self) hc]
    cases o' with
    | some v => exact ho
    | none => exact ih (fun n hmem => hn n (List.mem_cons_of_mem _ hmem)) ho

theorem IsStored.of_same (h : SameVersions site db db') (hs : IsStored site db v) : IsStored site db' v := by
  obtain ⟨names, he, hv⟩ := hs
  exact ⟨names, h.existingTables he, h.stored (fun n hn => (tableListed_of_mem he hn).1) hv⟩

theorem IsStored.detect (hs : IsStored site db v) : detect.answer site db = .ok v := by
  obtain ⟨names, he, hv⟩ := hs
  exact detect_eq_ok_of_stored he hv

/-- A version that was written is stored, unless another one shadows it. -/
theorem isStored_of_set {cs : List Sent} (hk : KeepsVersionTexts site db) (hv : v.IsRead)
    (hns : ¬ ∃ w, Shadows site db w) (h : Yields (set v) site db (.ok t) db' cs) : IsStored site db' v := by
  obtain ⟨hr, n, hn, hc⟩ := yields_set_inv h
  exact stored_set hk hv hns hr hc hn

/-! ## One version table -/

namespace HoldsAlone

variable (h : HoldsAlone site db name v)

include h

theorem mem : name ∈ [table, legacyTable] := (tableListed_of_mem h.alone (List.mem_singleton.2 rfl)).1

theorem listed : tableListed site name db = .ok true :=
  (tableListed_of_mem h.alone (List.mem_singleton.2 rfl)).2

theorem isStored : IsStored site db v := ⟨[name], h.alone, answer_stored_of_some h.holds⟩

theorem detect : detect.answer site db = .ok v := h.isStored.detect

theorem of_same (hs : SameVersions site db db') : HoldsAlone site db' name v where
  alone := hs.existingTables h.alone
  holds := hs.current h.mem h.holds
  keepsTexts := by
    rw [hs.found _ h.mem]
    exact h.keepsTexts

/-- Two version tables are needed for one to shadow the other. -/
theorem not_shadows : ¬ ∃ w, Shadows site db w := by
  rintro ⟨w, he, -⟩
  rw [h.alone] at he
  cases he

theorem keepsVersionTexts : KeepsVersionTexts site db := by
  intro n hn hl
  obtain ⟨a, b, ha, hb, hnames⟩ := existingTables_eq_ok_iff.1 h.alone
  have hmem : n ∈ (if a then [table] else []) ++ if b then [legacyTable] else [] := by
    simp only [List.mem_cons, List.not_mem_nil, or_false] at hn
    rcases hn with rfl | rfl
    · rw [hl] at ha
      cases ha
      exact List.mem_append_left _ (List.mem_singleton.2 rfl)
    · rw [hl] at hb
      cases hb
      exact List.mem_append_right _ (List.mem_singleton.2 rfl)
  rw [← hnames, List.mem_singleton] at hmem
  rw [hmem]
  exact h.keepsTexts

/-- A version is written to the one version table, and the other tables stay as they are. -/
theorem set {cs : List Sent} (hw : w.IsRead) (hset : Yields (set w) site db (.ok t) db' cs) :
    HoldsAlone site db' name w ∧ db'.without name = db.without name := by
  obtain ⟨hr, n, hn, hc⟩ := yields_set_inv hset
  have ht : t = name := by
    rcases resolveTable_eq_ok_iff.1 hr with he | ⟨he, -⟩
    · rw [h.alone] at he
      cases he
      rfl
    · rw [h.alone] at he
      cases he
  subst ht
  refine ⟨⟨?_, ?_, ?_⟩, Sql.without_setColumn h.keepsTexts hc⟩
  · exact existingTables_setColumn h.keepsTexts hc h.alone
  · exact current_setColumn h.keepsTexts hc hn hw h.mem h.listed
  · exact Sql.keepsTextsIn_setColumn h.keepsTexts hc

/-- The files of a release do not matter for the versions. -/
theorem withFiles (files : FileTree) : HoldsAlone { site with files := files } db name v := by
  have halone := existingTables_eq_ok_iff.1 h.alone
  have hholds := (current_eq_ok_iff h.mem).1 h.holds
  exact ⟨existingTables_eq_ok_iff.2 halone, (current_eq_ok_iff h.mem).2 hholds, h.keepsTexts⟩

end HoldsAlone

end SchemaMigration.InstalledVersion
