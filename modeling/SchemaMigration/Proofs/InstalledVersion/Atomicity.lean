import Mathlib.Data.List.Forall2
import SchemaMigration.Proofs.InstalledVersion.Writing
import SchemaMigration.Proofs.Sql.Others

/-!
# SchemaMigration.Proofs.InstalledVersion.Atomicity — a version is written as a whole or not at all

Writing a version asks for the tables, may read a stored version, updates one table and counts its rows.
Whatever of this fails, nothing is changed; if nothing fails, one column of one table is.

* `Overwritten` : the whole difference between the databases before and after a write; an update that reaches a
  row makes it (`overwritten_setColumn`).
* `resolveTable_no_database` : without a database the table is not even chosen.
* `setText_atomic` : a text is written as a version everywhere in one table, or nothing happens.
-/

namespace SchemaMigration.InstalledVersion

open Job

variable {site : Site} {db db' : Sql.Database} {name s : String} {v : Version} {n : Nat}
  {r : Except Fault String} {store after : Store}

/-! ## Definitions -/

/-- The row with the text `s` in column `i`, and with what it held before in every other. -/
structure RowOverwritten (i : Nat) (s : String) (row row' : Sql.Row) : Prop where
  id : row'.id = row.id
  written : row'.cells[i]? = some (.text s)
  others : ∀ k, k ≠ i → row'.cells[k]? = row.cells[k]?

/-- The table, which has a row, with the text `s` as the version in every row. -/
structure TableOverwritten (s : String) (t t' : Sql.Table) : Prop where
  name : t'.name = t.name
  columns : t'.columns = t.columns
  nonempty : t.rows ≠ []
  rows : ∃ i, t.column? column = some i ∧ List.Forall₂ (RowOverwritten i s) t.rows t'.rows

/-- The databases differ in the version column of one table only, where every row now holds `s`. -/
structure Overwritten (name s : String) (db db' : Sql.Database) : Prop where
  found : ∃ t t', db.find? name = some t ∧ db'.find? name = some t' ∧ TableOverwritten s t t'
  others : db'.without name = db.without name
  schema : db'.schema = db.schema

/-! ## What an update does -/

theorem rowOverwritten_withText {t : Sql.Table} {i : Nat} {row : Sql.Row} (hi : t.column? column = some i)
    (hrow : row ∈ t.rows) : RowOverwritten i s row (row.withText i s) where
  id := rfl
  written := List.getElem?_set_self (Sql.length_cells_gt hi hrow)
  others _ hk := List.getElem?_set_ne hk.symm

/-- An update that reaches a row changes nothing else. -/
theorem overwritten_setColumn (hk : ∀ t, db.find? name = some t → t.KeepsTextsIn column)
    (h : db.setColumn name column (.text s) = .ok (n, db')) (hn : n ≠ 0) : Overwritten name s db db' := by
  refine ⟨?_, Sql.without_setColumn hk h, Sql.schema_setColumn hk h⟩
  obtain ⟨t, t', i, hf, hi, rfl, rfl, hname, hcols, hrows⟩ := Sql.setColumn_ok hk h
  have hfound : (db.replace name t').find? name = some t' :=
    Sql.find?_replace_self (hname ▸ Sql.find?_name hf) (by rw [hf]; rfl)
  have hne : t.rows ≠ [] := fun hnil => hn (List.length_eq_zero_iff.2 hnil)
  refine ⟨t, t', hf, hfound, hname, hcols, hne, i, hi, ?_⟩
  rw [hrows, List.forall₂_map_right_iff, List.forall₂_same]
  exact fun row hrow => rowOverwritten_withText hi hrow

/-! ## The table that is written -/

theorem tableListed_of_resolveTable (h : resolveTable.answer site db = .ok name) :
    name ∈ [table, legacyTable] ∧ tableListed site name db = .ok true := by
  rcases resolveTable_eq_ok_iff.1 h with he | ⟨he, o, -, rfl⟩
  · exact tableListed_of_mem he (List.mem_singleton.2 rfl)
  · refine tableListed_of_mem he ?_
    rcases chosenTable_cases o with ⟨ho, -⟩ | ⟨ho, -⟩
    · rw [ho]
      exact table_mem
    · rw [ho]
      exact legacyTable_mem

/-- Where there is no database the question for the tables fails, and nothing is committed. -/
theorem resolveTable_no_database (site : Site) (hst : ∀ db, store.storage ≠ .database db) :
    ∃ e j, resolveTable.run site store = (.error e, ⟨store.storage, j⟩) ∧ commits j = commits store.journal := by
  obtain ⟨storage, j⟩ := store
  cases storage with
  | unreachable cause =>
    by_cases hd : ∃ f, cause = .database f
    · obtain ⟨f, rfl⟩ := hd
      refine ⟨_, _, rfl, ?_⟩
      exact (commits_append_of (commits_notice _)).trans (List.append_nil _)
    · refine ⟨.accident cause, j, ?_, rfl⟩
      cases cause with
      | database f => exact absurd ⟨f, rfl⟩ hd
      | _ => rfl
  | notADatabase =>
    -- the first question is sent and refused, and the refusal is reported
    refine ⟨_, _, rfl, ?_⟩
    rw [commits_append_of (commits_notice _), commits_append_of (commits_sent _ _), List.append_nil,
      List.append_nil]
  | database db => exact absurd rfl (hst db)

/-! ## The whole write -/

theorem set_no_database (hst : ∀ db, store.storage ≠ .database db) (h : (set v).run site store = (r, after)) :
    (∃ e, r = .error e) ∧ after.storage = store.storage ∧ commits after.journal = commits store.journal := by
  obtain ⟨e, j, hrun, hj⟩ := resolveTable_no_database site hst
  rw [set, run_bind_error hrun] at h
  cases h
  exact ⟨⟨e, rfl⟩, rfl, hj⟩

/-- A version is written in every row of one version table, or nothing is changed; it is written where a table is
chosen and the update reaches a row. -/
theorem set_atomic (ht : ∀ db, store.storage = .database db → KeepsVersionTexts site db)
    (h : (set v).run site store = (r, after)) :
    (∀ name, r = .ok name → ∃ db db', store.storage = .database db ∧ after.storage = .database db' ∧
      name ∈ [table, legacyTable] ∧ tableListed site name db = .ok true ∧ Overwritten name v.text db db' ∧
      commits after.journal = commits store.journal ++ [writing name v]) ∧
    (∀ e, r = .error e → after.storage = store.storage ∧ commits after.journal = commits store.journal) ∧
    ∀ db name n db', store.storage = .database db → resolveTable.answer site db = .ok name →
      db.setColumn name column (.text v.text) = .ok (n, db') → n ≠ 0 → r = .ok name := by
  by_cases hst : ∃ db, store.storage = .database db
  · obtain ⟨db, hdb⟩ := hst
    obtain ⟨storage, j⟩ := store
    cases hdb
    refine ⟨?_, ?_, ?_⟩
    · rintro name rfl
      obtain ⟨hr, n, db', hn, hset, hafter, hj⟩ := set_ok_inv h
      obtain ⟨hmem, hl⟩ := tableListed_of_resolveTable hr
      exact ⟨db, db', rfl, hafter, hmem, hl, overwritten_setColumn (ht db rfl name hmem hl) hset hn, hj⟩
    · rintro e rfl
      rcases yields_set site db v with ⟨e', hy⟩ | ⟨t, db', hy⟩
      · obtain ⟨-, hafter, hj⟩ := hy.run_eq h
        exact ⟨hafter, hj.trans (List.append_nil _)⟩
      · cases (hy.run_eq h).1
    · rintro _ name n db' ⟨⟩ hr hset hn
      exact ((yields_set_ok hr hset hn).run_eq h).1
  · obtain ⟨⟨e, rfl⟩, hkept⟩ := set_no_database (not_exists.1 hst) h
    exact ⟨fun name hname => (by cases hname), fun _ _ => hkept, fun db _ _ _ hdb => absurd ⟨db, hdb⟩ hst⟩

/-- A text that is written as a version stands in every row of one version table that was there before; nothing
else is changed, and where the write fails nothing at all.  It fails only where the text is no version, no table is
chosen, or the update of that table is refused or reaches no row. -/
theorem setText_atomic (ht : ∀ db, store.storage = .database db → KeepsVersionTexts site db)
    (h : (setText s).run site store = (r, after)) :
    (∀ name, r = .ok name → ∃ v db db', Version.parse s = .ok v ∧ store.storage = .database db ∧
      after.storage = .database db' ∧ name ∈ [table, legacyTable] ∧ tableListed site name db = .ok true ∧
      Overwritten name v.text db db' ∧ commits after.journal = commits store.journal ++ [writing name v]) ∧
    (∀ e, r = .error e → after.storage = store.storage ∧ commits after.journal = commits store.journal) ∧
    ∀ v db name n db', Version.parse s = .ok v → store.storage = .database db →
      resolveTable.answer site db = .ok name → db.setColumn name column (.text v.text) = .ok (n, db') → n ≠ 0 →
      r = .ok name := by
  unfold setText at h
  cases hp : Version.parse s with
  | error f =>
    rw [hp] at h
    cases h
    exact ⟨fun name hname => (by cases hname), fun _ _ => ⟨rfl, rfl⟩, fun v _ _ _ _ hv => (by cases hv)⟩
  | ok v =>
    rw [hp] at h
    obtain ⟨hok, herr, hdone⟩ := set_atomic ht h
    refine ⟨fun name hname => ?_, herr, ?_⟩
    · obtain ⟨db, db', hrest⟩ := hok name hname
      exact ⟨v, db, db', rfl, hrest⟩
    · rintro _ db name n db' ⟨⟩
      exact hdone db name n db'

/-- The legacy table of an old installation gets the new version in its one row, and the other table keeps its
own. -/
theorem setText_atomic_legacy :
    KeepsVersionTexts bareSite (versionTables ["1.0.3"] ["1.0.5"]) ∧
      ((setText " 1.1.0").run bareSite ⟨.database (versionTables ["1.0.3"] ["1.0.5"]), []⟩).1 = .ok legacyTable ∧
      ∃ db', ((setText " 1.1.0").run bareSite ⟨.database (versionTables ["1.0.3"] ["1.0.5"]), []⟩).2.storage =
          .database db' ∧
        Overwritten legacyTable "1.1.0" (versionTables ["1.0.3"] ["1.0.5"]) db' := by
  have hok : ((setText " 1.1.0").run bareSite ⟨.database (versionTables ["1.0.3"] ["1.0.5"]), []⟩).1 =
      .ok legacyTable := by rfl
  have hkeeps : KeepsVersionTexts bareSite (versionTables ["1.0.3"] ["1.0.5"]) :=
    (hasTextVersions_versionTables _ _ _).keeps
  have ht : ∀ db, Storage.database (versionTables ["1.0.3"] ["1.0.5"]) = .database db →
      KeepsVersionTexts bareSite db := by
    rintro db ⟨⟩
    exact hkeeps
  obtain ⟨v, db, db', hv, hst, hafter, -, -, hover, -⟩ := (setText_atomic ht (Prod.ext hok rfl)).1 _ rfl
  cases hst
  have hv' : Version.parse " 1.1.0" = .ok (.ofParts [1, 1, 0]) := by rfl
  rw [hv'] at hv
  cases hv
  exact ⟨hkeeps, hok, db', hafter, hover⟩

end SchemaMigration.InstalledVersion
