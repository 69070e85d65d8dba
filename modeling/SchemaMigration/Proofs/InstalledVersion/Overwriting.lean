import SchemaMigration.Proofs.InstalledVersion.Writing
import SchemaMigration.Proofs.Version.Order

/-!
# SchemaMigration.Proofs.InstalledVersion.Overwriting — can a stored version be overwritten?

Where one version table exists, the version that was read stands in the table that is written.  Where both
exist, the table is chosen by the stored version and not by the place where it stands, and it may have no
row.

* `hasRow_of_current` : a version is read only from a table with a row.
* `set_rowMissing_iff` : when the row is missing, of a stored version, and what happens otherwise.
* `set_set_rowMissing` : an upgrade across the threshold with an empty version table stops one step later.
-/

namespace SchemaMigration.InstalledVersion

open Job

variable {site : Site} {db db' : Sql.Database} {name : String} {v w : Version} {names : List String} {n : Nat}
  {j : Journal} {r : Except Fault String} {s : Store}

/-! ## Rows -/

theorem isPlainName_of_mem (h : name ∈ [table, legacyTable]) : Sql.isPlainName name = true := by
  simp only [List.mem_cons, List.not_mem_nil, or_false] at h
  rcases h with rfl | rfl <;> decide +kernel

theorem hasRow_of_current (hm : name ∈ [table, legacyTable])
    (h : (current name).answer site db = .ok (some w)) : db.HasRow name := by
  obtain ⟨-, value, hv, ho⟩ := (current_eq_ok_iff hm).1 h
  obtain ⟨vs, hvs, rfl⟩ := map_eq_ok_iff.1 hv
  cases vs with
  | nil => cases ho -- without a row the value is null, which stands for no version
  | cons x xs => exact Sql.hasRow_of_valuesIn hvs

theorem setColumn_of_not_hasRow (ht : HasTextVersions site db) (hm : name ∈ [table, legacyTable])
    (hl : tableListed site name db = .ok true) (hno : ¬ db.HasRow name) :
    ∃ db', db.setColumn name column (.text v.text) = .ok (0, db') := by
  obtain ⟨t, i, hf, hi, -⟩ := ht name hm hl
  have hr : t.rows = [] := by
    by_contra hne
    exact hno ⟨t, hf, hne⟩
  exact Sql.setColumn_of_rows_nil (isPlainName_of_mem hm) hf hi hr _

/-- The table that is chosen is one of those that exist, and where it is the only one it holds the version. -/
theorem resolveTable_of_stored (he : existingTables.answer site db = .ok names)
    (hs : (stored names).answer site db = .ok (some w)) :
    (∃ name, names = [name] ∧ resolveTable.answer site db = .ok name ∧ db.HasRow name) ∨
      names = [table, legacyTable] ∧ resolveTable.answer site db = .ok (chosenTable (some w)) := by
  have hone : ∀ name, names = [name] → resolveTable.answer site db = .ok name ∧ db.HasRow name := by
    rintro name rfl
    rw [answer_stored_singleton] at hs
    exact ⟨resolveTable_eq_ok_iff.2 (.inl he),
      hasRow_of_current (tableListed_of_mem he (List.mem_singleton.2 rfl)).1 hs⟩
  rcases existingTables_cases he with rfl | rfl | rfl | rfl
  · cases hs
  · exact .inl ⟨_, rfl, hone _ rfl⟩
  · exact .inl ⟨_, rfl, hone _ rfl⟩
  · exact .inr ⟨rfl, resolveTable_eq_ok_iff.2 (.inr ⟨he, _, hs, rfl⟩)⟩

theorem not_hasRow_chosenTable_iff :
    ¬ db.HasRow (chosenTable (some w)) ↔
      w < threshold ∧ ¬ db.HasRow legacyTable ∨ threshold ≤ w ∧ ¬ db.HasRow table := by
  rcases chosenTable_cases (some w) with ⟨hch, hw⟩ | ⟨hch, u, hu, hlt⟩
  · have hle : threshold ≤ w := Version.not_lt.1 (hw w rfl)
    rw [hch]
    exact ⟨fun hno => .inr ⟨hle, hno⟩, fun hor => hor.elim (fun hx => absurd hx.1 (hw w rfl)) (·.2)⟩
  · cases hu
    rw [hch]
    exact ⟨fun hno => .inl ⟨hlt, hno⟩,
      fun hor => hor.elim (·.2) fun hx => absurd hlt (Version.not_lt.2 hx.1)⟩

/-- When the table that is chosen has no row. -/
theorem chosen_of_stored (he : existingTables.answer site db = .ok names)
    (hs : (stored names).answer site db = .ok (some w)) :
    ∃ t ∈ names, resolveTable.answer site db = .ok t ∧
      (¬ db.HasRow t ↔ names = [table, legacyTable] ∧
        (w < threshold ∧ ¬ db.HasRow legacyTable ∨ threshold ≤ w ∧ ¬ db.HasRow table)) := by
  rcases resolveTable_of_stored he hs with ⟨t, rfl, hr, hrow⟩ | ⟨rfl, hr⟩
  · refine ⟨t, List.mem_singleton.2 rfl, hr, fun hno => absurd hrow hno, ?_⟩
    rintro ⟨hnames, -⟩
    cases hnames
  · refine ⟨_, ?_, hr, ?_⟩
    · rcases chosenTable_cases (some w) with ⟨hch, -⟩ | ⟨hch, -⟩
      · exact hch ▸ table_mem
      · exact hch ▸ legacyTable_mem
    · rw [← not_hasRow_chosenTable_iff]
      exact ⟨fun hno => ⟨rfl, hno⟩, fun hx => hx.2⟩

/-! ## Writes -/

/-- The row is missing just where the table that is chosen has none. -/
theorem set_of_resolveTable (ht : HasTextVersions site db) (hr : resolveTable.answer site db = .ok name)
    (hm : name ∈ [table, legacyTable]) (hl : tableListed site name db = .ok true)
    (h : (set v).run site ⟨.database db, j⟩ = (r, s)) :
    (¬ db.HasRow name ∧ r = .error (.ofReason (.versionRowMissing name)) ∧ s.storage = .database db) ∨
      db.HasRow name ∧
        ((∃ n db', db.setColumn name column (.text v.text) = .ok (n + 1, db') ∧ r = .ok name ∧
            s.storage = .database db') ∨
          ∃ e, db.setColumn name column (.text v.text) = .error e ∧
            r = .error (.ofReason (refusal name (.database e))) ∧ s.storage = .database db) := by
  have hk := ht.keepsTexts hm hl
  by_cases hrow : db.HasRow name
  · refine .inr ⟨hrow, ?_⟩
    cases hc : db.setColumn name column (.text v.text) with
    | error e =>
      obtain ⟨hres, hst, -⟩ := (yields_set_refused hr hc).run_eq h
      exact .inr ⟨e, rfl, hres, hst⟩
    | ok p =>
      obtain ⟨n, db'⟩ := p
      obtain ⟨m, rfl⟩ := Nat.exists_eq_succ_of_ne_zero ((Sql.hasRow_iff_setColumn hk hc).1 hrow)
      obtain ⟨hres, hst, -⟩ := (yields_set_ok hr hc m.succ_ne_zero).run_eq h
      exact .inl ⟨m, db', rfl, hres, hst⟩
  · obtain ⟨db', hc⟩ := setColumn_of_not_hasRow (v := v) ht hm hl hrow
    obtain ⟨hres, hst, -⟩ := (yields_set_rowMissing hr hc).run_eq h
    exact .inl ⟨hrow, hres, hst⟩

/-- A stored version cannot be overwritten for want of a row just where both tables exist and the one that
its age selects is empty.  In every other state the chosen table has a row, and each of its rows holds the new
version afterwards unless the database itself refuses the update. -/
theorem set_rowMissing_iff (ht : HasTextVersions site db) (he : existingTables.answer site db = .ok names)
    (hs : (stored names).answer site db = .ok (some w))
    (h : (set v).run site ⟨.database db, j⟩ = (r, s)) :
    ((∃ t, r = .error (.ofReason (.versionRowMissing t))) ↔
      names = [table, legacyTable] ∧
        (w < threshold ∧ ¬ db.HasRow legacyTable ∨ threshold ≤ w ∧ ¬ db.HasRow table)) ∧
    ((¬ ∃ t, r = .error (.ofReason (.versionRowMissing t))) →
      ∃ t ∈ names, db.HasRow t ∧
        ((∃ n db', r = .ok t ∧ s.storage = .database db' ∧
            db'.valuesIn t column = .ok (List.replicate (n + 1) (.text v.text))) ∨
          ∃ e, db.setColumn t column (.text v.text) = .error e ∧
            r = .error (.ofReason (refusal t (.database e))) ∧ s.storage = .database db)) := by
  obtain ⟨t, hmem, hr, hcond⟩ := chosen_of_stored he hs
  obtain ⟨hm, hl⟩ := tableListed_of_mem he hmem
  rw [← hcond]
  rcases set_of_resolveTable ht hr hm hl h with
    ⟨hno, rfl, -⟩ | ⟨hrow, ⟨n, db', hc, rfl, hst⟩ | ⟨e, hc, rfl, hst⟩⟩
  · exact ⟨⟨fun _ => hno, fun _ => ⟨t, rfl⟩⟩, fun hx => absurd ⟨t, rfl⟩ hx⟩
  · refine ⟨⟨?_, fun hno => absurd hrow hno⟩, fun _ => ?_⟩
    · rintro ⟨t', ht'⟩
      cases ht'
    · exact ⟨t, hmem, hrow, .inl ⟨n, db', rfl, hst, Sql.valuesIn_setColumn (ht.keepsTexts hm hl) hc⟩⟩
  · refine ⟨⟨?_, fun hno => absurd hrow hno⟩, fun _ => ?_⟩
    · rintro ⟨t', ht'⟩
      cases Fault.ofReason_inj.1 (Except.error.inj ht')
    · exact ⟨t, hmem, hrow, .inr ⟨e, hc, rfl, hst⟩⟩

/-- The stored version `1.2.0` stands in the legacy table, and selects the table beside it, which is empty. -/
theorem set_rowMissing_empty_table :
    detect.answer bareSite (versionTables [] ["1.2.0"]) = .ok (.ofParts [1, 2, 0]) ∧
      ∃ t, ((set (.ofParts [1, 3, 0])).run bareSite ⟨.database (versionTables [] ["1.2.0"]), []⟩).1 =
        .error (.ofReason (.versionRowMissing t)) := by
  have hno : ¬ (versionTables [] ["1.2.0"]).HasRow table := by
    rintro ⟨t, hf, hrows⟩
    rw [(find?_versionTables _ _).1] at hf
    cases hf
    exact hrows rfl
  have hs : (stored [table, legacyTable]).answer bareSite (versionTables [] ["1.2.0"]) =
      .ok (some (.ofParts [1, 2, 0])) := by rfl
  have hiff := (set_rowMissing_iff (v := .ofParts [1, 3, 0]) (j := [])
    (hasTextVersions_versionTables _ _ _) (by rfl) hs rfl).1
  exact ⟨by rfl, hiff.2 ⟨rfl, .inr ⟨by decide, hno⟩⟩⟩

/-! ## Two writes in a row -/

/-- Beside an empty version table the write goes to the legacy table. -/
theorem resolveTable_of_not_hasRow (ht : HasTextVersions site db)
    (he : existingTables.answer site db = .ok [table, legacyTable]) (hno : ¬ db.HasRow table)
    (hr : resolveTable.answer site db = .ok name)
    (hc : db.setColumn name column (.text v.text) = .ok (n, db')) (hn : n ≠ 0) :
    name = legacyTable ∧ (current table).answer site db = .ok none := by
  rcases resolveTable_eq_ok_iff.1 hr with he' | ⟨-, o, ho, hname⟩
  · rw [he] at he'
    cases he'
  · constructor
    · -- the row that was written is not in the empty table
      rcases chosenTable_cases o with ⟨hch, -⟩ | ⟨hch, -⟩
      · rw [hname, hch] at hc
        have hk := ht.keepsTexts table_mem (tableListed_of_mem he table_mem).2
        exact absurd ((Sql.hasRow_iff_setColumn hk hc).2 hn) hno
      · rw [hname, hch]
    · rcases stored_pair_eq_ok ho with ⟨w, hw, -⟩ | ⟨hnone, -⟩
      · exact absurd (hasRow_of_current table_mem hw) hno
      · exact hnone

/-- A version of after the threshold selects the empty table again, once it stands in the legacy table. -/
theorem resolveTable_setColumn_legacyTable (ht : HasTextVersions site db) (hv : v.IsRead)
    (hge : threshold ≤ v) (he : existingTables.answer site db = .ok [table, legacyTable])
    (hnone : (current table).answer site db = .ok none)
    (hc : db.setColumn legacyTable column (.text v.text) = .ok (n, db')) (hn : n ≠ 0) :
    resolveTable.answer site db' = .ok table := by
  have hl := (tableListed_of_mem he legacyTable_mem).2
  have hk := ht.keepsTexts legacyTable_mem hl
  have hs : (stored [table, legacyTable]).answer site db' = .ok (some v) := by
    rw [answer_stored_of_none (current_setColumn_other hk hc not_sameName.2 table_mem hnone)]
    exact answer_stored_of_some (current_setColumn hk hc hn hv legacyTable_mem hl)
  refine resolveTable_eq_ok_iff.2 (.inr ⟨existingTables_setColumn hk hc he, _, hs, ?_⟩)
  exact (chosenTable_of_not_lt (Version.not_lt.2 hge)).symm

/-- The version table is there and still empty: the version that ends this state is written to the legacy
table, and no version can be written after it. -/
theorem set_set_rowMissing (ht : HasTextVersions site db) (hv : v.IsRead) (hge : threshold ≤ v)
    (he : existingTables.answer site db = .ok [table, legacyTable]) (hno : ¬ db.HasRow table)
    (h : (set v).run site ⟨.database db, j⟩ = (.ok name, s)) (u : Version) :
    name = legacyTable ∧ ((set u).run site s).1 = .error (.ofReason (.versionRowMissing table)) := by
  obtain ⟨hr, n, db', hn, hc, hst, -⟩ := set_ok_inv h
  obtain ⟨rfl, hnone⟩ := resolveTable_of_not_hasRow ht he hno hr hc hn
  refine ⟨rfl, ?_⟩
  have hk := ht.keepsTexts legacyTable_mem (tableListed_of_mem he legacyTable_mem).2
  have hno' : ¬ db'.HasRow table := by
    rintro ⟨t, hf, hrows⟩
    rw [Sql.find?_other hk hc not_sameName.2] at hf
    exact hno ⟨t, hf, hrows⟩
  obtain ⟨db'', hc'⟩ := setColumn_of_not_hasRow (v := u) (ht.setColumn hk hc) table_mem
    (tableListed_of_mem (existingTables_setColumn hk hc he) table_mem).2 hno'
  have hr' := resolveTable_setColumn_legacyTable ht hv hge he hnone hc hn
  obtain ⟨storage, k⟩ := s
  cases hst
  exact ((yields_set_rowMissing hr' hc').run_eq rfl).1

end SchemaMigration.InstalledVersion
