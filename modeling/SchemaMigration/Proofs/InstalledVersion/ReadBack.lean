import SchemaMigration.Proofs.InstalledVersion.Writing
import SchemaMigration.Proofs.Version.Order

/-!
# SchemaMigration.Proofs.InstalledVersion.ReadBack — is a version read back after it was written?

The table to write is chosen by the version that is installed, the table to read is the first that holds a
version.  The two rules disagree in one state only: both tables exist and the first holds a version of
before the threshold, so that the write goes behind it.

* `Shadows` : that state.
* `detect_set_of_not_shadows`, `detect_set_of_shadows` : what is detected after a write, in each case.
* `detect_set_text_iff` : the text that was written is the text that is detected, and when it is not.
-/

namespace SchemaMigration.InstalledVersion

open Job

variable {site : Site} {db db' : Sql.Database} {name : String} {v w : Version} {n : Nat} {j : Journal}
  {s : Store}

/-! ## Definitions -/

/-- Both version tables exist, and `w` stands in the one that is read first although it is older than the
threshold. -/
def Shadows (site : Site) (db : Sql.Database) (w : Version) : Prop :=
  existingTables.answer site db = .ok [table, legacyTable] ∧
    (current table).answer site db = .ok (some w) ∧ w < threshold

/-! ## What is stored after a write -/

/-- The table that is written holds a row, so the version in it is the one that was written. -/
theorem stored_set (ht : KeepsVersionTexts site db) (hv : v.IsRead) (hns : ¬ ∃ w, Shadows site db w)
    (hr : resolveTable.answer site db = .ok name)
    (hc : db.setColumn name column (.text v.text) = .ok (n, db')) (hn : n ≠ 0) :
    ∃ names, existingTables.answer site db' = .ok names ∧ (stored names).answer site db' = .ok (some v) := by
  have hback : ∀ {names}, existingTables.answer site db = .ok names → name ∈ names →
      existingTables.answer site db' = .ok names ∧ (current name).answer site db' = .ok (some v) := by
    intro names he hm
    obtain ⟨hmem, hl⟩ := tableListed_of_mem he hm
    have hk := ht _ hmem hl
    exact ⟨existingTables_setColumn hk hc he, current_setColumn hk hc hn hv hmem hl⟩
  rcases resolveTable_eq_ok_iff.1 hr with he | ⟨he, o, ho, hname⟩
  · obtain ⟨he', hcur⟩ := hback he (List.mem_singleton.2 rfl)
    exact ⟨_, he', answer_stored_of_some hcur⟩
  · -- both tables exist: either the first is written, or the second and then nothing stands in the first
    rcases chosenTable_cases o with ⟨hch, -⟩ | ⟨hch, u, rfl, hu⟩
    · rw [hch] at hname
      subst hname
      obtain ⟨he', hcur⟩ := hback he table_mem
      exact ⟨_, he', answer_stored_of_some hcur⟩
    · rw [hch] at hname
      subst hname
      obtain ⟨he', hcur⟩ := hback he legacyTable_mem
      refine ⟨_, he', ?_⟩
      rcases stored_pair_eq_ok ho with ⟨w, hw, heq⟩ | ⟨hnone, -⟩
      · cases heq
        exact absurd ⟨u, he, hw, hu⟩ hns
      · obtain ⟨-, hl⟩ := tableListed_of_mem he legacyTable_mem
        have hother := current_setColumn_other (ht _ legacyTable_mem hl) hc not_sameName.2
          table_mem hnone
        rw [answer_stored_of_none hother]
        exact answer_stored_of_some hcur

/-- A version that is shadowed is still stored: the write went to the legacy table. -/
theorem stored_set_of_shadows (ht : HasTextVersions site db) (hs : Shadows site db w)
    (hr : resolveTable.answer site db = .ok name)
    (hc : db.setColumn name column (.text v.text) = .ok (n, db')) :
    existingTables.answer site db' = .ok [table, legacyTable] ∧
      (stored [table, legacyTable]).answer site db' = .ok (some w) := by
  obtain ⟨he, hw, hlt⟩ := hs
  have hname : name = legacyTable := by
    rcases resolveTable_eq_ok_iff.1 hr with he' | ⟨-, o, ho, rfl⟩
    · rw [he] at he'
      cases he'
    · rw [answer_stored_of_some hw] at ho
      cases ho
      exact chosenTable_of_lt hlt
  subst hname
  have hk := ht.keepsTexts legacyTable_mem (tableListed_of_mem he legacyTable_mem).2
  exact ⟨existingTables_setColumn hk hc he,
    answer_stored_of_some (current_setColumn_other hk hc not_sameName.2 table_mem hw)⟩

/-! ## What is detected after a write -/

theorem detect_set_of_not_shadows (ht : HasTextVersions site db) (hv : v.IsRead)
    (h : (set v).run site ⟨.database db, j⟩ = (.ok name, s)) (hns : ¬ ∃ w, Shadows site db w) :
    (detect.run site s).1 = .ok v := by
  obtain ⟨hr, n, db', hn, hc, hst, -⟩ := set_ok_inv h
  obtain ⟨names, he, hs⟩ := stored_set ht.keeps hv hns hr hc hn
  rw [isReading_detect.run_fst hst]
  exact detect_eq_ok_of_stored he hs

theorem detect_set_of_shadows (ht : HasTextVersions site db)
    (h : (set v).run site ⟨.database db, j⟩ = (.ok name, s)) (hs : Shadows site db w) :
    (detect.run site s).1 = .ok w := by
  obtain ⟨hr, n, db', -, hc, hst, -⟩ := set_ok_inv h
  obtain ⟨he, hw⟩ := stored_set_of_shadows ht hs hr hc
  rw [isReading_detect.run_fst hst]
  exact detect_eq_ok_of_stored he hw

/-- A version that was written is read back, with its text, just where no version with another text
shadows it. -/
theorem detect_set_text_iff (ht : HasTextVersions site db) (hv : v.IsRead)
    (h : (set v).run site ⟨.database db, j⟩ = (.ok name, s)) :
    (∃ u, (detect.run site s).1 = .ok u ∧ u.text = v.text) ↔
      ¬ ∃ w, Shadows site db w ∧ w.text ≠ v.text := by
  by_cases hs : ∃ w, Shadows site db w
  · obtain ⟨w, hw⟩ := hs
    have hd := detect_set_of_shadows ht h hw
    constructor
    · rintro ⟨u, hu, hut⟩ ⟨w', hw', hne⟩
      have hd' := detect_set_of_shadows ht h hw'
      rw [hu] at hd'
      cases hd'
      exact hne hut
    · intro hno
      refine ⟨w, hd, ?_⟩
      by_contra hne
      exact hno ⟨w, hw, hne⟩
  · refine ⟨fun _ ⟨w, hw, _⟩ => hs ⟨w, hw⟩, fun _ => ?_⟩
    exact ⟨v, detect_set_of_not_shadows ht hv h hs, rfl⟩

/-- Both tables of a schema of before the threshold hold a version: `1.3.0` goes to the legacy table, and
`1.1.0` is still detected. -/
theorem not_detect_set_text_shadowed :
    ((set (.ofParts [1, 3, 0])).run bareSite ⟨.database (versionTables ["1.1.0"] ["1.0.5"]), []⟩).1 =
        .ok legacyTable ∧
      ¬ ∃ u, (detect.run bareSite ((set (.ofParts [1, 3, 0])).run bareSite
          ⟨.database (versionTables ["1.1.0"] ["1.0.5"]), []⟩).2).1 = .ok u ∧ u.text = "1.3.0" := by
  have hset : ((set (.ofParts [1, 3, 0])).run bareSite
      ⟨.database (versionTables ["1.1.0"] ["1.0.5"]), []⟩).1 = .ok legacyTable := by rfl
  have hshadow : Shadows bareSite (versionTables ["1.1.0"] ["1.0.5"]) (.ofParts [1, 1, 0]) :=
    ⟨by rfl, by rfl, by decide⟩
  refine ⟨hset, fun hread => ?_⟩
  have hno := (detect_set_text_iff (hasTextVersions_versionTables _ _ _) (by rfl)
    (Prod.ext hset rfl)).1 hread
  exact hno ⟨_, hshadow, by decide⟩

end SchemaMigration.InstalledVersion
