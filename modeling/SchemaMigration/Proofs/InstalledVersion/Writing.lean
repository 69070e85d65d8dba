import SchemaMigration.Proofs.InstalledVersion.Reading
import SchemaMigration.Proofs.Sql.ColumnUpdate
import SchemaMigration.Proofs.Version.Text

/-!
# SchemaMigration.Proofs.InstalledVersion.Writing — how the installed version is written

Writing a version ends in one of four ways: no table is chosen, the database refuses the update, the table
has no row, or every row of one table holds the version.  Only the last changes the database.

* `yields_set_unresolved`, `yields_set_refused`, `yields_set_rowMissing`, `yields_set_ok` : the four ways.
* `set_ok_inv`, `yields_set_inv` : what a successful write has done.
* `HasTextVersions`, `KeepsVersionTexts` : version columns that keep texts, with and without the existence of the
  columns.
-/

namespace SchemaMigration.InstalledVersion

open Job

variable {site : Site} {db db' : Sql.Database} {name : String} {v : Version} {n : Nat}

/-! ## Definitions -/

/-- The statement that writes a version, as it is sent. -/
def writing (name : String) (v : Version) : Sent :=
  ("UPDATE " ++ name ++ " SET version = " ++ placed "version", .once [.text v.text])

/-- What that statement does to a database. -/
def effect (name : String) (v : Version) (db : Sql.Database) : Except Accident (Nat × Sql.Database) :=
  match db.setColumn name column (.text v.text) with
  | .ok r => .ok r
  | .error e => .error (.database e)

/-- Why a version is not written where the database refuses the update. -/
def refusal (name : String) (cause : Accident) : Reason :=
  .queryFailed ("Upgrade version error, sql: " ++ ("UPDATE " ++ name ++ " SET version = " ++ named "version"))
    (some ("UPDATE " ++ name ++ " SET version = " ++ named "version")) (some cause)

/-- Every version table that exists has a version column, and the column keeps texts. -/
def HasTextVersions (site : Site) (db : Sql.Database) : Prop :=
  ∀ name ∈ [table, legacyTable], tableListed site name db = .ok true →
    ∃ t i, db.find? name = some t ∧ t.column? column = some i ∧ t.KeepsTextsIn column

/-- The columns of the version tables that exist keep texts. -/
def KeepsVersionTexts (site : Site) (db : Sql.Database) : Prop :=
  ∀ name ∈ [table, legacyTable], tableListed site name db = .ok true →
    ∀ t, db.find? name = some t → t.KeepsTextsIn column

/-! ## One row -/

theorem yields_writeRow_error {e : Sql.Fault}
    (h : db.setColumn name column (.text v.text) = .error e) :
    Yields (writeRow name v) site db (.error (.ofReason (refusal name (.database e)))) db [] := by
  have hs : Yields (send (writing name v).1 (writing name v).2 (effect name v)) site db
      (.error (.accident (.database e))) db [] :=
    yields_send_error (by simp only [effect, h])
  exact yields_bind_error (yields_onDatabaseError_database hs (yields_report _ _))

theorem yields_writeRow_none (h : db.setColumn name column (.text v.text) = .ok (0, db')) :
    Yields (writeRow name v) site db (.error (.ofReason (.versionRowMissing name))) db' [] := by
  have hs : Yields (send (writing name v).1 (writing name v).2 (effect name v)) site db
      (.ok 0) db' [] :=
    yields_send_ok (by simp only [effect, h])
  exact yields_bind_of_quiet (yields_onDatabaseError_ok hs) (yields_fail _)

theorem emits_writeRow (h : db.setColumn name column (.text v.text) = .ok (n, db')) (hn : n ≠ 0) :
    Emits (writeRow name v) site db (.ok ()) db'
      (sentEvents site (writing name v).1 (writing name v).2) := by
  have hs : Emits (send (writing name v).1 (writing name v).2 (effect name v)) site db (.ok n) db'
      (sentEvents site (writing name v).1 (writing name v).2) :=
    emits_send_ok (by simp only [effect, h])
  have hend : Emits (if n = 0 then failFor (.versionRowMissing name) else pure () : Job Unit) site db'
      (.ok ()) db' [] := by
    rw [if_neg hn]
    exact emits_pure ()
  rw [← List.append_nil (sentEvents site (writing name v).1 (writing name v).2)]
  exact emits_bind (emits_rescue_ok hs) hend

/-! ## The whole write -/

theorem yields_set_unresolved {e : Fault} (h : resolveTable.answer site db = .error e) :
    Yields (set v) site db (.error e) db [] :=
  yields_bind_error (isReading_resolveTable.yields h)

theorem yields_set_refused {e : Sql.Fault} (hr : resolveTable.answer site db = .ok name)
    (h : db.setColumn name column (.text v.text) = .error e) :
    Yields (set v) site db (.error (.ofReason (refusal name (.database e)))) db [] := by
  refine yields_bind_of_quiet (isReading_resolveTable.yields hr) (yields_bind_error ?_)
  exact yields_connected_other (yields_transaction_error (yields_writeRow_error h))
    (not_isDatabaseError_ofReason _)

theorem yields_set_rowMissing (hr : resolveTable.answer site db = .ok name)
    (h : db.setColumn name column (.text v.text) = .ok (0, db')) :
    Yields (set v) site db (.error (.ofReason (.versionRowMissing name))) db [] := by
  refine yields_bind_of_quiet (isReading_resolveTable.yields hr) (yields_bind_error ?_)
  exact yields_connected_other (yields_transaction_error (yields_writeRow_none h))
    (not_isDatabaseError_ofReason _)

theorem yields_set_ok (hr : resolveTable.answer site db = .ok name)
    (h : db.setColumn name column (.text v.text) = .ok (n, db')) (hn : n ≠ 0) :
    Yields (set v) site db (.ok name) db' [writing name v] := by
  have hw : Yields (transaction (writeRow name v)) site db (.ok ()) db' [writing name v] :=
    ⟨_, emits_transaction_ok (emits_writeRow h hn),
      (commits_sentEvents site _ _).commit (openAfter_sentEvents site _ _)⟩
  refine yields_bind_of_quiet (isReading_resolveTable.yields hr) ?_
  refine yields_bind_quiet (yields_connected_ok hw) ?_
  exact yields_bind_of_quiet (yields_notify _) (yields_pure _)

/-- Writing a version ends in one of four ways. -/
theorem set_cases (site : Site) (db : Sql.Database) (v : Version) :
    (∃ e, resolveTable.answer site db = .error e ∧ Yields (set v) site db (.error e) db []) ∨
    ∃ name, resolveTable.answer site db = .ok name ∧
      ((∃ e, db.setColumn name column (.text v.text) = .error e ∧
          Yields (set v) site db (.error (.ofReason (refusal name (.database e)))) db []) ∨
        (∃ db', db.setColumn name column (.text v.text) = .ok (0, db') ∧
          Yields (set v) site db (.error (.ofReason (.versionRowMissing name))) db []) ∨
        ∃ n db', n ≠ 0 ∧ db.setColumn name column (.text v.text) = .ok (n, db') ∧
          Yields (set v) site db (.ok name) db' [writing name v]) := by
  cases hr : resolveTable.answer site db with
  | error e => exact .inl ⟨e, rfl, yields_set_unresolved hr⟩
  | ok name =>
    refine .inr ⟨name, rfl, ?_⟩
    cases hs : db.setColumn name column (.text v.text) with
    | error e => exact .inl ⟨e, rfl, yields_set_refused hr hs⟩
    | ok r =>
      obtain ⟨n, db'⟩ := r
      by_cases hn : n = 0
      · subst hn
        exact .inr (.inl ⟨db', rfl, yields_set_rowMissing hr hs⟩)
      · exact .inr (.inr ⟨n, db', hn, rfl, yields_set_ok hr hs hn⟩)

/-- A version is written, or the write fails and changes nothing. -/
theorem yields_set (site : Site) (db : Sql.Database) (v : Version) :
    (∃ e, Yields (set v) site db (.error e) db []) ∨
      ∃ t db', Yields (set v) site db (.ok t) db' [writing t v] := by
  rcases set_cases site db v with
    ⟨e, -, hy⟩ | ⟨t, -, ⟨e, -, hy⟩ | ⟨d, -, hy⟩ | ⟨n, d, -, -, hy⟩⟩
  · exact .inl ⟨_, hy⟩
  · exact .inl ⟨_, hy⟩
  · exact .inl ⟨_, hy⟩
  · exact .inr ⟨t, d, hy⟩

/-- A version that was written stands in every row of the table that was chosen, and nowhere else. -/
theorem set_ok_inv {j : Journal} {s : Store}
    (h : (set v).run site ⟨.database db, j⟩ = (.ok name, s)) :
    resolveTable.answer site db = .ok name ∧ ∃ n db', n ≠ 0 ∧
      db.setColumn name column (.text v.text) = .ok (n, db') ∧ s.storage = .database db' ∧
      commits s.journal = commits j ++ [writing name v] := by
  rcases set_cases site db v with
    ⟨e, -, hy⟩ | ⟨m, hr, ⟨e, -, hy⟩ | ⟨d, -, hy⟩ | ⟨n, d, hn, hc, hy⟩⟩
  · cases (hy.run_eq h).1
  · cases (hy.run_eq h).1
  · cases (hy.run_eq h).1
  · obtain ⟨hok, hst, hj⟩ := hy.run_eq h
    cases hok
    exact ⟨hr, n, d, hn, hc, hst, hj⟩

/-- The same for a write that is part of a longer job. -/
theorem yields_set_inv {cs : List Sent} (h : Yields (set v) site db (.ok name) db' cs) :
    resolveTable.answer site db = .ok name ∧ ∃ n, n ≠ 0 ∧ db.setColumn name column (.text v.text) = .ok (n, db') := by
  obtain ⟨k, hk, -⟩ := h
  obtain ⟨hr, n, d, hn, hset, hst, -⟩ := set_ok_inv (hk [])
  cases hst
  exact ⟨hr, n, hn, hset⟩

/-! ## The database after a write -/

theorem HasTextVersions.keepsTexts (ht : HasTextVersions site db) (hn : name ∈ [table, legacyTable])
    (hl : tableListed site name db = .ok true) :
    ∀ t, db.find? name = some t → t.KeepsTextsIn column := by
  obtain ⟨t, i, hf, -, hk⟩ := ht name hn hl
  intro u hu
  rw [hf] at hu
  cases hu
  exact hk

theorem HasTextVersions.keeps (ht : HasTextVersions site db) : KeepsVersionTexts site db :=
  fun _ hn hl => ht.keepsTexts hn hl

/-- The catalog speaks of tables and columns only, so a write does not change what it says. -/
theorem tableListed_setColumn (hk : ∀ t, db.find? name = some t → t.KeepsTextsIn column)
    (h : db.setColumn name column (.text v.text) = .ok (n, db')) (other : String) :
    tableListed site other db' = tableListed site other db := by
  unfold tableListed
  rw [Sql.schema_setColumn hk h, Sql.hasTable_setColumn hk h other]

theorem HasTextVersions.setColumn (ht : HasTextVersions site db)
    (hk : ∀ t, db.find? name = some t → t.KeepsTextsIn column)
    (h : db.setColumn name column (.text v.text) = .ok (n, db')) : HasTextVersions site db' := by
  intro other hm hl
  rw [tableListed_setColumn hk h] at hl
  obtain ⟨t, i, hf, hi, htext⟩ := ht other hm hl
  obtain ⟨t', hf', hcols⟩ := Sql.find?_setColumn hk h hf
  have hcol : t'.column? column = t.column? column := by rw [Sql.Table.column?, hcols, ← Sql.Table.column?]
  exact ⟨t', i, hf', hcol.trans hi, htext.of_columns hcols⟩

theorem existingTables_setColumn {names : List String}
    (hk : ∀ t, db.find? name = some t → t.KeepsTextsIn column)
    (h : db.setColumn name column (.text v.text) = .ok (n, db'))
    (he : existingTables.answer site db = .ok names) : existingTables.answer site db' = .ok names := by
  rw [existingTables_eq_ok_iff] at he ⊢
  simp only [tableListed_setColumn hk h]
  exact he

/-- The version is read back from the table to which it was written. -/
theorem current_setColumn (hk : ∀ t, db.find? name = some t → t.KeepsTextsIn column)
    (h : db.setColumn name column (.text v.text) = .ok (n, db')) (hn : n ≠ 0) (hv : v.IsRead)
    (hm : name ∈ [table, legacyTable]) (hl : tableListed site name db = .ok true) :
    (current name).answer site db' = .ok (some v) := by
  rw [current_eq_ok_iff hm, tableListed_setColumn hk h]
  refine ⟨hl, .text v.text, ?_, ?_⟩
  · unfold firstValue
    rw [Sql.valuesIn_setColumn hk h]
    cases n with
    | zero => exact absurd rfl hn
    | succ n => rfl
  · have hp : Version.parse v.text = .ok v := hv
    simp only [ofValue, Sql.Value.display?, hp, Except.map]

/-- What stands in the other version table is not touched. -/
theorem current_setColumn_other {other : String} {o : Option Version}
    (hk : ∀ t, db.find? name = some t → t.KeepsTextsIn column)
    (h : db.setColumn name column (.text v.text) = .ok (n, db')) (hne : Sql.sameName name other = false)
    (hm : other ∈ [table, legacyTable]) (hc : (current other).answer site db = .ok o) :
    (current other).answer site db' = .ok o := by
  rw [current_eq_ok_iff hm] at hc ⊢
  unfold firstValue at hc ⊢
  rw [tableListed_setColumn hk h, Sql.valuesIn_other hk h hne]
  exact hc

/-! ## Version tables as they are made -/

/-- A version table with a row for each of the texts. -/
def versionTable (name : String) (texts : List String) : Sql.Table where
  name := name
  columns :=
    [{ name := "id", affinity := .integer, primaryKey := true, isRowId := true },
      { name := column, affinity := .text, notNull := true }]
  rows := texts.mapIdx fun i text => ⟨i + 1, [.integer (i + 1), .text text]⟩
  cells_fit r hr := by
    obtain ⟨i, hi, rfl⟩ := List.mem_mapIdx.1 hr
    rfl

/-- Both version tables, each with a row for each of its texts. -/
def versionTables (texts legacyTexts : List String) : Sql.Database :=
  ⟨[versionTable table texts, versionTable legacyTable legacyTexts]⟩

/-- A database in a file, and no scripts. -/
def bareSite : Site := { vendor := .sqlite, files := {}, root := ⟨"", []⟩ }

theorem column?_versionTable (name : String) (texts : List String) :
    (versionTable name texts).column? column = some 1 := by
  have hne : Sql.sameName "id" column = false ∧ Sql.sameName column column = true := by decide +kernel
  simp [Sql.Table.column?, versionTable, List.findIdx?_cons, hne.1, hne.2]

theorem keepsTextsIn_versionTable (name : String) (texts : List String) :
    (versionTable name texts).KeepsTextsIn column := by
  intro i c hi hc
  rw [column?_versionTable] at hi
  cases hi
  cases hc
  exact ⟨rfl, rfl⟩

theorem find?_versionTables (texts legacyTexts : List String) :
    (versionTables texts legacyTexts).find? table = some (versionTable table texts) ∧
      (versionTables texts legacyTexts).find? legacyTable = some (versionTable legacyTable legacyTexts) := by
  have hself : Sql.sameName table table = true ∧ Sql.sameName legacyTable legacyTable = true ∧
      Sql.sameName table legacyTable = false := by decide +kernel
  obtain ⟨h₁, h₂, h₃⟩ := hself
  simp [versionTables, Sql.Database.find?, versionTable, h₁, h₂, h₃]

theorem hasTextVersions_versionTables (site : Site) (texts legacyTexts : List String) :
    HasTextVersions site (versionTables texts legacyTexts) := by
  intro name hn _
  obtain ⟨h₁, h₂⟩ := find?_versionTables texts legacyTexts
  simp only [List.mem_cons, List.not_mem_nil, or_false] at hn
  rcases hn with rfl | rfl
  · exact ⟨_, 1, h₁, column?_versionTable _ _, keepsTextsIn_versionTable _ _⟩
  · exact ⟨_, 1, h₂, column?_versionTable _ _, keepsTextsIn_versionTable _ _⟩

end SchemaMigration.InstalledVersion
