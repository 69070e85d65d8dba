import SchemaMigration.Proofs.InstalledVersion.Overwriting
import SchemaMigration.Proofs.Sql.RowUpdate
import SchemaMigration.Proofs.Upgrade.Bootstrap

/-!
# SchemaMigration.Proofs.Upgrade.Classification — every question tells installations apart in the same way

What a database has of an installation is said once, by its tables and rows alone.  Each question about the installed
version asks the catalog on its own; where the catalog describes the database, all of them answer by what it has.

* `IsDescribed`, `HasVersionColumns` : the catalog tells the tables, and version tables have the version column.
* `tablesIn`, `firstText`, `textIn` : the version tables of a database, and the text that counts as its version.
* `existingTables_eq`, `answer_stored`, `missesTable_resolveTable_iff`, `answer_detect_of_tables`,
  `answer_detect_of_none` : what each question answers, errors included.
* `questions_agree` : so they agree about every database.
-/

namespace SchemaMigration.InstalledVersion

open Job

variable {site : Site} {db : Sql.Database} {name : String} {names : List String} {value : Sql.Value}

/-! ## Definitions -/

/-- The catalog of the vendor answers, and it lists the tables and the column by which installations are told apart
just where they are there.  A database in a file is its own catalog. -/
def IsDescribed (site : Site) (db : Sql.Database) : Prop :=
  site.vendor ≠ .sqlite → ∃ c, site.catalog.answer db.schema = some c ∧
    (∀ name ∈ [table, legacyTable, queueTable], c.tables.contains (c.schema, name) = db.hasTable name) ∧
    c.columns.contains (c.schema, queueTable, queueColumn) = db.hasColumn queueTable queueColumn

/-- Every version table has a version column. -/
def HasVersionColumns (db : Sql.Database) : Prop :=
  ∀ name ∈ [table, legacyTable], ∀ t, db.find? name = some t → (t.column? column).isSome

/-- The version tables of a database, the legacy one last. -/
def tablesIn (db : Sql.Database) : List String := [table, legacyTable].filter db.hasTable

/-- The text in the version column of the first row of a table; none where there is no row, or a null. -/
def firstText (db : Sql.Database) (name : String) : Option String :=
  (db.find? name).bind fun t => t.rows.head?.bind fun r => (t.cell column r).display?

/-- The text in the first of the tables that has one. -/
def textIn (db : Sql.Database) (names : List String) : Option String := names.findSome? (firstText db)

/-- The version that a text writes, or the fault of a text that writes none. -/
def readText (s : String) : Except Fault Version := (Version.parse s).mapError .ofVersion

/-- A version table is missed. -/
def MissesTable {α : Type} (r : Except Fault α) : Prop :=
  ∃ message tables, r = .error (.ofReason (.versionTableMissing message tables))

/-! ## The catalog -/

theorem IsDescribed.tableListed (h : IsDescribed site db) (hn : name ∈ [table, legacyTable, queueTable]) :
    tableListed site name db = .ok (db.hasTable name) := by
  unfold InstalledVersion.tableListed
  cases hv : site.vendor with
  | sqlite => rfl
  | _ =>
    obtain ⟨c, hc, htables, -⟩ := h (by simp [hv])
    simp only [hc, htables name hn]

theorem IsDescribed.columnListed (h : IsDescribed site db) :
    columnListed site queueTable queueColumn db = .ok (db.hasColumn queueTable queueColumn) := by
  unfold InstalledVersion.columnListed
  cases hv : site.vendor with
  | sqlite => rfl
  | _ =>
    obtain ⟨c, hc, -, hcolumn⟩ := h (by simp [hv])
    simp only [hc, hcolumn]

theorem IsDescribed.tableListed_of_mem (h : IsDescribed site db) (hn : name ∈ tablesIn db) :
    InstalledVersion.tableListed site name db = .ok true := by
  obtain ⟨hmem, htable⟩ := List.mem_filter.1 hn
  rw [h.tableListed (List.mem_append_left [queueTable] hmem), htable]

theorem existingTables_eq (h : IsDescribed site db) : existingTables.answer site db = .ok (tablesIn db) := by
  refine existingTables_eq_ok_iff.2 ⟨_, _, h.tableListed (by simp), h.tableListed (by simp), ?_⟩
  unfold tablesIn
  cases ha : db.hasTable table <;> cases hb : db.hasTable legacyTable <;> simp [ha, hb]

/-! ## What is stored -/

/-- The first value of a version table is the one that its text writes. -/
theorem firstValue_eq (hc : HasVersionColumns db) (hn : name ∈ tablesIn db) :
    ∃ value, firstValue name db = .ok value ∧ value.display? = firstText db name := by
  obtain ⟨hmem, htable⟩ := List.mem_filter.1 hn
  obtain ⟨t, ht⟩ := Option.isSome_iff_exists.1 htable
  obtain ⟨i, hi⟩ := Option.isSome_iff_exists.1 (hc name hmem t ht)
  have hvalues : db.valuesIn name column = .ok (t.rows.map fun r => (r.cells[i]?).getD .null) := by
    simp only [Sql.Database.valuesIn, Sql.Database.plain?, isPlainName_of_mem hmem, if_true, ht, hi]
  refine ⟨_, by rw [firstValue, hvalues]; rfl, ?_⟩
  cases hrows : t.rows with
  | nil => simp [firstText, ht, hrows, Sql.Value.display?]
  | cons r rows => simp [firstText, ht, hrows, Sql.Table.cell, hi]

theorem answer_current (h : IsDescribed site db) (hn : name ∈ tablesIn db) (hv : firstValue name db = .ok value) :
    (current name).answer site db = (ofValue value).mapError Fault.ofVersion := by
  have hfold := foldIdentifier_of_mem site.vendor (List.mem_filter.1 hn).1
  have hread : ∀ r, (connected do unless ← tableKnown name do failFor r
                                  readRow name : Job Sql.Value).answer site db = .ok value := by
    intro r
    have hlisted : tableListed site (site.vendor.foldIdentifier name) db = .ok true := by
      rw [hfold, h.tableListed_of_mem hn]
    rw [answer_connected (isReading_readKnown _ _), mapError_eq_ok_iff,
      answer_bind_eq_ok (isReading_tableKnown name) fun _ => isReading_require (isReading_readRow name) _ _]
    exact ⟨true, tableKnown_eq_ok_iff.2 hlisted, (require_eq_ok_iff (isReading_readRow name)).2
      ⟨rfl, readRow_eq_ok_iff.2 hv⟩⟩
  unfold current
  rw [answer_bind isReading_site fun s => isReading_bind
    (isReading_connected (isReading_readKnown _ _)) fun _ => isReading_ofExcept _ _]
  simp only [answer_site, Except.bind, hfold]
  rw [answer_bind (isReading_connected (isReading_readKnown _ _)) fun _ => isReading_ofExcept _ _, hread]
  exact answer_ofExcept _ _

/-- The stored version is that of the first table that has a text. -/
theorem answer_stored (h : IsDescribed site db) (hc : HasVersionColumns db) (hn : ∀ name ∈ names, name ∈ tablesIn db) :
    (stored names).answer site db =
      match textIn db names with
      | some s => (readText s).map some
      | none => .ok none := by
  induction names with
  | nil => rfl
  | cons name names ih =>
    obtain ⟨hname, hrest⟩ := List.forall_mem_cons.1 hn
    obtain ⟨value, hvalue, htext⟩ := firstValue_eq hc hname
    rw [answer_stored_cons, answer_current h hname hvalue, textIn, List.findSome?_cons, ← htext, ofValue]
    cases value.display? with
    | none => exact ih hrest
    | some s =>
      dsimp only
      rw [readText]
      cases Version.parse s with
      | error e => rfl
      | ok v => rfl

/-! ## The table that is written -/

section Missing

variable {α β : Type}

theorem not_missesTable_ok (a : α) : ¬ MissesTable (.ok a : Except Fault α) := nofun

theorem not_missesTable_ofReason {r : Reason} (h : ∀ message tables, r ≠ .versionTableMissing message tables) :
    ¬ MissesTable (.error (.ofReason r) : Except Fault α) := by
  rintro ⟨message, tables, he⟩
  exact h message tables (Fault.ofReason_inj.1 (Except.error.inj he))

theorem missesTable_map_iff {r : Except Fault α} {f : α → β} : MissesTable (r.map f) ↔ MissesTable r := by
  cases r with
  | ok a => exact iff_of_false (not_missesTable_ok _) (not_missesTable_ok _)
  | error e =>
    simp only [MissesTable, Except.map, Except.error.injEq]

/-- Of a text, nothing can be wrong but that it is no version. -/
theorem readText_ne_error {s : String} {r : Reason} (h : ∀ text, r ≠ .invalidVersion text) :
    readText s ≠ .error (.ofReason r) := by
  unfold readText
  intro hs
  cases hv : Version.parse s with
  | ok v =>
    rw [hv] at hs
    cases hs
  | error e =>
    rw [hv] at hs
    obtain ⟨text, -, hr⟩ := Fault.ofVersion_eq_ofReason.1 (Except.error.inj hs)
    exact h text hr.symm

theorem not_missesTable_readText (s : String) : ¬ MissesTable (readText s) := by
  rintro ⟨message, tables, he⟩
  exact absurd he (readText_ne_error nofun)

end Missing

theorem not_missesTable_stored (h : IsDescribed site db) (hc : HasVersionColumns db) :
    ¬ MissesTable ((stored (tablesIn db)).answer site db) := by
  rw [answer_stored h hc fun _ hn => hn]
  cases textIn db (tablesIn db) with
  | none => exact not_missesTable_ok _
  | some s => exact missesTable_map_iff.not.2 (not_missesTable_readText s)

/-- A table to write is missed just where there is no version table; with a stored text that is no version the choice
fails, but for another reason. -/
theorem missesTable_resolveTable_iff (h : IsDescribed site db) (hc : HasVersionColumns db) :
    MissesTable (resolveTable.answer site db) ↔ tablesIn db = [] := by
  have hstored := not_missesTable_stored h hc
  rw [resolveTable_eq, answer_bind isReading_existingTables isReading_chooseTable, existingTables_eq h, Except.bind]
  match hnames : tablesIn db with
  | [] => exact iff_of_true ⟨_, _, rfl⟩ rfl
  | [n] => exact iff_of_false (not_missesTable_ok n) (List.cons_ne_nil _ _)
  | n :: m :: ns =>
    have hchoice : (chooseTable (n :: m :: ns)).answer site db =
        ((stored (n :: m :: ns)).answer site db).map chosenTable :=
      answer_bind (isReading_stored _) fun _ => isReading_pure _
    rw [hchoice, missesTable_map_iff]
    exact iff_of_false (hnames ▸ hstored) (List.cons_ne_nil _ _)

/-- A write misses a table just where the choice of the table does. -/
theorem missesTable_set_iff (v : Version) :
    MissesTable ((set v).answer site db) ↔ MissesTable (resolveTable.answer site db) := by
  rcases set_cases site db v with ⟨e, hr, hy⟩ | ⟨name, hr, hwrite⟩
  · rw [hr, hy.answer_eq]
  · refine iff_of_false ?_ (hr ▸ not_missesTable_ok name)
    rcases hwrite with ⟨e, -, hy⟩ | ⟨db', -, hy⟩ | ⟨n, db', -, -, hy⟩
    · exact hy.answer_eq ▸ not_missesTable_ofReason nofun
    · exact hy.answer_eq ▸ not_missesTable_ofReason nofun
    · exact hy.answer_eq ▸ not_missesTable_ok name

theorem setText_of_parse {s : String} {v : Version} (h : Version.parse s = .ok v) : setText s = set v := by
  rw [setText, h]
  rfl

/-! ## The installed version -/

/-- Where there are version tables, their text is read. -/
theorem answer_detect_of_tables (h : IsDescribed site db) (hc : HasVersionColumns db) (hne : tablesIn db ≠ []) :
    detect.answer site db =
      match textIn db (tablesIn db) with
      | some s => readText s
      | none => .error (.ofReason (.versionRowMissing (", ".intercalate (tablesIn db)))) := by
  have hstored : (stored (tablesIn db)).answer site db = _ := answer_stored h hc fun _ hn => hn
  rw [detect_eq, answer_bind isReading_existingTables isReading_detectIn, existingTables_eq h, Except.bind]
  cases hnames : tablesIn db with
  | nil => exact absurd hnames hne
  | cons n ns =>
    rw [detectIn_cons, answer_bind (isReading_stored _) (isReading_orAbsent (isReading_failFor _)), ← hnames, hstored]
    cases textIn db (tablesIn db) with
    | none => rfl
    | some s =>
      dsimp only
      cases readText s with
      | ok v => rfl
      | error e => rfl

/-- What the queue table says of the version. -/
theorem answer_oldestVersion (h : IsDescribed site db) :
    oldestVersion.answer site db =
      .ok (if db.hasColumn queueTable queueColumn then some withQueueColumn
        else if db.hasTable queueTable then some withQueueTable else none) := by
  have hfold := foldIdentifier_queue site.vendor
  have hcolumn : (columnKnown queueTable queueColumn).answer site db = .ok (db.hasColumn queueTable queueColumn) := by
    rw [columnKnown_eq_ok_iff, hfold.1, hfold.2]
    exact h.columnListed
  have htable : (tableKnown queueTable).answer site db = .ok (db.hasTable queueTable) := by
    rw [tableKnown_eq_ok_iff, hfold.1]
    exact h.tableListed (by simp)
  rw [oldestVersion_eq, answer_bind (isReading_columnKnown _ _) isReading_versionByColumn, hcolumn, Except.bind]
  cases db.hasColumn queueTable queueColumn with
  | true => rfl
  | false =>
    refine (answer_bind (isReading_tableKnown _) isReading_versionByTable).trans ?_
    rw [htable]
    cases db.hasTable queueTable <;> rfl

/-- Where there is no version table, the queue table is looked at. -/
theorem answer_detect_of_none (h : IsDescribed site db) (hnone : tablesIn db = []) :
    detect.answer site db =
      if db.hasColumn queueTable queueColumn then .ok withQueueColumn
      else if db.hasTable queueTable then .ok withQueueTable
      else .error (.ofReason (.versionTableMissing "Unable to determine current software version"
        [table, legacyTable])) := by
  rw [detect_eq, answer_bind isReading_existingTables isReading_detectIn, existingTables_eq h, hnone, Except.bind,
    detectIn_nil, answer_bind (isReading_connected isReading_oldestVersion) (isReading_orAbsent isReading_unknown),
    answer_connected isReading_oldestVersion, answer_oldestVersion h]
  cases db.hasColumn queueTable queueColumn with
  | true => rfl
  | false => cases db.hasTable queueTable <;> rfl

end SchemaMigration.InstalledVersion

namespace SchemaMigration.Upgrade

open Job
open InstalledVersion

variable {site : Site} {db : Sql.Database}

/-! ## All questions -/

theorem readText_eq_error_iff {s : String} {e : VersionFault} :
    readText s = .error (.ofVersion e) ↔ Version.parse s = .error e := by
  unfold readText
  cases Version.parse s with
  | ok v => exact iff_of_false nofun nofun
  | error e' => simp only [Except.mapError, Except.error.injEq, Fault.ofVersion_inj]

theorem hasTable_of_hasColumn {name column : String} (h : db.hasColumn name column = true) :
    db.hasTable name = true := by
  obtain ⟨t, ht, -⟩ := Option.any_eq_true _ _ |>.1 h
  exact Option.isSome_iff_exists.2 ⟨t, ht⟩

/-- Where the catalog describes a database and its version tables have version columns, all questions tell
installations apart in the same way.  A schema counts as made just where there is a version table, and just there a
table to write is not missed, be the version given or written by a text.  Then the installed version is what the first
text of the version tables writes, or the text is refused for what is wrong with it, or there is no such text and a
row is missed.  Without version tables the queue table tells the version, if there is one.  The questions change
nothing. -/
theorem questions_agree (h : IsDescribed site db) (hc : HasVersionColumns db) :
    (existingTables.answer site db = .ok (tablesIn db) ∧
      isInitialized.answer site db = .ok (!(tablesIn db).isEmpty) ∧
      (MissesTable (resolveTable.answer site db) ↔ tablesIn db = []) ∧
      (∀ v, MissesTable ((set v).answer site db) ↔ tablesIn db = []) ∧
      ∀ s v, Version.parse s = .ok v → (MissesTable ((setText s).answer site db) ↔ tablesIn db = [])) ∧
    (tablesIn db ≠ [] →
      (∀ v, detect.answer site db = .ok v ↔ ∃ s, textIn db (tablesIn db) = some s ∧ Version.parse s = .ok v) ∧
      (∀ e, detect.answer site db = .error (.ofVersion e) ↔
        ∃ s, textIn db (tablesIn db) = some s ∧ Version.parse s = .error e) ∧
      (detect.answer site db = .error (.ofReason (.versionRowMissing (", ".intercalate (tablesIn db)))) ↔
        textIn db (tablesIn db) = none)) ∧
    (tablesIn db = [] →
      (detect.answer site db = .ok withQueueColumn ↔ db.hasColumn queueTable queueColumn = true) ∧
      (detect.answer site db = .ok withQueueTable ↔
        db.hasTable queueTable = true ∧ db.hasColumn queueTable queueColumn = false) ∧
      (MissesTable (detect.answer site db) ↔ db.hasTable queueTable = false)) ∧
    IsReading existingTables ∧ IsReading isInitialized ∧ IsReading resolveTable ∧ IsReading detect := by
  have hmiss : ∀ v, MissesTable ((set v).answer site db) ↔ tablesIn db = [] := fun v =>
    (missesTable_set_iff v).trans (missesTable_resolveTable_iff h hc)
  refine ⟨⟨existingTables_eq h, isInitialized_eq (existingTables_eq h), missesTable_resolveTable_iff h hc, hmiss,
    fun s v hparse => setText_of_parse hparse ▸ hmiss v⟩, fun hne => ?_, fun hnone => ?_, isReading_existingTables,
    isReading_isInitialized, isReading_resolveTable, isReading_detect⟩
  · rw [answer_detect_of_tables h hc hne]
    cases htext : textIn db (tablesIn db) with
    | none =>
      refine ⟨fun v => iff_of_false nofun nofun, fun e => iff_of_false (fun he => ?_) nofun, iff_of_true rfl rfl⟩
      obtain ⟨text, -, hr⟩ := Fault.ofVersion_eq_ofReason.1 (Except.error.inj he).symm
      cases hr
    | some s =>
      refine ⟨fun v => ?_, fun e => ?_, iff_of_false (readText_ne_error nofun) nofun⟩
      · simpa [readText] using mapError_eq_ok_iff
      · simpa using readText_eq_error_iff
  · rw [answer_detect_of_none h hnone]
    have hversions : withQueueTable ≠ withQueueColumn := by decide
    cases hcolumn : db.hasColumn queueTable queueColumn with
    | true =>
      have htable := hasTable_of_hasColumn hcolumn
      simp [htable, hversions.symm, not_missesTable_ok]
    | false =>
      cases htable : db.hasTable queueTable with
      | true => simp [hversions, not_missesTable_ok]
      | false => exact ⟨by simp, by simp, iff_of_true ⟨_, _, rfl⟩ rfl⟩

/-- A server that lists the tables and columns that there are. -/
def serverSite : Site :=
  { bareSite with
    vendor := .postgresql
    catalog := ⟨fun schema => some
      { schema := "ds"
        tables := schema.map fun t => ("ds", t.1)
        columns := schema.flatMap fun t => t.2.map fun c => ("ds", t.1, c) }⟩ }

/-- The version table is still empty when the legacy one holds a version; all questions go by the latter. -/
theorem questions_agree_serverSite :
    IsDescribed serverSite (versionTables [] ["1.1.0", "1.3.0"]) ∧
      HasVersionColumns (versionTables [] ["1.1.0", "1.3.0"]) ∧
      existingTables.answer serverSite (versionTables [] ["1.1.0", "1.3.0"]) = .ok [table, legacyTable] ∧
      isInitialized.answer serverSite (versionTables [] ["1.1.0", "1.3.0"]) = .ok true ∧
      ¬ MissesTable (resolveTable.answer serverSite (versionTables [] ["1.1.0", "1.3.0"])) ∧
      ¬ MissesTable ((setText "1.2").answer serverSite (versionTables [] ["1.1.0", "1.3.0"])) ∧
      detect.answer serverSite (versionTables [] ["1.1.0", "1.3.0"]) = .ok (.ofParts [1, 1, 0]) := by
  have hdescribed : IsDescribed serverSite (versionTables [] ["1.1.0", "1.3.0"]) :=
    fun _ => ⟨_, rfl, by decide +kernel, by decide +kernel⟩
  have hcolumns : HasVersionColumns (versionTables [] ["1.1.0", "1.3.0"]) := by
    intro name hn t ht
    obtain ⟨u, i, hu, hi, -⟩ := hasTextVersions_versionTables bareSite [] ["1.1.0", "1.3.0"] name hn
      (congrArg Except.ok (by rw [Sql.Database.hasTable, ht]; rfl))
    obtain rfl : u = t := Option.some.inj (hu.symm.trans ht)
    exact Option.isSome_iff_exists.2 ⟨i, hi⟩
  have htables : tablesIn (versionTables [] ["1.1.0", "1.3.0"]) = [table, legacyTable] := by decide +kernel
  have htext : textIn (versionTables [] ["1.1.0", "1.3.0"]) [table, legacyTable] = some "1.1.0" := by decide +kernel
  obtain ⟨⟨hexisting, hmade, hresolve, -, hset⟩, hdetect, -⟩ := questions_agree hdescribed hcolumns
  rw [htables] at hexisting hmade hresolve hset hdetect
  refine ⟨hdescribed, hcolumns, hexisting, hmade, ?_, ?_, ?_⟩
  · simp [hresolve]
  · simp [hset "1.2" (.ofParts [1, 2]) (by rfl)]
  · exact ((hdetect (List.cons_ne_nil _ _)).1 _).2 ⟨_, htext, by rfl⟩

end SchemaMigration.Upgrade
