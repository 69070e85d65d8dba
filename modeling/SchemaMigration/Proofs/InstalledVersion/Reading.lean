import SchemaMigration.InstalledVersion
import SchemaMigration.Proofs.JobLogic

/-!
# SchemaMigration.Proofs.InstalledVersion.Reading — what is read of the installed version

Every question about the version tables only reads, so it is described by its answer on a database.  One
lemma for each question says when the answer is a good one.

* `existingTables_eq_ok_iff`, `current_eq_ok_iff`, `answer_stored_cons` : which version tables exist, what
  stands in one, and what stands in the first that holds a version.
* `resolveTable_eq_ok_iff`, `detect_eq_ok_of_stored` : the table that is written, and the installed version.
* `oldestVersion_eq_ok_some_iff`, `detect_eq_ok_cases` : the version that the queue table tells, and from where
  the installed version is known.
-/

namespace SchemaMigration.InstalledVersion

open Job

variable {site : Site} {db : Sql.Database} {name : String} {v : Version}

/-! ## Questions to the catalog -/

theorem isReading_askCatalog (query : (String → String) → Vendor → String)
    (values : List (String × String)) (f : Site → Sql.Database → Except Sql.Fault Bool) :
    IsReading (askCatalog query values f) := by
  refine isReading_bind isReading_site fun _ => ?_
  refine isReading_onDatabaseError (isReading_ask _ _ _) fun _ => ?_
  exact isReading_bind (isReading_notify _) fun _ => isReading_failFor _

theorem askCatalog_eq_ok_iff {query : (String → String) → Vendor → String}
    {values : List (String × String)} {f : Site → Sql.Database → Except Sql.Fault Bool} {b : Bool} :
    (askCatalog query values f).answer site db = .ok b ↔ f site db = .ok b := by
  unfold askCatalog
  rw [answer_bind isReading_site fun s => ?_]
  · simp only [answer_site, Except.bind]
    rw [answer_reported (isReading_ask _ _ _), mapError_eq_ok_iff, answer_ask, mapError_eq_ok_iff]
  · refine isReading_onDatabaseError (isReading_ask _ _ _) fun _ => ?_
    exact isReading_bind (isReading_notify _) fun _ => isReading_failFor _

theorem isReading_tableKnown (name : String) : IsReading (tableKnown name) :=
  isReading_bind isReading_site fun _ => isReading_askCatalog _ _ _

theorem isReading_columnKnown (name column : String) : IsReading (columnKnown name column) :=
  isReading_bind isReading_site fun _ => isReading_askCatalog _ _ _

theorem tableKnown_eq_ok_iff {b : Bool} :
    (tableKnown name).answer site db = .ok b ↔
      tableListed site (site.vendor.foldIdentifier name) db = .ok b := by
  unfold tableKnown
  rw [answer_bind isReading_site fun _ => isReading_askCatalog _ _ _]
  exact askCatalog_eq_ok_iff

theorem columnKnown_eq_ok_iff {column : String} {b : Bool} :
    (columnKnown name column).answer site db = .ok b ↔
      columnListed site (site.vendor.foldIdentifier name) (site.vendor.foldIdentifier column) db = .ok b := by
  unfold columnKnown
  rw [answer_bind isReading_site fun _ => isReading_askCatalog _ _ _]
  exact askCatalog_eq_ok_iff

theorem table_mem : table ∈ [table, legacyTable] := List.mem_cons_self

theorem legacyTable_mem : legacyTable ∈ [table, legacyTable] := List.mem_cons_of_mem _ List.mem_cons_self

theorem not_sameName : Sql.sameName table legacyTable = false ∧ Sql.sameName legacyTable table = false := by
  decide +kernel

/-- The names of the version tables stand for themselves with every vendor. -/
theorem foldIdentifier_of_mem (v : Vendor) (h : name ∈ [table, legacyTable]) :
    v.foldIdentifier name = name := by
  simp only [List.mem_cons, List.not_mem_nil, or_false] at h
  rcases h with rfl | rfl <;> cases v <;> decide +kernel

theorem foldIdentifier_queue (v : Vendor) :
    v.foldIdentifier queueTable = queueTable ∧ v.foldIdentifier queueColumn = queueColumn := by
  cases v <;> decide +kernel

theorem isReading_tableExists (name : String) : IsReading (tableExists name) :=
  isReading_connected (isReading_tableKnown name)

theorem tableExists_eq_ok_iff {b : Bool} (hn : name ∈ [table, legacyTable]) :
    (tableExists name).answer site db = .ok b ↔ tableListed site name db = .ok b := by
  unfold tableExists
  rw [answer_connected (isReading_tableKnown name), mapError_eq_ok_iff, tableKnown_eq_ok_iff,
    foldIdentifier_of_mem site.vendor hn]

/-! ## The version tables -/

theorem isReading_keepKnown (names : List String) : IsReading (keepKnown names) := by
  induction names with
  | nil => exact isReading_pure _
  | cons n ns ih =>
    refine isReading_bind (isReading_tableKnown n) fun _ => ?_
    exact isReading_bind ih fun _ => isReading_pure _

theorem keepKnown_cons_eq_ok_iff {names kept : List String} :
    (keepKnown (name :: names)).answer site db = .ok kept ↔
      ∃ b rest, tableListed site (site.vendor.foldIdentifier name) db = .ok b ∧
        (keepKnown names).answer site db = .ok rest ∧ kept = if b then name :: rest else rest := by
  have hrest : ∀ b, IsReading (do
      let rest ← keepKnown names
      return if b = true then name :: rest else rest : Job (List String)) :=
    fun b => isReading_bind (isReading_keepKnown names) fun _ => isReading_pure _
  simp only [keepKnown]
  rw [answer_bind_eq_ok (isReading_tableKnown name) hrest]
  simp only [answer_bind_eq_ok (isReading_keepKnown names) fun _ => isReading_pure _, answer_pure,
    tableKnown_eq_ok_iff, Except.ok.injEq]
  constructor
  · rintro ⟨b, hb, rest, hr, rfl⟩
    exact ⟨b, rest, hb, hr, rfl⟩
  · rintro ⟨b, rest, hb, hr, rfl⟩
    exact ⟨b, hb, rest, hr, rfl⟩

theorem isReading_existingTables : IsReading existingTables :=
  isReading_connected (isReading_keepKnown _)

/-- The version tables that exist, the legacy one last. -/
theorem existingTables_eq_ok_iff {names : List String} :
    existingTables.answer site db = .ok names ↔
      ∃ a b, tableListed site table db = .ok a ∧ tableListed site legacyTable db = .ok b ∧
        names = (if a then [table] else []) ++ if b then [legacyTable] else [] := by
  have hnil : ∀ rest, (keepKnown []).answer site db = .ok rest ↔ rest = [] :=
    fun rest => ⟨fun h => by cases h; rfl, fun h => by rw [h]; rfl⟩
  unfold existingTables
  rw [answer_connected (isReading_keepKnown _), mapError_eq_ok_iff]
  simp only [keepKnown_cons_eq_ok_iff, hnil, foldIdentifier_of_mem site.vendor table_mem,
    foldIdentifier_of_mem site.vendor legacyTable_mem]
  constructor
  · rintro ⟨a, rest, ha, ⟨b, rest', hb, rfl, rfl⟩, rfl⟩
    refine ⟨a, b, ha, hb, ?_⟩
    cases a <;> rfl
  · rintro ⟨a, b, ha, hb, rfl⟩
    refine ⟨a, _, ha, ⟨b, [], hb, rfl, rfl⟩, ?_⟩
    cases a <;> rfl

/-- There are four ways in which the version tables can exist. -/
theorem existingTables_cases {names : List String} (h : existingTables.answer site db = .ok names) :
    names = [] ∨ names = [table] ∨ names = [legacyTable] ∨ names = [table, legacyTable] := by
  obtain ⟨a, b, -, -, rfl⟩ := existingTables_eq_ok_iff.1 h
  cases a <;> cases b <;> simp

theorem tableListed_of_mem {names : List String} (h : existingTables.answer site db = .ok names)
    (hn : name ∈ names) : name ∈ [table, legacyTable] ∧ tableListed site name db = .ok true := by
  obtain ⟨a, b, ha, hb, rfl⟩ := existingTables_eq_ok_iff.1 h
  rcases List.mem_append.1 hn with hn | hn
  · cases a with
    | false => simp at hn
    | true =>
      rw [if_pos rfl, List.mem_singleton] at hn
      subst hn
      exact ⟨by simp, ha⟩
  · cases b with
    | false => simp at hn
    | true =>
      rw [if_pos rfl, List.mem_singleton] at hn
      subst hn
      exact ⟨by simp, hb⟩

/-! ## Stored versions -/

theorem isReading_readRow (name : String) : IsReading (readRow name) := by
  unfold readRow
  refine isReading_onDatabaseError (isReading_ask _ _ _) fun _ => ?_
  exact isReading_bind (isReading_notify _) fun _ => isReading_failFor _

theorem readRow_eq_ok_iff {value : Sql.Value} :
    (readRow name).answer site db = .ok value ↔ firstValue name db = .ok value := by
  unfold readRow
  rw [answer_reported (isReading_ask _ _ _), mapError_eq_ok_iff, answer_ask, mapError_eq_ok_iff]

theorem isReading_readKnown (name : String) (r : Reason) :
    IsReading (do unless ← tableKnown name do failFor r
                  readRow name : Job Sql.Value) :=
  isReading_bind (isReading_tableKnown name) fun _ => isReading_require (isReading_readRow name) _ _

theorem isReading_current (name : String) : IsReading (current name) := by
  refine isReading_bind isReading_site fun s => ?_
  exact isReading_bind (isReading_connected (isReading_readKnown _ _)) fun _ => isReading_ofExcept _ _

/-- What stands in a version table. -/
theorem current_eq_ok_iff {o : Option Version} (hn : name ∈ [table, legacyTable]) :
    (current name).answer site db = .ok o ↔
      tableListed site name db = .ok true ∧
        ∃ value, firstValue name db = .ok value ∧ ofValue value = .ok o := by
  unfold current
  rw [answer_bind isReading_site fun s => isReading_bind
    (isReading_connected (isReading_readKnown _ _)) fun _ => isReading_ofExcept _ _]
  simp only [answer_site, Except.bind, foldIdentifier_of_mem site.vendor hn]
  rw [answer_bind_eq_ok (isReading_connected (isReading_readKnown _ _)) fun _ => isReading_ofExcept _ _]
  simp only [answer_connected (isReading_readKnown _ _), mapError_eq_ok_iff, answer_ofExcept]
  have hread : ∀ r value, (do unless ← tableKnown name do failFor r
                              readRow name : Job Sql.Value).answer site db = .ok value ↔
      tableListed site name db = .ok true ∧ firstValue name db = .ok value := by
    intro r value
    rw [answer_bind_eq_ok (isReading_tableKnown name) fun _ => isReading_require (isReading_readRow name) _ _]
    simp only [tableKnown_eq_ok_iff, foldIdentifier_of_mem site.vendor hn,
      require_eq_ok_iff (isReading_readRow name), readRow_eq_ok_iff]
    constructor
    · rintro ⟨b, hb, rfl, hv⟩
      exact ⟨hb, hv⟩
    · rintro ⟨hb, hv⟩
      exact ⟨true, hb, rfl, hv⟩
  simp only [hread]
  constructor
  · rintro ⟨value, ⟨hb, hv⟩, ho⟩
    exact ⟨hb, value, hv, ho⟩
  · rintro ⟨hb, value, hv, ho⟩
    exact ⟨value, ⟨hb, hv⟩, ho⟩

theorem isReading_stored (names : List String) : IsReading (stored names) := by
  induction names with
  | nil => exact isReading_pure _
  | cons n ns ih =>
    refine isReading_bind (isReading_current n) fun o => ?_
    cases o with
    | some v => exact isReading_pure _
    | none => exact ih

/-- The version that is found is that of the first table, or else that of the others. -/
theorem answer_stored_cons (names : List String) :
    (stored (name :: names)).answer site db =
      ((current name).answer site db).bind fun
        | some v => .ok (some v)
        | none => (stored names).answer site db := by
  rw [stored]
  refine (answer_bind (isReading_current name) fun o => ?_).trans ?_
  · cases o with
    | some v => exact isReading_pure _
    | none => exact isReading_stored names
  · cases (current name).answer site db with
    | error e => rfl
    | ok o => cases o <;> rfl

theorem answer_stored_of_some {names : List String} (h : (current name).answer site db = .ok (some v)) :
    (stored (name :: names)).answer site db = .ok (some v) := by
  rw [answer_stored_cons, h]
  rfl

theorem answer_stored_of_none {names : List String} (h : (current name).answer site db = .ok none) :
    (stored (name :: names)).answer site db = (stored names).answer site db := by
  rw [answer_stored_cons, h]
  rfl

theorem answer_stored_singleton : (stored [name]).answer site db = (current name).answer site db := by
  rw [answer_stored_cons]
  cases (current name).answer site db with
  | error e => rfl
  | ok o => cases o <;> rfl

/-- The versions in the two tables that lead to what is stored in them. -/
theorem stored_pair_eq_ok {a b : String} {o : Option Version}
    (h : (stored [a, b]).answer site db = .ok o) :
    (∃ w, (current a).answer site db = .ok (some w) ∧ o = some w) ∨
      (current a).answer site db = .ok none ∧ (current b).answer site db = .ok o := by
  cases ha : (current a).answer site db with
  | error e =>
    rw [answer_stored_cons, ha] at h
    cases h
  | ok x =>
    cases x with
    | some w =>
      rw [answer_stored_of_some ha] at h
      cases h
      exact .inl ⟨w, rfl, rfl⟩
    | none =>
      rw [answer_stored_of_none ha, answer_stored_singleton] at h
      exact .inr ⟨rfl, h⟩

theorem chosenTable_of_not_lt {w : Version} (h : ¬ w < threshold) : chosenTable (some w) = table := by
  simp [chosenTable, h]

/-- The table that is written when `o` is stored: the legacy one for an old version, and else the other. -/
theorem chosenTable_cases (o : Option Version) :
    chosenTable o = table ∧ (∀ w, o = some w → ¬ w < threshold) ∨
      chosenTable o = legacyTable ∧ ∃ w, o = some w ∧ w < threshold := by
  cases o with
  | none => exact .inl ⟨rfl, fun w h => by cases h⟩
  | some w =>
    by_cases hw : w < threshold
    · exact .inr ⟨chosenTable_of_lt hw, w, rfl, hw⟩
    · exact .inl ⟨chosenTable_of_not_lt hw, fun u h => by cases h; exact hw⟩

/-! ## The table that is written, and the installed version -/

/-- Of the version tables that exist, the one that is written. -/
def chooseTable : List String → Job String
  | [] => failFor (.versionTableMissing "The version table does not exist" [table, legacyTable])
  | [name] => pure name
  | names => do return chosenTable (← stored names)

theorem resolveTable_eq : resolveTable = existingTables >>= chooseTable := rfl

theorem isReading_chooseTable (names : List String) : IsReading (chooseTable names) := by
  match names with
  | [] => exact isReading_failFor _
  | [n] => exact isReading_pure _
  | n :: m :: ns => exact isReading_bind (isReading_stored _) fun _ => isReading_pure _

theorem isReading_resolveTable : IsReading resolveTable := by
  rw [resolveTable_eq]
  exact isReading_bind isReading_existingTables isReading_chooseTable

/-- Where one version table exists it is written; where both exist the version that they hold decides. -/
theorem resolveTable_eq_ok_iff :
    resolveTable.answer site db = .ok name ↔
      existingTables.answer site db = .ok [name] ∨
        existingTables.answer site db = .ok [table, legacyTable] ∧
          ∃ o, (stored [table, legacyTable]).answer site db = .ok o ∧ name = chosenTable o := by
  have hboth : (chooseTable [table, legacyTable]).answer site db = .ok name ↔
      ∃ o, (stored [table, legacyTable]).answer site db = .ok o ∧ name = chosenTable o := by
    refine (answer_bind_eq_ok (isReading_stored _) fun _ => isReading_pure _).trans ?_
    simp only [answer_pure, Except.ok.injEq, eq_comm]
  rw [resolveTable_eq, answer_bind_eq_ok isReading_existingTables isReading_chooseTable]
  constructor
  · rintro ⟨names, he, hn⟩
    rcases existingTables_cases he with rfl | rfl | rfl | rfl
    · cases hn
    · cases hn
      exact .inl he
    · cases hn
      exact .inl he
    · exact .inr ⟨he, hboth.1 hn⟩
  · rintro (he | ⟨he, ho⟩)
    · exact ⟨_, he, rfl⟩
    · exact ⟨_, he, hboth.2 ho⟩

/-- What the queue table tells of the version by being there. -/
def versionByTable (found : Bool) : Job (Option Version) := do
  if found then return some withQueueTable
  return none

/-- What the queue table tells of the version by its column, or else by being there. -/
def versionByColumn : Bool → Job (Option Version)
  | true => return some withQueueColumn
  | false => tableKnown queueTable >>= versionByTable

theorem oldestVersion_eq : oldestVersion = columnKnown queueTable queueColumn >>= versionByColumn := by
  refine congrArg (columnKnown queueTable queueColumn >>= ·) (funext fun b => ?_)
  cases b <;> rfl

theorem isReading_versionByTable (found : Bool) : IsReading (versionByTable found) := by
  cases found <;> exact isReading_pure _

theorem isReading_versionByColumn (found : Bool) : IsReading (versionByColumn found) := by
  cases found with
  | true => exact isReading_pure _
  | false => exact isReading_bind (isReading_tableKnown _) isReading_versionByTable

theorem isReading_oldestVersion : IsReading oldestVersion := by
  rw [oldestVersion_eq]
  exact isReading_bind (isReading_columnKnown _ _) isReading_versionByColumn

/-- The queue table tells the version by its column, or else by being there. -/
theorem oldestVersion_eq_ok_some_iff :
    oldestVersion.answer site db = .ok (some v) ↔
      columnListed site queueTable queueColumn db = .ok true ∧ v = withQueueColumn ∨
        columnListed site queueTable queueColumn db = .ok false ∧ tableListed site queueTable db = .ok true ∧
          v = withQueueTable := by
  rw [oldestVersion_eq, answer_bind_eq_ok (isReading_columnKnown _ _) isReading_versionByColumn]
  simp only [columnKnown_eq_ok_iff, (foldIdentifier_queue site.vendor).1, (foldIdentifier_queue site.vendor).2]
  constructor
  · rintro ⟨b, hb, hrest⟩
    cases b with
    | true =>
      cases hrest
      exact .inl ⟨hb, rfl⟩
    | false =>
      obtain ⟨t, ht, hv⟩ := (answer_bind_eq_ok (isReading_tableKnown _) isReading_versionByTable).1 hrest
      rw [tableKnown_eq_ok_iff, (foldIdentifier_queue site.vendor).1] at ht
      cases t with
      | true =>
        cases hv
        exact .inr ⟨hb, ht, rfl⟩
      | false => cases hv
  · rintro (⟨hb, rfl⟩ | ⟨hb, ht, rfl⟩)
    · exact ⟨true, hb, rfl⟩
    · refine ⟨false, hb, (answer_bind_eq_ok (isReading_tableKnown _) isReading_versionByTable).2 ⟨true, ?_, rfl⟩⟩
      rw [tableKnown_eq_ok_iff, (foldIdentifier_queue site.vendor).1]
      exact ht

/-- The installed version where the version tables `names` exist. -/
def detectIn : List String → Job Version
  | [] => do
    match ← connected oldestVersion with
    | some v => return v
    | none =>
      notify .versionUnknown
      failFor (.versionTableMissing "Unable to determine current software version" [table, legacyTable])
  | names => do
    match ← stored names with
    | some v => return v
    | none => failFor (.versionRowMissing (", ".intercalate names))

theorem detect_eq : detect = existingTables >>= detectIn := rfl

/-- The version that was found, or what is done without one. -/
def orAbsent (absent : Job Version) : Option Version → Job Version
  | some v => return v
  | none => absent

theorem detectIn_nil :
    detectIn [] = connected oldestVersion >>= orAbsent (do
      notify .versionUnknown
      failFor (.versionTableMissing "Unable to determine current software version" [table, legacyTable])) := by
  refine congrArg (connected oldestVersion >>= ·) (funext fun o => ?_)
  cases o <;> rfl

theorem detectIn_cons (name : String) (names : List String) :
    detectIn (name :: names) = stored (name :: names) >>=
      orAbsent (failFor (.versionRowMissing (", ".intercalate (name :: names)))) := by
  refine congrArg (stored (name :: names) >>= ·) (funext fun o => ?_)
  cases o <;> rfl

theorem isReading_orAbsent {absent : Job Version} (h : IsReading absent) (o : Option Version) :
    IsReading (orAbsent absent o) := by
  cases o with
  | some v => exact isReading_pure v
  | none => exact h

theorem isReading_unknown :
    IsReading (do
      notify .versionUnknown
      failFor (.versionTableMissing "Unable to determine current software version" [table, legacyTable]) :
      Job Version) :=
  isReading_bind (isReading_notify _) fun _ => isReading_failFor _

theorem isReading_detectIn (names : List String) : IsReading (detectIn names) := by
  cases names with
  | nil =>
    rw [detectIn_nil]
    exact isReading_bind (isReading_connected isReading_oldestVersion) (isReading_orAbsent isReading_unknown)
  | cons n ns =>
    rw [detectIn_cons]
    exact isReading_bind (isReading_stored _) (isReading_orAbsent (isReading_failFor _))

theorem isReading_detect : IsReading detect := by
  rw [detect_eq]
  exact isReading_bind isReading_existingTables isReading_detectIn

/-- Where version tables exist, the installed version is the one that they hold. -/
theorem detect_eq_ok_of_stored {names : List String} {v : Version}
    (he : existingTables.answer site db = .ok names)
    (hs : (stored names).answer site db = .ok (some v)) : detect.answer site db = .ok v := by
  rw [detect_eq, answer_bind_eq_ok isReading_existingTables isReading_detectIn]
  refine ⟨names, he, ?_⟩
  cases names with
  | nil => cases hs
  | cons n ns =>
    rw [detectIn_cons]
    exact (answer_bind_eq_ok (isReading_stored _) (isReading_orAbsent (isReading_failFor _))).2 ⟨some v, hs, rfl⟩

/-- A version that is detected stands in a version table, or the queue table tells it. -/
theorem detect_eq_ok_cases (h : detect.answer site db = .ok v) :
    (∃ names, names ≠ [] ∧ existingTables.answer site db = .ok names ∧
        (stored names).answer site db = .ok (some v)) ∨
      existingTables.answer site db = .ok [] ∧ oldestVersion.answer site db = .ok (some v) := by
  rw [detect_eq, answer_bind_eq_ok isReading_existingTables isReading_detectIn] at h
  obtain ⟨names, he, hv⟩ := h
  cases names with
  | nil =>
    rw [detectIn_nil, answer_bind_eq_ok (isReading_connected isReading_oldestVersion)
      (isReading_orAbsent isReading_unknown)] at hv
    obtain ⟨o, ho, hv⟩ := hv
    rw [answer_connected isReading_oldestVersion, mapError_eq_ok_iff] at ho
    cases o with
    | none => cases hv
    | some w =>
      cases hv
      exact .inr ⟨he, ho⟩
  | cons n ns =>
    rw [detectIn_cons, answer_bind_eq_ok (isReading_stored _) (isReading_orAbsent (isReading_failFor _))] at hv
    obtain ⟨o, ho, hv⟩ := hv
    cases o with
    | none => cases hv
    | some w =>
      cases hv
      exact .inl ⟨n :: ns, List.cons_ne_nil _ _, he, ho⟩

end SchemaMigration.InstalledVersion
