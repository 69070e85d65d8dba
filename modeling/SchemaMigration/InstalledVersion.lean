import SchemaMigration.Job

/-!
# SchemaMigration.InstalledVersion — the version that a database says it has

The version stands in the first row of a version table. Installations before `1.2.0` keep it in the
legacy table; still older ones have no version table and are told by their queue table.

* `existingTables`, `stored`, `current` : reading the version rows.
* `resolveTable`, `set` : writing them; the table to write is never made.
* `detect` : the installed version, also of the oldest installations.
* `chosenTable` : which of two version tables is written.
-/

namespace SchemaMigration.InstalledVersion

open Sql (Value)

/-! ## Definitions -/

/-- The version table. -/
def table : String := "t_ds_version"

/-- The version table of installations before the threshold. -/
def legacyTable : String := "t_escheduler_version"

/-- The column of a version table. -/
def column : String := "version"

/-- The table that tells the oldest installations. -/
def queueTable : String := "t_escheduler_queue"

/-- The column of the queue table that tells the younger of them. -/
def queueColumn : String := "create_time"

/-- Releases before this one keep their version in the legacy table. -/
def threshold : Version := .ofParts [1, 2, 0]

/-- The version of an installation whose queue table has the telling column. -/
def withQueueColumn : Version := .ofParts [1, 0, 1]

/-- The version of an installation with a queue table without that column. -/
def withQueueTable : Version := .ofParts [1, 0, 0]

/-- Where a named value stands in a statement. -/
def named (name : String) : String := ":" ++ name

/-- Where a value stands in a statement as it is sent. -/
def placed (_name : String) : String := "?"

/-! ### Questions to the catalog -/

/-- Whether the vendor's catalog knows a table with this folded name. -/
def tableListed (site : Site) (name : String) (db : Sql.Database) : Except Sql.Fault Bool :=
  match site.vendor, site.catalog.answer db.schema with
  | .sqlite, _ => .ok (db.hasTable name)
  | _, some c => .ok (c.tables.contains (c.schema, name))
  | _, none => .error .operational

/-- Whether the vendor's catalog knows a column with these folded names. -/
def columnListed (site : Site) (name column : String) (db : Sql.Database) : Except Sql.Fault Bool :=
  match site.vendor, site.catalog.answer db.schema with
  | .sqlite, _ => .ok (db.hasColumn name column)
  | _, some c => .ok (c.columns.contains (c.schema, name, column))
  | _, none => .error .operational

/-- How the values of a question are written in a report. -/
def describe (values : List (String × String)) : String :=
  let field := fun (n, v) => Text.quoted n ++ ": " ++ Text.quoted v
  "\x7b" ++ ", ".intercalate (values.map field) ++ "\x7d"

/-- Asks the catalog of the vendor, whose refusal is reported. -/
def askCatalog (query : (String → String) → Vendor → String) (values : List (String × String))
    (f : Site → Sql.Database → Except Sql.Fault Bool) : Job Bool := do
  let site ← Job.site
  Job.onDatabaseError
    (Job.ask (query placed site.vendor) (values.map fun v => .text v.2) (f site))
    fun cause => do
      Job.notify (.catalogNotRead site.vendor cause.message)
      Job.failFor (.queryFailed ("Check existence of " ++ describe values ++ " failed")
        (some (query named site.vendor)) (some cause))

/-- Whether a table exists, on a connection that is held already. -/
def tableKnown (name : String) : Job Bool := do
  let folded := (← Job.site).vendor.foldIdentifier name
  askCatalog Vendor.tableQuery [("table_name", folded)] fun site => tableListed site folded

/-- Whether a table has a column, on a connection that is held already. -/
def columnKnown (name column : String) : Job Bool := do
  let vendor := (← Job.site).vendor
  let folded := vendor.foldIdentifier name
  let foldedColumn := vendor.foldIdentifier column
  askCatalog Vendor.columnQuery [("table_name", folded), ("column_name", foldedColumn)]
    fun site => columnListed site folded foldedColumn

/-- Whether a table exists. -/
def tableExists (name : String) : Job Bool := Job.connected (tableKnown name)

/-- Whether a table has a column. -/
def columnExists (name column : String) : Job Bool := Job.connected (columnKnown name column)

/-! ### Reading -/

/-- The first value of the version column of a table, null where the table has no row. -/
def firstValue (name : String) (db : Sql.Database) : Except Sql.Fault Value :=
  (db.valuesIn name column).map fun vs => vs.head?.getD .null

/-- Reads the version row of a table that exists. -/
def readRow (name : String) : Job Value := do
  let sql := "SELECT version FROM " ++ name
  Job.onDatabaseError (Job.ask sql [] (firstValue name)) fun cause => do
    Job.notify (.versionNotRead sql cause.message)
    Job.failFor (.queryFailed ("Get current version from database error, sql: " ++ sql)
      (some sql) (some cause))

/-- The version that a value of the version column stands for. -/
def ofValue (v : Value) : Except VersionFault (Option Version) :=
  match v.display? with
  | none => .ok none
  | some s => (Version.parse s).map some

/-- The version stored in a table, if it has a row that is not null. -/
def current (name : String) : Job (Option Version) := do
  let folded := (← Job.site).vendor.foldIdentifier name
  let value ← Job.connected do
    unless ← tableKnown folded do
      Job.failFor (.versionTableMissing ("The version table " ++ folded ++ " does not exist") [folded])
    readRow folded
  Job.ofExcept Fault.ofVersion (ofValue value)

/-- The names that a question about each of them leaves, in order. -/
def keepKnown : List String → Job (List String)
  | [] => pure []
  | name :: names => do
    let known ← tableKnown name
    let rest ← keepKnown names
    return if known then name :: rest else rest

/-- The version tables that exist, the legacy one last. -/
def existingTables : Job (List String) := Job.connected (keepKnown [table, legacyTable])

/-- The version in the first of the tables that holds one. -/
def stored : List String → Job (Option Version)
  | [] => pure none
  | name :: names => do
    match ← current name with
    | some v => return some v
    | none => stored names

/-! ### Writing -/

/-- Of two version tables, the one that is written when the stored version is `v`. -/
def chosenTable (v : Option Version) : String :=
  if v.any (· < threshold) then legacyTable else table

/-- The version table that is written. -/
def resolveTable : Job String := do
  match ← existingTables with
  | [] => Job.failFor (.versionTableMissing "The version table does not exist" [table, legacyTable])
  | [name] => return name
  | names => return chosenTable (← stored names)

/-- Writes the version to every row of a table. -/
def writeRow (name : String) (v : Version) : Job Unit := do
  let sql := fun mark : String → String => "UPDATE " ++ name ++ " SET version = " ++ mark "version"
  let count ← Job.onDatabaseError
    (Job.send (sql placed) (.once [.text v.text]) fun db =>
      match db.setColumn name column (.text v.text) with
      | .ok r => .ok r
      | .error e => .error (.database e))
    fun cause => do
      Job.notify (.versionNotWritten (sql named) cause.message)
      Job.failFor (.queryFailed ("Upgrade version error, sql: " ++ sql named)
        (some (sql named)) (some cause))
  if count = 0 then Job.failFor (.versionRowMissing name)

/-- Makes `v` the stored version; the result is the table that was written. -/
def set (v : Version) : Job String := do
  let name ← resolveTable
  Job.connected (Job.transaction (writeRow name v))
  Job.notify (.versionSet v.text name)
  return name

/-- Makes the version that a text writes the stored version. -/
def setText (s : String) : Job String := do set (← Job.ofExcept Fault.ofVersion (Version.parse s))

/-! ### Detection -/

/-- What the queue table says of the version, where there is no version table. -/
def oldestVersion : Job (Option Version) := do
  if ← columnKnown queueTable queueColumn then return some withQueueColumn
  if ← tableKnown queueTable then return some withQueueTable
  return none

/-- The installed version. -/
def detect : Job Version := do
  match ← existingTables with
  | [] =>
    match ← Job.connected oldestVersion with
    | some v => return v
    | none =>
      Job.notify .versionUnknown
      Job.failFor (.versionTableMissing "Unable to determine current software version"
        [table, legacyTable])
  | names =>
    match ← stored names with
    | some v => return v
    | none => Job.failFor (.versionRowMissing (", ".intercalate names))

/-! ## Small facts -/

theorem chosenTable_of_lt {v : Version} (h : v < threshold) : chosenTable (some v) = legacyTable := by
  simp [chosenTable, h]

end SchemaMigration.InstalledVersion
