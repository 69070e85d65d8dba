import SchemaMigration.Text.Case
import SchemaMigration.Text.Blank

/-!
# SchemaMigration.Vendor — the supported databases

* `Vendor.ofName?` : a vendor by its name or one of its other names.
* `Vendor.scriptPath` : where the scripts of a vendor lie below the resource root.
* `Vendor.foldIdentifier` : the case in which a vendor keeps names that are not quoted.
* `Vendor.tableQuery`, `Vendor.columnQuery` : how a vendor is asked for tables and columns.
* `ofExactName?_name` : a vendor is found by its own name.
-/

namespace SchemaMigration

/-! ## Definitions -/

/-- The supported databases. -/
inductive Vendor where
  | mysql | postgresql | sqlite
  deriving DecidableEq, Repr

/-- What a script is for. -/
inductive ScriptKind where
  /-- Creates the whole schema. -/
  | init
  /-- Changes the tables of a step. -/
  | ddl
  /-- Changes the rows of a step. -/
  | dml
  deriving DecidableEq, Repr

/-- The name of a kind of script. -/
def ScriptKind.name : ScriptKind → String
  | .init => "init"
  | .ddl => "ddl"
  | .dml => "dml"

/-- The kind of script with this name. -/
def ScriptKind.ofName? (s : String) : Option ScriptKind :=
  [ScriptKind.init, .ddl, .dml].find? (·.name = s)

namespace Vendor

/-- The name of a vendor. -/
def name : Vendor → String
  | .mysql => "mysql"
  | .postgresql => "postgresql"
  | .sqlite => "sqlite"

/-- Every vendor. -/
def all : List Vendor := [.mysql, .postgresql, .sqlite]

/-- The vendor with exactly this name. -/
def ofExactName? (s : String) : Option Vendor := all.find? (·.name = s)

/-- The names that stand for a vendor. -/
def aliases : List (String × Vendor) :=
  [("mysql", .mysql), ("mariadb", .mysql), ("postgresql", .postgresql), ("postgres", .postgresql),
    ("pg", .postgresql), ("sqlite", .sqlite), ("sqlite3", .sqlite)]

/-- The vendor that a name stands for, whatever its case and the blanks around it. -/
def ofName? (s : String) : Option Vendor := aliases.lookup (Text.trimmed (Text.foldAscii s))

/-! ### Scripts -/

/-- The path of the script that creates the schema. -/
def initScriptPath (v : Vendor) : String := "sql/dolphinscheduler_" ++ v.name ++ ".sql"

/-- The path of a script of the step `step`. -/
def stepScriptPath (v : Vendor) (kind : ScriptKind) (step : String) : String :=
  "sql/upgrade/" ++ step ++ "/" ++ v.name ++ "/dolphinscheduler_" ++ kind.name ++ ".sql"

/-- The path of a script; every kind but the first needs the name of a step. -/
def scriptPath (v : Vendor) (kind : ScriptKind) (step : Option String) : Option String :=
  match kind, step.getD "" with
  | .init, _ => some v.initScriptPath
  | _, "" => none
  | kind, step => some (v.stepScriptPath kind step)

/-! ### Names and questions to the catalog -/

/-- A name that is not quoted, in the case in which the vendor keeps it. -/
def foldIdentifier : Vendor → String → String
  | .postgresql, s => Text.lower s
  | _, s => s

/-- The question whether a table exists; `mark` writes the place of a named value. -/
def tableQuery (mark : String → String) : Vendor → String
  | .mysql =>
    "SELECT 1 FROM information_schema.tables WHERE table_schema = DATABASE() AND table_name = "
      ++ mark "table_name"
  | .postgresql =>
    "SELECT 1 FROM information_schema.tables WHERE table_schema = current_schema() AND table_name = "
      ++ mark "table_name"
  | .sqlite =>
    "SELECT name FROM sqlite_master WHERE type = 'table' AND lower(name) = lower("
      ++ mark "table_name" ++ ")"

/-- The question whether a table has a column; `mark` writes the place of a named value. -/
def columnQuery (mark : String → String) : Vendor → String
  | .mysql =>
    "SELECT 1 FROM information_schema.columns WHERE table_schema = DATABASE() AND table_name = "
      ++ mark "table_name" ++ " AND column_name = " ++ mark "column_name"
  | .postgresql =>
    "SELECT 1 FROM information_schema.columns WHERE table_schema = current_schema() AND table_name = "
      ++ mark "table_name" ++ " AND column_name = " ++ mark "column_name"
  | .sqlite =>
    "SELECT name FROM pragma_table_info(" ++ mark "table_name" ++ ") WHERE lower(name) = lower("
      ++ mark "column_name" ++ ")"

/-! ## Small facts -/

theorem ofExactName?_name (v : Vendor) : ofExactName? v.name = some v := by cases v <;> decide

end Vendor

end SchemaMigration
