import SchemaMigration.Failure

/-!
# SchemaMigration.Journal — what a migration reports while it runs

* `Notice` : everything that is reported, by its cause; `Notice.level`, `Notice.channel` and
  `Notice.message` are how it is written.
* `Event` : a notice, a statement sent to the database, or a commit.
* `notices`, `statements` : the two views of a journal.
* `statements_append` : the statements of a journal stand in its order.
-/

namespace SchemaMigration

/-! ## Definitions -/

/-- How much a notice matters. -/
inductive Level where
  | debug | info | warning | error | critical
  deriving DecidableEq, Repr

namespace Level

/-- Levels are compared by their ranks. -/
def rank : Level → Nat
  | .debug => 10
  | .info => 20
  | .warning => 30
  | .error => 40
  | .critical => 50

/-- The name of a level. -/
def name : Level → String
  | .debug => "DEBUG"
  | .info => "INFO"
  | .warning => "WARNING"
  | .error => "ERROR"
  | .critical => "CRITICAL"

/-- Every level. -/
def all : List Level := [.debug, .info, .warning, .error, .critical]

/-- The level with exactly this name. -/
def ofName? (s : String) : Option Level := all.find? (·.name = s)

end Level

/-- Something that is reported. -/
inductive Notice where
  | ready (vendor : Vendor)
  | catalogNotRead (vendor : Vendor) (error : String)
  | notConnected (error : String)
  | versionNotRead (sql error : String)
  | versionNotWritten (sql error : String)
  | versionSet (version table : String)
  | versionUnknown
  | scriptNotRead (path error : String)
  | executing (path : String) (number : Nat) (statement : String)
  | executed (count : Nat) (path : String)
  | noStepDirectory (path : String)
  | directorySkipped (name : String)
  | foldersUpdated (count : Nat) (resource : String)
  | initFailed (path error : String)
  | initDone (path : String)
  | stepFailed (step path error : String)
  | stepDone (step path : String)
  | sizesNotUpdated (error : String)
  | noSteps
  | upgrading (current target : String)
  | upgraded (start final : String)
  | initializing
  | connected (url : String)
  | slowStatement (statement : String)
  | reportingFrom (level : String)
  | commandFailed (error : String)
  deriving DecidableEq, Repr

namespace Notice

/-- The level of a notice. -/
def level : Notice → Level
  | .executing .. | .reportingFrom _ => .debug
  | .directorySkipped _ | .slowStatement _ => .warning
  | .catalogNotRead .. | .notConnected _ | .versionNotRead .. | .versionNotWritten ..
  | .versionUnknown | .scriptNotRead .. | .initFailed .. | .stepFailed .. | .sizesNotUpdated _
  | .commandFailed _ => .error
  | _ => .info

/-- The part of the program that a notice comes from. -/
def channel : Notice → String
  | .catalogNotRead .. => "schema_upgrade.dialect"
  | .notConnected _ | .versionNotRead .. | .versionNotWritten .. | .versionSet .. | .versionUnknown =>
    "schema_upgrade.version_registry"
  | .scriptNotRead .. | .executing .. | .executed .. => "schema_upgrade.script_executor"
  | .noStepDirectory _ | .directorySkipped _ => "schema_upgrade.schema_catalog"
  | .foldersUpdated .. => "schema_upgrade.resource_fixup"
  | .ready _ | .initFailed .. | .initDone _ | .stepFailed .. | .stepDone .. | .sizesNotUpdated _
  | .noSteps | .upgrading .. | .upgraded .. | .initializing => "schema_upgrade.orchestrator"
  | .reportingFrom _ => "schema_upgrade.config"
  | .connected _ | .slowStatement _ => "schema_upgrade.engine"
  | .commandFailed _ => "schema_upgrade.cli"

/-- The first hundred characters of a statement. -/
def beginning (statement : String) : String := String.ofList (statement.toList.take 100)

/-- The wording of a notice; `elapsed` is the time that it may mention. -/
def message (elapsed : String) : Notice → String
  | .ready vendor => "Migration orchestrator initialized for " ++ vendor.name
  | .catalogNotRead vendor error => "Catalog query failed on " ++ vendor.name ++ ": " ++ error
  | .notConnected error => "Database connection error: " ++ error
  | .versionNotRead sql error =>
    "Get current version from database error, sql: " ++ sql ++ ": " ++ error
  | .versionNotWritten sql error => "Update version error, sql: " ++ sql ++ ": " ++ error
  | .versionSet version table => "Schema version set to " ++ version ++ " in " ++ table
  | .versionUnknown => "Unable to determine current software version, so cannot upgrade"
  | .scriptNotRead path error => "Cannot read sql file " ++ path ++ ": " ++ error
  | .executing path number statement =>
    "Executing sql " ++ path ++ " [" ++ toString number ++ "]: " ++ beginning statement
  | .executed count path =>
    "Executed " ++ toString count ++ " statements from " ++ path ++ " in " ++ elapsed ++ "s"
  | .noStepDirectory path => "No upgrade directory at " ++ path
  | .directorySkipped name => "Skipping upgrade directory with no version prefix: " ++ name
  | .foldersUpdated count resource =>
    "Updated size of " ++ toString count ++ " " ++ resource ++ " resource folders"
  | .initFailed path error => "Execute initialize sql file: " ++ path ++ " error: " ++ error
  | .initDone path => "Success execute the sql initialize file: " ++ path
  | .stepFailed step path error =>
    "Execute sql file failed, schemaDir: " ++ step ++ ", script: " ++ path ++ ": " ++ error
  | .stepDone step path =>
    "Success execute the sql file, schemaDir: " ++ step ++ ", script: " ++ path
  | .sizesNotUpdated error =>
    "Failed to update the folder's size of resource files, continuing the upgrade: " ++ error
  | .noSteps => "There is no schema to upgrade"
  | .upgrading current target =>
    "Upgrade metadata version from " ++ current ++ " to " ++ target
  | .upgraded start final => "Upgrade database version from " ++ start ++ " to " ++ final
  | .initializing => "Schema is not initialized, running the init script"
  | .connected url => "Database engine created for " ++ url
  | .slowStatement statement =>
    "Slow statement (" ++ elapsed ++ "s): " ++ beginning statement ++ "..."
  | .reportingFrom level => "Logging configured: level=" ++ level
  | .commandFailed error => "Schema upgrade failed: " ++ error

end Notice

/-- The values sent with a statement: once, or once for each time the statement is carried out. -/
inductive Parameters where
  | once (values : List Sql.Value)
  | each (rows : List (List Sql.Value))
  deriving DecidableEq, Repr

/-- Something that happens in a migration. -/
inductive Event where
  | notice (n : Notice)
  | sent (statement : String) (parameters : Parameters)
  | committed
  deriving DecidableEq, Repr

/-- What has happened, in order. -/
abbrev Journal := List Event

/-- The notices of a journal. -/
def notices (j : Journal) : List Notice :=
  j.filterMap fun
    | .notice n => some n
    | _ => none

/-- The statements sent and the commits of a journal. -/
def statements (j : Journal) : List Event :=
  j.filter fun
    | .notice _ => false
    | _ => true

/-! ## Small facts -/

@[simp] theorem statements_append (j k : Journal) :
    statements (j ++ k) = statements j ++ statements k := by
  simp [statements]

end SchemaMigration
