import SchemaMigration.Machine

/-!
# SchemaMigration.Rehearsal — libraries to rehearse a run with

Databases are kept in files, or in memory for one run; the server of another database is never reached. Only the
most common names of drivers are known, and options in an address are passed over.

* `Rehearsal.drivers` : the driver for an address.
* `Rehearsal.server`, `Rehearsal.leave` : the database of a run.
* `Rehearsal.platform` : all of it.
-/

namespace SchemaMigration.Rehearsal

/-! ## Definitions -/

/-! ### Drivers -/

/-- The drivers by the names that addresses give to them. -/
def knownDrivers : List (String × Driver) :=
  [("sqlite", ⟨"sqlite", "pysqlite"⟩), ("sqlite+pysqlite", ⟨"sqlite", "pysqlite"⟩),
    ("postgresql", ⟨"postgresql", "psycopg2"⟩), ("postgresql+psycopg2", ⟨"postgresql", "psycopg2"⟩)]

/-- The name of a driver as a missing one is reported. -/
def dotted (name : String) : String := String.ofList (name.toList.map fun c => if c = '+' then '.' else c)

/-- There is no driver of this name. -/
def noDriver (name : String) : Accident :=
  .foreign "NoSuchModuleError" ("Can't load plugin: sqlalchemy.dialects:" ++ dotted name)

/-- An address of a file names neither user nor host; an empty name and port 0 count as none. -/
def namesServer (url : DatabaseUrl) : Bool :=
  url.user.getD "" ≠ "" || url.host.getD "" ≠ "" || url.password.getD "" ≠ "" || url.port.getD 0 ≠ 0

/-- An address of a file names a server. -/
def misplacedParts (url : DatabaseUrl) : Accident :=
  .foreign "ArgumentError" ("Invalid SQLite URL: " ++ url.unmasked ++
    "\nValid SQLite URL forms are sqlite:///:memory: or sqlite:////absolute/path/to/file.db")

/-- The driver for an address. -/
def drivers : Drivers := fun url _ =>
  match knownDrivers.lookup url.driver with
  | none => .error (noDriver url.driver)
  | some driver =>
    if driver.dialect = "sqlite" && namesServer url then .error (misplacedParts url) else .ok driver

/-! ### Databases -/

/-- The file that holds the database; none for a database in memory. -/
def file? (c : Connection) : Option String :=
  match c.url.database.getD "" with
  | "" => none
  | ":memory:" => none
  | file => some file

/-- What answers over a connection. A database in memory is empty at first; servers are out of reach. -/
def server (m : Machine) (c : Connection) : Server where
  storage :=
    if c.driver.dialect = "sqlite" then ((file? c).map m.storageAt).getD (.database {})
    else .unreachable (.database .operational)

/-- The machine after work over a connection. -/
def leave (m : Machine) (c : Connection) (storage : Storage) : Machine :=
  if c.driver.dialect = "sqlite" then ((file? c).map fun file => m.keepStorage file storage).getD m else m

/-- The libraries, where a search for a file of variables finds `found`. -/
def platform (found : Option String := none) : Platform where
  loadVariables := fun files file env => EnvFile.load files found file env
  drivers := drivers
  server := server
  leave := leave

end SchemaMigration.Rehearsal
