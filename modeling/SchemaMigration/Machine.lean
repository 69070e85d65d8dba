import SchemaMigration.Connection
import SchemaMigration.Job

/-!
# SchemaMigration.Machine — files and databases

* `Machine.storageAt` : what lies at the path of a database. A file that does not exist is made where its
  directory exists.
* `Machine.keepStorage` : the machine after work on a database.
* `Platform` : the libraries below a run, whatever they do.
-/

namespace SchemaMigration

/-! ## Definitions -/

/-- Files, and the databases in some of them. -/
structure Machine where
  files : FileTree := {}
  /-- The databases by the names that lead to their files. -/
  databases : List (List String × Sql.Database) := []
  /-- Every statement counts as slow. -/
  slow : Bool := false
  deriving DecidableEq, Repr

namespace Machine

/-- What lies at the names that lead to a database. -/
def storageOf (m : Machine) (names : List String) : Storage :=
  let unreachable := Storage.unreachable (.database .operational)
  match m.databases.lookup names with
  | some db => .database db
  | none =>
    if names.any fun part => part.toList.contains (Char.ofNat 0) then
      .unreachable (.foreign "ValueError" "embedded null byte")
    else if names.any fun part => FileTree.maxNameBytes < part.utf8ByteSize then unreachable
    else match m.files.node? names with
      | some .directory => unreachable
      | some (.file bytes) => if bytes.isEmpty then .database {} else .notADatabase
      | none =>
        if m.files.node? names.dropLast = some .directory then .database {} else unreachable

/-- What lies at the path of a database. -/
def storageAt (m : Machine) (file : String) : Storage := m.storageOf (m.files.resolve (.parse file))

/-- The machine with a database at the given names. -/
def keep (m : Machine) (names : List String) (db : Sql.Database) : Machine :=
  { m with databases := (names, db) :: m.databases.filter (·.1 ≠ names) }

/-- The machine after work that left this at the path of a database. -/
def keepStorage (m : Machine) (file : String) : Storage → Machine
  | .database db => m.keep (m.files.resolve (.parse file)) db
  | _ => m

end Machine

/-- What answers over a connection. -/
structure Server where
  storage : Storage
  catalog : Catalog := ⟨fun _ => none⟩
  /-- What a statement of a script makes of the database. -/
  execute : String → Sql.Database → Except Sql.Fault Sql.Database := Sql.execute

/-- The libraries below a run: what they do is not decided here. -/
structure Platform where
  /-- The environment with the variables of a file. Where none is named, the library looks for one. -/
  loadVariables : FileTree → Option String → Environment → Except Accident Environment
  drivers : Drivers
  server : Machine → Connection → Server
  /-- The machine after work that left this at the other end of a connection. -/
  leave : Machine → Connection → Storage → Machine

end SchemaMigration
