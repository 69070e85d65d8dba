import SchemaMigration.Journal
import SchemaMigration.Sql.Execute

/-!
# SchemaMigration.Job — work on a database

A job reads files and works on one database. It may end with a fault; what it did before that stays
done. A job sees the files and the vendor (`Site`) and changes the database and the journal (`Store`).

* `Job.send` : sends one statement; the database changes only if the statement succeeds.
* `Job.transaction` : a piece of work after whose failure the database is as it was before.
* `Job.connected` : a piece of work on a connection, whose database errors are wrapped in a failure.
* `run_bind_ok`, `run_bind_error` : a job goes on where the one before it ended well, and only there.
-/

namespace SchemaMigration

/-! ## Definitions -/

/-- The tables and columns that a database server lists, with the schema that is in use. -/
structure ServerCatalog where
  schema : String
  tables : List (String × String)
  columns : List (String × String × String)
  deriving DecidableEq, Repr

/-- What a database server answers to questions about its tables, if it answers, by the tables and
columns that it has. -/
structure Catalog where
  answer : Sql.Schema → Option ServerCatalog

/-- A catalog that always answers the same. -/
instance : Coe (Option ServerCatalog) Catalog := ⟨fun c => ⟨fun _ => c⟩⟩

/-- What a job sees and does not change. -/
structure Site where
  vendor : Vendor
  files : FileTree
  /-- The directory that holds the scripts. -/
  root : Path
  catalog : Catalog := ⟨fun _ => none⟩
  /-- What a statement of a script makes of the database: another database, or an error and no change. -/
  execute : String → Sql.Database → Except Sql.Fault Sql.Database := Sql.execute
  /-- Every statement counts as slow. -/
  slow : Bool := false

/-- What lies at the address of a database. -/
inductive Storage where
  /-- Nothing that can be connected to, for this cause. -/
  | unreachable (cause : Accident)
  | notADatabase
  | database (db : Sql.Database)
  deriving DecidableEq, Repr

/-- Why there is no connection, if there is none. -/
def Storage.cause? : Storage → Option Accident
  | .unreachable cause => some cause
  | _ => none

/-- What a job changes. -/
structure Store where
  storage : Storage
  journal : Journal := []
  deriving DecidableEq, Repr

/-- Work on a database. -/
def Job (α : Type) : Type := Site → Store → Except Fault α × Store

namespace Job

/-- Runs a job. -/
def run {α : Type} (job : Job α) (site : Site) (store : Store) : Except Fault α × Store := job site store

instance : Monad Job where
  pure a := fun _ store => (.ok a, store)
  bind job next := fun site store =>
    match job site store with
    | (.ok a, store) => next a site store
    | (.error e, store) => (.error e, store)

/-- Ends with a fault. -/
def fail {α : Type} (e : Fault) : Job α := fun _ store => (.error e, store)

/-- Ends with the failure for a reason. -/
def failFor {α : Type} (r : Reason) : Job α := fail (.ofReason r)

/-- Goes on with `handle` where a job ends with a fault. -/
def rescue {α : Type} (job : Job α) (handle : Fault → Job α) : Job α := fun site store =>
  match job site store with
  | (.ok a, store) => (.ok a, store)
  | (.error e, store) => handle e site store

/-- What the job sees. -/
def site : Job Site := fun site store => (.ok site, store)

/-- The result, or the fault that `wrap` makes of the error. -/
def ofExcept {ε α : Type} (wrap : ε → Fault) : Except ε α → Job α
  | .ok a => pure a
  | .error e => fail (wrap e)

/-- Adds an event to the journal. -/
def record (e : Event) : Job Unit := fun _ store =>
  (.ok (), { store with journal := store.journal ++ [e] })

/-- Reports something. -/
def notify (n : Notice) : Job Unit := record (.notice n)

/-- Makes sure that the database can be reached. -/
def connect : Job Unit := fun _ store =>
  match store.storage with
  | .unreachable cause => (.error (.accident cause), store)
  | _ => (.ok (), store)

/-- Applies a change to the database, if there is one. -/
def change {α : Type} (f : Sql.Database → Except Accident (α × Sql.Database)) : Job α :=
  fun _ store =>
    match store.storage with
    | .unreachable cause => (.error (.accident cause), store)
    | .notADatabase => (.error (.accident (.database .notADatabase)), store)
    | .database db =>
      match f db with
      | .ok (a, db) => (.ok a, { store with storage := .database db })
      | .error e => (.error (.accident e), store)

/-- Sends a statement that changes the database as `f` says. -/
def send {α : Type} (statement : String) (parameters : Parameters)
    (f : Sql.Database → Except Accident (α × Sql.Database)) : Job α := do
  record (.sent statement parameters)
  let a ← change f
  if (← site).slow then notify (.slowStatement statement)
  return a

/-- Sends a question. -/
def ask {α : Type} (statement : String) (values : List Sql.Value)
    (f : Sql.Database → Except Sql.Fault α) : Job α :=
  send statement (.once values) fun db => match f db with
    | .ok a => .ok (a, db)
    | .error e => .error (.database e)

/-- A piece of work that is committed where it ends well, and otherwise leaves the database as it was. -/
def transaction {α : Type} (body : Job α) : Job α := fun site store =>
  match (do connect; body : Job α) site store with
  | (.ok a, after) => (.ok a, { after with journal := after.journal ++ [.committed] })
  | (.error e, after) => (.error e, { after with storage := store.storage })

/-- Handles the database errors of a job. -/
def onDatabaseError {α : Type} (job : Job α) (handle : Accident → Job α) : Job α :=
  job.rescue fun
    | .accident (.database fault) => handle (.database fault)
    | e => fail e

/-- A piece of work on a connection. A database error that it does not handle itself is reported as an
error of the connection. -/
def connected {α : Type} (body : Job α) : Job α :=
  onDatabaseError (do connect; body) fun cause => do
    notify (.notConnected cause.message)
    failFor (.queryFailed ("Database connection error: " ++ cause.message) none (some cause))

/-! ## Small facts -/

theorem run_bind_ok {α β : Type} {job : Job α} {next : α → Job β} {site : Site} {s t : Store} {a : α}
    (h : job.run site s = (.ok a, t)) : (job >>= next).run site s = (next a).run site t := by
  simp only [run] at h ⊢
  simp only [bind, h]

theorem run_bind_error {α β : Type} {job : Job α} {next : α → Job β} {site : Site} {s t : Store}
    {e : Fault} (h : job.run site s = (.error e, t)) :
    (job >>= next).run site s = (.error e, t) := by
  simp only [run] at h ⊢
  simp only [bind, h]

end Job

end SchemaMigration
