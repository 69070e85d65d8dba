import SchemaMigration.Job
import SchemaMigration.Script

/-!
# SchemaMigration.ScriptRun — carrying out the scripts of a release

A script is found by its path below the resource root, read as a whole, and carried out statement by
statement. Each statement is committed on its own: the first that fails stops the script, and those
before it stay done.

* `ScriptRun.resolve`, `ScriptRun.load`, `ScriptRun.execute` : the three stages.
* `runStatements` : the statements of a script, numbered from 1.
* `runAll` : what statements make of a database, whoever sends them.
* `runAll_append` : running one list of statements after another.
-/

namespace SchemaMigration.ScriptRun

/-! ## Definitions -/

/-- A script: the path that it is known by, and its statements. -/
structure Loaded where
  path : String
  statements : List String
  deriving DecidableEq, Repr

/-- The script at a path with these bytes. -/
def Loaded.ofBytes (path : String) (bytes : List UInt8) : Except Text.Undecodable Loaded :=
  (Text.fileText bytes).map fun cs => ⟨path, (Script.statements cs).map String.ofList⟩

/-- What statements make of a database, up to the first that fails, where `execute` says what each
makes of it. -/
def runAll (execute : String → Sql.Database → Except Sql.Fault Sql.Database) :
    List String → Sql.Database → Except Sql.Fault Sql.Database
  | [], db => .ok db
  | s :: ss, db =>
    match execute s db with
    | .error e => .error e
    | .ok db => runAll execute ss db

/-- The file of a script and its bytes. -/
def resolve (path : String) : Job (Path × List UInt8) := do
  let site ← Job.site
  let file := site.root.join (.parse path)
  match ← Job.ofExcept (fun e => .accident (.nameTooLong e.path)) (site.files.read? file) with
  | some bytes => return (file, bytes)
  | none =>
    Job.fail (.failure ((Failure.ofReason (.scriptNotFound path)).withFacts
      [("resource_root", .text site.root.render)]))

/-- Reads a script. -/
def load (path : String) : Job Loaded := do
  let (_, bytes) ← resolve path
  match Loaded.ofBytes path bytes with
  | .ok script => return script
  | .error e =>
    Job.notify (.scriptNotRead path e.message)
    Job.failFor (.scriptFailed path 0 "" (.undecodable e))

/-- Sends a statement of a script and commits it. -/
def runStatement (path : String) (number : Nat) (statement : String) : Job Unit := do
  Job.notify (.executing path number statement)
  let site ← Job.site
  Job.onDatabaseError
    (Job.send statement (.once []) fun db => match site.execute statement db with
      | .ok db => .ok ((), db)
      | .error e => .error (.database e))
    fun cause => Job.failFor (.scriptFailed path number statement cause)
  Job.record .committed

/-- Sends the statements of a script, the first of which has the number `number`. -/
def runStatements (path : String) : Nat → List String → Job Unit
  | _, [] => pure ()
  | number, s :: ss => do
    runStatement path number s
    runStatements path (number + 1) ss

/-- Carries out a script; the result is the number of its statements. -/
def execute (path : String) : Job Nat := do
  let script ← load path
  Job.onDatabaseError
    (do
      Job.connect
      runStatements path 1 script.statements)
    fun cause =>
      Job.failFor (.queryFailed
        ("Cannot obtain a connection to execute " ++ path ++ ": " ++ cause.message) none (some cause))
  Job.notify (.executed script.statements.length path)
  return script.statements.length

/-! ## Small facts -/

theorem runAll_append (execute : String → Sql.Database → Except Sql.Fault Sql.Database)
    (ss ts : List String) (db : Sql.Database) :
    runAll execute (ss ++ ts) db = (runAll execute ss db).bind (runAll execute ts) := by
  induction ss generalizing db with
  | nil => rfl
  | cons s ss ih =>
    simp only [List.cons_append, runAll]
    cases execute s db with
    | error e => rfl
    | ok db => exact ih db

end SchemaMigration.ScriptRun
