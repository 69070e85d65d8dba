import SchemaMigration.Job

/-!
# SchemaMigration.FolderSize — the sizes of resource folders

Files and folders stand in one table, by their full names. The size of a folder is the sum of the sizes
of the files whose names begin with the name of the folder and a slash; a file that is listed twice
counts once, with its last size. All sizes are computed before the first is written, and each type of
resource is written as a whole or not at all.

* `fileSizes`, `total`, `folderTotals` : what is computed from the rows of one type.
* `update` : computes and writes the sizes of one type.
* `updateAll` : the same for every type; a type that fails does not keep the next from being tried.
-/

namespace SchemaMigration

open Sql (Value)

/-! ## Definitions -/

/-- The types of resources. -/
inductive ResourceType where
  | file | udf
  deriving DecidableEq, Repr

namespace ResourceType

/-- The number of a type in the table. -/
def number : ResourceType → Int
  | .file => 0
  | .udf => 1

/-- The name of a type in reports. -/
def name : ResourceType → String
  | .file => "file"
  | .udf => "udf"

/-- Every type, in the order in which they are brought up to date. -/
def all : List ResourceType := [.file, .udf]

/-- The type with this number. -/
def ofNumber? (n : Int) : Option ResourceType := all.find? (·.number = n)

end ResourceType

/-- What a row of the resource table says of a file or folder. -/
structure Resource where
  name : Value
  size : Value
  flag : Value
  deriving DecidableEq, Repr

namespace FolderSize

/-- The table of the resources. -/
def defaultTable : String := "t_ds_resources"

/-- A value that counts as nothing: null, a zero, and what is empty. -/
def isNothing : Value → Bool
  | .null => true
  | .integer i => i = 0
  | .real d => d.significand = 0
  | .text s => s.isEmpty
  | .blob bytes => bytes.isEmpty

/-- The row is one of a folder. -/
def isFolder (r : Resource) : Bool := !isNothing r.flag

/-- The kind of a value, as faults call it. -/
def kindName : Value → String
  | .null => "NoneType"
  | .integer _ => "int"
  | .real _ => "float"
  | .text _ => "str"
  | .blob _ => "bytes"

/-! ### Sizes of files -/

/-- Two names that stand for one file. -/
def sameFile (a b : Value) : Bool := a.equal b || (a.isNull && b.isNull)

/-- The sizes with that of one more file, which keeps the place that it has. -/
def keepSize : List (Value × Value) → Value → Value → List (Value × Value)
  | [], name, size => [(name, size)]
  | (n, s) :: sizes, name, size =>
    if sameFile n name then (n, size) :: sizes else (n, s) :: keepSize sizes name size

/-- The size that a row gives for a file. -/
def sizeOf (r : Resource) : Value := if isNothing r.size then .integer 0 else r.size

/-- The size of each file, in the order in which the files are first listed. -/
def fileSizes (rows : List Resource) : List (Value × Value) :=
  (rows.filter (!isFolder ·)).foldl (fun sizes r => keepSize sizes r.name (sizeOf r)) []

/-! ### Sizes of folders -/

/-- What the names of the files below a folder begin with. -/
def folderPrefix : Value → Except Accident (List Char)
  | .text s => .ok (Text.dropRightWhile (· == '/') s.toList ++ ['/'])
  | .blob _ => .error .bytesRequired
  | v => .error (.noOperation (kindName v) "rstrip")

/-- The file of this name lies below the folder whose files begin with `start`. -/
def liesBelow (start : List Char) : Value → Except Accident Bool
  | .text s => .ok (start.isPrefixOf s.toList)
  | .blob _ => .error .bytesRequiredAtStart
  | v => .error (.noOperation (kindName v) "startswith")

/-- The sum of two sizes: exact for integers, rounded once a real takes part. -/
def addSize : Value → Value → Except Accident Value
  | .integer m, .integer n => .ok (.integer (m + n))
  | .integer m, .real d => .ok (.real (.add (.ofInt m) d))
  | .real d, .integer n => .ok (.real (.add d (.ofInt n)))
  | .real d, .real e => .ok (.real (.add d e))
  | a, b => .error (.notAddable (kindName a) (kindName b))

/-- The size so far and the sizes of those of the files that begin with `start`, added in order. -/
def total (start : List Char) (soFar : Value) : List (Value × Value) → Except Accident Value
  | [] => .ok soFar
  | (name, size) :: sizes =>
    match liesBelow start name with
    | .error e => .error e
    | .ok false => total start soFar sizes
    | .ok true =>
      match addSize soFar size with
      | .error e => .error e
      | .ok next => total start next sizes

/-- The size of a folder above files of these sizes. -/
def folderTotal (sizes : List (Value × Value)) (folder : Value) : Except Accident Value :=
  match folderPrefix folder with
  | .error e => .error e
  | .ok start => total start (.integer 0) sizes

/-- Every folder with its size, in the order of the rows. -/
def folderTotals (rows : List Resource) : Except Accident (List (Value × Value)) :=
  ((rows.filter isFolder).map (·.name)).mapM fun folder =>
    (folderTotal (fileSizes rows) folder).map (folder, ·)

/-! ### Reading and writing -/

/-- The columns that are read. -/
def columns : List String := ["full_name", "size", "is_directory"]

/-- The first column that the rows need and that is not declared with exactly its name. -/
def missingColumn? (declared : List String) (rows : List Resource) : Option String :=
  let needed :=
    if rows.isEmpty then []
    else ["is_directory", "full_name"] ++ if rows.all isFolder then [] else ["size"]
  needed.find? (!declared.contains ·)

/-- The rows of one type of resource. -/
def readRows (table : String) (type : ResourceType) (db : Sql.Database) :
    Except Sql.Fault (List String × List Resource) :=
  (db.selectRows table columns (some ("type", .integer type.number))).map fun rows =>
    (db.declaredNames table columns, rows.map fun
      | [name, size, flag] => ⟨name, size, flag⟩
      | _ => ⟨.null, .null, .null⟩)

/-- The database with the size of one folder. -/
def writeSize (table : String) (type : ResourceType) (db : Sql.Database) (folder size : Value) :
    Except Accident Sql.Database :=
  let isTooWide := match size with
    | .integer i => !Sql.fitsInteger i
    | _ => false
  if isTooWide then .error .integerTooWide
  else
    match db.setWhere table "size" size [("type", .integer type.number), ("full_name", folder)] with
    | .ok (_, db) => .ok db
    | .error e => .error (.database e)

/-- The database with the sizes of folders, up to the first that cannot be written. -/
def writeSizes (table : String) (type : ResourceType) (db : Sql.Database) :
    List (Value × Value) → Except Accident Sql.Database
  | [] => .ok db
  | (folder, size) :: totals =>
    match writeSize table type db folder size with
    | .error e => .error e
    | .ok db => writeSizes table type db totals

/-- The values sent with the sizes of folders. -/
def parametersOf (type : ResourceType) (totals : List (Value × Value)) : Parameters :=
  match totals.map fun (folder, size) => [size, .integer type.number, folder] with
  | [values] => .once values
  | rows => .each rows

/-- Reads the rows of a type and writes the sizes of its folders. -/
def updateRows (table : String) (type : ResourceType) : Job Nat := do
  let question := "SELECT full_name, size, is_directory FROM " ++ table ++ " WHERE type = ?"
  let (declared, rows) ← Job.ask question [.integer type.number] (readRows table type)
  match missingColumn? declared rows with
  | some column => Job.fail (.accident (.missingField column))
  | none =>
    let totals ← Job.ofExcept .accident (folderTotals rows)
    unless totals.isEmpty do
      let statement := "UPDATE " ++ table ++ " SET size = ? WHERE type = ? AND full_name = ?"
      Job.send statement (parametersOf type totals) fun db =>
        (writeSizes table type db totals).map ((), ·)
    return totals.length

/-- Brings the folder sizes of a type up to date; the result is the number of its folders. -/
def update (table : String) (type : ResourceType) : Job Nat := do
  let count ← Job.transaction (updateRows table type)
  Job.notify (.foldersUpdated count type.name)
  return count

/-! ### All types -/

/-- What became of every type: the numbers of folders of those that succeeded, and the failures. -/
structure Outcome where
  updated : List (ResourceType × Nat) := []
  errors : List Failure := []
  deriving DecidableEq, Repr

/-- No type failed. -/
def Outcome.succeeded (o : Outcome) : Bool := o.errors.isEmpty

/-- The accident that a failure reports where another fault is behind it. -/
def accidentOf : Fault → Accident
  | .accident a => a
  | .failure f => .foreign f.reason.name f.message

/-- The failure of a type, for the fault that stopped it. -/
def failureOf (type : ResourceType) (fault : Fault) : Failure :=
  .ofReason (.sizesNotUpdated
    ("Failed to update the folder's size of " ++ type.name ++ " resources: " ++ fault.message)
    (some type.number) (some (accidentOf fault)))

/-- The outcome with that of one more type. -/
def tryType (table : String) (o : Outcome) (type : ResourceType) : Job Outcome :=
  Job.rescue
    (do
      let count ← update table type
      return { o with updated := o.updated ++ [(type, count)] })
    fun fault => return { o with errors := o.errors ++ [failureOf type fault] }

/-- Brings the folder sizes of every type up to date. -/
def updateAll (table : String) : Job Outcome := ResourceType.all.foldlM (tryType table) {}

end FolderSize

end SchemaMigration
