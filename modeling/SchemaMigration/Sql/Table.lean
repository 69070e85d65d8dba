import SchemaMigration.Sql.Value

/-!
# SchemaMigration.Sql.Table — tables and their rows

A table keeps its rows in the order of their numbers, each with a cell for every column. A column may
be the row number itself, refuse nulls, or hold each value once.

* `Table.insert`, `Table.update`, `Table.delete` : the changes of the rows of one table.
* `Database` : the tables of a database, found by name without regard to case.
* `Database.withTable` : a change of one table that leaves all others as they are.
* `find?_name` : a table is found only by its own name.
-/

namespace SchemaMigration.Sql

/-! ## Definitions -/

/-- The kinds of error of a database. -/
inductive Fault where
  /-- The statement is malformed, or names what does not exist or exists already. -/
  | operational
  /-- A row would break a rule of its table. -/
  | integrity
  /-- The statement is not one statement without open values. -/
  | programming
  /-- The file is not a database. -/
  | notADatabase
  deriving DecidableEq, Repr

/-- The name of a kind of error. -/
def Fault.name : Fault → String
  | .operational => "OperationalError"
  | .integrity => "IntegrityError"
  | .programming => "ProgrammingError"
  | .notADatabase => "DatabaseError"

/-- A column of a table. -/
structure Column where
  name : String
  affinity : Affinity
  /-- The column refuses nulls. -/
  notNull : Bool := false
  /-- No two rows hold the same value. -/
  unique : Bool := false
  /-- The column is the primary key. -/
  primaryKey : Bool := false
  /-- The column is the number of the row. -/
  isRowId : Bool := false
  /-- The value of the column where a row gives none. -/
  default : Value := .null
  deriving DecidableEq, Repr

/-- A row of a table: its number and its cells, in the order of the columns. -/
structure Row where
  id : Int
  cells : List Value
  deriving DecidableEq, Repr

/-- A table: its columns and its rows, in the order of their numbers. -/
structure Table where
  name : String
  columns : List Column
  rows : List Row := []
  /-- Every row has a cell for every column. -/
  cells_fit : ∀ r ∈ rows, r.cells.length = columns.length := by simp
  deriving DecidableEq, Repr

/-- A database: its tables, in the order in which they were made. -/
structure Database where
  tables : List Table := []
  deriving DecidableEq, Repr

/-- The names of tables, each with the names of its columns. -/
abbrev Schema := List (String × List String)

/-- The tables and columns of a database. -/
def Database.schema (db : Database) : Schema := db.tables.map fun t => (t.name, t.columns.map (·.name))

namespace Table

/-- The place of a column among the columns. -/
def column? (t : Table) (name : String) : Option Nat := t.columns.findIdx? fun c => sameName c.name name

/-- The place of the column that is the number of the row. -/
def rowIdColumn? (t : Table) : Option Nat := t.columns.findIdx? (·.isRowId)

/-- The number of the next row: one more than the largest. -/
def nextId (t : Table) : Int :=
  match t.rows.getLast? with
  | some r => r.id + 1
  | none => 1

/-- The value that column `i` keeps when it is given `v`. -/
def keepAt (t : Table) (i : Nat) (v : Value) : Value :=
  match t.columns[i]? with
  | some c => c.affinity.apply v
  | none => v

/-- Column `i` refuses the value: a null, or as the number of a row what is no integer. -/
def refusesAt (t : Table) (i : Nat) (v : Value) : Bool :=
  match t.columns[i]?, v with
  | some c, .null => c.notNull || c.isRowId
  | some _, .integer _ => false
  | some c, _ => c.isRowId
  | none, _ => false

/-- Column `i` holds every value once. -/
def isKey (t : Table) (i : Nat) : Bool := t.columns[i]?.any fun c => c.unique || c.isRowId

/-- The values that stand in column `i`, nulls left out. -/
def present (rows : List Row) (i : Nat) : List Value :=
  rows.filterMap fun r => (r.cells[i]?).filter (!·.isNull)

/-- No two of the values are equal. -/
def allDistinct : List Value → Bool
  | [] => true
  | v :: vs => !vs.any v.equal && allDistinct vs

/-- The rows hold each value of column `i` once, if it is a key. -/
def respectsKey (t : Table) (rows : List Row) (i : Nat) : Bool :=
  !t.isKey i || allDistinct (present rows i)

/-! ### New rows -/

/-- The cells of a new row as the columns keep them; the number of the row is filled in where the
column that holds it is given none. -/
def newCells (t : Table) (cells : List Value) : List Value :=
  let kept := cells.mapIdx t.keepAt
  match t.rowIdColumn? with
  | none => kept
  | some i => if kept[i]? = some .null then kept.set i (.integer t.nextId) else kept

/-- The number of a row with these cells: what its column says, or else the next one. -/
def idOf (t : Table) (cells : List Value) : Int :=
  match t.rowIdColumn? with
  | none => t.nextId
  | some i => match cells[i]? with
    | some (.integer k) => k
    | _ => t.nextId

/-- The rows with one more at the place of its number. -/
def place (rows : List Row) (r : Row) : List Row :=
  rows.takeWhile (·.id < r.id) ++ r :: rows.dropWhile (·.id < r.id)

theorem length_newCells (t : Table) (cells : List Value) :
    (t.newCells cells).length = cells.length := by
  unfold newCells
  split
  · simp
  · dsimp only
    split <;> simp

theorem mem_place {rows : List Row} {r s : Row} (h : s ∈ place rows r) : s = r ∨ s ∈ rows := by
  rcases List.mem_append.1 h with h | h
  · exact .inr (List.takeWhile_sublist _ |>.mem h)
  · rcases List.mem_cons.1 h with rfl | h
    · exact .inl rfl
    · exact .inr (List.dropWhile_sublist _ |>.mem h)

/-- The table with one more row of the given cells, one for every column. -/
def insert (t : Table) (cells : List Value) : Except Fault Table :=
  let kept := t.newCells cells
  let rows := place t.rows ⟨t.idOf kept, kept⟩
  let places := List.range t.columns.length
  if h : cells.length = t.columns.length then
    if (places.any fun i => (kept[i]?).any (t.refusesAt i)) || !places.all (t.respectsKey rows) then
      .error .integrity
    else
      .ok { t with
        rows := rows
        cells_fit := fun r hr => by
          rcases mem_place hr with rfl | hr
          · exact (t.length_newCells cells).trans h
          · exact t.cells_fit r hr }
  else .error .operational

/-- The table with further rows, all or none of them. -/
def insertAll (t : Table) : List (List Value) → Except Fault Table
  | [] => .ok t
  | cells :: rest =>
    match t.insert cells with
    | .error e => .error e
    | .ok t' => t'.insertAll rest

/-! ### Changed rows -/

/-- The cells with those at the given places replaced. -/
def assignCells (cells : List Value) (sets : List (Nat × Value)) : List Value :=
  sets.foldl (fun cells (i, v) => cells.set i v) cells

/-- The row with the cells at the given places replaced, its number following its column. -/
def assignRow (t : Table) (sets : List (Nat × Value)) (r : Row) : Row :=
  let cells := assignCells r.cells sets
  match t.rowIdColumn? with
  | none => ⟨r.id, cells⟩
  | some i => match cells[i]? with
    | some (.integer k) => ⟨if sets.any (·.1 = i) then k else r.id, cells⟩
    | _ => ⟨r.id, cells⟩

/-- The rows with the cells of those that are chosen replaced; they are put in order again when
their numbers changed. -/
def assignRows (t : Table) (sets : List (Nat × Value)) (chosen : Row → Bool) : List Row :=
  let rows := t.rows.map fun r => if chosen r then t.assignRow sets r else r
  if sets.any fun (i, _) => t.rowIdColumn? = some i then rows.mergeSort fun a b => a.id ≤ b.id
  else rows

theorem length_assignCells (cells : List Value) (sets : List (Nat × Value)) :
    (assignCells cells sets).length = cells.length := by
  induction sets generalizing cells with
  | nil => rfl
  | cons s sets ih => exact (ih _).trans (by simp)

theorem cells_assignRow (t : Table) (sets : List (Nat × Value)) (r : Row) :
    (t.assignRow sets r).cells = assignCells r.cells sets := by
  unfold assignRow
  dsimp only
  split
  · rfl
  · split <;> rfl

theorem length_cells_of_mem_assignRows {t : Table} {sets : List (Nat × Value)} {chosen : Row → Bool}
    {r : Row} (h : r ∈ t.assignRows sets chosen) : r.cells.length = t.columns.length := by
  have hmap : r ∈ t.rows.map fun r => if chosen r then t.assignRow sets r else r := by
    unfold assignRows at h
    split at h
    · exact List.mem_mergeSort.1 h
    · exact h
  obtain ⟨s, hs, rfl⟩ := List.mem_map.1 hmap
  split
  · rw [cells_assignRow, length_assignCells]
    exact t.cells_fit s hs
  · exact t.cells_fit s hs

/-- The table with the cells of the chosen rows replaced, and the number of these rows. -/
def update (t : Table) (sets : List (Nat × Value)) (chosen : Row → Bool) :
    Except Fault (Nat × Table) :=
  let kept := sets.map fun (i, v) => (i, t.keepAt i v)
  let rows := t.assignRows kept chosen
  if !t.rows.any chosen then .ok (0, t)
  else if kept.any (fun (i, v) => t.refusesAt i v) || !kept.all (fun (i, _) => t.respectsKey rows i) then
    .error .integrity
  else
    .ok (t.rows.countP chosen,
      { t with rows := rows, cells_fit := fun _ hr => length_cells_of_mem_assignRows hr })

/-- The table without the chosen rows. -/
def delete (t : Table) (chosen : Row → Bool) : Table :=
  { t with
    rows := t.rows.filter (!chosen ·)
    cells_fit := fun r hr => t.cells_fit r (List.mem_filter.1 hr).1 }

/-- The row holds `v` in column `i`, as a condition asks for it. -/
def holds (t : Table) (i : Nat) (v : Value) (r : Row) : Bool :=
  match t.columns[i]?, r.cells[i]? with
  | some c, some cell => matchesCondition c.affinity cell v
  | _, _ => false

end Table

namespace Database

/-- The table with this name. -/
def find? (db : Database) (name : String) : Option Table := db.tables.find? fun t => sameName t.name name

/-- A table with this name exists. -/
def hasTable (db : Database) (name : String) : Bool := (db.find? name).isSome

/-- A table with this name exists and has the column. -/
def hasColumn (db : Database) (table column : String) : Bool :=
  (db.find? table).any fun t => (t.column? column).isSome

/-- The tables with the one that is found by the name `name` replaced by `t`. -/
def replaceFirst (name : String) (t : Table) : List Table → List Table
  | [] => []
  | u :: us => if sameName u.name name then t :: us else u :: replaceFirst name t us

/-- The database with the table `name` replaced by `t`. -/
def replace (db : Database) (name : String) (t : Table) : Database := ⟨replaceFirst name t db.tables⟩

/-- The database after a change of one table, which must exist. -/
def withTable {α : Type} (db : Database) (name : String)
    (change : Table → Except Fault (α × Table)) : Except Fault (α × Database) :=
  match db.find? name with
  | none => .error .operational
  | some t => (change t).map fun (a, t') => (a, db.replace name t')

end Database

/-! ## Small facts -/

theorem find?_name {db : Database} {name : String} {t : Table} (h : db.find? name = some t) :
    sameName t.name name = true := by
  simpa using List.find?_some h

end SchemaMigration.Sql
