import SchemaMigration.Sql.Statement

/-!
# SchemaMigration.Sql.Execute — what statements do to a database

* `Statement.run` : the database after a statement, or why the statement fails.
* `execute` : the same for the text of a statement, as a script sends it.
* `Database.valuesIn`, `Database.selectRows`, `Database.setColumn`, `Database.setWhere` : the queries
  and updates on a table that is named by a text.
-/

namespace SchemaMigration.Sql

/-! ## Definitions -/

/-- The cells of a row given for some columns; the others have their default. Of several values given
for a column the first counts, for the number of the row the last. -/
def cellsFor (t : Table) (places : List Nat) (values : List Value) : List Value :=
  let given := places.zip values
  t.columns.mapIdx fun i c => ((if c.isRowId then given.reverse else given).lookup i).getD c.default

/-- No two of the columns have the same name. -/
def namesAreDistinct : List Column → Bool
  | [] => true
  | c :: cs => !cs.any (fun d => sameName c.name d.name) && namesAreDistinct cs

/-- The columns of a table have different names, and at most one is the primary key. -/
def columnsAreSound (cs : List Column) : Bool :=
  namesAreDistinct cs && cs.countP (·.primaryKey) ≤ 1

/-- The name is kept for tables of the database itself. -/
def isInternalName (s : String) : Bool := "sqlite_".toList.isPrefixOf (Text.foldAscii s).toList

/-- The rows that a condition chooses. -/
def Table.chosenBy? (t : Table) : Condition → Option (Row → Bool)
  | none => some fun _ => true
  | some (column, v) => (t.column? column).map fun i => t.holds i v

/-- The database with a new table. -/
def Database.create (db : Database) (t : Table) : Except Fault Database :=
  if db.hasTable t.name || isInternalName t.name || !columnsAreSound t.columns then
    .error .operational
  else .ok ⟨db.tables ++ [t]⟩

/-- The table with one more column, which every row has its default in. -/
def Table.addColumn (t : Table) (c : Column) : Except Fault Table :=
  if (t.column? c.name).isSome || c.unique || (c.notNull && c.default.isNull && !t.rows.isEmpty) then
    .error .operational
  else
    .ok { t with
      columns := t.columns ++ [c]
      rows := t.rows.map fun r => { r with cells := r.cells ++ [c.affinity.apply c.default] }
      cells_fit := fun r hr => by
        obtain ⟨s, hs, rfl⟩ := List.mem_map.1 hr
        simp [t.cells_fit s hs] }

/-- The table with rows given for the columns named, or for all. -/
def Table.insertGiven (t : Table) (columns : Option (List String)) (rows : List (List Value)) :
    Except Fault Table :=
  let places := match columns with
    | none => some (List.range t.columns.length)
    | some names => names.mapM t.column?
  match places with
  | none => .error .operational
  | some places =>
    if rows.all (·.length = places.length) then t.insertAll (rows.map (cellsFor t places))
    else .error .operational

/-- The table after an update of the rows that a condition chooses. -/
def Table.updateGiven (t : Table) (sets : List (String × Value)) (condition : Condition) :
    Except Fault (Nat × Table) :=
  match sets.mapM (fun (n, v) => (t.column? n).map (·, v)), t.chosenBy? condition with
  | some sets, some chosen => t.update sets chosen
  | _, _ => .error .operational

/-- What a query asks for exists. -/
def Table.answers (t : Table) : Asked → Bool
  | .column n => (t.column? n).isSome
  | _ => true

/-- The database after a statement, or the kind of its failure. -/
def Statement.run (db : Database) : Statement → Except Fault Database
  | .create ifMissing table columns =>
    if ifMissing && db.hasTable table then .ok db else db.create { name := table, columns }
  | .drop ifPresent table =>
    if db.hasTable table then .ok ⟨db.tables.filter fun t => !sameName t.name table⟩
    else if ifPresent then .ok db else .error .operational
  | .rename table newName =>
    if db.hasTable newName || isInternalName newName then .error .operational
    else (db.withTable table fun t => .ok ((), { t with name := newName })).map (·.2)
  | .addColumn table column => (db.withTable table fun t => (t.addColumn column).map ((), ·)).map (·.2)
  | .insert table columns rows =>
    (db.withTable table fun t => (t.insertGiven columns rows).map ((), ·)).map (·.2)
  | .insertDefaults table =>
    (db.withTable table fun t => (t.insert (t.columns.map (·.default))).map ((), ·)).map (·.2)
  | .update table sets condition => (db.withTable table (·.updateGiven sets condition)).map (·.2)
  | .delete table condition =>
    (db.withTable table fun t => match t.chosenBy? condition with
      | some chosen => .ok ((), t.delete chosen)
      | none => .error .operational).map (·.2)
  | .select asked none _ => if asked.all (· = .constant) then .ok db else .error .operational
  | .select asked (some table) condition =>
    match db.find? table with
    | none => .error .operational
    | some t =>
      if asked.all t.answers && (t.chosenBy? condition).isSome then .ok db else .error .operational

/-- The statement loses its end: adding a column puts its text into the definition of the table, and a
comment that is open there swallows what follows. -/
def losesEnd (cs : List Char) : Statement → Bool
  | .addColumn .. => endsInComment (cs.length + 1) (behindTokens (cs.length + 1) cs)
  | _ => false

/-- The database after the statement that a text writes. A text without a statement does nothing. One
that holds a zero character, leaves values open or goes on after its first statement is refused, the
last two only once that statement is found to be sound. -/
def execute (text : String) (db : Database) : Except Fault Database :=
  let cs := text.toList
  if cs.contains (Char.ofNat 0) then .error .programming
  else
    let (ts, rest) := firstStatement (cs.length + 1) cs
    let outcome : Except Fault Database :=
      if ts.isEmpty then .ok db
      else match Statement.ofTokens? ts with
        | none => .error .operational
        | some s => if losesEnd cs s then .error .operational else s.run db
    if outcome matches .error .operational then .error .operational
    else if hasMore rest || ts.contains .variable then .error .programming
    else outcome

/-- The tables that the statements of a text leave, one after the other, up to the first failure. -/
def executeAll (fuel : Nat) (cs : List Char) (db : Database) : Except Fault Database :=
  match fuel with
  | 0 => .ok db
  | fuel + 1 =>
    match firstStatement (cs.length + 1) cs with
    | ([], _) => .ok db
    | (ts, rest) =>
      match Statement.ofTokens? ts with
      | none => .error .operational
      | some s => match s.run db with
        | .error e => .error e
        | .ok db => executeAll fuel rest db

/-! ### Queries on a table named by a text -/

/-- The table that a text names where it is written without quotes. -/
def Database.plain? (db : Database) (table : String) : Option Table :=
  if isPlainName table then db.find? table else none

/-- The values of a column, row by row. -/
def Database.valuesIn (db : Database) (table column : String) : Except Fault (List Value) :=
  match db.plain? table with
  | none => .error .operational
  | some t => match t.column? column with
    | none => .error .operational
    | some i => .ok (t.rows.map fun r => (r.cells[i]?).getD .null)

/-- The named columns of the rows that a condition chooses. -/
def Database.selectRows (db : Database) (table : String) (columns : List String)
    (condition : Condition) : Except Fault (List (List Value)) :=
  match db.plain? table with
  | none => .error .operational
  | some t => match columns.mapM t.column?, t.chosenBy? condition with
    | some places, some chosen =>
      .ok ((t.rows.filter chosen).map fun r => places.map fun i => (r.cells[i]?).getD .null)
    | _, _ => .error .operational

/-- The names that the columns of a table were declared with, in answer to the names given. -/
def Database.declaredNames (db : Database) (table : String) (columns : List String) : List String :=
  match db.plain? table with
  | none => []
  | some t => columns.filterMap fun n => (t.columns.find? fun c => sameName c.name n).map (·.name)

/-- The database with `v` in a column of every row of a table, and the number of these rows. -/
def Database.setColumn (db : Database) (table column : String) (v : Value) :
    Except Fault (Nat × Database) :=
  if isPlainName table then db.withTable table (·.updateGiven [(column, v)] none)
  else .error .operational

/-- The database with `v` in a column of the rows that hold the given values, and their number. -/
def Database.setWhere (db : Database) (table column : String) (v : Value)
    (given : List (String × Value)) : Except Fault (Nat × Database) :=
  if isPlainName table then
    db.withTable table fun t =>
      match t.column? column, given.mapM fun (n, v) => (t.column? n).map (·, v) with
      | some i, some conditions =>
        t.update [(i, v)] fun r => conditions.all fun (j, w) => t.holds j w r
      | _, _ => .error .operational
  else .error .operational

end SchemaMigration.Sql
