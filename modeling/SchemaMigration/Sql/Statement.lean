import SchemaMigration.Sql.Table
import SchemaMigration.Sql.Token

/-!
# SchemaMigration.Sql.Statement — the statements of scripts

* `Statement` : the statements that scripts are made of.
* `Statement.ofTokens?` : the statement that a list of tokens writes, if it is one of them.
* `Column.ofDeclaration?` : a column by its name and the text of its declaration.

A reader of a part of a statement takes the tokens in front of it and returns what it has read and the
tokens that are left; it reads nothing where the part is malformed.
-/

namespace SchemaMigration.Sql

/-! ## Definitions -/

/-- The condition of a statement: a column and the value that it equals. -/
abbrev Condition := Option (String × Value)

/-- What a query asks of each row. -/
inductive Asked where
  | all
  | column (name : String)
  | constant
  deriving DecidableEq, Repr

/-- A statement of a script. -/
inductive Statement where
  | create (ifMissing : Bool) (table : String) (columns : List Column)
  | drop (ifPresent : Bool) (table : String)
  | rename (table newName : String)
  | addColumn (table : String) (column : Column)
  | insert (table : String) (columns : Option (List String)) (rows : List (List Value))
  | insertDefaults (table : String)
  | update (table : String) (sets : List (String × Value)) (condition : Condition)
  | delete (table : String) (condition : Condition)
  | select (asked : List Asked) (table : Option String) (condition : Condition)
  deriving DecidableEq, Repr

/-- The keywords that are never names. -/
def reservedWords : List String :=
  ["add", "all", "alter", "and", "as", "autoincrement", "between", "case", "check", "collate",
    "commit", "constraint", "create", "default", "deferrable", "delete", "distinct", "drop", "else",
    "escape", "except", "exists", "foreign", "from", "group", "having", "in", "index", "insert",
    "intersect", "into", "is", "isnull", "join", "limit", "not", "nothing", "notnull", "null", "on",
    "or", "order", "primary", "references", "returning", "select", "set", "table", "then", "to",
    "transaction", "union", "unique", "update", "using", "values", "when", "where"]

/-- The word is a keyword that is never a name. -/
def isReserved (s : String) : Bool := reservedWords.contains (Text.foldAscii s)

/-- A text that stands for a name where it is written without quotes. -/
def isPlainName (s : String) : Bool :=
  match s.toList with
  | [] => false
  | c :: cs => startsName c && cs.all isNameChar && c.toNat ≠ 0xFEFF && !isReserved s

/-- Reads a part from the tokens in front. -/
abbrev Reader (α : Type) := List Token → Option (α × List Token)

namespace Reader

/-- Reads the keyword `k`, written here in lower case. -/
def keyword (k : String) : Reader Unit
  | .word s :: ts => if Text.foldAscii s = k then some ((), ts) else none
  | _ => none

/-- Reads the keywords in order. -/
def keywords : List String → Reader Unit
  | [], ts => some ((), ts)
  | k :: ks, ts => (keyword k ts).bind fun (_, ts) => keywords ks ts

/-- Reads the mark `m`. -/
def mark (m : String) : Reader Unit
  | .symbol s :: ts => if s = m then some ((), ts) else none
  | _ => none

/-- Reads with `r` if it can, and says whether it could. -/
def optional (r : Reader Unit) : Reader Bool := fun ts =>
  match r ts with
  | some (_, rest) => some (true, rest)
  | none => some (false, ts)

/-- Reads a name. -/
def name : Reader String
  | .word s :: ts => if isReserved s then none else some (s, ts)
  | .quoted s :: ts => some (s, ts)
  | .bracketed s :: ts => some (s, ts)
  | .constant (.text s) :: ts => some (s, ts)
  | _ => none

/-- Reads parts with commas between them, at most `fuel` further ones. -/
def separated {α : Type} (r : Reader α) : Nat → Reader (List α)
  | 0, ts => (r ts).map fun (a, ts) => ([a], ts)
  | fuel + 1, ts =>
    (r ts).bind fun (a, ts) =>
      match mark "," ts with
      | none => some ([a], ts)
      | some (_, ts) => (separated r fuel ts).map fun (as, ts) => (a :: as, ts)

/-- Reads parts with commas between them. -/
def commaList {α : Type} (r : Reader α) : Reader (List α) := fun ts => separated r ts.length ts

/-- Reads what `r` reads, between parentheses. -/
def parenthesized {α : Type} (r : Reader α) : Reader α := fun ts =>
  (mark "(" ts).bind fun (_, ts) =>
    (r ts).bind fun (a, ts) => (mark ")" ts).map fun (_, ts) => (a, ts)

/-- A number with the opposite sign. -/
def negate : Value → Value
  | .integer i => .ofInt (-i)
  | .real d =>
    if d = Binary64.ofInt integerBound then .integer (-integerBound)
    else .real ⟨UInt64.ofNat ((d.bits.toNat + Binary64.signBit) % Nat.pow 2 64)⟩
  | .null => .null
  | .text s => match numberOfText? s with
    | some (.integer i) => .ofInt (-i)
    | _ => .integer 0
  | .blob _ => .integer 0

/-- Reads a constant. -/
def literal : Reader Value
  | .constant v :: ts => some (v, ts)
  | .symbol "-" :: .constant v :: ts => some (negate v, ts)
  | .symbol "+" :: .constant v :: ts => some (v, ts)
  | .quoted s :: ts => some (.text s, ts)
  | .variable :: ts => some (.null, ts)
  | .word s :: ts =>
    match Text.foldAscii s with
    | "null" => some (.null, ts)
    | "true" => some (.integer 1, ts)
    | "false" => some (.integer 0, ts)
    | _ => none
  | _ => none

/-! ### Columns -/

/-- Reads the words of a type. -/
def typeWords : Reader String
  | .word s :: ts =>
    if isReserved s then some ("", .word s :: ts)
    else (typeWords ts).map fun (more, ts) => (s ++ more, ts)
  | ts => some ("", ts)

/-- Reads the sizes after a type. -/
def typeSizes : Reader Unit := fun ts =>
  match parenthesized (commaList literal) ts with
  | some (_, ts) => some ((), ts)
  | none => if (mark "(" ts).isSome then none else some ((), ts)

/-- Reads the rules of a column, at most `fuel` of them. -/
def columnRules (column : Column) (integerType : Bool) : Nat → Reader Column
  | 0, ts => some (column, ts)
  | fuel + 1, ts =>
    if let some (_, ts) := keywords ["primary", "key"] ts then
      if column.primaryKey then none
      else
        let ts := match keyword "asc" ts with
          | some (_, ts) => ts
          | none => ts
        columnRules
          { column with primaryKey := true, unique := true, isRowId := integerType }
          integerType fuel ts
    else if let some (_, ts) := keywords ["not", "null"] ts then
      columnRules { column with notNull := true } integerType fuel ts
    else if let some (_, ts) := keyword "null" ts then columnRules column integerType fuel ts
    else if let some (_, ts) := keyword "unique" ts then
      columnRules { column with unique := true } integerType fuel ts
    else if let some (_, ts) := keyword "default" ts then
      (literal ts).bind fun (v, ts) => columnRules { column with default := v } integerType fuel ts
    else some (column, ts)

/-- A column without a default if it is the number of the row, which is filled in. -/
def settleDefault (c : Column) : Column := if c.isRowId then { c with default := .null } else c

/-- Reads the declaration of the column `name`: its type and its rules. Only the plain type `INTEGER`
makes a primary key the number of the row. -/
def columnBody (name : String) : Reader Column := fun ts =>
  (typeWords ts).bind fun (type, sizes) =>
    (if type.isEmpty then some ((), sizes) else typeSizes sizes).bind fun (_, ts) =>
      let isInteger := Text.foldAscii type = "integer" && ts.length = sizes.length
      (columnRules { name, affinity := .ofDeclared type } isInteger ts.length ts).map fun (c, ts) =>
        (settleDefault c, ts)

/-- Reads a column: its name and its declaration. -/
def column : Reader Column := fun ts => (name ts).bind fun (n, ts) => columnBody n ts

/-! ### Constant expressions -/

/-- The operators between two operands. -/
def isOperator : Token → Bool
  | .symbol s =>
    ["+", "-", "*", "/", "%", "||", "<<", ">>", "&", "|", "<", "<=", ">", ">=", "=", "==", "<>",
      "!="].contains s
  | .word s => ["and", "or", "is", "like"].contains (Text.foldAscii s)
  | _ => false

/-- Reads an expression without names, at most `fuel` tokens deep. -/
def constantExpression : Nat → Reader Unit
  | 0, _ => none
  | fuel + 1, ts =>
    let operand : Option (Unit × List Token) := match ts with
      | .symbol "(" :: ts =>
        (constantExpression fuel ts).bind fun (_, ts) => mark ")" ts
      | .symbol s :: ts => if s = "-" ∨ s = "+" ∨ s = "~" then constantExpression fuel ts else none
      | ts => match keyword "not" ts with
        | some (_, ts) => constantExpression fuel ts
        | none => (literal ts).map fun (_, ts) => ((), ts)
    operand.bind fun (_, ts) =>
      match ts with
      | t :: rest => if isOperator t then constantExpression fuel rest else some ((), ts)
      | [] => some ((), [])

/-- Reads what a query asks for. -/
def asked : Reader Asked := fun ts =>
  match ts with
  | .symbol "*" :: ts => some (.all, ts)
  | ts =>
    let item : Option (Asked × List Token) := match constantExpression (ts.length + 1) ts with
      | some (_, ts) => some (.constant, ts)
      | none => (name ts).map fun (n, ts) => (.column n, ts)
    item.bind fun (a, ts) =>
      match keyword "as" ts with
      | some (_, ts) => (name ts).map fun (_, ts) => (a, ts)
      | none => match name ts with
        | some (_, ts) => some (a, ts)
        | none => some (a, ts)

/-! ### Statements -/

/-- Reads a column, the equality sign and a constant. -/
def assignment : Reader (String × Value) := fun ts =>
  (name ts).bind fun (n, ts) =>
    (((mark "=" ts).or (mark "==" ts)).bind fun (_, ts) => literal ts).map fun (v, ts) => ((n, v), ts)

/-- Reads the condition of a statement, if it has one. -/
def condition : Reader Condition := fun ts =>
  match keyword "where" ts with
  | some (_, ts) => (assignment ts).map fun (a, ts) => (some a, ts)
  | none => some (none, ts)

/-- Reads the statement that makes a table. -/
def createStatement : Reader Statement := fun ts =>
  (keywords ["create", "table"] ts).bind fun (_, ts) =>
    (optional (keywords ["if", "not", "exists"]) ts).bind fun (ifMissing, ts) =>
      (name ts).bind fun (n, ts) =>
        (parenthesized (commaList column) ts).map fun (cs, ts) => (.create ifMissing n cs, ts)

/-- Reads the statement that removes a table. -/
def dropStatement : Reader Statement := fun ts =>
  (keywords ["drop", "table"] ts).bind fun (_, ts) =>
    (optional (keywords ["if", "exists"]) ts).bind fun (ifPresent, ts) =>
      (name ts).map fun (n, ts) => (.drop ifPresent n, ts)

/-- Reads a statement that changes the form of a table. -/
def alterStatement : Reader Statement := fun ts =>
  (keywords ["alter", "table"] ts).bind fun (_, ts) =>
    (name ts).bind fun (n, ts) =>
      match keywords ["rename", "to"] ts with
      | some (_, ts) => (name ts).map fun (m, ts) => (.rename n m, ts)
      | none =>
        (keyword "add" ts).bind fun (_, ts) =>
          (optional (keyword "column") ts).bind fun (_, ts) =>
            (column ts).map fun (c, ts) => (.addColumn n c, ts)

/-- Reads a statement that adds rows. -/
def insertStatement : Reader Statement := fun ts =>
  (keywords ["insert", "into"] ts).bind fun (_, ts) =>
    (name ts).bind fun (n, ts) =>
      match keywords ["default", "values"] ts with
      | some (_, ts) => some (.insertDefaults n, ts)
      | none =>
        let columns : Option (Option (List String) × List Token) :=
          if (mark "(" ts).isSome then
            (parenthesized (commaList name) ts).map fun (cs, ts) => (some cs, ts)
          else some (none, ts)
        columns.bind fun (cs, ts) =>
          (keyword "values" ts).bind fun (_, ts) =>
            (commaList (parenthesized (commaList literal)) ts).map fun (rows, ts) =>
              (.insert n cs rows, ts)

/-- Reads the statement that changes rows. -/
def updateStatement : Reader Statement := fun ts =>
  (keyword "update" ts).bind fun (_, ts) =>
    (name ts).bind fun (n, ts) =>
      (keyword "set" ts).bind fun (_, ts) =>
        (commaList assignment ts).bind fun (sets, ts) =>
          (condition ts).map fun (c, ts) => (.update n sets c, ts)

/-- Reads the statement that removes rows. -/
def deleteStatement : Reader Statement := fun ts =>
  (keywords ["delete", "from"] ts).bind fun (_, ts) =>
    (name ts).bind fun (n, ts) => (condition ts).map fun (c, ts) => (.delete n c, ts)

/-- Reads a query. -/
def selectStatement : Reader Statement := fun ts =>
  (keyword "select" ts).bind fun (_, ts) =>
    (commaList asked ts).bind fun (as, ts) =>
      match keyword "from" ts with
      | none => some (.select as none none, ts)
      | some (_, ts) =>
        (name ts).bind fun (n, ts) => (condition ts).map fun (c, ts) => (.select as (some n) c, ts)

end Reader

/-- The tokens of a whole text. -/
def tokens (fuel : Nat) (cs : List Char) : List Token :=
  match fuel with
  | 0 => []
  | fuel + 1 =>
    match Token.next? cs with
    | none => []
    | some (t, rest) => t :: tokens fuel rest

/-- The column with this name whose declaration is the text `declared`. -/
def Column.ofDeclaration? (name declared : String) : Option Column :=
  match Reader.columnBody name (tokens (declared.length + 1) declared.toList) with
  | some (c, []) => some c
  | _ => none

/-- The statement that the tokens write. -/
def Statement.ofTokens? (ts : List Token) : Option Statement :=
  let readers :=
    [Reader.createStatement, Reader.dropStatement, Reader.alterStatement, Reader.insertStatement,
      Reader.updateStatement, Reader.deleteStatement, Reader.selectStatement]
  readers.findSome? fun r => match r ts with
    | some (s, []) => some s
    | _ => none

end SchemaMigration.Sql
