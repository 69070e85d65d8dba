import SchemaMigration.Number.Decimal
import SchemaMigration.Text.Case
import SchemaMigration.Text.Quoted
import SchemaMigration.Text.Numeral

/-!
# SchemaMigration.Sql.Value — stored values and column affinities

* `Value` : what a cell of a table holds.
* `Affinity.ofDeclared` : the affinity of a column by its declared type.
* `Affinity.apply` : the value that a column keeps when it is given one.
* `matchesCondition` : equality as a condition asks for it, never true beside a null.
* `apply_text_of_text` : a text column keeps texts as they are.
-/

namespace SchemaMigration.Sql

/-! ## Definitions -/

/-- What a cell of a table holds. -/
inductive Value where
  | null
  | integer (i : Int)
  | real (d : Binary64)
  | text (s : String)
  | blob (bytes : List UInt8)
  deriving DecidableEq, Repr

/-- What a column prefers to keep. -/
inductive Affinity where
  | integer | real | numeric | text
  /-- Keeps every value as it is. -/
  | none
  deriving DecidableEq, Repr

/-- Names match without regard to the case of ASCII letters. -/
def sameName (a b : String) : Bool := Text.foldAscii a = Text.foldAscii b

/-- `part` occurs in the text. -/
def occursIn (part : List Char) : List Char → Bool
  | [] => part.isEmpty
  | c :: cs => part.isPrefixOf (c :: cs) || occursIn part cs

/-- The affinity of a column by its declared type. -/
def Affinity.ofDeclared (type : String) : Affinity :=
  let cs := (Text.foldAscii type).toList
  let has := fun part : String => occursIn part.toList cs
  if has "int" then .integer
  else if has "char" || has "clob" || has "text" then .text
  else if cs.isEmpty || has "blob" then .none
  else if has "real" || has "floa" || has "doub" then .real
  else .numeric

/-- The column keeps numbers rather than texts. -/
def Affinity.isNumeric : Affinity → Bool
  | .integer | .real | .numeric => true
  | _ => false

/-- The integers that are kept lie below this number, and not below its opposite. -/
def integerBound : Int := Nat.pow 2 63

/-- Integers are kept in 64 bits. -/
def fitsInteger (i : Int) : Bool := -integerBound ≤ i && i < integerBound

/-- The number `i` as a value: an integer where it fits, else the nearest real. -/
def Value.ofInt (i : Int) : Value := if fitsInteger i then .integer i else .real (.ofInt i)

/-- The whole number that a real stands for, if it lies strictly between the integer bounds. -/
def wholeReal? (d : Binary64) : Option Int :=
  d.toInt?.filter fun i => -integerBound < i && i < integerBound - 1

/-- The blanks around a number in a text. -/
def isNumberBlank (c : Char) : Bool := c == ' ' || (0x09 ≤ c.toNat && c.toNat ≤ 0x0D)

/-- The value of a run of digits. -/
def runValue (cs : List Char) : Nat := Text.digitsValue (cs.map fun c => c.toNat - 0x30)

/-- A sign, if there is one, and what follows it. -/
def takeSign : List Char → Bool × List Char
  | '-' :: cs => (true, cs)
  | '+' :: cs => (false, cs)
  | cs => (false, cs)

/-- The exponent after a number; none where no digit follows the mark. -/
def exponent? : List Char → Option Int
  | [] => some 0
  | c :: cs =>
    if c = 'e' ∨ c = 'E' then
      let (negative, ds) := takeSign cs
      if ds.isEmpty || !ds.all Char.isDigit then none
      else some (if negative then -(runValue ds : Int) else runValue ds)
    else none

/-- The number of an unsigned text: whole if it has neither point nor exponent. -/
def unsignedNumber? (negative : Bool) (cs : List Char) : Option Value :=
  let whole := cs.takeWhile Char.isDigit
  let rest := cs.dropWhile Char.isDigit
  let signed := fun n : Nat => if negative then -(n : Int) else n
  match rest with
  | [] => if whole.isEmpty then none else some (.ofInt (signed (runValue whole)))
  | c :: cs =>
    let (fraction, tail) :=
      if c = '.' then (cs.takeWhile Char.isDigit, cs.dropWhile Char.isDigit) else ([], rest)
    if whole.isEmpty && fraction.isEmpty then none
    else (exponent? tail).map fun e =>
      .real (.ofDecimal negative (runValue (whole ++ fraction)) (e - fraction.length))

/-- The number that a whole text writes, blanks around it allowed. -/
def numberOfText? (s : String) : Option Value :=
  let body := Text.dropRightWhile isNumberBlank (s.toList.dropWhile isNumberBlank)
  let (negative, cs) := takeSign body
  unsignedNumber? negative cs

/-- A value as a number where it writes one. -/
def Value.toNumber : Value → Value
  | .text s => (numberOfText? s).getD (.text s)
  | v => v

/-- A real that is a whole number, as an integer. -/
def Value.toWhole : Value → Value
  | .real d => match wholeReal? d with
    | some i => .integer i
    | none => .real d
  | v => v

/-- An integer as a real. -/
def Value.toReal : Value → Value
  | .integer i => .real (.ofInt i)
  | v => v

/-- A number as a text; what is no number has none. -/
def Value.toText : Value → Value
  | .integer i => .text (toString i)
  | .real d => if d.isUndefined then .null else .text d.roundedText
  | v => v

/-- The value in the form that a column with this affinity prefers. -/
def Affinity.convert : Affinity → Value → Value
  | .integer, v => v.toNumber.toWhole
  | .numeric, v => v.toNumber.toWhole
  | .real, v => v.toNumber.toReal
  | .text, v => v.toText
  | .none, v => v

/-- Null instead of what is no number. -/
def Value.orNull : Value → Value
  | .real d => if d.isUndefined then .null else .real d
  | v => v

/-- What a column with this affinity keeps when it is given a value. -/
def Affinity.apply (a : Affinity) (v : Value) : Value := (a.convert v).orNull

/-- Two values that are not null and equal. -/
def Value.equal : Value → Value → Bool
  | .integer i, .integer j => i = j
  | .integer i, .real d => d.toInt? = some i
  | .real d, .integer i => d.toInt? = some i
  | .real d, .real e => d.sameNumber e
  | .text s, .text t => s = t
  | .blob a, .blob b => a = b
  | _, _ => false

/-- The value is null. -/
def Value.isNull : Value → Bool
  | .null => true
  | _ => false

/-- A cell of a column with affinity `a` equals the value `v` in a condition. A numeric column turns
a text into a number first, a text column a number into a text. -/
def matchesCondition (a : Affinity) (cell v : Value) : Bool :=
  cell.equal (if a.isNumeric then v.toNumber else if a = .text then v.toText else v)

/-- A value as a text of its own: numbers in decimal, bytes between quotes; a null has none. -/
def Value.display? : Value → Option String
  | .null => none
  | .integer i => some (toString i)
  | .real d => some d.text
  | .text s => some s
  | .blob bytes => some (Text.quotedBytes bytes)

/-! ## Small facts -/

@[simp] theorem apply_text_of_text (s : String) : Affinity.text.apply (.text s) = .text s := rfl

end SchemaMigration.Sql
