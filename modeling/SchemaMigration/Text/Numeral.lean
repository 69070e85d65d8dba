import SchemaMigration.Text.Alphanumeric
import SchemaMigration.Text.Blank
import SchemaMigration.Text.Quoted

/-!
# SchemaMigration.Text.Numeral — whole numbers in texts

* `digitsValue` : the number that a list of decimal digits stands for.
* `readInteger` : an integer between blanks, with a sign, digits of any script and single underscores
  between them; more than `digitLimit` digits are refused before anything after them is looked at.
-/

namespace SchemaMigration.Text

/-! ## Definitions -/

/-- A number is read only up to this many digits. -/
def digitLimit : Nat := 4300

/-- The number written with the digits `ds`, the highest first. -/
def digitsValue (ds : List Nat) : Nat := ds.foldl (fun n d => 10 * n + d) 0

/-- Why a text is not read as an integer. -/
inductive NumeralFault where
  | malformed (text : String)
  | tooLong (digits : Nat)
  deriving DecidableEq, Repr

/-- The blanks around a number: of ASCII only the space and `09`–`0D`. -/
def isNumeralBlank (c : Char) : Bool :=
  if c.toNat < 0x7F then c == ' ' || (0x09 ≤ c.toNat && c.toNat ≤ 0x0D) else isBlank c

/-- The digits of a run of digits and underscores, unless an underscore is not between two digits. -/
def underscoredDigits (cs : List Char) : Option (List Nat) :=
  let groups := splitBy (· == '_') cs
  if groups.any (·.isEmpty) then none else groups.flatten.mapM decimalValue?

/-- The integer that a text stands for. -/
def readInteger (s : String) : Except NumeralFault Int :=
  let body := s.toList.dropWhile isNumeralBlank
  let (negative, unsigned) := match body with
    | '-' :: cs => (true, cs)
    | '+' :: cs => (false, cs)
    | cs => (false, cs)
  let isNumeralChar := fun c => c == '_' || (decimalValue? c).isSome
  match underscoredDigits (unsigned.takeWhile isNumeralChar) with
  | none => .error (.malformed s)
  | some ds =>
    if digitLimit < ds.length then .error (.tooLong ds.length)
    else if (unsigned.dropWhile isNumeralChar).all isNumeralBlank then
      .ok (if negative then -(digitsValue ds : Int) else digitsValue ds)
    else .error (.malformed s)

/-- What is reported of a text that is not read as an integer. -/
def NumeralFault.message : NumeralFault → String
  | .malformed text =>
    "invalid literal for int() with base 10: " ++
      String.ofList ((quotedChars text.toList).take 200)
  | .tooLong digits =>
    "Exceeds the limit (" ++ toString digitLimit ++
      " digits) for integer string conversion: value has " ++ toString digits ++
      " digits; use sys.set_int_max_str_digits() to increase the limit"

end SchemaMigration.Text
