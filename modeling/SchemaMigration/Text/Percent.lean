import SchemaMigration.Text.Utf8
import SchemaMigration.Text.Blank

/-!
# SchemaMigration.Text.Percent — percent-encoded texts

* `percentEncode safe` writes each byte of the characters outside `safe` as `%` and two digits.
* `percentDecode` reads such triples back; a `%` without two digits stands for itself.
* `formEncode`, `formFields` : the fields of a query, with `+` for the space.
-/

namespace SchemaMigration.Text

/-! ## Definitions -/

/-- The characters that are never encoded: letters, digits and `_.-~` of ASCII. -/
def isUnreserved (c : Char) : Bool := c.isAlphanum || c == '_' || c == '.' || c == '-' || c == '~'

/-- A byte as `%` and two digits. -/
def percentByte (b : UInt8) : List Char := '%' :: (hexDigits 2 b.toNat).map Char.toUpper

/-- `cs` with the characters that are neither unreserved nor in `safe` encoded. -/
def percentEncode (safe : List Char) (cs : List Char) : List Char :=
  cs.flatMap fun c =>
    if isUnreserved c || safe.contains c then [c]
    else (String.utf8EncodeChar c).flatMap percentByte

/-- The value of a hexadecimal digit. -/
def hexValue? (c : Char) : Option Nat :=
  if c.isDigit then some (c.toNat - 0x30)
  else if 'a' ≤ c ∧ c ≤ 'f' then some (c.toNat - 0x57)
  else if 'A' ≤ c ∧ c ≤ 'F' then some (c.toNat - 0x37)
  else none

/-- The bytes of a run of ASCII characters, each encoded triple read as one byte. -/
def percentBytes : List Char → List UInt8
  | [] => []
  | '%' :: h :: l :: cs =>
    match hexValue? h, hexValue? l with
    | some a, some b => UInt8.ofNat (16 * a + b) :: percentBytes cs
    | _, _ => 0x25 :: percentBytes (h :: l :: cs)
  | c :: cs => UInt8.ofNat c.toNat :: percentBytes cs

/-- A run of ASCII characters still to be decoded, and the decoded text after it. -/
def percentDecodeRun : List Char → List Char × List Char
  | [] => ([], [])
  | c :: cs =>
    let (run, rest) := percentDecodeRun cs
    if c.toNat < 0x80 then (c :: run, rest)
    else ([], c :: decodeLoosely (percentBytes run) ++ rest)

/-- `cs` with its encoded bytes read back; bytes are joined to characters only between characters
outside ASCII. -/
def percentDecode (cs : List Char) : List Char :=
  let (run, rest) := percentDecodeRun cs
  decodeLoosely (percentBytes run) ++ rest

/-- A name or value of a query field. -/
def formEncode (cs : List Char) : List Char :=
  (percentEncode [' '] cs).map fun c => if c = ' ' then '+' else c

/-- A name or value of a query field, read back. -/
def formDecode (cs : List Char) : List Char :=
  percentDecode (cs.map fun c => if c = '+' then ' ' else c)

/-- The fields of a query: what stands between `&`s, cut at its first `=`; fields without a value
are dropped. -/
def formFields (cs : List Char) : List (List Char × List Char) :=
  (splitBy (· == '&') cs).filterMap fun piece =>
    match piece.dropWhile (· != '=') with
    | '=' :: value =>
      if value.isEmpty then none
      else some (formDecode (piece.takeWhile (· != '=')), formDecode value)
    | _ => none

end SchemaMigration.Text
