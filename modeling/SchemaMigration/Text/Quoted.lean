import SchemaMigration.Text.Printable

/-!
# SchemaMigration.Text.Quoted — texts and bytes as quoted literals

* `quoted` writes a text between quotes so that no character without a visible form stands in it.
* `quotedBytes` writes bytes the same way, with a `b` in front.
* The quote is the single one unless the text holds a single quote and no double quote.
-/

namespace SchemaMigration.Text

/-! ## Definitions -/

/-- The last `width` hexadecimal digits of `n`. -/
def hexDigits (width n : Nat) : List Char :=
  (List.range width).reverse.map fun i => Nat.digitChar (n / Nat.pow 16 i % 16)

/-- The quote for a text: double if it holds a single quote and no double quote. -/
def quoteFor (cs : List Char) : Char :=
  if '\x27' ∈ cs ∧ '"' ∉ cs then '"' else '\x27'

/-- One character of a text between two `quote`s. -/
def quoteChar (quote c : Char) : List Char :=
  if c = quote ∨ c = '\\' then ['\\', c]
  else if c = '\n' then ['\\', 'n']
  else if c = '\r' then ['\\', 'r']
  else if c = '\t' then ['\\', 't']
  else if isPrintable c then [c]
  else if c.toNat < 0x100 then '\\' :: 'x' :: hexDigits 2 c.toNat
  else if c.toNat < 0x10000 then '\\' :: 'u' :: hexDigits 4 c.toNat
  else '\\' :: 'U' :: hexDigits 8 c.toNat

/-- The characters of `cs` between quotes. -/
def quotedChars (cs : List Char) : List Char :=
  let quote := quoteFor cs
  quote :: cs.flatMap (quoteChar quote) ++ [quote]

/-- `s` between quotes. -/
def quoted (s : String) : String := String.ofList (quotedChars s.toList)

/-- One byte of a byte string between two `quote`s: a byte above `7E` is never shown as a letter. -/
def quoteByte (quote : Char) (b : UInt8) : List Char :=
  if b.toNat < 0x7F then quoteChar quote (Char.ofNat b.toNat) else '\\' :: 'x' :: hexDigits 2 b.toNat

/-- The bytes `bs` between quotes, marked as bytes. -/
def quotedBytes (bs : List UInt8) : String :=
  let quote := quoteFor (bs.map fun b => Char.ofNat b.toNat)
  String.ofList ('b' :: quote :: bs.flatMap (quoteByte quote) ++ [quote])

end SchemaMigration.Text
