import SchemaMigration.Number.Binary64

/-!
# SchemaMigration.Number.Decimal — decimal texts of numbers in double precision

A decimal is a list of digits, the first standing for `10 ^ exponent`.

* `Decimal.shortest` : the fewest digits that read back, of two such decimals the nearer.
* `Decimal.rounded` : a fixed number of significant digits, zeros on the right dropped.
* `DecimalStyle` : up to where a decimal is written without an exponent.
* `Binary64.text` writes the shortest decimal, `Binary64.roundedText` fifteen digits.
-/

namespace SchemaMigration

/-! ## Definitions -/

/-- A positive decimal: its digits, and the power of ten that the first one counts. -/
structure Decimal where
  digits : List Nat
  exponent : Int
  deriving DecidableEq, Repr

/-- How decimals are written: without an exponent if the first digit counts at least `10 ^ -4` and
less than `10 ^ positionalBelow`, and with a fraction part after a single digit or without. -/
structure DecimalStyle where
  positionalBelow : Int
  fractionBeforeExponent : Bool
  deriving DecidableEq, Repr

namespace Decimal

/-- The digits of a number without the zeros on the right; none for zero. -/
def significantDigits (n : Nat) : List Nat :=
  (((Nat.toDigits 10 n).map fun c => c.toNat - 0x30).reverse.dropWhile (· == 0)).reverse

/-- The first of the places `k`, `k + 1`, … after the point, `fuel` of them at most, at which
`num / den` has a digit. -/
def firstPlace (num den : Nat) : Nat → Nat → Nat
  | 0, k => k
  | fuel + 1, k => if den ≤ num * Nat.pow 10 k then k else firstPlace num den fuel (k + 1)

/-- The power of ten that the first digit of `num / den` counts, for a positive fraction that is no
smaller than the smallest number in double precision. -/
def leadingExponent (num den : Nat) : Int :=
  if den ≤ num then (Nat.toDigits 10 (num / den)).length - 1 else -(firstPlace num den 400 1 : Int)

/-- `num / den` in units of `10 ^ e`, as a fraction. -/
def inUnits (num den : Nat) (e : Int) : Nat × Nat :=
  (num * Nat.pow 10 (-e).toNat, den * Nat.pow 10 e.toNat)

/-- `num / den` to `count` significant digits. -/
def rounded (count num den : Nat) : Decimal :=
  let e := leadingExponent num den
  let (a, b) := inUnits num den (e - (count - 1 : Nat))
  let n := roundDiv a b
  ⟨significantDigits n, if Nat.pow 10 count ≤ n then e + 1 else e⟩

/-- The fractions between which every number reads back as the finite number `d`, over the
denominator `4 * den`; the ends belong to it when the significand is even. -/
def readBackBounds (d : Binary64) : Nat × Nat :=
  let (num, _) := d.magnitude
  let unit := Nat.pow 2 d.exponent.toNat
  let below := if d.significand = Binary64.fractionBound ∧ 1 < d.storedExponent then unit else 2 * unit
  (4 * num - below, 4 * num + 2 * unit)

/-- The decimal of `count` digits nearest to `d` that reads back as `d`, if there is one. -/
def shortestOf (d : Binary64) (count : Nat) : Option Decimal :=
  let (num, den) := d.magnitude
  let (low, high) := readBackBounds d
  let e := leadingExponent num den
  let unit := e - (count - 1 : Nat)
  let (a, b) := inUnits num den unit
  let readsBack := fun n : Nat =>
    let (p, q) := inUnits n 1 (-unit)
    let x := 4 * den * p
    if d.significand % 2 = 0 then low * q ≤ x && x ≤ high * q else low * q < x && x < high * q
  let nearer := roundDiv a b
  let other := if nearer = a / b then a / b + 1 else a / b
  ([nearer, other].find? readsBack).map fun n =>
    ⟨significantDigits n, if Nat.pow 10 count ≤ n then e + 1 else e⟩

/-- The fewest digits that read back as the finite positive number `d`. -/
def shortest (d : Binary64) : Decimal :=
  ((List.range 17).findSome? fun i => shortestOf d (i + 1)).getD (rounded 17 d.magnitude.1 d.magnitude.2)

/-- A digit as a character. -/
def digitChars (ds : List Nat) : String := String.ofList (ds.map Nat.digitChar)

/-- The text of a decimal. -/
def render (style : DecimalStyle) (d : Decimal) : String :=
  let count : Int := d.digits.length
  if -4 ≤ d.exponent ∧ d.exponent < style.positionalBelow then
    if d.exponent < 0 then
      "0." ++ String.ofList (List.replicate (-d.exponent - 1).toNat '0') ++ digitChars d.digits
    else
      let zeros := List.replicate (d.exponent + 1 - count).toNat 0
      let whole := d.digits.take (d.exponent + 1).toNat ++ zeros
      let fraction := d.digits.drop (d.exponent + 1).toNat
      digitChars whole ++ "." ++ (if fraction.isEmpty then "0" else digitChars fraction)
  else
    let fraction := d.digits.drop 1
    let tail :=
      if fraction.isEmpty then if style.fractionBeforeExponent then ".0" else ""
      else "." ++ digitChars fraction
    let size := d.exponent.natAbs
    digitChars (d.digits.take 1) ++ tail ++ "e" ++ (if d.exponent < 0 then "-" else "+") ++
      (if size < 10 then "0" else "") ++ toString size

end Decimal

/-- Shortest decimals are written without an exponent below `10 ^ 16`. -/
def shortestStyle : DecimalStyle := ⟨16, false⟩

/-- Decimals of fifteen digits are written without an exponent below `10 ^ 15`, and always with a
fraction. -/
def roundedStyle : DecimalStyle := ⟨15, true⟩

namespace Binary64

/-- The text of a number whose positive magnitude `decimal` gives. -/
def textWith (style : DecimalStyle) (decimal : Binary64 → Decimal) (infinite : String)
    (d : Binary64) : String :=
  let body :=
    if d.isUndefined then "nan"
    else if !d.isFinite then infinite
    else if d.significand = 0 then "0.0"
    else Decimal.render style (decimal d)
  if d.isNegative then "-" ++ body else body

/-- The shortest text that reads back as the number. -/
def text : Binary64 → String := textWith shortestStyle Decimal.shortest "inf"

/-- The number to fifteen digits. -/
def roundedText : Binary64 → String :=
  textWith roundedStyle (fun d => Decimal.rounded 15 d.magnitude.1 d.magnitude.2) "Inf"

end Binary64

end SchemaMigration
