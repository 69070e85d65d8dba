/-!
# SchemaMigration.Number.Binary64 — numbers in double precision

A number is held as its 64 bits: a sign, eleven bits of exponent and 52 of fraction. Arithmetic is
exact arithmetic on fractions followed by one rounding.

* `Binary64.ratio?` : the fraction that a finite number stands for.
* `Binary64.ofRatio` : the nearest number to a fraction, the even one of two.
* `Binary64.add`, `Binary64.ofInt`, `Binary64.ofDecimal` : through these two.
-/

namespace SchemaMigration

/-! ## Definitions -/

/-- A number in double precision, by its bits. -/
structure Binary64 where
  bits : UInt64
  deriving DecidableEq, Repr

/-- The quotient rounded to the nearest whole number, the even one of two. -/
def roundDiv (num den : Nat) : Nat :=
  let q := num / den
  let r := num % den
  if den < 2 * r ∨ (2 * r = den ∧ q % 2 = 1) then q + 1 else q

namespace Binary64

/-- The bit of the sign. -/
def signBit : Nat := Nat.pow 2 63

/-- The stored fraction is below this number. -/
def fractionBound : Nat := Nat.pow 2 52

/-- The number is below zero, or the negative zero. -/
def isNegative (d : Binary64) : Bool := d.bits.toNat / signBit = 1

/-- The exponent as stored. -/
def storedExponent (d : Binary64) : Nat := d.bits.toNat / fractionBound % Nat.pow 2 11

/-- The fraction as stored. -/
def storedFraction (d : Binary64) : Nat := d.bits.toNat % fractionBound

/-- The number is neither infinite nor undefined. -/
def isFinite (d : Binary64) : Bool := d.storedExponent ≠ 2047

/-- The number is none at all, like the difference of two infinite ones. -/
def isUndefined (d : Binary64) : Bool := !d.isFinite && d.storedFraction ≠ 0

/-- The whole number `m` of the magnitude `m * 2 ^ q`. -/
def significand (d : Binary64) : Nat :=
  if d.storedExponent = 0 then d.storedFraction else fractionBound + d.storedFraction

/-- The exponent `q` of the magnitude `m * 2 ^ q`. -/
def exponent (d : Binary64) : Int :=
  if d.storedExponent = 0 then -1074 else (d.storedExponent : Int) - 1075

/-- A magnitude as a fraction. -/
def magnitude (d : Binary64) : Nat × Nat :=
  (d.significand * Nat.pow 2 d.exponent.toNat, Nat.pow 2 (-d.exponent).toNat)

/-- The fraction that a finite number stands for. -/
def ratio? (d : Binary64) : Option (Int × Nat) :=
  if d.isFinite then
    some (if d.isNegative then -(d.magnitude.1 : Int) else d.magnitude.1, d.magnitude.2)
  else none

/-- The bits of a magnitude `n`, with a sign. -/
def signed (negative : Bool) (n : Nat) : Binary64 :=
  ⟨UInt64.ofNat (if negative then signBit + n else n)⟩

/-- The infinite number with a sign. -/
def infinity (negative : Bool) : Binary64 := signed negative (2047 * fractionBound)

/-- What is no number. -/
def undefined : Binary64 := signed false (2047 * fractionBound + fractionBound / 2)

/-- The number nearest to `num / den`, with a sign. -/
def ofRatio (negative : Bool) (num den : Nat) : Binary64 :=
  if num = 0 then signed negative 0
  else
    let guess : Int := (Nat.log2 num : Int) - Nat.log2 den - 52
    let scaled := fun q : Int => (num * Nat.pow 2 (-q).toNat, den * Nat.pow 2 q.toNat)
    let q := if (scaled guess).1 / (scaled guess).2 < fractionBound then guess - 1 else guess
    let q := if q < -1074 then -1074 else q
    let m := roundDiv (scaled q).1 (scaled q).2
    let n := if m < fractionBound then m else (q + 1075).toNat * fractionBound + (m - fractionBound)
    if 2047 * fractionBound ≤ n then infinity negative else signed negative n

/-- The number nearest to an integer. -/
def ofInt (i : Int) : Binary64 := ofRatio (i < 0) i.natAbs 1

/-- The number nearest to `digits * 10 ^ exp`, with a sign. -/
def ofDecimal (negative : Bool) (digits : Nat) (exp : Int) : Binary64 :=
  if digits = 0 then signed negative 0
  else if 400 < exp then infinity negative
  else if exp + Nat.log2 digits < -1200 then signed negative 0
  else ofRatio negative (digits * Nat.pow 10 exp.toNat) (Nat.pow 10 (-exp).toNat)

/-- The sum of two numbers. An infinite one absorbs every finite one; with its opposite it is no number. -/
def add (a b : Binary64) : Binary64 :=
  match a.ratio?, b.ratio? with
  | some (m, k), some (n, l) =>
    let sum := m * l + n * k
    ofRatio (if sum = 0 then a.isNegative && b.isNegative else sum < 0) sum.natAbs (k * l)
  | none, some _ => a
  | some _, none => b
  | none, none => if a = b then a else undefined

/-- The integer that a number is equal to, if there is one. -/
def toInt? (d : Binary64) : Option Int :=
  match d.ratio? with
  | some (m, k) => if m % k = 0 then some (m / k) else none
  | none => none

/-- The two numbers are equal as numbers. -/
def sameNumber (a b : Binary64) : Bool :=
  match a.ratio?, b.ratio? with
  | some (m, k), some (n, l) => m * l = n * k
  | _, _ => a = b

end Binary64

end SchemaMigration
