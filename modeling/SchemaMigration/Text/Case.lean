import SchemaMigration.Text.CaseTable

/-!
# SchemaMigration.Text.Case — upper and lower case

* `upper` : letter by letter; some letters become several.
* `lower` : letter by letter, except that a capital sigma at the end of a word takes its final form.
* `foldAscii` : lower case for the letters `A`–`Z` alone.
-/

namespace SchemaMigration.Text

/-! ## Definitions -/

/-- The other case of `c` by a table of images, if it has one there. -/
def shiftCase (table : List (Nat × Nat × Nat × Nat)) (c : Char) : Option Char :=
  (table.find? fun (first, last, step, _) =>
    first ≤ c.toNat && c.toNat ≤ last && (c.toNat - first) % step == 0).map
      fun (first, _, _, image) => Char.ofNat (image + (c.toNat - first))

/-- The upper-case form of one character. -/
def upperChar (c : Char) : List Char :=
  match upperExpansions.find? (·.1 == c.toNat) with
  | some (_, ns) => ns.map Char.ofNat
  | none => [(shiftCase upperImages c).getD c]

/-- A text in upper case. -/
def upper (s : String) : String := String.ofList (s.toList.flatMap upperChar)

/-- The nearest character that is not passed over has a case. -/
def meetsCased (cs : List Char) : Bool :=
  match cs.find? (!inRanges caseIgnorableRanges ·) with
  | some c => inRanges casedRanges c
  | none => false

/-- The lower-case form of `c` between `before`, nearest first, and `after`. -/
def lowerChar (before : List Char) (c : Char) (after : List Char) : List Char :=
  if c = 'Σ' then if meetsCased before && !meetsCased after then ['ς'] else ['σ']
  else if c = 'İ' then ['i', Char.ofNat 0x307]
  else [(shiftCase lowerImages c).getD c]

/-- The lower-case form of a text that follows `before`, nearest first. -/
def lowerAfter (before : List Char) : List Char → List Char
  | [] => []
  | c :: cs => lowerChar before c cs ++ lowerAfter (c :: before) cs

/-- A text in lower case. -/
def lower (s : String) : String := String.ofList (lowerAfter [] s.toList)

/-- A text with the letters `A`–`Z` in lower case. -/
def foldAscii (s : String) : String := String.ofList (s.toList.map Char.toLower)

end SchemaMigration.Text
