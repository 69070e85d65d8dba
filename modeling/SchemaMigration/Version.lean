import SchemaMigration.Text.Numeral

/-!
# SchemaMigration.Version — dotted versions

A version is a dotted sequence of decimal components. Its text is kept as written; versions are
ordered by their components as numbers, missing components on the right counting as zero.

* `Version.parse` : a version from a text, blanks around it cut off.
* `Version.key` : the components without the zeros on the right; the order compares keys.
* `Version.paddedCompare` : the order as it is stated, on sequences filled up with zeros.
* `lexCompare_self`, `Version.compare_self` : a version equals itself.
-/

namespace SchemaMigration

/-! ## Definitions -/

/-- A version: its text without blanks around it, and its components. -/
structure Version where
  text : String
  parts : List Nat
  deriving DecidableEq, Repr

/-- Why a text is no version. -/
inductive VersionFault where
  /-- Not a dotted sequence of digits. -/
  | malformed (text : String)
  /-- A component of this many digits comes before any malformed one. -/
  | tooLong (digits : Nat)
  deriving DecidableEq, Repr

namespace Version

/-- The number of a component: at least one digit, all of ASCII, and not too many. `text` is the
whole version. -/
def parseComponent (text : String) (cs : List Char) : Except VersionFault Nat :=
  if cs.isEmpty || !cs.all Char.isDigit then .error (.malformed text)
  else if Text.digitLimit < cs.length then .error (.tooLong cs.length)
  else .ok (Text.digitsValue (cs.map fun c => c.toNat - 0x30))

/-- The numbers of the components, the first refusal winning. -/
def parseComponents (text : String) : List (List Char) → Except VersionFault (List Nat)
  | [] => .ok []
  | w :: ws =>
    match parseComponent text w with
    | .error e => .error e
    | .ok n => (parseComponents text ws).map (n :: ·)

/-- The version that the characters `cs` write. -/
def ofChars (cs : List Char) : Except VersionFault Version :=
  let body := Text.trim cs
  let text := String.ofList body
  (parseComponents text (Text.splitBy (· == '.') body)).map (⟨text, ·⟩)

/-- The version that a text writes. -/
def parse (s : String) : Except VersionFault Version := ofChars s.toList

/-- The version at the front of a step's name: what stands before its first underscore. -/
def ofStepName (name : String) : Except VersionFault Version :=
  ofChars (name.toList.takeWhile (· != '_'))

/-! ### Order -/

/-- The components without the zeros on the right, the first component kept. -/
def trimZeros : List Nat → List Nat
  | [] => []
  | n :: ns =>
    match trimZeros ns with
    | [0] => [n]
    | ms => n :: ms

/-- What decides how a version compares. -/
def key (v : Version) : List Nat := trimZeros v.parts

/-- What a version is hashed by: the remainders of its key. Equal versions have equal remainders. -/
def hashKey (v : Version) : List Nat := v.key.map (· % (Nat.pow 2 61 - 1))

/-- The order of two sequences by their first difference; a proper beginning comes first. -/
def lexCompare : List Nat → List Nat → Ordering
  | [], [] => .eq
  | [], _ :: _ => .lt
  | _ :: _, [] => .gt
  | m :: ms, n :: ns => (Ord.compare m n).then (lexCompare ms ns)

/-- The order of two sequences, the shorter filled up with zeros. -/
def paddedCompare : List Nat → List Nat → Ordering
  | [], [] => .eq
  | [], n :: ns => (Ord.compare 0 n).then (paddedCompare [] ns)
  | m :: ms, [] => (Ord.compare m 0).then (paddedCompare ms [])
  | m :: ms, n :: ns => (Ord.compare m n).then (paddedCompare ms ns)

/-- Versions compare by their keys. -/
def compare (v w : Version) : Ordering := lexCompare v.key w.key

instance : LT Version := ⟨fun v w => compare v w = .lt⟩
instance : LE Version := ⟨fun v w => compare v w ≠ .gt⟩
instance (v w : Version) : Decidable (v < w) := inferInstanceAs (Decidable (compare v w = .lt))
instance (v w : Version) : Decidable (v ≤ w) := inferInstanceAs (Decidable (compare v w ≠ .gt))

/-- Two versions that no comparison tells apart. -/
def Same (v w : Version) : Prop := compare v w = .eq

instance (v w : Version) : Decidable (Same v w) := inferInstanceAs (Decidable (compare v w = .eq))

/-- An order as a number: `-1`, `0` or `1`. -/
def sign : Ordering → Int
  | .lt => -1
  | .eq => 0
  | .gt => 1

/-- The version of the components `ns`, written in decimal. -/
def ofParts (ns : List Nat) : Version := ⟨".".intercalate (ns.map Nat.repr), ns⟩

/-! ### Lists of versions -/

/-- The versions in ascending order, equal ones in the order given. -/
def sort (vs : List Version) : List Version := vs.mergeSort fun v w => v ≤ w

/-- The first of each group of equal versions, in the order given. -/
def distinct (vs : List Version) : List Version :=
  vs.foldl (fun kept v => if kept.any fun w => Same w v then kept else kept ++ [v]) []

/-- The first of the greatest versions. -/
def greatest? (vs : List Version) : Option Version :=
  vs.foldl (fun best v => match best with
    | none => some v
    | some b => if b < v then some v else some b) none

/-! ## Small facts -/

@[simp] theorem lexCompare_self (ns : List Nat) : lexCompare ns ns = .eq := by
  induction ns with
  | nil => rfl
  | cons n ns ih => simp [lexCompare, ih]

@[simp] theorem compare_self (v : Version) : compare v v = .eq := lexCompare_self _

theorem le_iff_not_lt {v w : Version} : v ≤ w ↔ compare v w = .lt ∨ compare v w = .eq := by
  show compare v w ≠ .gt ↔ _
  cases compare v w <;> simp

end Version

end SchemaMigration
