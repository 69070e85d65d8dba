import SchemaMigration.Version

/-!
# SchemaMigration.Version.Comparison — a version beside a value of another kind

A version may be compared with a version, with a text that is read as one, or with a value that is
neither.

* `Relation.between` : whether a relation holds between two versions, told from equal keys and from the
  lesser key.
* `Relation.holds` : the same beside any value, or why the comparison is refused. Equality with a
  malformed text or with another value is false; order with either is refused.
* `comparison`, `isGreater` : how two values compare, each read as a version first.
-/

namespace SchemaMigration.Version

/-! ## Definitions -/

/-- What a version can be compared with. -/
inductive Comparand where
  | version (v : Version)
  | text (s : String)
  /-- A value that is neither a version nor a text, by the name of its kind. -/
  | other (kind : String)
  deriving DecidableEq, Repr

/-- The relations that a comparison can ask for. -/
inductive Relation where
  | eq | ne | lt | le | gt | ge
  deriving DecidableEq, Repr

/-- Why a comparison has no answer. -/
inductive ComparisonFault where
  | version (fault : VersionFault)
  | unordered (relation : Relation) (kind : String)
  deriving DecidableEq, Repr

/-- How a relation is written. -/
def Relation.symbol : Relation → String
  | .eq => "=="
  | .ne => "!="
  | .lt => "<"
  | .le => "<="
  | .gt => ">"
  | .ge => ">="

/-- The relation asks for equality alone. -/
def Relation.isEquality : Relation → Bool
  | .eq | .ne => true
  | _ => false

/-- Whether the relation holds, where it is known whether the two are equal and whether the first comes
before the second. -/
def Relation.decides : Relation → Bool → Bool → Bool
  | .eq, same, _ => same
  | .ne, same, _ => !same
  | .lt, _, before => before
  | .le, same, before => before || same
  | .gt, same, before => !before && !same
  | .ge, _, before => !before

/-- The relation holds between the two versions. -/
def Relation.between (r : Relation) (v w : Version) : Bool := r.decides (v.key = w.key) (v < w)

/-- Whether the relation holds between a version and a comparand. -/
def Relation.holds (r : Relation) (v : Version) : Comparand → Except ComparisonFault Bool
  | .version w => .ok (r.between v w)
  | .text s =>
    match parse s with
    | .ok w => .ok (r.between v w)
    | .error (.malformed t) =>
      if r.isEquality then .ok (r == .ne) else .error (.version (.malformed t))
    | .error e => .error (.version e)
  | .other kind => if r.isEquality then .ok (r == .ne) else .error (.unordered r kind)

/-- The version that a comparand is read as; a value of another kind is read as an empty text. -/
def Comparand.read : Comparand → Except VersionFault Version
  | .version v => .ok v
  | .text s => parse s
  | .other _ => parse ""

/-- `0` where the two are equal, else `1` where the left one is greater and `-1` where it is not. -/
def comparison (left right : Comparand) : Except VersionFault Int := do
  let v ← left.read
  let w ← right.read
  if Relation.eq.between v w then return 0
  return if Relation.gt.between v w then 1 else -1

/-- The left one is greater. -/
def isGreater (left right : Comparand) : Except VersionFault Bool :=
  (comparison left right).map fun n => 0 < n

/-! ## Small facts -/

theorem Relation.holds_text_of_parse {s : String} {w : Version} (h : parse s = .ok w)
    (r : Relation) (v : Version) : r.holds v (.text s) = r.holds v (.version w) := by
  simp [Relation.holds, h]

end SchemaMigration.Version
