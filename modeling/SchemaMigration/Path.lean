import SchemaMigration.Text.Blank

/-!
# SchemaMigration.Path — paths of files

* `Path.parse` : repeated slashes, slashes at the end and `.` parts disappear; `..` parts stay.
* `Path.render` : the text of a path; the empty path is `.`.
* `Path.join` : a path below another one, unless it is absolute; `Path.child` : the path of one entry.
* `join_relative` : a path below another one.
-/

namespace SchemaMigration

/-! ## Definitions -/

/-- A path: what it starts from (nothing, one slash or two) and the names of its parts. -/
structure Path where
  anchor : String
  parts : List String
  deriving DecidableEq, Repr

namespace Path

/-- What a path starts from: exactly two slashes stay two, any other number is one. -/
def anchorOf : List Char → String
  | '/' :: '/' :: '/' :: _ => "/"
  | '/' :: '/' :: _ => "//"
  | '/' :: _ => "/"
  | _ => ""

/-- The path that a text names. -/
def parse (s : String) : Path :=
  ⟨anchorOf s.toList,
    ((Text.splitBy (· == '/') s.toList).map String.ofList).filter fun part =>
      part ≠ "" && part ≠ "."⟩

/-- The text of a path. -/
def render (p : Path) : String :=
  if p.anchor = "" && p.parts.isEmpty then "." else p.anchor ++ "/".intercalate p.parts

/-- The path `q` seen from the directory `p`. -/
def join (p q : Path) : Path := if q.anchor = "" then ⟨p.anchor, p.parts ++ q.parts⟩ else q

/-- The path of what stands in the directory `p` under a name. -/
def child (p : Path) (name : String) : Path := ⟨p.anchor, p.parts ++ [name]⟩

/-! ## Small facts -/

theorem join_relative {p q : Path} (h : q.anchor = "") : p.join q = ⟨p.anchor, p.parts ++ q.parts⟩ := by
  simp [join, h]

end Path

end SchemaMigration
