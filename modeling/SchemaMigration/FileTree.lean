import SchemaMigration.Path

/-!
# SchemaMigration.FileTree — directories and files

A tree holds directories and files by the names that lead to them from the root, and the place of the working
directory. A path is followed part by part, an absolute one from the root and any other from the working
directory, so a missing part ends the way even where a later `..` would lead back.

* `FileTree.locate` : where a path leads.
* `FileTree.isDirectory`, `FileTree.read?` : questions about a path.
* `FileTree.children` : the names in a directory, in the order of the tree; `FileTree.checkLength` : an entry is looked
  at by its whole path, which must not be too long.
* `FileTree.resolve` : where a path leads by its names alone.
* `write`, `makeDirectory`, `remove` : changes of a tree.
-/

namespace SchemaMigration

/-! ## Definitions -/

/-- What a name in a directory stands for. -/
inductive Node where
  | directory
  | file (bytes : List UInt8)
  deriving DecidableEq, Repr

/-- Directories and files, by the names that lead to them from the root. -/
structure FileTree where
  entries : List (List String × Node) := []
  /-- The names that lead to the working directory. -/
  workingDirectory : List String := []
  deriving DecidableEq, Repr

/-- A part of the path is longer than a name can be. -/
structure NameTooLong where
  path : String
  deriving DecidableEq, Repr

namespace FileTree

/-- A name has at most this many bytes. -/
def maxNameBytes : Nat := 255

/-- A path has fewer bytes than this. -/
def maxPathBytes : Nat := 4096

/-- What the names lead to; no names are the root itself. -/
def node? (t : FileTree) (names : List String) : Option Node :=
  if names.isEmpty then some .directory else t.entries.lookup names

/-- The names lead to a directory. -/
def holdsDirectory (t : FileTree) (names : List String) : Bool := t.node? names = some .directory

/-- Where one more part leads from a directory, if there is anything; from the root `..` leads back to it. -/
def enter (t : FileTree) (names : List String) (part : String) : Option (List String) :=
  if part = ".." then some names.dropLast
  else if (t.node? (names ++ [part])).isSome then some (names ++ [part])
  else none

/-- Follows the parts of a path; `error` when the way meets a name that is too long. -/
def follow (t : FileTree) (names : List String) : List String → Except Unit (Option (List String))
  | [] => .ok (some names)
  | part :: parts =>
    if !t.holdsDirectory names then .ok none
    else if maxNameBytes < part.utf8ByteSize then .error ()
    else match t.enter names part with
      | none => .ok none
      | some next => t.follow next parts

/-- The names that lead to where a path starts. -/
def start (t : FileTree) (p : Path) : List String := if p.anchor = "" then t.workingDirectory else []

/-- The names that a path leads to; a path that holds a zero character leads nowhere. -/
def locate (t : FileTree) (p : Path) : Except NameTooLong (Option (List String)) :=
  if p.render.toList.contains (Char.ofNat 0) then .ok none
  else if maxPathBytes ≤ p.render.utf8ByteSize then .error ⟨p.render⟩
  else match t.follow (t.start p) p.parts with
    | .ok found => .ok found
    | .error _ => .error ⟨p.render⟩

/-- The names that a path writes, whatever stands there: each `..` takes the name before it away. -/
def resolve (t : FileTree) (p : Path) : List String :=
  p.parts.foldl (fun names part => if part = ".." then names.dropLast else names ++ [part]) (t.start p)

/-- Makes sure that a path is not too long to be looked at. -/
def checkLength (p : Path) : Except NameTooLong Unit :=
  if maxPathBytes ≤ p.render.utf8ByteSize then .error ⟨p.render⟩ else .ok ()

/-- The bytes at a path, if it leads to a file. -/
def read? (t : FileTree) (p : Path) : Except NameTooLong (Option (List UInt8)) :=
  (t.locate p).map fun
    | some names =>
      match t.node? names with
      | some (.file bytes) => some bytes
      | _ => none
    | none => none

/-- The path leads to a directory. -/
def isDirectory (t : FileTree) (p : Path) : Except NameTooLong Bool :=
  (t.locate p).map fun found => found.any t.holdsDirectory

/-- The name of an entry, if it stands directly in the directory `names`. -/
def nameIn (names : List String) (entry : List String × Node) : Option (String × Node) :=
  match entry.1.getLast? with
  | some last => if entry.1.dropLast = names then some (last, entry.2) else none
  | none => none

/-- What stands directly in a directory, in the order of the tree. -/
def children (t : FileTree) (p : Path) : List (String × Node) :=
  match t.locate p with
  | .ok (some names) => t.entries.filterMap (nameIn names)
  | _ => []

/-- The names of the directories that stand directly in a directory. -/
def subdirectories (t : FileTree) (p : Path) : List String :=
  (t.children p).filterMap fun (name, node) => if node = .directory then some name else none

/-! ### Changes -/

/-- The tree with `node` at `names`. -/
def set (t : FileTree) (names : List String) (node : Node) : FileTree :=
  if (t.entries.lookup names).isSome then
    { t with entries := t.entries.map fun e => if e.1 = names then (e.1, node) else e }
  else { t with entries := t.entries ++ [(names, node)] }

/-- The tree with a directory at each of the names that lead to `names`, itself included. -/
def makeDirectory (t : FileTree) (names : List String) : FileTree :=
  ((List.range names.length).map fun i => names.take (i + 1)).foldl
    (fun t above => if (t.entries.lookup above).isSome then t else t.set above .directory) t

/-- The tree with a file at `names`. -/
def write (t : FileTree) (names : List String) (bytes : List UInt8) : FileTree :=
  (t.makeDirectory names.dropLast).set names (.file bytes)

/-- The tree without what stands at `names` and below. -/
def remove (t : FileTree) (names : List String) : FileTree :=
  { t with entries := t.entries.filter fun e => !names.isPrefixOf e.1 }

end FileTree

end SchemaMigration
