import SchemaMigration.CommandLine.Run
import SchemaMigration.Rehearsal

/-!
# SchemaMigration.Main — the command line

A rehearsal of a run: the files are those below the working directory, the variables those of the
environment, and every database begins empty and is forgotten at the end. `CommandLine.run` decides
everything; here files and variables are read, and what was printed and reported is written out.
-/

namespace SchemaMigration.CommandLine

/-- Directories are followed down to this depth. -/
def maxDepth : Nat := 32

/-- Adds a directory entry, and what is below it, to a tree. -/
def addEntry : Nat → List String → FileTree → IO.FS.DirEntry → IO FileTree
  | 0, _, tree, _ => return tree
  | depth + 1, above, tree, entry => do
    let names := above ++ [entry.fileName]
    if ← entry.path.isDir then
      (← entry.path.readDir).foldlM (addEntry depth names) (tree.makeDirectory names)
    else
      return tree.write names (← IO.FS.readBinFile entry.path).toList

/-- The files below the working directory, at their places below the root. -/
def readTree : IO FileTree := do
  let directory ← IO.currentDir
  let names := (Path.parse directory.toString).parts
  let tree : FileTree := { workingDirectory := names }
  (← directory.readDir).foldlM (addEntry maxDepth names) (tree.makeDirectory names)

/-- The variables that give settings. -/
def readEnvironment : IO Environment :=
  Settings.allVariables.filterMapM fun name => do return (← IO.getEnv name).map (name, ·)

/-- Writes out how a run ended; the result is its status. -/
def report (ending : Ending) : IO UInt32 := do
  for notice in shown ending.rank ending.journal do
    IO.eprintln (notice.level.name ++ " " ++ notice.channel ++ " " ++ notice.message "0.00")
  match ending.result with
  | .ok (status, printed) =>
    IO.print printed
    return UInt32.ofNat status
  | .error accident =>
    IO.eprintln accident.message
    return 1

end SchemaMigration.CommandLine

/-- Runs the command that the arguments ask for. -/
def main (args : List String) : IO UInt32 := do
  match SchemaMigration.CommandLine.parse args with
  | .error refusal => return UInt32.ofNat refusal.status
  | .ok invocation =>
    let files ← SchemaMigration.CommandLine.readTree
    let env ← SchemaMigration.CommandLine.readEnvironment
    let platform := SchemaMigration.Rehearsal.platform
    SchemaMigration.CommandLine.report (SchemaMigration.CommandLine.run platform invocation env { files })
