import SchemaMigration.Job

/-!
# SchemaMigration.Release — the steps and the version that a release brings

A release is a tree of scripts: a script that makes the schema, a directory of scripts for each step,
whose name starts with the version that the step leads to, and the version of the release itself.

* `Step.ofName` : a step by the name of its directory.
* `stepsOfNames` : the steps among the names of directories, in ascending order of their versions.
* `steps`, `softVersion` : the same for the release below the resource root.
* `mem_stepsOfNames` : a step comes from the name of its own directory.
-/

namespace SchemaMigration

/-! ## Definitions -/

/-- A step of an upgrade: its directory and the version that it leads to. -/
structure Step where
  name : String
  version : Version
  deriving DecidableEq, Repr

/-- The step whose directory has this name. -/
def Step.ofName (name : String) : Except VersionFault Step :=
  (Version.ofStepName name).map (⟨name, ·⟩)

namespace Release

/-- The directory of the steps. -/
def stepDirectory (root : Path) : Path := root.join (.parse "sql/upgrade")

/-- The file that holds the version of the release. -/
def softVersionFile : String := "sql/soft_version"

/-- The step that an entry of the directory stands for, if it is one. A directory whose name has no version is
reported and passed over. -/
def readEntry (directory : Path) (entry : String × Node) : Job (Option Step) := do
  Job.ofExcept (fun e => .accident (.nameTooLong e.path)) (FileTree.checkLength (directory.child entry.1))
  if entry.2 = .directory then
    match Step.ofName entry.1 with
    | .ok step => return some step
    | .error (.malformed _) => do
      Job.notify (.directorySkipped entry.1)
      return none
    | .error fault => Job.fail (.ofVersion fault)
  else return none

/-- The steps among the entries of the directory, which are looked at one after the other. -/
def readSteps (directory : Path) : List (String × Node) → Job (List Step)
  | [] => pure []
  | entry :: entries => do
    let found ← readEntry directory entry
    return found.toList ++ (← readSteps directory entries)

/-- The steps in ascending order of their versions. -/
def sortSteps (steps : List Step) : List Step := steps.mergeSort fun a b => a.version ≤ b.version

/-- The steps among the names of directories, in ascending order of their versions. -/
def stepsOfNames (names : List String) : List Step :=
  sortSteps (names.filterMap fun name => (Step.ofName name).toOption)

/-- The steps of the release, in ascending order of their versions. -/
def steps : Job (List Step) := do
  let site ← Job.site
  let directory := stepDirectory site.root
  if ← Job.ofExcept (fun e => .accident (.nameTooLong e.path)) (site.files.isDirectory directory) then
    return sortSteps (← readSteps directory (site.files.children directory))
  else
    Job.notify (.noStepDirectory directory.render)
    return []

/-- The version of the release. -/
def softVersion : Job Version := do
  let site ← Job.site
  let file := site.root.join (.parse softVersionFile)
  match ← Job.ofExcept (fun e => .accident (.nameTooLong e.path)) (site.files.read? file) with
  | none => Job.failFor (.scriptNotFound softVersionFile)
  | some bytes =>
    let cs ← Job.ofExcept (fun e => .accident (.undecodable e)) (Text.fileText bytes)
    Job.ofExcept Fault.ofVersion (Version.ofChars cs)

/-! ## Small facts -/

theorem mem_stepsOfNames {names : List String} {step : Step} (h : step ∈ stepsOfNames names) :
    ∃ name ∈ names, Step.ofName name = .ok step := by
  simp only [stepsOfNames, sortSteps, List.mem_mergeSort, List.mem_filterMap] at h
  obtain ⟨name, hn, he⟩ := h
  refine ⟨name, hn, ?_⟩
  cases hs : Step.ofName name with
  | ok s => simp_all [Except.toOption]
  | error e => simp [hs, Except.toOption] at he

end Release

end SchemaMigration
