import SchemaMigration.FolderSize
import SchemaMigration.InstalledVersion
import SchemaMigration.Release
import SchemaMigration.ScriptRun

/-!
# SchemaMigration.Upgrade — making a schema and bringing it up to date

A step runs the script for the tables, then the script for the rows, then writes its version. Nothing is
undone: where a step stops, what it did stays done and the version is still the old one. After the step
to the version `sizesVersion` the folder sizes are computed again; no fault of that work stops an
upgrade.

* `step` : one step by the name of its directory.
* `Upgrade.latest` : every step that is newer than the installed version, then the version of the release.
* `bootstrap` : makes the schema where there is none, and brings it up to date where there is one.
* `applyStep_of_le` : a step that is not newer is passed over.
-/

namespace SchemaMigration.Upgrade

/-! ## Definitions -/

/-- The version whose step is followed by new folder sizes. -/
def sizesVersion : Version := .ofParts [2, 0, 6]

/-- What an upgrade did. -/
structure Report where
  start : Version
  final : Version
  applied : List String := []
  sizeErrors : List Failure := []
  /-- There were steps to look at. -/
  hadSteps : Bool := false
  deriving DecidableEq, Repr

/-- Runs a job and reports its failure; an accident is not reported. -/
def reporting (job : Job Nat) (notice : String → Notice) : Job Unit :=
  Job.rescue (do let _ ← job; return ()) fun
    | .failure f => do
      Job.notify (notice f.message)
      Job.fail (.failure f)
    | .accident a => Job.fail (.accident a)

/-- Says that work with the database of the vendor can begin. -/
def announce : Job Unit := do Job.notify (.ready (← Job.site).vendor)

/-- Makes the whole schema. -/
def initSchema : Job Unit := do
  let script := (← Job.site).vendor.initScriptPath
  reporting (ScriptRun.execute script) (.initFailed script)
  Job.notify (.initDone script)

/-- Carries out one script of a step. -/
def runStepScript (name : String) (kind : ScriptKind) : Job Unit := do
  let script := (← Job.site).vendor.stepScriptPath kind name
  reporting (ScriptRun.execute script) (.stepFailed name script)
  Job.notify (.stepDone name script)

/-- Carries out the step whose directory has this name; the result is its version. -/
def step (name : String) : Job Version := do
  let s ← Job.ofExcept Fault.ofVersion (Step.ofName name)
  runStepScript name .ddl
  runStepScript name .dml
  let _ ← InstalledVersion.set s.version
  return s.version

/-- There is a version table. -/
def isInitialized : Job Bool := do
  if ← InstalledVersion.tableExists InstalledVersion.table then return true
  InstalledVersion.tableExists InstalledVersion.legacyTable

/-- Computes the folder sizes again; failures are reported and given back. -/
def updateSizes : Job (List Failure) := do
  let outcome ← FolderSize.updateAll FolderSize.defaultTable
  outcome.errors.forM fun f => Job.notify (.sizesNotUpdated f.message)
  return outcome.errors

/-- Carries out a step if it leads to a newer version. -/
def applyStep (report : Report) (s : Step) : Job Report := do
  if s.version ≤ report.final then return report
  Job.notify (.upgrading report.final.text s.version.text)
  let _ ← step s.name
  let errors ← if s.version.Same sizesVersion then updateSizes else pure []
  return { report with
    final := s.version
    applied := report.applied ++ [s.name]
    sizeErrors := report.sizeErrors ++ errors }

/-- Writes the version of the release if it is newer. -/
def applySoftVersion (report : Report) : Job Report := do
  let soft ← Release.softVersion
  if report.final < soft then
    let _ ← InstalledVersion.set soft
    Job.notify (.upgraded report.start.text soft.text)
    return { report with final := soft }
  else return report

/-- Carries out every step that is newer than the installed version. -/
def latest : Job Report := do
  let current ← InstalledVersion.detect
  let steps ← Release.steps
  if steps.isEmpty then
    Job.notify .noSteps
    return { start := current, final := current }
  else
    applySoftVersion (← steps.foldlM applyStep { start := current, final := current, hadSteps := true })

/-- Makes the schema where there is none; else carries out the newer steps and reports on them. -/
def bootstrap : Job (Option Report) := do
  if ← isInitialized then return some (← latest)
  Job.notify .initializing
  initSchema
  return none

/-! ## Small facts -/

theorem applyStep_of_le {report : Report} {s : Step} (h : s.version ≤ report.final) :
    applyStep report s = pure report := by
  simp [applyStep, h]

end SchemaMigration.Upgrade
