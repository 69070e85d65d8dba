import SchemaMigration.CommandLine.Arguments
import SchemaMigration.Machine
import SchemaMigration.Reporting
import SchemaMigration.Upgrade

/-!
# SchemaMigration.CommandLine.Run — carrying out an invocation

A run gathers its settings, sets up the reports, checks the settings, opens the connection and carries
out its command. A failure is reported and gives status 1; an accident ends the run without a status.

* `perform` : what each command does, and what it prints.
* `work`, `runOver` : the work of a command, and a command over a connection, whose kind of database has to be a
  supported one.
* `run` : a whole run, whatever the libraries below it do.
-/

namespace SchemaMigration.CommandLine

/-! ## Definitions -/

/-- How a run ends. -/
structure Ending where
  /-- The status and what was printed, or the accident that ended the run. -/
  result : Except Accident (Nat × String)
  journal : Journal
  /-- Notices of a lower rank are not shown. -/
  rank : Nat
  machine : Machine

/-- What is printed of an upgrade. -/
def summary (report : Upgrade.Report) : String :=
  "Schema version " ++ report.start.text ++ " -> " ++ report.final.text ++ "\n"

/-- Carries out a command; the result is what it prints. An empty name of a step is none. -/
def perform : Command → Job String
  | .init => do
    Upgrade.initSchema
    return ""
  | .upgrade step => do
    match step.getD "" with
    | "" => return summary (← Upgrade.latest)
    | name => return "Upgraded schema to " ++ (← Upgrade.step name).text ++ "\n"
  | .bootstrap => do
    match ← Upgrade.bootstrap with
    | some report => return summary report
    | none => return "Schema initialized\n"
  | .version => return (← InstalledVersion.detect).text ++ "\n"
  | .fixResourceSize => do
    let errors ← Upgrade.updateSizes
    return "Resource size fix-up finished with " ++ toString errors.length ++ " error(s)\n"

/-- The end of a run that a fault stopped. -/
def stopped (rank : Nat) (machine : Machine) (journal : Journal) : Fault → Ending
  | .failure f => ⟨.ok (1, ""), journal ++ [.notice (.commandFailed f.message)], rank, machine⟩
  | .accident a => ⟨.error a, journal, rank, machine⟩

/-- What a command sees over a connection to a database of the kind `vendor`. -/
def siteOver (platform : Platform) (machine : Machine) (root : Path) (c : Connection) (vendor : Vendor) : Site where
  vendor := vendor
  files := machine.files
  root := root
  catalog := (platform.server machine c).catalog
  execute := (platform.server machine c).execute
  slow := machine.slow

/-- The work of a command. -/
def work (command : Command) : Job String := do
  Upgrade.announce
  perform command

/-- Carries out a command over a connection. -/
def runOver (platform : Platform) (command : Command) (root : Path) (rank : Nat) (journal : Journal)
    (machine : Machine) (c : Connection) : Ending :=
  let journal := journal ++ [.notice c.notice]
  match c.vendor with
  | .error fault => stopped rank machine journal fault
  | .ok vendor =>
    match (work command).run (siteOver platform machine root c vendor)
      ⟨(platform.server machine c).storage, journal⟩ with
    | (.ok printed, after) =>
      ⟨.ok (0, printed), after.journal, rank, platform.leave machine c after.storage⟩
    | (.error fault, after) => stopped rank (platform.leave machine c after.storage) after.journal fault

/-- Carries out an invocation in an environment. -/
def run (platform : Platform) (invocation : Invocation) (env : Environment) (machine : Machine) : Ending :=
  match Settings.load (platform.loadVariables machine.files) invocation.envFile env with
  | .error fault => stopped Reporting.initial.rank machine [] fault
  | .ok settings =>
    let settings := settings.override invocation.databaseUrl invocation.resourceRoot
    match Reporting.ofSettings settings with
    | .error accident => stopped Reporting.initial.rank machine [] (.accident accident)
    | .ok reporting =>
      let journal : Journal := [.notice (.reportingFrom settings.logLevel)]
      match (do settings.check machine.files; Connection.ofSettings platform.drivers settings) with
      | .error fault => stopped reporting.rank machine journal fault
      | .ok c =>
        runOver platform invocation.command settings.resourceRoot reporting.rank journal machine c

end SchemaMigration.CommandLine
