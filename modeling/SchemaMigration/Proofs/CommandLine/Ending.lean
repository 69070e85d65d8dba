import SchemaMigration.CommandLine.Run
import SchemaMigration.Proofs.Upgrade.Accidents
import SchemaMigration.Rehearsal

/-!
# SchemaMigration.Proofs.CommandLine.Ending — how a run of the command line ends

A run whose command completes ends with the status 0.  One that a failure stops reports it and ends with the status
1.  An accident is not caught, and ends the run without a status; but errors of the database, and whatever is wrong
with the folder sizes, never do.  All of this holds whatever the libraries below the run do.

* `Begins` : the settings, the reports and the connection with which a command begins.
* `Completes`, `StopsEarly`, `StopsLate` : the ways in which a run ends, by the stage that it has reached.
* `IsEarly`, `Command.Meets`, `Refuses` : the accidents before the command, in it, and of its connection.
* `failsIn_perform` : the accidents that can end the work of each command.
* `run_ends` : the result of every run.
* `isEarly_rehearsal` : the accidents before the command of a rehearsal.
-/

namespace SchemaMigration.CommandLine

open Job (Admits FailsIn IsDatabaseError)

variable {platform : Platform} {invocation : Invocation} {env : Environment} {machine : Machine} {settings : Settings}
  {reporting : Reporting} {c : Connection} {vendor : Vendor} {e : Fault} {a : Accident} {printed : String}

/-! ## Definitions -/

/-- The settings of a run, if they can be gathered. -/
def gathered (platform : Platform) (invocation : Invocation) (env : Environment) (machine : Machine) :
    Except Fault Settings :=
  (Settings.load (platform.loadVariables machine.files) invocation.envFile env).map
    (·.override invocation.databaseUrl invocation.resourceRoot)

/-- The connection that checked settings ask for. -/
def connection (platform : Platform) (machine : Machine) (settings : Settings) : Except Fault Connection := do
  settings.check machine.files
  Connection.ofSettings platform.drivers settings

/-- What became of the command over a connection. -/
def outcome (platform : Platform) (command : Command) (machine : Machine) (settings : Settings) (c : Connection)
    (vendor : Vendor) : Except Fault String × Store :=
  (work command).run (siteOver platform machine settings.resourceRoot c vendor)
    ⟨(platform.server machine c).storage, [.notice (.reportingFrom settings.logLevel)] ++ [.notice c.notice]⟩

/-- A run gets as far as its command. -/
structure Begins (platform : Platform) (invocation : Invocation) (env : Environment) (machine : Machine)
    (settings : Settings) (reporting : Reporting) (c : Connection) (vendor : Vendor) : Prop where
  gathers : gathered platform invocation env machine = .ok settings
  reports : Reporting.ofSettings settings = .ok reporting
  connects : connection platform machine settings = .ok c
  supports : c.vendor = .ok vendor

/-- The command begins with this result. -/
def Results (platform : Platform) (invocation : Invocation) (env : Environment) (machine : Machine)
    (r : Except Fault String) : Prop :=
  ∃ settings reporting c vendor, Begins platform invocation env machine settings reporting c vendor ∧
    (outcome platform invocation.command machine settings c vendor).1 = r

/-- The command completes, and this is printed. -/
def Completes (platform : Platform) (invocation : Invocation) (env : Environment) (machine : Machine)
    (printed : String) : Prop :=
  Results platform invocation env machine (.ok printed)

/-- A fault stops the command. -/
def StopsLate (platform : Platform) (invocation : Invocation) (env : Environment) (machine : Machine)
    (e : Fault) : Prop :=
  Results platform invocation env machine (.error e)

/-- A fault stops the run before its command begins. -/
inductive StopsEarly (platform : Platform) (invocation : Invocation) (env : Environment) (machine : Machine) :
    Fault → Prop
  | ungathered {e : Fault} (h : gathered platform invocation env machine = .error e) :
      StopsEarly platform invocation env machine e
  | unreported {settings : Settings} {a : Accident} (hs : gathered platform invocation env machine = .ok settings)
      (h : Reporting.ofSettings settings = .error a) : StopsEarly platform invocation env machine (.accident a)
  | unconnected {settings : Settings} {reporting : Reporting} {e : Fault}
      (hs : gathered platform invocation env machine = .ok settings)
      (hr : Reporting.ofSettings settings = .ok reporting) (h : connection platform machine settings = .error e) :
      StopsEarly platform invocation env machine e
  | unsupported {settings : Settings} {reporting : Reporting} {c : Connection} {e : Fault}
      (hs : gathered platform invocation env machine = .ok settings)
      (hr : Reporting.ofSettings settings = .ok reporting) (hc : connection platform machine settings = .ok c)
      (h : c.vendor = .error e) : StopsEarly platform invocation env machine e

/-- A fault stops the run. -/
def Stops (platform : Platform) (invocation : Invocation) (env : Environment) (machine : Machine) (e : Fault) : Prop :=
  StopsEarly platform invocation env machine e ∨ StopsLate platform invocation env machine e

/-- The accidents before the command of a run: those of a library that is asked, and those of the run itself. -/
inductive IsEarly (platform : Platform) (invocation : Invocation) (env : Environment) (machine : Machine) :
    Accident → Prop
  /-- The library that reads variables answers with an accident. -/
  | environment {a : Accident} (h : platform.loadVariables machine.files invocation.envFile env = .error a) :
      IsEarly platform invocation env machine a
  /-- The format of the reports has no field. -/
  | format {settings : Settings} (hs : gathered platform invocation env machine = .ok settings)
      (h : Reporting.hasField (Reporting.formatOf settings).toList = false) :
      IsEarly platform invocation env machine (.unusableLogFormat (Reporting.formatOf settings))
  /-- The level of the reports has the name of something else. -/
  | level {settings : Settings} {a : Accident} (hs : gathered platform invocation env machine = .ok settings)
      (h : Reporting.namesakes.lookup settings.logLevel = some a) : IsEarly platform invocation env machine a
  /-- The root is too long to be looked at. -/
  | root {settings : Settings} {e : NameTooLong} (hs : gathered platform invocation env machine = .ok settings)
      (h : machine.files.isDirectory settings.resourceRoot = .error e) :
      IsEarly platform invocation env machine (.nameTooLong e.path)
  /-- The address of the database cannot be read. -/
  | address {settings : Settings} {a : Accident} (hs : gathered platform invocation env machine = .ok settings)
      (h : DatabaseUrl.parse settings.databaseUrl = .error a) : IsEarly platform invocation env machine a
  /-- The library that finds drivers answers with an accident. -/
  | driver {settings : Settings} {url : DatabaseUrl} {vendor : Vendor} {a : Accident}
      (hs : gathered platform invocation env machine = .ok settings)
      (hu : DatabaseUrl.parse settings.databaseUrl = .ok url) (hv : Vendor.ofName? url.backend = some vendor)
      (h : platform.drivers url (Connection.optionsFor settings vendor) = .error a) :
      IsEarly platform invocation env machine a

/-- The connection of a run is refused with an accident that is no error of the database. -/
def Refuses (platform : Platform) (invocation : Invocation) (env : Environment) (machine : Machine)
    (a : Accident) : Prop :=
  (∃ settings reporting c vendor, Begins platform invocation env machine settings reporting c vendor ∧
    (platform.server machine c).storage = .unreachable a) ∧ ∀ f, a ≠ .database f

/-- The command carries out scripts. -/
def Command.runsScripts : Command → Bool
  | .init | .upgrade _ | .bootstrap => true
  | .version | .fixResourceSize => false

/-- The command reads versions. -/
def Command.readsVersions : Command → Bool
  | .upgrade _ | .bootstrap | .version => true
  | .init | .fixResourceSize => false

/-- The command reads the version of the release. -/
def Command.readsRelease : Command → Bool
  | .upgrade step => step.getD "" = ""
  | .bootstrap => true
  | _ => false

/-- The command minds whether there is a connection. -/
def Command.needsConnection : Command → Bool
  | .fixResourceSize => false
  | _ => true

/-- The accidents that can end the work of a command on a database. -/
def Command.Meets (command : Command) : Accident → Prop
  | .nameTooLong _ => command.runsScripts
  | .numeral (.tooLong _) => command.readsVersions
  | .undecodable _ => command.readsRelease
  | _ => False

/-- The accidents that can end the work of a command, where `cause` is why there is no connection. -/
def Command.MeetsOver (command : Command) (cause : Option Accident) (a : Accident) : Prop :=
  command.Meets a ∨ command.needsConnection = true ∧ cause = some a ∧ ¬ IsDatabaseError (.accident a)

/-- The accidents before the command of a rehearsal: of the file of variables, of the reports, and of addresses and
their drivers. -/
def StopsRehearsal : Accident → Prop
  | .undecodable _ | .unusableVariable _ => True
  | .unusableLogFormat _ | .unknownLevel _ | .notALevel _ => True
  | .nameTooLong _ | .unreadableUrl | .numeral _ => True
  | .foreign kind _ => kind = "NoSuchModuleError" ∨ kind = "ArgumentError"
  | _ => False

/-! ## Accidents before the command -/

theorem load_accident (h : Settings.load (platform.loadVariables machine.files) invocation.envFile env =
    .error (.accident a)) : platform.loadVariables machine.files invocation.envFile env = .error a := by
  unfold Settings.load at h
  split at h
  · next e he =>
    cases h
    exact he
  · obtain ⟨f, -, hf⟩ := mapError_eq_error_iff.1 h
    cases hf

theorem levelOf_accident {name : String} (h : Reporting.levelOf name = .error a) :
    Reporting.namesakes.lookup name = some a := by
  unfold Reporting.levelOf at h
  split at h
  · cases h
  · next hfound =>
    cases h
    exact hfound
  · cases h

theorem ofSettings_accident (hs : gathered platform invocation env machine = .ok settings)
    (h : Reporting.ofSettings settings = .error a) : IsEarly platform invocation env machine a := by
  unfold Reporting.ofSettings at h
  cases hfield : Reporting.hasField (Reporting.formatOf settings).toList with
  | true =>
    rw [if_pos hfield] at h
    exact .level hs (levelOf_accident (map_eq_error_iff.1 h))
  | false =>
    rw [if_neg (by simp [hfield])] at h
    cases h
    exact .format hs hfield

theorem check_accident (hs : gathered platform invocation env machine = .ok settings)
    (h : settings.check machine.files = .error (.accident a)) : IsEarly platform invocation env machine a := by
  unfold Settings.check at h
  split at h
  · cases h
  · split at h
    · next e he =>
      cases h
      exact .root hs he
    · cases h
    · split at h
      · cases h
      · cases h

/-- A connection is kept from being made by its address, or by the library that should find its driver. -/
theorem ofSettings_connection_accident (hs : gathered platform invocation env machine = .ok settings)
    (h : Connection.ofSettings platform.drivers settings = .error (.accident a)) :
    IsEarly platform invocation env machine a := by
  unfold Connection.ofSettings at h
  split at h
  · next e he =>
    cases h
    exact .address hs he
  · next url hu =>
    unfold Connection.ofUrl at h
    split at h
    · cases h
    · next vendor hv =>
      obtain ⟨_, hd, ha⟩ := mapError_eq_error_iff.1 (map_eq_error_iff.1 h)
      cases ha
      exact .driver hs hu hv hd

theorem vendor_ne_accident : c.vendor ≠ .error (.accident a) := by
  unfold Connection.vendor
  split <;> exact nofun

theorem StopsEarly.isEarly (h : StopsEarly platform invocation env machine (.accident a)) :
    IsEarly platform invocation env machine a := by
  generalize hf : Fault.accident a = f at h
  cases h with
  | ungathered hg =>
    subst hf
    exact .environment (load_accident (map_eq_error_iff.1 hg))
  | unreported hs hr =>
    cases hf
    exact ofSettings_accident hs hr
  | unconnected hs hr hc =>
    subst hf
    rcases bind_eq_error_iff.1 hc with hcheck | ⟨-, -, hc⟩
    · exact check_accident hs hcheck
    · exact ofSettings_connection_accident hs hc
  | unsupported hs hr hc hv =>
    subst hf
    exact absurd hv vendor_ne_accident

/-! ## Accidents of a command -/

theorem admits_meetsOver (command : Command) (h : command.needsConnection = true) (cause : Option Accident) :
    Admits (Fault.Within (command.MeetsOver cause)) cause := fun a ha => by
  by_cases hd : IsDatabaseError (.accident a)
  · exact .inl hd
  · exact .inr (.inr ⟨h, ha, hd⟩)

theorem failsIn_perform (cause : Option Accident) (command : Command) :
    FailsIn cause (Fault.Within (command.MeetsOver cause)) (perform command) := by
  cases command with
  | init =>
    have hc := admits_meetsOver .init rfl cause
    simp only [perform]
    exact Job.failsIn_bind (Upgrade.failsIn_initSchema hc fun _ => .inl rfl) fun _ => Job.failsIn_pure _
  | upgrade step =>
    have hc := admits_meetsOver (.upgrade step) rfl cause
    simp only [perform]
    split
    · next hs =>
      refine Job.failsIn_bind ?_ fun _ => Job.failsIn_pure _
      exact Upgrade.failsIn_latest hc (fun _ => .inl rfl) (fun _ => .inl rfl) fun _ => .inl (decide_eq_true hs)
    · refine Job.failsIn_bind ?_ fun _ => Job.failsIn_pure _
      exact Upgrade.failsIn_step hc (fun _ => .inl rfl) (fun _ => .inl rfl) _
  | bootstrap =>
    have hc := admits_meetsOver .bootstrap rfl cause
    simp only [perform]
    refine Job.failsIn_bind ?_ fun o => ?_
    · exact Upgrade.failsIn_bootstrap hc (fun _ => .inl rfl) (fun _ => .inl rfl) fun _ => .inl rfl
    · cases o with
      | some report => exact Job.failsIn_pure _
      | none => exact Job.failsIn_pure _
  | version =>
    have hc := admits_meetsOver .version rfl cause
    simp only [perform]
    exact Job.failsIn_bind (Upgrade.failsIn_detectVersion hc fun _ => .inl rfl) fun _ => Job.failsIn_pure _
  | fixResourceSize =>
    simp only [perform]
    exact Job.failsIn_bind Upgrade.failsIn_updateSizes fun _ => Job.failsIn_pure _

theorem failsIn_work (cause : Option Accident) (command : Command) :
    FailsIn cause (Fault.Within (command.MeetsOver cause)) (work command) := by
  have hannounce : FailsIn cause (Fault.Within (command.MeetsOver cause)) Upgrade.announce :=
    Job.failsIn_bind Job.failsIn_site fun _ => Job.failsIn_record _
  exact Job.failsIn_bind hannounce fun _ => failsIn_perform cause command

theorem StopsLate.meets (h : StopsLate platform invocation env machine (.accident a)) :
    invocation.command.Meets a ∨
      invocation.command.needsConnection = true ∧ Refuses platform invocation env machine a := by
  obtain ⟨settings, reporting, c, vendor, hb, h⟩ := h
  have hwork := failsIn_work (platform.server machine c).storage.cause? invocation.command
  rcases (hwork _ _ rfl).2 _ h with hmeets | ⟨hneeds, hcause, hd⟩
  · exact .inl hmeets
  · refine .inr ⟨hneeds, ⟨settings, reporting, c, vendor, hb, ?_⟩, fun f hf => hd ⟨f, congrArg _ hf⟩⟩
    cases hst : (platform.server machine c).storage with
    | unreachable cause =>
      rw [hst] at hcause
      cases hcause
      rfl
    | notADatabase => rw [hst] at hcause; cases hcause
    | database db => rw [hst] at hcause; cases hcause

/-! ## Runs -/

/-- A run by its stages. -/
theorem run_eq (platform : Platform) (invocation : Invocation) (env : Environment) (machine : Machine) :
    run platform invocation env machine =
      match gathered platform invocation env machine with
      | .error e => stopped Reporting.initial.rank machine [] e
      | .ok settings =>
        match Reporting.ofSettings settings with
        | .error a => stopped Reporting.initial.rank machine [] (.accident a)
        | .ok reporting =>
          match connection platform machine settings with
          | .error e => stopped reporting.rank machine [.notice (.reportingFrom settings.logLevel)] e
          | .ok c =>
            match c.vendor with
            | .error e =>
              stopped reporting.rank machine [.notice (.reportingFrom settings.logLevel), .notice c.notice] e
            | .ok vendor =>
              match outcome platform invocation.command machine settings c vendor with
              | (.ok printed, after) =>
                ⟨.ok (0, printed), after.journal, reporting.rank, platform.leave machine c after.storage⟩
              | (.error e, after) =>
                stopped reporting.rank (platform.leave machine c after.storage) after.journal e := by
  unfold run gathered
  cases Settings.load (platform.loadVariables machine.files) invocation.envFile env with
  | error e => rfl
  | ok settings =>
  dsimp only [Except.map]
  generalize settings.override invocation.databaseUrl invocation.resourceRoot = settings
  cases Reporting.ofSettings settings with
  | error a => rfl
  | ok reporting =>
  dsimp only
  rw [connection]
  generalize (do settings.check machine.files; Connection.ofSettings platform.drivers settings) = connected
  cases connected with
  | error e => rfl
  | ok c =>
  simp only [runOver, outcome]
  cases c.vendor <;> rfl

theorem run_of_completes (h : Completes platform invocation env machine printed) :
    (run platform invocation env machine).result = .ok (0, printed) := by
  obtain ⟨settings, reporting, c, vendor, ⟨hs, hr, hc, hv⟩, ho⟩ := h
  simp only [run_eq, hs, hr, hc, hv]
  split
  · next hrun =>
    rw [hrun] at ho
    cases ho
    rfl
  · next hrun =>
    rw [hrun] at ho
    cases ho

theorem run_of_stopsLate (h : StopsLate platform invocation env machine e) :
    ∃ rank machine' journal, run platform invocation env machine = stopped rank machine' journal e := by
  obtain ⟨settings, reporting, c, vendor, ⟨hs, hr, hc, hv⟩, ho⟩ := h
  simp only [run_eq, hs, hr, hc, hv]
  split
  · next hrun =>
    rw [hrun] at ho
    cases ho
  · next hrun =>
    rw [hrun] at ho
    cases ho
    exact ⟨_, _, _, rfl⟩

theorem run_of_stopsEarly (h : StopsEarly platform invocation env machine e) :
    ∃ rank machine' journal, run platform invocation env machine = stopped rank machine' journal e := by
  cases h with
  | ungathered hs =>
    simp only [run_eq, hs]
    exact ⟨_, _, _, rfl⟩
  | unreported hs hr =>
    simp only [run_eq, hs, hr]
    exact ⟨_, _, _, rfl⟩
  | unconnected hs hr hc =>
    simp only [run_eq, hs, hr, hc]
    exact ⟨_, _, _, rfl⟩
  | unsupported hs hr hc hv =>
    simp only [run_eq, hs, hr, hc, hv]
    exact ⟨_, _, _, rfl⟩

theorem run_of_stops (h : Stops platform invocation env machine e) :
    ∃ rank machine' journal, run platform invocation env machine = stopped rank machine' journal e :=
  h.elim run_of_stopsEarly run_of_stopsLate

/-- Every run completes or is stopped. -/
theorem completes_or_stops (platform : Platform) (invocation : Invocation) (env : Environment) (machine : Machine) :
    (∃ printed, Completes platform invocation env machine printed) ∨
      ∃ e, Stops platform invocation env machine e := by
  cases hs : gathered platform invocation env machine with
  | error e => exact .inr ⟨e, .inl (.ungathered hs)⟩
  | ok settings =>
  cases hr : Reporting.ofSettings settings with
  | error a => exact .inr ⟨_, .inl (.unreported hs hr)⟩
  | ok reporting =>
  cases hc : connection platform machine settings with
  | error e => exact .inr ⟨e, .inl (.unconnected hs hr hc)⟩
  | ok c =>
  cases hv : c.vendor with
  | error e => exact .inr ⟨e, .inl (.unsupported hs hr hc hv)⟩
  | ok vendor =>
  have hb : Begins platform invocation env machine settings reporting c vendor := ⟨hs, hr, hc, hv⟩
  cases ho : (outcome platform invocation.command machine settings c vendor).1 with
  | ok printed => exact .inl ⟨printed, settings, reporting, c, vendor, hb, ho⟩
  | error e => exact .inr ⟨e, .inr ⟨settings, reporting, c, vendor, hb, ho⟩⟩

theorem run_of_stops_failure {f : Failure} (h : Stops platform invocation env machine (.failure f)) :
    (run platform invocation env machine).result = .ok (1, "") ∧
      (run platform invocation env machine).journal.getLast? = some (.notice (.commandFailed f.message)) := by
  obtain ⟨rank, machine', journal, hrun⟩ := run_of_stops h
  rw [hrun]
  exact ⟨rfl, List.getLast?_concat⟩

theorem run_of_stops_accident (h : Stops platform invocation env machine (.accident a)) :
    (run platform invocation env machine).result = .error a := by
  obtain ⟨rank, machine', journal, hrun⟩ := run_of_stops h
  rw [hrun]
  rfl

theorem addMissing_accident {vars : List (String × Option String)} (h : EnvFile.addMissing env vars = .error a) :
    ∃ message, a = .unusableVariable message := by
  induction vars generalizing env with
  | nil => cases h
  | cons v vars ih =>
    obtain ⟨name, value⟩ := v
    cases value with
    | none => exact ih h
    | some value =>
      unfold EnvFile.addMissing at h
      split at h
      · exact ih h
      · split at h
        · exact ih h
        · next e he =>
          cases h
          unfold EnvFile.addVariable at he
          dsimp only at he
          split at he
          · cases he
            exact ⟨_, rfl⟩
          · split at he
            · cases he
              exact ⟨_, rfl⟩
            · cases he

/-- In a rehearsal a file of variables may be no text, or have a variable that cannot be kept. -/
theorem loadVariables_rehearsal {found file : Option String} {files : FileTree}
    (h : (Rehearsal.platform found).loadVariables files file env = .error a) :
    (∃ e, a = .undecodable e) ∨ ∃ message, a = .unusableVariable message := by
  dsimp only [Rehearsal.platform] at h
  unfold EnvFile.load at h
  dsimp only at h
  split at h
  · split at h
    · exact .inr (addMissing_accident h)
    · cases h
      exact .inl ⟨_, rfl⟩
  · cases h

/-- There may be no driver for an address, or one that does not take all its parts. -/
theorem drivers_rehearsal {url : DatabaseUrl} (options : ConnectionOptions)
    (h : Rehearsal.drivers url options = .error a) :
    a = Rehearsal.noDriver url.driver ∨ a = Rehearsal.misplacedParts url := by
  unfold Rehearsal.drivers at h
  split at h
  · cases h
    exact .inl rfl
  · split at h
    · cases h
      exact .inr rfl
    · cases h

theorem namesake_accident {name : String} (h : Reporting.namesakes.lookup name = some a) : StopsRehearsal a := by
  simp only [Reporting.namesakes, List.lookup_cons, List.lookup_nil] at h
  split at h
  · cases h
    trivial
  · split at h
    · cases h
      trivial
    · cases h

theorem parse_accident {text : String} (h : DatabaseUrl.parse text = .error a) : StopsRehearsal a := by
  unfold DatabaseUrl.parse at h
  dsimp only at h
  split at h
  · split at h
    · cases h
      trivial
    · cases h
  · cases h
    trivial

/-- The accidents that can end a rehearsal before its command are of these kinds only. -/
theorem isEarly_rehearsal {found : Option String}
    (h : IsEarly (Rehearsal.platform found) invocation env machine a) : StopsRehearsal a := by
  cases h with
  | environment h =>
    obtain ⟨e, rfl⟩ | ⟨message, rfl⟩ := loadVariables_rehearsal h <;> trivial
  | format => trivial
  | level _ h => exact namesake_accident h
  | root => trivial
  | address _ h => exact parse_accident h
  | @driver settings _ vendor _ _ _ _ h =>
    obtain rfl | rfl := drivers_rehearsal (Connection.optionsFor settings vendor) h
    · exact .inl rfl
    · exact .inr rfl

end SchemaMigration.CommandLine
