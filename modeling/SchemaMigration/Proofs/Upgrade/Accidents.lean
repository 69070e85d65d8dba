import SchemaMigration.Proofs.InstalledVersion.Faults
import SchemaMigration.Upgrade

/-!
# SchemaMigration.Proofs.Upgrade.Accidents — which accidents can end an upgrade

Most of what goes wrong is reported as a failure; an accident is not.  The errors of the database are all turned
into failures, and those of the folder sizes never come through.  What is left are names that are too long for
a file, numbers in versions with too many digits, a file with the version of the release that is no text, and
whatever else keeps a connection from being made.

* `Fault.Within` : a fault that is a failure, or an accident of a family.
* `failsIn_execute`, `failsIn_steps`, `failsIn_softVersion` : scripts and releases.
* `failsIn_updateSizes` : new folder sizes end with no fault at all.
* `failsIn_initSchema`, `failsIn_step`, `failsIn_latest`, `failsIn_bootstrap` : the whole pieces of work.
-/

namespace SchemaMigration

open Job

variable {cause : Option Accident} {A : Accident → Prop} {P : Fault → Prop}

/-! ## Definitions -/

/-- The fault is a failure, or an accident of the family `A`. -/
def Fault.Within (A : Accident → Prop) : Fault → Prop
  | .failure _ => True
  | .accident a => A a

/-! ## Families of accidents -/

theorem within_ofReason (r : Reason) : (Fault.ofReason r).Within A := trivial

theorem within_ofVersion (hv : ∀ n, A (.numeral (.tooLong n))) (e : VersionFault) : (Fault.ofVersion e).Within A := by
  cases e with
  | malformed text => exact within_ofReason _
  | tooLong n => exact hv n

/-- Of the installed version only a number with too many digits is no failure, and why there is no connection. -/
theorem InstalledVersion.Trouble.within {e : Fault} (hc : Admits (Fault.Within A) cause)
    (hv : ∀ n, A (.numeral (.tooLong n))) (h : Trouble cause e) : e.Within A := by
  cases h with
  | queryFailed | tableMissing | rowMissing => exact within_ofReason _
  | noVersion e => exact within_ofVersion hv e
  | noConnection h hd => exact (hc _ h).resolve_left hd

/-! ## Scripts -/

namespace ScriptRun

theorem failsIn_load (hn : ∀ path, A (.nameTooLong path)) (path : String) :
    FailsIn cause (Fault.Within A) (load path) := by
  refine failsIn_bind (failsIn_bind failsIn_site fun site => ?_) fun found => ?_
  · refine failsIn_bind (failsIn_ofExcept fun e => hn e.path) fun bytes => ?_
    cases bytes with
    | some bytes => exact failsIn_pure _
    | none => exact failsIn_fail trivial
  · obtain ⟨file, bytes⟩ := found
    dsimp only
    cases Loaded.ofBytes path bytes with
    | ok script => exact failsIn_pure _
    | error e => exact failsIn_report _ (within_ofReason _)

section Connections

variable (hc : Admits (Fault.Within A) cause)

include hc in
theorem failsIn_runStatement (path : String) (number : Nat) (stmt : String) :
    FailsIn cause (Fault.Within A) (runStatement path number stmt) := by
  refine failsIn_bind (failsIn_record _) fun _ => failsIn_bind failsIn_site fun site => ?_
  refine failsIn_bind (failsIn_onDatabaseError ?_ fun _ => failsIn_fail (within_ofReason _)) fun _ => failsIn_record _
  refine failsIn_send hc (fun f => .inl ⟨f, rfl⟩) _ _ fun db e he => ?_
  split at he
  · cases he
  · cases he
    exact .inl ⟨_, rfl⟩

include hc in
theorem failsIn_runStatements (path : String) (number : Nat) (stmts : List String) :
    FailsIn cause (Fault.Within A) (runStatements path number stmts) := by
  induction stmts generalizing number with
  | nil => exact failsIn_pure _
  | cons s ss ih => exact failsIn_bind (failsIn_runStatement hc path number s) fun _ => ih _

include hc in
theorem failsIn_execute (hn : ∀ path, A (.nameTooLong path)) (path : String) :
    FailsIn cause (Fault.Within A) (execute path) := by
  refine failsIn_bind (failsIn_load hn path) fun script => ?_
  refine failsIn_bind (failsIn_onDatabaseError ?_ fun _ => failsIn_fail (within_ofReason _)) fun _ => ?_
  · refine failsIn_bind (failsIn_connect hc) fun _ => ?_
    exact (failsIn_runStatements hc path 1 script.statements).mono fun _ => .inr
  · exact failsIn_bind (failsIn_record _) fun _ => failsIn_pure _

end Connections

end ScriptRun

/-! ## Releases -/

namespace Release

theorem failsIn_readSteps (hn : ∀ path, A (.nameTooLong path)) (hv : ∀ n, A (.numeral (.tooLong n)))
    (directory : Path) (entries : List (String × Node)) :
    FailsIn cause (Fault.Within A) (readSteps directory entries) := by
  induction entries with
  | nil => exact failsIn_pure _
  | cons entry entries ih =>
    refine failsIn_bind ?_ fun _ => failsIn_bind ih fun _ => failsIn_pure _
    refine failsIn_bind (failsIn_ofExcept fun e => hn e.path) fun _ => ?_
    split
    · split
      · exact failsIn_pure _
      · exact failsIn_bind (failsIn_record _) fun _ => failsIn_pure _
      · exact failsIn_fail (within_ofVersion hv _)
    · exact failsIn_pure _

theorem failsIn_steps (hn : ∀ path, A (.nameTooLong path)) (hv : ∀ n, A (.numeral (.tooLong n))) :
    FailsIn cause (Fault.Within A) steps := by
  refine failsIn_bind failsIn_site fun site => failsIn_bind (failsIn_ofExcept fun e => hn e.path) fun b => ?_
  cases b with
  | true => exact failsIn_bind (failsIn_readSteps hn hv _ _) fun _ => failsIn_pure _
  | false => exact failsIn_bind (failsIn_record _) fun _ => failsIn_pure _

theorem failsIn_softVersion (hn : ∀ path, A (.nameTooLong path)) (hv : ∀ n, A (.numeral (.tooLong n)))
    (hu : ∀ e, A (.undecodable e)) : FailsIn cause (Fault.Within A) softVersion := by
  refine failsIn_bind failsIn_site fun site => failsIn_bind (failsIn_ofExcept fun e => hn e.path) fun found => ?_
  cases found with
  | none => exact failsIn_fail (within_ofReason _)
  | some bytes =>
    exact failsIn_bind (failsIn_ofExcept hu) fun _ => failsIn_ofExcept (within_ofVersion hv)

end Release

/-! ## Folder sizes -/

namespace FolderSize

theorem failsIn_updateRows (table : String) (type : ResourceType) :
    FailsIn cause (fun _ => True) (updateRows table type) := by
  have hall : Covers (fun _ => True) cause := fun _ _ => trivial
  refine failsIn_bind (failsIn_ask hall (fun _ => trivial) _ _ _) fun read => ?_
  obtain ⟨declared, rows⟩ := read
  dsimp only
  split
  · exact failsIn_fail trivial
  · refine failsIn_bind (failsIn_ofExcept fun _ => trivial) fun totals => ?_
    cases totals.isEmpty with
    | true => exact failsIn_pure _
    | false =>
      refine failsIn_bind ?_ fun _ => failsIn_pure _
      exact failsIn_send hall (fun _ => trivial) _ _ fun _ _ _ => trivial

theorem failsIn_update (table : String) (type : ResourceType) :
    FailsIn cause (fun _ => True) (update table type) := by
  refine failsIn_bind (failsIn_transaction (fun _ _ => trivial) (failsIn_updateRows table type)) fun _ => ?_
  exact failsIn_bind (failsIn_record _) fun _ => failsIn_pure _

/-- Whatever goes wrong with the folder sizes is kept in the result. -/
theorem failsIn_updateAll (table : String) : FailsIn cause P (updateAll table) := by
  refine failsIn_foldlM (fun o type => ?_) _ _
  exact failsIn_rescue (failsIn_bind (failsIn_update table type) fun _ => failsIn_pure _) fun _ _ => failsIn_pure _

end FolderSize

/-! ## Upgrades -/

namespace Upgrade

theorem failsIn_reporting {job : Job Nat} (h : FailsIn cause P job) (n : String → Notice) :
    FailsIn cause P (reporting job n) := by
  refine failsIn_rescue (failsIn_bind h fun _ => failsIn_pure _) fun e he => ?_
  cases e with
  | failure f => exact failsIn_bind (failsIn_record _) fun _ => failsIn_fail he
  | accident a => exact failsIn_fail he

/-- New folder sizes never stop an upgrade. -/
theorem failsIn_updateSizes : FailsIn cause P updateSizes := by
  have hnotices : ∀ fs : List Failure, FailsIn cause P (fs.forM fun f => notify (.sizesNotUpdated f.message)) := by
    intro fs
    induction fs with
    | nil => exact failsIn_pure _
    | cons f fs ih => exact failsIn_bind (failsIn_record _) fun _ => ih
  exact failsIn_bind (FolderSize.failsIn_updateAll _) fun o => failsIn_bind (hnotices _) fun _ => failsIn_pure _

variable (hc : Admits (Fault.Within A) cause)

include hc in
theorem failsIn_initSchema (hn : ∀ path, A (.nameTooLong path)) : FailsIn cause (Fault.Within A) initSchema := by
  refine failsIn_bind failsIn_site fun site => ?_
  exact failsIn_bind (failsIn_reporting (ScriptRun.failsIn_execute hc hn _) _) fun _ => failsIn_record _

include hc in
theorem failsIn_runStepScript (hn : ∀ path, A (.nameTooLong path)) (name : String) (kind : ScriptKind) :
    FailsIn cause (Fault.Within A) (runStepScript name kind) := by
  refine failsIn_bind failsIn_site fun site => ?_
  exact failsIn_bind (failsIn_reporting (ScriptRun.failsIn_execute hc hn _) _) fun _ => failsIn_record _

section Versions

variable (hn : ∀ path, A (.nameTooLong path)) (hv : ∀ n, A (.numeral (.tooLong n)))

include hc hv in
theorem failsIn_setVersion (v : Version) : FailsIn cause (Fault.Within A) (InstalledVersion.set v) :=
  (InstalledVersion.failsIn_set v).mono fun _ he => he.within hc hv

include hc hv in
theorem failsIn_detectVersion : FailsIn cause (Fault.Within A) InstalledVersion.detect :=
  InstalledVersion.failsIn_detect.mono fun _ he => he.within hc hv

include hc hn hv in
theorem failsIn_step (name : String) : FailsIn cause (Fault.Within A) (step name) := by
  refine failsIn_bind (failsIn_ofExcept (within_ofVersion hv)) fun s => ?_
  refine failsIn_bind (failsIn_runStepScript hc hn _ _) fun _ => ?_
  refine failsIn_bind (failsIn_runStepScript hc hn _ _) fun _ => ?_
  exact failsIn_bind (failsIn_setVersion hc hv _) fun _ => failsIn_pure _

include hc hn hv in
theorem failsIn_applyStep (report : Report) (s : Step) : FailsIn cause (Fault.Within A) (applyStep report s) := by
  unfold applyStep
  by_cases hle : s.version ≤ report.final
  · rw [if_pos hle]
    exact failsIn_pure _
  · rw [if_neg hle]
    refine failsIn_bind (failsIn_record _) fun _ => failsIn_bind (failsIn_step hc hn hv _) fun _ => ?_
    by_cases hs : s.version.Same sizesVersion
    · rw [if_pos hs]
      exact failsIn_bind failsIn_updateSizes fun _ => failsIn_pure _
    · rw [if_neg hs]
      exact failsIn_bind (failsIn_pure _) fun _ => failsIn_pure _

variable (hu : ∀ e, A (.undecodable e))

include hc hn hv hu in
theorem failsIn_applySoftVersion (report : Report) : FailsIn cause (Fault.Within A) (applySoftVersion report) := by
  refine failsIn_bind (Release.failsIn_softVersion hn hv hu) fun soft => ?_
  by_cases hlt : report.final < soft
  · rw [if_pos hlt]
    refine failsIn_bind (failsIn_setVersion hc hv _) fun _ => ?_
    exact failsIn_bind (failsIn_record _) fun _ => failsIn_pure _
  · rw [if_neg hlt]
    exact failsIn_pure _

include hc hn hv hu in
theorem failsIn_latest : FailsIn cause (Fault.Within A) latest := by
  refine failsIn_bind (failsIn_detectVersion hc hv) fun current => ?_
  refine failsIn_bind (Release.failsIn_steps hn hv) fun steps => ?_
  cases steps with
  | nil => exact failsIn_bind (failsIn_record _) fun _ => failsIn_pure _
  | cons s ss =>
    exact failsIn_bind (failsIn_foldlM (failsIn_applyStep hc hn hv) _ _) (failsIn_applySoftVersion hc hn hv hu)

include hc hn hv hu in
theorem failsIn_bootstrap : FailsIn cause (Fault.Within A) bootstrap := by
  have hexists : ∀ name, FailsIn cause (Fault.Within A) (InstalledVersion.tableExists name) := fun name =>
    (InstalledVersion.failsIn_tableExists name).mono fun _ he => he.within hc hv
  have hinit : FailsIn cause (Fault.Within A) isInitialized := by
    refine failsIn_bind (hexists _) fun b => ?_
    cases b with
    | true => exact failsIn_pure _
    | false => exact hexists _
  refine failsIn_bind hinit fun made => ?_
  cases made with
  | true => exact failsIn_bind (failsIn_latest hc hn hv hu) fun _ => failsIn_pure _
  | false =>
    refine failsIn_bind (failsIn_record _) fun _ => ?_
    exact failsIn_bind (failsIn_initSchema hc hn) fun _ => failsIn_pure _

end Versions

end Upgrade

end SchemaMigration
