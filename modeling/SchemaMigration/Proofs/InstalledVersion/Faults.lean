import SchemaMigration.InstalledVersion
import SchemaMigration.Proofs.JobFaults

/-!
# SchemaMigration.Proofs.InstalledVersion.Faults — what goes wrong with the installed version

Reading and writing the installed version can fail for many reasons.  But an error of the database never comes
through as it is, and a script is never the reason: only a script that was carried out is reported to have failed.
Whatever else keeps a connection from being made comes through.

* `Trouble` : the faults of reading and writing the installed version.
* `failsIn_detect`, `failsIn_set` : there are no others.
* `NamesNoScript`, `Trouble.namesNoScript` : none of them is the failure of a script.
-/

namespace SchemaMigration.InstalledVersion

open Job

/-! ## Definitions -/

/-- The faults of reading and writing the installed version, where `cause` is why there is no connection, if there
is none. -/
inductive Trouble (cause : Option Accident) : Fault → Prop
  | queryFailed (message : String) (query : Option String) (behind : Option Accident) :
      Trouble cause (.ofReason (.queryFailed message query behind))
  | tableMissing (message : String) (tables : List String) :
      Trouble cause (.ofReason (.versionTableMissing message tables))
  | rowMissing (name : String) : Trouble cause (.ofReason (.versionRowMissing name))
  /-- What is stored is no version. -/
  | noVersion (e : VersionFault) : Trouble cause (.ofVersion e)
  /-- There is no connection, and that is no error of the database. -/
  | noConnection {a : Accident} (h : cause = some a) (hd : ¬ IsDatabaseError (.accident a)) :
      Trouble cause (.accident a)

/-- The fault is not the failure of a script. -/
def NamesNoScript (e : Fault) : Prop := ∀ path number stmt cause,
  e ≠ .ofReason (.scriptFailed path number stmt cause)

variable {cause : Option Accident}

/-! ## Faults -/

theorem namesNoScript_ofVersion (e : VersionFault) : NamesNoScript (.ofVersion e) := by
  intro path number stmt cause h
  obtain ⟨text, -, hr⟩ := Fault.ofVersion_eq_ofReason.1 h
  cases hr

theorem Trouble.namesNoScript {e : Fault} (h : Trouble cause e) : NamesNoScript e := by
  intro path number stmt cause he
  cases h with
  | queryFailed | tableMissing | rowMissing => cases Fault.ofReason_inj.1 he
  | noVersion e => exact namesNoScript_ofVersion e _ _ _ _ he
  | noConnection => cases he

theorem admits_trouble : Admits (Trouble cause) cause := fun a ha => by
  by_cases hd : IsDatabaseError (.accident a)
  · exact .inl hd
  · exact .inr (.noConnection ha hd)

/-- Work on a connection that has no other faults, whether or not it handles the errors of the database. -/
theorem failsIn_onConnection {α : Type} {job : Job α}
    (h : FailsIn cause (fun e => IsDatabaseError e ∨ Trouble cause e) job) :
    FailsIn cause (Trouble cause) (connected job) := failsIn_connected admits_trouble h .queryFailed

/-! ## Reading -/

theorem failsIn_askCatalog (query : (String → String) → Vendor → String) (values : List (String × String))
    (f : Site → Sql.Database → Except Sql.Fault Bool) : FailsIn cause (Trouble cause) (askCatalog query values f) := by
  refine failsIn_bind failsIn_site fun _ => failsIn_onDatabaseError ?_ fun _ => ?_
  · exact failsIn_ask admits_trouble (fun f => .inl ⟨f, rfl⟩) _ _ _
  · exact failsIn_report _ (.queryFailed _ _ _)

theorem failsIn_tableKnown (name : String) : FailsIn cause (Trouble cause) (tableKnown name) :=
  failsIn_bind failsIn_site fun _ => failsIn_askCatalog _ _ _

theorem failsIn_columnKnown (name column : String) : FailsIn cause (Trouble cause) (columnKnown name column) :=
  failsIn_bind failsIn_site fun _ => failsIn_askCatalog _ _ _

theorem failsIn_tableExists (name : String) : FailsIn cause (Trouble cause) (tableExists name) :=
  failsIn_onConnection ((failsIn_tableKnown name).mono fun _ => .inr)

theorem failsIn_keepKnown (names : List String) : FailsIn cause (Trouble cause) (keepKnown names) := by
  induction names with
  | nil => exact failsIn_pure _
  | cons n ns ih =>
    refine failsIn_bind (failsIn_tableKnown n) fun _ => ?_
    exact failsIn_bind ih fun _ => failsIn_pure _

theorem failsIn_existingTables : FailsIn cause (Trouble cause) existingTables :=
  failsIn_onConnection ((failsIn_keepKnown _).mono fun _ => .inr)

theorem failsIn_readRow (name : String) : FailsIn cause (Trouble cause) (readRow name) := by
  refine failsIn_onDatabaseError ?_ fun _ => failsIn_report _ (.queryFailed _ _ _)
  exact failsIn_ask admits_trouble (fun f => .inl ⟨f, rfl⟩) _ _ _

theorem failsIn_current (name : String) : FailsIn cause (Trouble cause) (current name) := by
  refine failsIn_bind failsIn_site fun s => ?_
  refine failsIn_bind (failsIn_onConnection (FailsIn.mono ?_ fun _ => .inr)) fun _ => failsIn_ofExcept .noVersion
  refine failsIn_bind (failsIn_tableKnown _) fun b => ?_
  cases b with
  | true => exact failsIn_readRow _
  | false => exact failsIn_bind (failsIn_fail (.tableMissing _ _)) fun _ => failsIn_readRow _

theorem failsIn_stored (names : List String) : FailsIn cause (Trouble cause) (stored names) := by
  induction names with
  | nil => exact failsIn_pure _
  | cons n ns ih =>
    refine failsIn_bind (failsIn_current n) fun o => ?_
    cases o with
    | some v => exact failsIn_pure _
    | none => exact ih

theorem failsIn_oldestVersion : FailsIn cause (Trouble cause) oldestVersion := by
  refine failsIn_bind (failsIn_columnKnown _ _) fun b => ?_
  cases b with
  | true => exact failsIn_pure _
  | false =>
    refine failsIn_bind (failsIn_tableKnown _) fun b => ?_
    cases b with
    | true => exact failsIn_pure _
    | false => exact failsIn_pure _

theorem failsIn_detect : FailsIn cause (Trouble cause) detect := by
  refine failsIn_bind failsIn_existingTables fun names => ?_
  cases names with
  | nil =>
    refine failsIn_bind (failsIn_onConnection (failsIn_oldestVersion.mono fun _ => .inr)) fun o => ?_
    cases o with
    | some v => exact failsIn_pure _
    | none => exact failsIn_report _ (.tableMissing _ _)
  | cons n ns =>
    refine failsIn_bind (failsIn_stored _) fun o => ?_
    cases o with
    | some v => exact failsIn_pure _
    | none => exact failsIn_fail (.rowMissing _)

/-! ## Writing -/

theorem failsIn_resolveTable : FailsIn cause (Trouble cause) resolveTable := by
  refine failsIn_bind failsIn_existingTables fun names => ?_
  match names with
  | [] => exact failsIn_fail (.tableMissing _ _)
  | [n] => exact failsIn_pure _
  | n :: m :: ns => exact failsIn_bind (failsIn_stored _) fun _ => failsIn_pure _

theorem failsIn_writeRow (name : String) (v : Version) : FailsIn cause (Trouble cause) (writeRow name v) := by
  refine failsIn_bind (failsIn_onDatabaseError ?_ fun _ => failsIn_report _ (.queryFailed _ _ _)) fun count => ?_
  · refine failsIn_send admits_trouble (fun f => .inl ⟨f, rfl⟩) _ _ fun db e he => ?_
    split at he
    · cases he
    · cases he
      exact .inl ⟨_, rfl⟩
  · split
    · exact failsIn_fail (.rowMissing _)
    · exact failsIn_pure _

theorem failsIn_set (v : Version) : FailsIn cause (Trouble cause) (set v) := by
  refine failsIn_bind failsIn_resolveTable fun name => ?_
  refine failsIn_bind (failsIn_onConnection ?_) fun _ => failsIn_bind (failsIn_record _) fun _ => failsIn_pure _
  exact failsIn_transaction admits_trouble ((failsIn_writeRow name v).mono fun _ => .inr)

end SchemaMigration.InstalledVersion
