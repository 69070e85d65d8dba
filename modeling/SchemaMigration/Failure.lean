import SchemaMigration.FileTree
import SchemaMigration.Sql.Table
import SchemaMigration.Text.Utf8
import SchemaMigration.Vendor
import SchemaMigration.Version.Comparison

/-!
# SchemaMigration.Failure — what can go wrong

An accident is an error of the world: of the database, of a file, of a text that should be a number. A
failure is an error of a migration, with a code, with facts for a report and often with the accident
that caused it.

* `Accident.message`, `Reason.message` : the wording of each.
* `Reason.facts` : what a report says of a failure besides its message.
* `Failure.ofReason`, `Failure.make` : a failure with its own facts, or with given ones below them.
* `Fault` : either of the two; only failures are reported by the command line.
-/

namespace SchemaMigration

/-! ## Definitions -/

/-- An error of the world. -/
inductive Accident where
  | database (fault : Sql.Fault)
  | undecodable (fault : Text.Undecodable)
  | nameTooLong (path : String)
  /-- A version or a number has too many digits, or is no number. -/
  | numeral (fault : Text.NumeralFault)
  /-- A value is none of a fixed family; `shown` is how the value is written. -/
  | notMember (shown family : String)
  | stepRequired (kind : ScriptKind)
  /-- A version is put in order with a value that has none. -/
  | unordered (relation : Version.Relation) (kind : String)
  | unreadableUrl
  | unusableLogFormat (format : String)
  /-- A text that should name a level names none. -/
  | unknownLevel (text : String)
  /-- A value that is neither a number nor a text stands for a level; `shown` is how it is written. -/
  | notALevel (shown : String)
  /-- A variable cannot be kept in the environment. -/
  | unusableVariable (message : String)
  /-- An integer does not fit into a cell. -/
  | integerTooWide
  /-- A value of the kind `kind` has no operation of this name. -/
  | noOperation (kind operation : String)
  /-- A value of the kind `kind` cannot be given a field. -/
  | noFields (kind : String)
  | notAddable (left right : String)
  /-- A text is cut off the end of bytes. -/
  | bytesRequired
  /-- A text is looked for at the start of bytes. -/
  | bytesRequiredAtStart
  | missingField (name : String)
  /-- An error of another library, by the name of its kind. -/
  | foreign (kind message : String)
  deriving DecidableEq, Repr

/-- What is reported of an accident. A database error is shown by its kind alone. -/
def Accident.message : Accident → String
  | .database fault => "<db " ++ fault.name ++ ">"
  | .undecodable fault => fault.message
  | .nameTooLong path => "[Errno 36] File name too long: " ++ Text.quoted path
  | .numeral fault => fault.message
  | .notMember shown family => shown ++ " is not a valid " ++ family
  | .stepRequired kind => "A step id is required for " ++ kind.name ++ " scripts"
  | .unordered relation kind =>
    Text.quoted relation.symbol ++ " not supported between instances of 'SchemaVersion' and "
      ++ Text.quoted kind
  | .unreadableUrl => "Could not parse SQLAlchemy URL from given URL string"
  | .unusableLogFormat format => "Invalid format '" ++ format ++ "' for '%' style"
  | .unknownLevel text => "Unknown level: " ++ Text.quoted text
  | .notALevel shown => "Level not an integer or a valid string: " ++ shown
  | .unusableVariable message => message
  | .integerTooWide => "Python int too large to convert to SQLite INTEGER"
  | .noOperation kind operation =>
    Text.quoted kind ++ " object has no attribute " ++ Text.quoted operation
  | .noFields kind => Text.quoted kind ++ " object does not support item assignment"
  | .notAddable left right =>
    "unsupported operand type(s) for +: " ++ Text.quoted left ++ " and " ++ Text.quoted right
  | .bytesRequired => "a bytes-like object is required, not 'str'"
  | .bytesRequiredAtStart => "startswith first arg must be bytes or a tuple of bytes, not str"
  | .missingField name => "Could not locate column in row for column " ++ Text.quoted name
  | .foreign _ message => message

/-- A fact in a report. -/
inductive Datum where
  | text (s : String)
  | integer (i : Int)
  | texts (ss : List String)
  /-- Any other value, as reports write it. -/
  | literal (written : String)
  deriving DecidableEq, Repr

/-- The facts of a report, by name. -/
abbrev Facts := List (String × Datum)

/-- The facts with one more, which replaces any of its name. -/
def note (facts : Facts) (name : String) (d : Datum) : Facts :=
  if (facts.lookup name).isSome then facts.map fun f => if f.1 = name then (name, d) else f
  else facts ++ [(name, d)]

/-- The facts with further ones, later ones replacing earlier ones. -/
def noteAll (facts more : Facts) : Facts := more.foldl (fun facts f => note facts f.1 f.2) facts

/-- Why a migration fails. -/
inductive Reason where
  | general (message : String)
  | configuration (message : String) (setting : Option String) (cause : Option Accident)
  /-- The database is none of the supported ones; `given` is the name as it was given, if it was. -/
  | unsupportedVendor (given : Option String)
  | invalidVersion (text : String)
  | scriptNotFound (path : String)
  /-- Statement `number` of a script failed; number 0 is the reading of the script. -/
  | scriptFailed (path : String) (number : Int) (statement : String) (cause : Accident)
  | versionTableMissing (message : String) (tables : List String)
  | versionRowMissing (table : String)
  | queryFailed (message : String) (query : Option String) (cause : Option Accident)
  /-- Folder sizes could not be computed; `resourceType` is the number of the kind of resource. -/
  | sizesNotUpdated (message : String) (resourceType : Option Int) (cause : Option Accident)
  deriving DecidableEq, Repr

/-- The beginning of a statement as reports show it. -/
def excerpt (statement : String) : String :=
  if statement.length ≤ 200 then statement
  else String.ofList (statement.toList.take 200) ++ "..."

namespace Reason

/-- The name of a reason, which is the code of its failures. -/
def name : Reason → String
  | .general .. => "SchemaUpgradeError"
  | .configuration .. => "ConfigurationError"
  | .unsupportedVendor .. => "UnsupportedDialectError"
  | .invalidVersion .. => "InvalidSchemaVersion"
  | .scriptNotFound .. => "ScriptNotFound"
  | .scriptFailed .. => "ScriptExecutionFailed"
  | .versionTableMissing .. => "VersionTableMissing"
  | .versionRowMissing .. => "VersionRowMissing"
  | .queryFailed .. => "QueryFailed"
  | .sizesNotUpdated .. => "NonFatalFixupError"

/-- What is reported of a reason. -/
def message : Reason → String
  | .general message => message
  | .configuration message _ _ => message
  | .unsupportedVendor given =>
    "Unsupported database dialect: " ++ (given.map Text.quoted).getD "None"
  | .invalidVersion text => "Invalid schema version: " ++ Text.quoted text
  | .scriptNotFound path => "SQL script not found: " ++ path
  | .scriptFailed path number _ cause =>
    "Execute sql file " ++ path ++ " failed at statement " ++ toString number ++ ": " ++ cause.message
  | .versionTableMissing message _ => message
  | .versionRowMissing table => "The version table " ++ table ++ " does not contain a version row"
  | .queryFailed message _ _ => message
  | .sizesNotUpdated message _ _ => message

/-- The accident behind a reason. -/
def cause? : Reason → Option Accident
  | .configuration _ _ cause => cause
  | .scriptFailed _ _ _ cause => some cause
  | .queryFailed _ _ cause => cause
  | .sizesNotUpdated _ _ cause => cause
  | _ => none

/-- What a report says of a reason besides its message. -/
def facts : Reason → Facts
  | .general _ => []
  | .configuration _ setting _ =>
    match setting with
    | some s => if s.isEmpty then [] else [("config_key", .text s)]
    | none => []
  | .unsupportedVendor _ => [("config_key", .text "dialect")]
  | .invalidVersion text => [("version", .text text)]
  | .scriptNotFound path => [("path", .text path)]
  | .scriptFailed path number statement _ =>
    [("path", .text path), ("statement_number", .integer number),
      ("statement", .text (excerpt statement))]
  | .versionTableMissing _ tables => if tables.isEmpty then [] else [("tables", .texts tables)]
  | .versionRowMissing table => [("table", .text table)]
  | .queryFailed _ query _ =>
    match query with
    | some q => if q.isEmpty then [] else [("query", .text q)]
    | none => []
  | .sizesNotUpdated _ resourceType _ => (resourceType.map fun t => ("resource_type", .integer t)).toList

end Reason

/-- An error of a migration. -/
structure Failure where
  reason : Reason
  code : String
  facts : Facts
  deriving DecidableEq, Repr

namespace Failure

/-- The failure for a reason alone. -/
def ofReason (r : Reason) : Failure := ⟨r, r.name, r.facts⟩

/-- A failure with a code of its own and with given facts. Facts that are withheld (`none`) can stand
only where the reason adds none. -/
def make (r : Reason) (code : Option String) (given : Option Facts) : Except Accident Failure :=
  let code := if code.getD "" = "" then r.name else code.getD ""
  match given, r.facts, r with
  | some given, own, _ => .ok ⟨r, code, noteAll given own⟩
  | none, [], _ => .ok ⟨r, code, []⟩
  | none, _, .scriptFailed .. => .error (.noOperation "NoneType" "update")
  | none, _, _ => .error (.noFields "NoneType")

/-- What is reported of a failure. -/
def message (f : Failure) : String := f.reason.message

/-- The failure with further facts. -/
def withFacts (f : Failure) (more : Facts) : Failure := { f with facts := noteAll f.facts more }

end Failure

/-- Whatever ends a piece of work early. -/
inductive Fault where
  | failure (f : Failure)
  | accident (a : Accident)
  deriving DecidableEq, Repr

namespace Fault

/-- The failure for a reason, as a fault. -/
def ofReason (r : Reason) : Fault := .failure (.ofReason r)

/-- What is reported of a fault. -/
def message : Fault → String
  | .failure f => f.message
  | .accident a => a.message

/-- The fault of a text that is no version. -/
def ofVersion : VersionFault → Fault
  | .malformed text => ofReason (.invalidVersion text)
  | .tooLong digits => .accident (.numeral (.tooLong digits))

/-- The fault of a comparison without an answer. -/
def ofComparison : Version.ComparisonFault → Fault
  | .version fault => ofVersion fault
  | .unordered relation kind => .accident (.unordered relation kind)

end Fault

/-! ## Small facts -/

theorem Fault.ofReason_inj {r r' : Reason} : Fault.ofReason r = Fault.ofReason r' ↔ r = r' :=
  ⟨fun h => congrArg Failure.reason (Fault.failure.inj h), congrArg _⟩

theorem Fault.ofVersion_eq_ofReason {e : VersionFault} {r : Reason} :
    Fault.ofVersion e = .ofReason r ↔ ∃ text, e = .malformed text ∧ .invalidVersion text = r := by
  cases e with
  | malformed text => simp [Fault.ofVersion, Fault.ofReason_inj]
  | tooLong digits => exact iff_of_false nofun nofun

theorem Fault.ofVersion_inj {e e' : VersionFault} : Fault.ofVersion e = .ofVersion e' ↔ e = e' := by
  refine ⟨fun h => ?_, congrArg _⟩
  cases e' with
  | malformed text =>
    obtain ⟨text', rfl, htext⟩ := Fault.ofVersion_eq_ofReason.1 h
    rw [Reason.invalidVersion.inj htext]
  | tooLong digits =>
    cases e with
    | malformed text => cases h
    | tooLong digits' =>
      cases h
      rfl

end SchemaMigration
