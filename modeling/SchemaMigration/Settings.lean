import SchemaMigration.DatabaseUrl
import SchemaMigration.EnvFile
import SchemaMigration.Journal

/-!
# SchemaMigration.Settings — what a run is told from outside

* `Settings.ofEnvironment` : the settings that the variables of an environment give.
* `Settings.check` : the first setting that cannot be used.
* `Settings.maskedUrl` : the address of the database as reports show it.
-/

namespace SchemaMigration

/-! ## Definitions -/

/-- The settings of a run. -/
structure Settings where
  databaseUrl : String := "sqlite:///dolphinscheduler.db"
  /-- The directory that holds the scripts. -/
  resourceRoot : Path := .parse "."
  logLevel : String := "INFO"
  logFormat : String := "%(asctime)s - %(name)s - %(levelname)s - %(message)s"
  /-- After how many seconds a connection to a server is renewed. -/
  poolRecycle : Int := 3600
  echoSql : Bool := false
  deriving DecidableEq, Repr

namespace Settings

/-- The variable with the address of the database. -/
def urlVariable : String := "SCHEMA_UPGRADE_DATABASE_URL"

/-- The variable with the directory of the scripts. -/
def rootVariable : String := "SCHEMA_UPGRADE_RESOURCE_ROOT"

/-- The variable with the level of the reports. -/
def levelVariable : String := "SCHEMA_UPGRADE_LOG_LEVEL"

/-- The variable with the format of the reports. -/
def formatVariable : String := "SCHEMA_UPGRADE_LOG_FORMAT"

/-- The variable with the age at which connections are renewed. -/
def recycleVariable : String := "SCHEMA_UPGRADE_POOL_RECYCLE"

/-- The variable that has statements written out. -/
def echoVariable : String := "SQL_ECHO"

/-- Every variable that gives a setting. -/
def allVariables : List String :=
  [urlVariable, rootVariable, levelVariable, formatVariable, recycleVariable, echoVariable]

/-- The failure of a setting. -/
def unusable (message setting : String) (cause : Option Accident := none) : Failure :=
  .ofReason (.configuration message (some setting) cause)

/-- The settings that the variables of an environment give. -/
def ofEnvironment (env : Environment) : Except Failure Settings :=
  let standard : Settings := {}
  let recycle : Except Text.NumeralFault Int := match env.lookup recycleVariable with
    | none => .ok standard.poolRecycle
    | some s => Text.readInteger s
  match recycle with
  | .error e =>
    .error (unusable ("Invalid pool recycle value: " ++ e.message) recycleVariable (some (.numeral e)))
  | .ok recycle => .ok
    { databaseUrl := (env.lookup urlVariable).getD standard.databaseUrl
      resourceRoot := ((env.lookup rootVariable).map Path.parse).getD standard.resourceRoot
      logLevel := ((env.lookup levelVariable).map Text.upper).getD standard.logLevel
      logFormat := (env.lookup formatVariable).getD standard.logFormat
      poolRecycle := recycle
      echoSql := (env.lookup echoVariable).any fun s => Text.lower s = "true" }

/-- The settings of an environment that a file of variables adds to, as `loadVariables` reads it. -/
def load (loadVariables : Option String → Environment → Except Accident Environment) (file : Option String)
    (env : Environment) : Except Fault Settings :=
  match loadVariables file env with
  | .error e => .error (.accident e)
  | .ok env => (ofEnvironment env).mapError .failure

/-- The settings with those replaced that a caller gives; what is empty is not given. -/
def override (settings : Settings) (databaseUrl resourceRoot : Option String) : Settings :=
  let settings := match databaseUrl.getD "" with
    | "" => settings
    | url => { settings with databaseUrl := url }
  match resourceRoot.getD "" with
  | "" => settings
  | root => { settings with resourceRoot := .parse root }

/-- Finds the first setting that cannot be used. -/
def check (files : FileTree) (settings : Settings) : Except Fault Unit :=
  if settings.databaseUrl.isEmpty then .error (.failure (unusable "Database URL is empty" urlVariable))
  else match files.isDirectory settings.resourceRoot with
    | .error e => .error (.accident (.nameTooLong e.path))
    | .ok false =>
      .error (.failure (unusable
        ("Resource root does not exist: " ++ settings.resourceRoot.render) rootVariable))
    | .ok true =>
      if (Level.ofName? settings.logLevel).isSome then .ok ()
      else .error (.failure (unusable ("Unknown log level: " ++ settings.logLevel) levelVariable))

/-- The address of the database with its password hidden. -/
def maskedUrl (settings : Settings) : Except Fault String :=
  match DatabaseUrl.parse settings.databaseUrl with
  | .ok url => .ok url.masked
  | .error .unreadableUrl =>
    .error (.failure (unusable ("Invalid database URL: " ++ Accident.unreadableUrl.message) urlVariable
      (some .unreadableUrl)))
  | .error e => .error (.accident e)

end Settings

end SchemaMigration
