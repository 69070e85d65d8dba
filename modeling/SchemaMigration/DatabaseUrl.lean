import SchemaMigration.Failure
import SchemaMigration.Text.Percent

/-!
# SchemaMigration.DatabaseUrl — addresses of databases

An address reads `name://[user[:password]@][host][:port][/database][?query]`; a host with colons stands
between brackets. What follows the part that can be read is passed over.

* `DatabaseUrl.parse` : the parts of an address.
* `DatabaseUrl.masked` : the address with its password hidden, for reports.
* `masked_password` : hiding shows whether there is a password, and nothing else of it.
-/

namespace SchemaMigration

/-! ## Definitions -/

/-- The parts of the address of a database; user, password and query are held as plain texts. -/
structure DatabaseUrl where
  driver : String
  user : Option String := none
  password : Option String := none
  host : Option String := none
  port : Option Int := none
  database : Option String := none
  query : List (String × String) := []
  deriving DecidableEq, Repr

namespace DatabaseUrl

/-! ### Reading -/

/-- What stands before the last `c` of a text, and what stands behind it. -/
def splitLast? (c : Char) (cs : List Char) : Option (List Char × List Char) :=
  match cs.reverse.dropWhile (· != c) with
  | [] => none
  | _ :: before => some (before.reverse, (cs.reverse.takeWhile (· != c)).reverse)

/-- User and password, if an `@` closes them, and the rest. A password goes up to the first `@`; a user
alone, which holds neither colon nor slash, up to the last one that it can reach. -/
def readUser (cs : List Char) : Option (List Char × Option (List Char)) × List Char :=
  let isInUser := fun c => c != ':' && c != '/'
  let user := cs.takeWhile isInUser
  let rest := cs.dropWhile isInUser
  let alone := match splitLast? '@' user with
    | some (name, after) => (some (name, none), after ++ rest)
    | none => (none, cs)
  match rest with
  | ':' :: behind =>
    match behind.dropWhile (· != '@') with
    | _ :: after => (some (user, some (behind.takeWhile (· != '@'))), after)
    | [] => alone
  | _ => alone

/-- The host, if there is one, and the rest. Brackets go up to the last closing one before the
database. -/
def readHost (cs : List Char) : Option (List Char) × List Char :=
  let isPlain := fun c => c != '/' && c != ':' && c != '?'
  let isBracketed := fun c => c != '/' && c != '?'
  let plain := match cs.takeWhile isPlain with
    | [] => (none, cs)
    | host => (some host, cs.dropWhile isPlain)
  match cs with
  | '[' :: inner =>
    match splitLast? ']' (inner.takeWhile isBracketed) with
    | some (c :: host, after) => (some (c :: host), after ++ inner.dropWhile isBracketed)
    | _ => plain
  | _ => plain

/-- The part that a sign opens, up to a character in `stop`, and the rest. -/
def readPart (sign : Char) (stop : Char → Bool) : List Char → Option (List Char) × List Char
  | [] => (none, [])
  | c :: cs => if c = sign then (some (cs.takeWhile (!stop ·)), cs.dropWhile (!stop ·)) else (none, c :: cs)

/-- The address that a text writes. -/
def parse (s : String) : Except Accident DatabaseUrl :=
  let isInName := fun c => Text.isWordChar c || c == '+'
  match s.toList.takeWhile isInName, s.toList.dropWhile isInName with
  | c :: name, ':' :: '/' :: '/' :: rest =>
    let (credentials, rest) := readUser rest
    let (host, rest) := readHost rest
    let (port, rest) := readPart ':' (fun c => c == '/' || c == '?') rest
    let (database, rest) := readPart '/' (· == '?') rest
    let (query, _) := readPart '?' (· == '\n') rest
    match port.mapM fun digits => Text.readInteger (String.ofList digits) with
    | .error e => .error (.numeral e)
    | .ok port => .ok
      { driver := String.ofList (c :: name)
        user := credentials.map fun p => String.ofList (Text.percentDecode p.1)
        password := credentials.bind fun p => p.2.map fun w => String.ofList (Text.percentDecode w)
        host := host.map String.ofList
        port := port
        database := database.map String.ofList
        query := (Text.formFields (query.getD [])).map fun p => (String.ofList p.1, String.ofList p.2) }
  | _, _ => .error .unreadableUrl

/-! ### Writing -/

/-- A user or password as it stands in an address. -/
def encodeUser (s : String) : String := String.ofList (Text.percentEncode [' ', '+'] s.toList)

/-- The host between brackets where it holds a colon. -/
def renderHost (host : String) : String := if host.toList.contains ':' then "[" ++ host ++ "]" else host

/-- A field of the query. -/
def renderField (name value : String) : String :=
  String.ofList (Text.formEncode name.toList) ++ "=" ++ String.ofList (Text.formEncode value.toList)

/-- The query with its fields in the order of their names. -/
def renderQuery (query : List (String × String)) : String :=
  if query.isEmpty then ""
  else "?" ++ "&".intercalate ((query.mergeSort fun p q => p.1 ≤ q.1).map fun p => renderField p.1 p.2)

/-- An optional part behind its sign. -/
def renderPart (sign : String) : Option String → String
  | some s => sign ++ s
  | none => ""

/-- The address as a text, in which `show` writes the password. -/
def render (showPassword : String → String) (u : DatabaseUrl) : String :=
  u.driver ++ "://" ++
    (match u.user with
      | some user => encodeUser user ++ renderPart ":" (u.password.map showPassword) ++ "@"
      | none => "") ++
    (u.host.map renderHost).getD "" ++
    renderPart ":" (u.port.map toString) ++
    renderPart "/" u.database ++
    renderQuery u.query

/-- The address with its password hidden. -/
def masked : DatabaseUrl → String := render fun _ => "***"

/-- The address with its password. -/
def unmasked : DatabaseUrl → String := render encodeUser

/-- The name of the kind of database: what stands before the first `+` of the driver. -/
def backend (u : DatabaseUrl) : String := String.ofList (u.driver.toList.takeWhile (· != '+'))

/-! ## Small facts -/

theorem masked_password (u : DatabaseUrl) (p q : String) :
    masked { u with password := some p } = masked { u with password := some q } := rfl

end DatabaseUrl

end SchemaMigration
