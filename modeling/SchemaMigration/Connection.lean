import SchemaMigration.Settings

/-!
# SchemaMigration.Connection — how a database is reached

The driver that speaks to a database belongs to another library, which finds it by the address. What that
library makes of an address is a parameter here.

* `Connection.ofSettings` : the connection that the settings ask for. First the kind of database must be
  supported, then there must be a driver for the address.
* `Connection.vendor` : the kind of the database, by the name that the driver gives to it.
* `ofSettings_url` : a connection comes from an address that can be read.
-/

namespace SchemaMigration

/-! ## Definitions -/

/-- How connections are made, besides their address. -/
structure ConnectionOptions where
  /-- A connection is tried before it is used. -/
  prePing : Bool := true
  /-- Statements are written out. -/
  echo : Bool
  /-- After how many seconds a connection is renewed, if that is told. -/
  recycle : Option Int
  deriving DecidableEq, Repr

/-- What speaks to a database. -/
structure Driver where
  /-- The kind of database. -/
  dialect : String
  name : String
  deriving DecidableEq, Repr

/-- What finds the driver for an address. -/
abbrev Drivers := DatabaseUrl → ConnectionOptions → Except Accident Driver

/-- A way to reach a database. -/
structure Connection where
  url : DatabaseUrl
  options : ConnectionOptions
  driver : Driver
  deriving DecidableEq, Repr

namespace Connection

/-- How connections to a kind of database are made. -/
def optionsFor (settings : Settings) (vendor : Vendor) : ConnectionOptions where
  echo := settings.echoSql
  recycle := if vendor = .sqlite then none else some settings.poolRecycle

/-- The connection to the database at an address. -/
def ofUrl (drivers : Drivers) (settings : Settings) (url : DatabaseUrl) : Except Fault Connection :=
  match Vendor.ofName? url.backend with
  | none => .error (.ofReason (.unsupportedVendor (some url.backend)))
  | some vendor =>
    let options := optionsFor settings vendor
    ((drivers url options).mapError .accident).map fun driver => { url, options, driver }

/-- The connection that the settings ask for. -/
def ofSettings (drivers : Drivers) (settings : Settings) : Except Fault Connection :=
  match DatabaseUrl.parse settings.databaseUrl with
  | .error e => .error (.accident e)
  | .ok url => ofUrl drivers settings url

/-- The notice of a new connection. -/
def notice (c : Connection) : Notice := .connected c.url.masked

/-- The kind of database that is reached, which has to be a supported one. -/
def vendor (c : Connection) : Except Fault Vendor :=
  match Vendor.ofName? c.driver.dialect with
  | some vendor => .ok vendor
  | none => .error (.ofReason (.unsupportedVendor (some c.driver.dialect)))

/-! ## Small facts -/

theorem ofSettings_url {drivers : Drivers} {settings : Settings} {c : Connection}
    (h : ofSettings drivers settings = .ok c) : DatabaseUrl.parse settings.databaseUrl = .ok c.url := by
  unfold ofSettings at h
  split at h
  · simp at h
  · next url hu =>
    unfold ofUrl at h
    dsimp only at h
    split at h
    · simp at h
    · next vendor _ =>
      cases hd : drivers url (optionsFor settings vendor) with
      | error e => rw [hd] at h; cases h
      | ok driver => rw [hd] at h; cases h; exact hu

end Connection

end SchemaMigration
