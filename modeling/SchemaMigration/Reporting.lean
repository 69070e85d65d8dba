import SchemaMigration.Settings

/-!
# SchemaMigration.Reporting — which notices are shown, and in which form

A format is a text with fields such as `%(message)s`; it needs one field at least. Notices below the
level of the settings are left out.

* `Reporting.levelOf` : what a name stands for where a level is asked for.
* `Reporting.ofSettings` : the level and the format that the settings ask for.
* `Reporting.hasField` : a format that can be used.
* `shown` : the notices of a journal that are shown.
-/

namespace SchemaMigration

/-! ## Definitions -/

/-- How notices are shown. -/
structure Reporting where
  /-- Notices of a lower rank are left out. -/
  rank : Nat
  format : String
  /-- The rank from which the reports of the database layer itself are shown. -/
  databaseRank : Nat := Level.warning.rank
  deriving DecidableEq, Repr

namespace Reporting

/-! ### Levels -/

/-- The ranks by all the names that levels can be given by. -/
def ranks : List (String × Nat) :=
  Level.all.map (fun l => (l.name, l.rank)) ++
    [("WARN", Level.warning.rank), ("FATAL", Level.critical.rank), ("NOTSET", 0)]

/-- The standard format of notices. -/
def standardFormat : String := "%(levelname)s:%(name)s:%(message)s"

/-- The styles of formats, each with its own standard format, as they are written. -/
def standardStyles : String :=
  "\x7b'%': (<class 'logging.PercentStyle'>, '%(levelname)s:%(name)s:%(message)s'), " ++
    "'\x7b': (<class 'logging.StrFormatStyle'>, '\x7blevelname\x7d:\x7bname\x7d:\x7bmessage\x7d'), " ++
    "'$': (<class 'logging.StringTemplateStyle'>, '$\x7blevelname\x7d:$\x7bname\x7d:$\x7bmessage\x7d')\x7d"

/-- The names that stand beside those of the levels for something else, and why that is no level. -/
def namesakes : List (String × Accident) :=
  [("BASIC_FORMAT", .unknownLevel standardFormat), ("_STYLES", .notALevel standardStyles)]

/-- The rank of the level of this name. A name that stands for nothing stands for `INFO`. -/
def levelOf (name : String) : Except Accident Nat :=
  match ranks.lookup name, namesakes.lookup name with
  | some rank, _ => .ok rank
  | none, some accident => .error accident
  | none, none => .ok Level.info.rank

/-- The name of a rank. -/
def rankName (rank : Nat) : String :=
  match ranks.find? (·.2 = rank) with
  | some (name, _) => name
  | none => toString rank

/-! ### Formats -/

/-- A letter that says how a field is written, in either case; `s` and `i` have further forms of
their case outside ASCII. -/
def isConversion (c : Char) : Bool :=
  "diouxefgcrsa%".toList.contains c.toLower || c == '\u017F' || c == '\u0130' || c == '\u0131'

/-- What follows a width, which is a star or a run of digits; the same text where there is none. -/
def skipWidth : List Char → List Char
  | '*' :: cs => cs
  | cs => cs.dropWhile fun c => (Text.decimalValue? c).isSome

/-- What follows a point and a precision; the same text where there is no precision. -/
def skipPrecision : List Char → List Char
  | '.' :: cs => if (skipWidth cs).length < cs.length then skipWidth cs else '.' :: cs
  | cs => cs

/-- A field begins with these characters. -/
def beginsField : List Char → Bool
  | '%' :: '(' :: cs =>
    match cs.takeWhile Text.isWordChar, cs.dropWhile Text.isWordChar with
    | _ :: _, ')' :: rest =>
      let body := rest.dropWhile "#0+ -".toList.contains
      ((skipPrecision (skipWidth body)).head?).any isConversion
    | _, _ => false
  | _ => false

/-- A field stands somewhere in the text. -/
def hasField : List Char → Bool
  | [] => false
  | c :: cs => beginsField (c :: cs) || hasField cs

/-- The format that the settings ask for; an empty one stands for the message alone. -/
def formatOf (settings : Settings) : String :=
  if settings.logFormat.isEmpty then "%(message)s" else settings.logFormat

/-- How the settings ask for notices to be shown. The format is looked at before the level. -/
def ofSettings (settings : Settings) : Except Accident Reporting :=
  if hasField (formatOf settings).toList then
    (levelOf settings.logLevel).map fun rank => { rank := rank, format := formatOf settings }
  else .error (.unusableLogFormat (formatOf settings))

/-- The reporting before there are settings: warnings and what is above them. -/
def initial : Reporting := { rank := Level.warning.rank, format := "%(message)s" }

end Reporting

/-- The notices of a journal from a rank on. -/
def shown (rank : Nat) (j : Journal) : List Notice := (notices j).filter fun n => rank ≤ n.level.rank

end SchemaMigration
