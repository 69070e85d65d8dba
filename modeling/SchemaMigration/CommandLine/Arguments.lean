import SchemaMigration.Text.Alphanumeric

/-!
# SchemaMigration.CommandLine.Arguments — what a run is asked to do

Options stand before the command, which one further option may follow. An option is given by its name or
by any beginning of it that fits no other option, and its value stands behind `=` or in the next
argument.

* `Invocation` : a command and the values of the options.
* `classify` : what a single argument is.
* `parse` : the invocation that a list of arguments asks for, or why there is none.
-/

namespace SchemaMigration.CommandLine

/-! ## Definitions -/

/-- What can be done. -/
inductive Command where
  /-- Makes the schema. -/
  | init
  /-- Carries out the step of this name, or all newer ones. -/
  | upgrade (step : Option String)
  /-- Makes the schema or brings it up to date. -/
  | bootstrap
  /-- Shows the installed version. -/
  | version
  /-- Computes the folder sizes again. -/
  | fixResourceSize
  deriving DecidableEq, Repr

/-- A command and the values of the options. -/
structure Invocation where
  envFile : Option String := none
  databaseUrl : Option String := none
  resourceRoot : Option String := none
  command : Command := .bootstrap
  deriving DecidableEq, Repr

/-- Why there is nothing to run. -/
inductive Refusal where
  /-- Help is asked for. -/
  | help
  /-- The arguments cannot be understood. -/
  | usage
  deriving DecidableEq, Repr

/-- The status that a refusal ends with. -/
def Refusal.status : Refusal → Nat
  | .help => 0
  | .usage => 2

/-! ### Single arguments -/

/-- What an argument is. -/
inductive Word where
  /-- A value or a command. -/
  | argument
  /-- An option, with the value behind its `=`. -/
  | known (option : String) (value : Option String)
  /-- An option of one letter, which only help has, with what stands right behind the letter. -/
  | letter (option : String) (tail : List Char)
  /-- An option that there is not. -/
  | unknown
  /-- The beginning of more than one option. -/
  | ambiguous
  /-- The mark after which there are no options. -/
  | dashes
  deriving DecidableEq, Repr

/-- The options that ask for help. -/
def helpOptions : List String := ["-h", "--help"]

/-- The character is a decimal digit of any script. -/
def isDigit (c : Char) : Bool := (Text.decimalValue? c).isSome

/-- The text is a number below zero without an exponent; a line feed at its end does not count. -/
def isNegativeNumber (cs : List Char) : Bool :=
  let cs := if cs.getLast? = some '\n' then cs.dropLast else cs
  match cs with
  | '-' :: body =>
    match body.takeWhile isDigit, body.dropWhile isDigit with
    | _ :: _, [] => true
    | _, '.' :: fraction => !fraction.isEmpty && fraction.all isDigit
    | _, _ => false
  | _ => false

/-- A text before its first `=`, and the text behind it if there is one. -/
def cutAtEquals (s : String) : String × Option String :=
  match s.toList.dropWhile (· != '=') with
  | _ :: value => (String.ofList (s.toList.takeWhile (· != '=')), some (String.ofList value))
  | [] => (s, none)

/-- The options that a text which is no option itself can stand for. -/
def candidates (options : List String) (s : String) : List Word :=
  match s.toList with
  | '-' :: '-' :: _ =>
    let (start, value) := cutAtEquals s
    (options.filter fun o => start.toList.isPrefixOf o.toList).map fun o => .known o value
  | '-' :: c :: tail =>
    (options.filter fun o => o.toList = ['-', c]).map fun o => .letter o tail
  | _ => []

/-- What an argument is where there are these options. -/
def classify (options : List String) (s : String) : Word :=
  let (start, value) := cutAtEquals s
  if s = "--" then .dashes
  else if s.toList.head? ≠ some '-' then .argument
  else if options.contains s then .known s none
  else if s = "-" then .argument
  else if value.isSome && options.contains start then .known start value
  else match candidates options s with
    | [w] => w
    | _ :: _ => .ambiguous
    | [] => if isNegativeNumber s.toList || s.toList.contains ' ' then .argument else .unknown

/-- Every argument with what it is; behind the mark all are values. -/
def classifyAll (options : List String) : List String → List (String × Word)
  | [] => []
  | s :: rest =>
    let w := classify options s
    if w = .dashes then (s, w) :: rest.map (·, .argument) else (s, w) :: classifyAll options rest

/-! ### Lists of arguments -/

/-- What a list of arguments holds. -/
structure Reading where
  /-- The options with their values, the last first. -/
  values : List (String × String) := []
  /-- Something is left over. -/
  hasMore : Bool := false
  /-- The command and the arguments behind it. -/
  command : Option (String × List String) := none
  deriving DecidableEq, Repr

/-- What the letter of help leads to with more letters behind it. The letter may be repeated; behind that,
only a mark that would give the option a value stands in the way of the help. -/
def helpLetters (tail : List Char) : Refusal :=
  match tail.dropWhile (· == 'h') with
  | '-' :: _ => .usage
  | '=' :: _ => .usage
  | _ => .help

/-- Reads classified arguments up to the command, or all of them where no command is `expected`. -/
def readWords (expected : Bool) (soFar : Reading) : List (String × Word) → Except Refusal Reading
  | [] => .ok soFar
  | (s, .argument) :: rest =>
    if expected then .ok { soFar with command := some (s, rest.map (·.1)) }
    else readWords expected { soFar with hasMore := true } rest
  | (_, .known option value) :: rest =>
    if helpOptions.contains option then .error (if value.isSome then .usage else .help)
    else match value, rest with
      | some v, rest => readWords expected { soFar with values := (option, v) :: soFar.values } rest
      | none, (v, .argument) :: rest =>
        readWords expected { soFar with values := (option, v) :: soFar.values } rest
      | none, _ => .error .usage
  | (_, .letter _ tail) :: _ => .error (helpLetters tail)
  | (_, .unknown) :: rest => readWords expected { soFar with hasMore := true } rest
  | (_, .ambiguous) :: _ => .error .usage
  | (_, .dashes) :: _ => .error .usage

/-- Reads arguments with the given options. An ambiguous one is refused before any is looked at. -/
def read (options : List String) (expected : Bool) (args : List String) : Except Refusal Reading :=
  let words := classifyAll (helpOptions ++ options) args
  if words.any (·.2 = .ambiguous) then .error .usage else readWords expected {} words

/-- Reads the arguments behind a command that allows for these options. -/
def readTail (options : List String) (args : List String) : Except Refusal Reading := do
  let tail ← read options false args
  if tail.hasMore then .error .usage else .ok tail

/-- The command of this name with the arguments behind it. -/
def readCommand (name : String) (args : List String) : Except Refusal Command :=
  match name with
  | "init" => (readTail [] args).map fun _ => .init
  | "upgrade" => (readTail ["--step"] args).map fun tail => .upgrade (tail.values.lookup "--step")
  | "bootstrap" => (readTail [] args).map fun _ => .bootstrap
  | "version" => (readTail [] args).map fun _ => .version
  | "fix-resource-size" => (readTail [] args).map fun _ => .fixResourceSize
  | _ => .error .usage

/-- The options that stand before the command. -/
def options : List String := ["--env-file", "--database-url", "--resource-root"]

/-- The invocation that a list of arguments asks for. -/
def parse (args : List String) : Except Refusal Invocation := do
  let reading ← read options true args
  let command ← match reading.command with
    | some (name, rest) => readCommand name rest
    | none => .ok .bootstrap
  if reading.hasMore then throw .usage
  return {
    envFile := reading.values.lookup "--env-file"
    databaseUrl := reading.values.lookup "--database-url"
    resourceRoot := reading.values.lookup "--resource-root"
    command }

end SchemaMigration.CommandLine
