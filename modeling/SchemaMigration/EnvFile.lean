import SchemaMigration.Failure

/-!
# SchemaMigration.EnvFile — variables kept in a file

A file of variables holds one binding a line: a name, and behind `=` a value, which may stand between
quotes and then go over several lines. A line that cannot be read is passed over. Values may name other
variables, which stand for what the environment says of them, or else an earlier line.

* `bindings` : the bindings of a text.
* `expand` : the value of a variable with the variables in it replaced.
* `load` : the environment with the variables of a file that it does not have yet.
-/

namespace SchemaMigration

/-! ## Definitions -/

/-- The variables of an environment, by name. -/
abbrev Environment := List (String × String)

namespace EnvFile

/-- A name, with its value if it is given one. -/
structure Binding where
  name : String
  value : Option String
  deriving DecidableEq, Repr

/-- The character ends a line. -/
def endsLine (c : Char) : Bool := c == '\n' || c == '\r'

/-- The character is a blank that does not end a line. -/
def isInlineBlank (c : Char) : Bool := Text.isBlank c && !endsLine c

/-- The text without the blanks at its front that do not end a line. -/
def skipInlineBlanks (cs : List Char) : List Char := cs.dropWhile isInlineBlank

/-! ### Values -/

/-- What stands before the quote that ends a quoted value, and what follows it. A quote behind a
backslash ends the value only if no later one does. -/
def quotedBody (quote : Char) : List Char → Option (List Char × List Char)
  | [] => none
  | '\\' :: c :: cs =>
    if c = quote then
      match quotedBody quote cs with
      | some (body, rest) => some ('\\' :: c :: body, rest)
      | none => some (['\\'], cs)
    else (quotedBody quote (c :: cs)).map fun (body, rest) => ('\\' :: body, rest)
  | c :: cs =>
    if c = quote then some ([], cs)
    else (quotedBody quote cs).map fun (body, rest) => (c :: body, rest)

/-- The character that a letter behind a backslash stands for between double quotes. -/
def doubleEscape? : Char → Option Char
  | 'n' => some '\n'
  | 't' => some '\t'
  | 'r' => some '\r'
  | 'a' => some '\x07'
  | 'b' => some '\x08'
  | 'f' => some '\x0c'
  | 'v' => some '\x0b'
  | c => if c = '\\' ∨ c = '"' ∨ c = '\x27' then some c else none

/-- The character that a letter behind a backslash stands for between single quotes. -/
def singleEscape? (c : Char) : Option Char := if c = '\\' ∨ c = '\x27' then some c else none

/-- The text with its escapes replaced. -/
def unescape (escape? : Char → Option Char) : List Char → List Char
  | '\\' :: c :: cs =>
    match escape? c with
    | some d => d :: unescape escape? cs
    | none => '\\' :: unescape escape? (c :: cs)
  | c :: cs => c :: unescape escape? cs
  | [] => []

/-- A line without the comment that a blank and `#` begin. -/
def dropComment : List Char → List Char
  | [] => []
  | c :: cs =>
    if Text.isBlank c && (cs.dropWhile Text.isBlank).head? = some '#' then []
    else c :: dropComment cs

/-- Reads the value behind the `=`; where it is malformed, what is left of the text. -/
def readValue (cs : List Char) : Except (List Char) (List Char × List Char) :=
  let read := fun quote escape? body => match quotedBody quote body with
    | some (value, rest) => .ok (unescape escape? value, rest)
    | none => .error (quote :: body)
  match skipInlineBlanks cs with
  | '\x27' :: body => read '\x27' singleEscape? body
  | '"' :: body => read '"' doubleEscape? body
  | _ => .ok (Text.trim (dropComment (cs.takeWhile (!endsLine ·))), cs.dropWhile (!endsLine ·))

/-! ### Lines -/

/-- The text behind the word that may stand before a name. -/
def skipExport (cs : List Char) : List Char :=
  match cs with
  | 'e' :: 'x' :: 'p' :: 'o' :: 'r' :: 't' :: c :: rest =>
    if isInlineBlank c then skipInlineBlanks rest else cs
  | _ => cs

/-- The character may stand in a name without quotes. -/
def isNameChar (c : Char) : Bool := c != '=' && c != '#' && !Text.isBlank c

/-- A name and what follows it; there is no name before a comment. -/
def readName : List Char → Option (Option String × List Char)
  | '#' :: cs => some (none, '#' :: cs)
  | '\x27' :: cs =>
    match cs.takeWhile (· != '\x27'), cs.dropWhile (· != '\x27') with
    | c :: name, _ :: rest => some (some (String.ofList (c :: name)), rest)
    | _, _ => none
  | cs =>
    match cs.takeWhile isNameChar with
    | [] => none
    | name => some (some (String.ofList name), cs.dropWhile isNameChar)

/-- The text behind a comment, if one stands here. -/
def skipComment (cs : List Char) : List Char :=
  match skipInlineBlanks cs with
  | '#' :: rest => rest.dropWhile (!endsLine ·)
  | _ => cs

/-- The text behind the end of the line, if nothing but blanks stands before it. -/
def skipLineEnd (cs : List Char) : Option (List Char) :=
  match skipInlineBlanks cs with
  | [] => some []
  | '\r' :: '\n' :: rest => some rest
  | c :: rest => if endsLine c then some rest else none

/-- The text behind the next end of a line, whatever stands before it. -/
def skipLine (cs : List Char) : List Char := (cs.dropWhile (!endsLine ·)).drop 1

/-- Reads one binding, if there is one, and the rest of its line; where that is malformed, what is left
of the text. -/
def readBinding (cs : List Char) : Except (List Char) (Option Binding × List Char) :=
  match cs.dropWhile Text.isBlank with
  | [] => .ok (none, [])
  | cs =>
    let cs := skipExport cs
    match readName cs with
    | none => .error cs
    | some (name, rest) => do
      let (value, rest) ← match skipInlineBlanks rest with
        | '=' :: rest => (readValue rest).map fun (v, rest) => (some (String.ofList v), rest)
        | rest => .ok (none, rest)
      match skipLineEnd (skipComment rest) with
      | none => .error (skipComment rest)
      | some rest => .ok (name.map (⟨·, value⟩), rest)

/-- The bindings of a text of at most `fuel` characters. -/
def readBindings : Nat → List Char → List Binding
  | 0, _ => []
  | fuel + 1, cs =>
    if cs.isEmpty then []
    else match readBinding cs with
      | .error rest => readBindings fuel (skipLine rest)
      | .ok (binding, rest) => binding.toList ++ readBindings fuel rest

/-- The bindings of a text, a byte order mark at its front left out. -/
def bindings (cs : List Char) : List Binding :=
  let cs := if cs.head? = some '\uFEFF' then cs.drop 1 else cs
  readBindings cs.length cs

/-! ### Variables in values -/

/-- A variable in a value, with the text that stands for it where there is no such variable. -/
structure Reference where
  name : String
  default : String
  deriving DecidableEq, Repr

/-- A reference whose name begins here, and what follows it. -/
def readReference (cs : List Char) : Option (Reference × List Char) :=
  let isInName := fun c => c != '\x7d' && c != ':'
  let name := String.ofList (cs.takeWhile isInName)
  match cs.dropWhile isInName with
  | '\x7d' :: rest => some (⟨name, ""⟩, rest)
  | ':' :: '-' :: rest =>
    match rest.dropWhile (· != '\x7d') with
    | _ :: after => some (⟨name, String.ofList (rest.takeWhile (· != '\x7d'))⟩, after)
    | [] => none
  | _ => none

/-- What is known of the variables while a file is read: the environment, then the bindings so far. -/
def meaning (env : Environment) (seen : List (String × Option String)) (r : Reference) : String :=
  match env.lookup r.name, seen.lookup r.name with
  | some v, _ => v
  | none, some v => v.getD ""
  | none, none => r.default

/-- A value of at most `fuel` characters with its references replaced by what they mean. -/
def expandWithin (mean : Reference → String) : Nat → List Char → List Char
  | 0, cs => cs
  | _ + 1, [] => []
  | fuel + 1, c :: cs =>
    match c, cs with
    | '$', '\x7b' :: body =>
      match readReference body with
      | some (r, rest) => (mean r).toList ++ expandWithin mean fuel rest
      | none => c :: expandWithin mean fuel cs
    | _, _ => c :: expandWithin mean fuel cs

/-- A value with its references replaced by what they mean. -/
def expand (mean : Reference → String) (value : String) : String :=
  String.ofList (expandWithin mean value.length value.toList)

/-! ### Loading -/

/-- The variables with one more, which replaces any of its name. -/
def setVariable {α : Type} : List (String × α) → String → α → List (String × α)
  | [], name, v => [(name, v)]
  | (n, w) :: vars, name, v =>
    if n = name then (n, v) :: vars else (n, w) :: setVariable vars name v

/-- What the bindings say of each name, the references in a value being replaced at its line. -/
def values (env : Environment) (bs : List Binding) : List (String × Option String) :=
  bs.foldl (fun seen b => setVariable seen b.name (b.value.map (expand (meaning env seen)))) []

/-- The environment with one more variable; a zero character cannot be kept, nor a name with `=`. -/
def addVariable (env : Environment) (name value : String) : Except Accident Environment :=
  let zero := Char.ofNat 0
  if name.toList.contains zero || value.toList.contains zero then .error (.unusableVariable "embedded null byte")
  else if name.toList.contains '=' then .error (.unusableVariable "illegal environment variable name")
  else .ok (setVariable env name value)

/-- The environment with the values of the names that it does not have yet. -/
def addMissing (env : Environment) : List (String × Option String) → Except Accident Environment
  | [] => .ok env
  | (name, some value) :: rest =>
    if (env.lookup name).isSome then addMissing env rest
    else match addVariable env name value with
      | .ok env => addMissing env rest
      | .error e => .error e
  | (_, none) :: rest => addMissing env rest

/-- The path can only lead to a directory. -/
def namesDirectory (file : String) : Bool :=
  match (Text.splitBy (· == '/') file.toList).getLast? with
  | some last => last = [] || last = ['.'] || last = ['.', '.']
  | none => true

/-- The environment with the variables of a file that it does not have yet. Where no file is named, that is the
file `found` by a search; what is not a file is passed over. -/
def load (files : FileTree) (found : Option String) (file : Option String) (env : Environment) :
    Except Accident Environment :=
  let file := (file <|> found).getD ""
  match if namesDirectory file then .ok none else files.read? (.parse file) with
  | .ok (some bytes) =>
    match Text.fileText bytes with
    | .ok cs => addMissing env (values env (bindings cs))
    | .error e => .error (.undecodable e)
  | _ => .ok env

end EnvFile

end SchemaMigration
