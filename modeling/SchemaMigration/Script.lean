import SchemaMigration.Text.Lines

/-!
# SchemaMigration.Script — the statements of a script

A script is read line by line. Blank lines and lines that start with `--` or `//` are skipped, a line
of two words the first of which is `delimiter` sets the terminator, and a line that ends with the
terminator ends a statement.

* `Script.step`, `Script.statements` : reading as a fold over the lines.
* `Script.lineKind` : what a line is when `terminator` is in force.
* `Script.render` : a script that holds given statements.
* `statements_eq_finish` : the statements are what is left of the fold over the lines.
-/

namespace SchemaMigration.Script

/-! ## Definitions -/

/-- The terminator that a script starts with. -/
def defaultTerminator : List Char := [';']

/-- What a line of a script is. -/
inductive LineKind where
  /-- Blank, or a comment. -/
  | skipped
  /-- Sets the terminator. -/
  | directive (terminator : List Char)
  /-- Ends a statement, whose last line this is. -/
  | terminated (body : List Char)
  /-- A line of a statement that goes on. -/
  | continued (body : List Char)
  deriving DecidableEq, Repr

/-- A line that holds nothing, once trimmed, or a comment. -/
def isSkipped (trimmed : List Char) : Bool :=
  trimmed.isEmpty || ['-', '-'].isPrefixOf trimmed || ['/', '/'].isPrefixOf trimmed

/-- The terminator that a line sets, if it is a directive. -/
def directive? (trimmed : List Char) : Option (List Char) :=
  match Text.words trimmed with
  | [word, terminator] =>
    if word.map Char.toLower = "delimiter".toList then some terminator else none
  | _ => none

/-- What a line is when `terminator` is in force. -/
def lineKind (terminator line : List Char) : LineKind :=
  let trimmed := Text.trim line
  if isSkipped trimmed then .skipped
  else match directive? trimmed with
    | some t => .directive t
    | none =>
      if terminator.isSuffixOf trimmed then
        .terminated (trimmed.take (trimmed.length - terminator.length))
      else .continued (Text.trimRight line)

/-- A script read so far: the terminator in force, the lines of the statement that is not ended yet,
and the statements before it. -/
structure Progress where
  terminator : List Char := defaultTerminator
  pending : List (List Char) := []
  done : List (List Char) := []
  deriving DecidableEq, Repr

/-- The lines of a statement as one text, without blanks around it. -/
def assemble (pending : List (List Char)) : List Char := Text.trim (Text.joinWith ['\n'] pending)

/-- The statements with those of `pending` added, unless they are blank. -/
def close (done pending : List (List Char)) : List (List Char) :=
  if (assemble pending).isEmpty then done else done ++ [assemble pending]

/-- Reads one line. -/
def step (p : Progress) (line : List Char) : Progress :=
  match lineKind p.terminator line with
  | .skipped => p
  | .directive t => { p with terminator := t }
  | .terminated body => { p with pending := [], done := close p.done (p.pending ++ [body]) }
  | .continued body => { p with pending := p.pending ++ [body] }

/-- The statements when the script ends here. -/
def finish (p : Progress) : List (List Char) := close p.done p.pending

/-- The statements of a script, as characters. -/
def statements (cs : List Char) : List (List Char) := finish ((Text.lines cs).foldl step {})

/-- The statements of a script. -/
def split (s : String) : List String := (statements s.toList).map String.ofList

/-- A script that holds the statements `ss`, each with its terminator on its last line. -/
def render (ss : List (List Char)) : List Char := ss.flatMap (· ++ [';', '\n'])

/-! ## Small facts -/

theorem statements_eq_finish (cs : List Char) :
    statements cs = finish ((Text.lines cs).foldl step {}) := rfl

end SchemaMigration.Script
