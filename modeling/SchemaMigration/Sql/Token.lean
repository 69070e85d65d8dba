import SchemaMigration.Sql.Value

/-!
# SchemaMigration.Sql.Token — the tokens of a statement

* `Token.next?` : the first token of a text and the rest; comments and spaces are passed over.
* `firstStatement` : the tokens of the first statement that is not empty, and what stands after its
  semicolon.
-/

namespace SchemaMigration.Sql

/-! ## Definitions -/

/-- A token of a statement. -/
inductive Token where
  /-- A keyword or a name. -/
  | word (s : String)
  /-- A name between double quotes. -/
  | quoted (s : String)
  /-- A name between brackets or grave accents. -/
  | bracketed (s : String)
  /-- A constant. -/
  | constant (v : Value)
  /-- The place of a value that is not given. -/
  | variable
  /-- A punctuation mark or an operator. -/
  | symbol (s : String)
  /-- What is no token. -/
  | illegal
  deriving DecidableEq, Repr

/-- The characters that a name starts with: letters, the underscore, and all outside ASCII. -/
def startsName (c : Char) : Bool := c.isAlpha || c == '_' || 0x80 ≤ c.toNat

/-- The characters of a name. -/
def isNameChar (c : Char) : Bool := startsName c || c.isDigit || c == '$'

/-- The characters between tokens. -/
def isSpace (c : Char) : Bool :=
  c == ' ' || c == '\t' || c == '\n' || c == '\r' || c.toNat == 0x0C

/-- What follows the end of a comment between marks; an open comment goes to the end. -/
def afterComment : List Char → List Char
  | [] => []
  | '*' :: '/' :: cs => cs
  | _ :: cs => afterComment cs

/-- What follows the spaces and comments at the front, the byte order mark counting as a space. -/
def skipSpace (fuel : Nat) (cs : List Char) : List Char :=
  match fuel, cs with
  | 0, cs => cs
  | _, [] => []
  | fuel + 1, '-' :: '-' :: cs => skipSpace fuel (cs.dropWhile (· != '\n'))
  | _, ['/', '*'] => ['/', '*']
  | fuel + 1, '/' :: '*' :: cs => skipSpace fuel (afterComment cs)
  | fuel + 1, c :: cs => if isSpace c || c.toNat == 0xFEFF then skipSpace fuel cs else c :: cs

/-- What stands before the closing `quote`, a doubled one counting as one character, and the rest. -/
def untilQuote (quote : Char) : List Char → Option (List Char × List Char)
  | [] => none
  | c :: cs =>
    if c ≠ quote then (untilQuote quote cs).map fun (body, rest) => (c :: body, rest)
    else match cs with
      | [] => some ([], [])
      | d :: ds =>
        if d = quote then (untilQuote quote ds).map fun (body, rest) => (quote :: body, rest)
        else some ([], d :: ds)

/-- A quoted token made by `make`, if its quote is closed. -/
def quotedToken (quote : Char) (make : String → Token) (cs : List Char) : Token × List Char :=
  match untilQuote quote cs with
  | some (body, rest) => (make (String.ofList body), rest)
  | none => (.illegal, [])

/-- The digits of a hexadecimal number. -/
def isHexDigit (c : Char) : Bool := c.isDigit || ('a' ≤ c && c ≤ 'f') || ('A' ≤ c && c ≤ 'F')

/-- The value of hexadecimal digits. -/
def hexDigitsValue (cs : List Char) : Nat :=
  cs.foldl (fun n c =>
    16 * n + (if c.isDigit then c.toNat - 0x30 else (c.toNat ||| 0x20) - 0x57)) 0

/-- The bytes of pairs of hexadecimal digits, if they are pairs. -/
def bytesOfHex? : List Char → Option (List UInt8)
  | [] => some []
  | a :: b :: cs =>
    if isHexDigit a && isHexDigit b then
      (bytesOfHex? cs).map (UInt8.ofNat (hexDigitsValue [a, b]) :: ·)
    else none
  | _ => none

/-- The exponent at the front of a text: its mark, its sign and its digits, if there is a digit. -/
def takeExponent (cs : List Char) : List Char × List Char :=
  match cs with
  | e :: s :: ds =>
    if e ≠ 'e' ∧ e ≠ 'E' then ([], cs)
    else if s.isDigit then
      (e :: (s :: ds).takeWhile Char.isDigit, (s :: ds).dropWhile Char.isDigit)
    else if (s = '+' ∨ s = '-') ∧ ds.head?.any Char.isDigit then
      (e :: s :: ds.takeWhile Char.isDigit, ds.dropWhile Char.isDigit)
    else ([], cs)
  | _ => ([], cs)

/-- A constant, unless a character of a name follows it directly. -/
def constantBefore (v : Option Value) (rest : List Char) : Token × List Char :=
  let stray := rest.takeWhile isNameChar
  match v, stray with
  | some v, [] => (.constant v, rest)
  | _, _ => (.illegal, rest.drop stray.length)

/-- The number at the front of a text that starts with a digit, or with a point before one. -/
def numberToken (cs : List Char) : Token × List Char :=
  match cs with
  | '0' :: x :: h :: rest =>
    if (x = 'x' ∨ x = 'X') ∧ isHexDigit h then
      let digits := (h :: rest).takeWhile isHexDigit
      let n := hexDigitsValue digits
      let value := if n < Nat.pow 2 63 then some (Value.integer n)
        else if n < Nat.pow 2 64 then some (.integer ((n : Int) - Nat.pow 2 64)) else none
      constantBefore value ((h :: rest).dropWhile isHexDigit)
    else decimalToken cs
  | cs => decimalToken cs
where
  /-- The decimal number at the front. -/
  decimalToken (cs : List Char) : Token × List Char :=
    let whole := cs.takeWhile Char.isDigit
    let (fraction, rest) := match cs.dropWhile Char.isDigit with
      | '.' :: ds => ('.' :: ds.takeWhile Char.isDigit, ds.dropWhile Char.isDigit)
      | ds => ([], ds)
    let (exponent, rest) := takeExponent rest
    constantBefore (unsignedNumber? false (whole ++ fraction ++ exponent)) rest

/-- The marks and operators of two characters. -/
def longSymbols : List (List Char) :=
  ["||", "<<", ">>", "<=", ">=", "<>", "!=", "==", "->"].map String.toList

/-- The mark or operator at the front of a text. -/
def symbolToken (c : Char) (cs : List Char) : Token × List Char :=
  if longSymbols.contains (c :: cs.take 1) then (.symbol (String.ofList (c :: cs.take 1)), cs.drop 1)
  else if "+-*/%=<>&|~(),;.".toList.contains c then (.symbol (String.ofList [c]), cs)
  else (.illegal, cs)

/-- The variable after its mark `c`. -/
def variableToken (c : Char) (cs : List Char) : Token × List Char :=
  if c = '?' then (.variable, cs.dropWhile Char.isDigit)
  else if cs.head?.any isNameChar then (.variable, cs.dropWhile isNameChar)
  else (.illegal, cs)

/-- The token that starts with the character `c`, which is no space. -/
def tokenAt (c : Char) (cs : List Char) : Token × List Char :=
  if c = '\x27' then quotedToken '\x27' (fun s => .constant (.text s)) cs
  else if c = '"' then quotedToken '"' .quoted cs
  else if c = '\x60' then quotedToken '\x60' .bracketed cs
  else if c = '[' then
    let body := cs.takeWhile (· != ']')
    if body.length < cs.length then
      (.bracketed (String.ofList body), cs.drop (body.length + 1))
    else (.illegal, [])
  else if c.isDigit || (c == '.' && cs.head?.any Char.isDigit) then numberToken (c :: cs)
  else if c = '?' ∨ c = ':' ∨ c = '@' ∨ c = '$' ∨ c = '#' then variableToken c cs
  else if (c = 'x' ∨ c = 'X') ∧ cs.head? = some '\x27' then
    let digits := (cs.drop 1).takeWhile isHexDigit
    match cs.drop (1 + digits.length), bytesOfHex? digits with
    | '\x27' :: rest, some bytes => (.constant (.blob bytes), rest)
    | rest, _ => (.illegal, rest)
  else if startsName c then
    (.word (String.ofList (c :: cs.takeWhile isNameChar)), cs.dropWhile isNameChar)
  else symbolToken c cs

/-- The first token of a text and what follows it; none if only spaces and comments are left. -/
def Token.next? (cs : List Char) : Option (Token × List Char) :=
  match skipSpace (cs.length + 1) cs with
  | [] => none
  | c :: rest => some (tokenAt c rest)

/-- The tokens up to the first semicolon after one of them, and what follows that semicolon. -/
def statementTokens (fuel : Nat) (cs : List Char) : List Token × List Char :=
  match fuel with
  | 0 => ([], [])
  | fuel + 1 =>
    match Token.next? cs with
    | none => ([], [])
    | some (.symbol ";", rest) => ([], rest)
    | some (t, rest) =>
      let (ts, tail) := statementTokens fuel rest
      (t :: ts, tail)

/-- The tokens of the first statement that is not empty, and what follows it. -/
def firstStatement (fuel : Nat) (cs : List Char) : List Token × List Char :=
  match fuel with
  | 0 => ([], [])
  | fuel + 1 =>
    match Token.next? cs with
    | none => ([], [])
    | some (.symbol ";", rest) => firstStatement fuel rest
    | some _ => statementTokens (cs.length + 1) cs

/-- What stands behind the last token of a statement; nothing if a semicolon ends it. -/
def behindTokens (fuel : Nat) (cs : List Char) : List Char :=
  match fuel with
  | 0 => []
  | fuel + 1 =>
    match Token.next? cs with
    | none => cs
    | some (.symbol ";", _) => []
    | some (_, rest) => behindTokens fuel rest

/-- A text of spaces and comments ends inside a comment once the spaces at its end are cut off. -/
def endsInComment (fuel : Nat) (cs : List Char) : Bool :=
  match fuel, cs with
  | 0, _ => false
  | _, [] => false
  | fuel + 1, '-' :: '-' :: cs =>
    (cs.dropWhile (· != '\n')).all isSpace || endsInComment fuel (cs.dropWhile (· != '\n'))
  | fuel + 1, '/' :: '*' :: cs =>
    !occursIn ['*', '/'] cs || endsInComment fuel (afterComment cs)
  | fuel + 1, _ :: cs => endsInComment fuel cs

/-- What is left of a text after spaces and closed comments; an open comment hides all after it. -/
def afterSpaces (fuel : Nat) (cs : List Char) : List Char :=
  match fuel, cs with
  | 0, cs => cs
  | _, [] => []
  | fuel + 1, '-' :: '-' :: cs => afterSpaces fuel (cs.dropWhile (· != '\n'))
  | fuel + 1, '/' :: '*' :: cs => afterSpaces fuel (afterComment cs)
  | fuel + 1, c :: cs => if isSpace c then afterSpaces fuel cs else c :: cs

/-- Something other than spaces and comments is left in a text. -/
def hasMore (cs : List Char) : Bool := !(afterSpaces (cs.length + 1) cs).isEmpty

end SchemaMigration.Sql
