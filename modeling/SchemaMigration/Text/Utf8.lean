import SchemaMigration.Text.Lines
import SchemaMigration.Text.Quoted

/-!
# SchemaMigration.Text.Utf8 — reading bytes as text

Bytes are cut into pieces: a piece is a character, or the longest run of bytes that begins a
character and cannot be continued.

* `decode` gives the text, or the first piece that is no character and its position.
* `decodeLoosely` writes the replacement character for each such piece.
* `fileText` is the text of a file: decoded, with its line breaks unified.
-/

namespace SchemaMigration.Text

/-! ## Definitions -/

/-- Why bytes are no character. -/
inductive Utf8Fault where
  | badStart
  | badContinuation
  | truncated
  deriving DecidableEq, Repr

/-- One piece of a byte string: a character, or `size` bytes from `first` on that are none. -/
inductive Utf8Piece where
  | char (c : Char)
  | bad (first : UInt8) (size : Nat) (fault : Utf8Fault)
  deriving DecidableEq, Repr

/-- A byte that continues a character. -/
def isContinuation (b : UInt8) : Bool := 0x80 ≤ b && b < 0xC0

/-- `b` may stand second after the leading byte `a`: no overlong form, no surrogate and nothing
beyond the last code point. -/
def fitsSecond (a b : UInt8) : Bool :=
  isContinuation b && !(a == 0xE0 && b < 0xA0) && !(a == 0xED && 0xA0 ≤ b) &&
    !(a == 0xF0 && b < 0x90) && !(a == 0xF4 && 0x90 ≤ b)

/-- The character of a leading byte's payload and the continuation bytes after it. -/
def charOfBytes (lead : Nat) (rest : List UInt8) : Char :=
  Char.ofNat (rest.foldl (fun n b => n * 64 + (b.toNat - 0x80)) lead)

/-- The pieces of a byte string. -/
def utf8Pieces : List UInt8 → List Utf8Piece
  | [] => []
  | a :: s =>
    if a < 0x80 then .char (Char.ofNat a.toNat) :: utf8Pieces s
    else if a < 0xC2 || 0xF5 ≤ a then .bad a 1 .badStart :: utf8Pieces s
    else match s with
      | [] => [.bad a 1 .truncated]
      | b :: t =>
        if !fitsSecond a b then .bad a 1 .badContinuation :: utf8Pieces (b :: t)
        else if a < 0xE0 then .char (charOfBytes (a.toNat - 0xC0) [b]) :: utf8Pieces t
        else match t with
          | [] => [.bad a 2 .truncated]
          | c :: u =>
            if !isContinuation c then .bad a 2 .badContinuation :: utf8Pieces (c :: u)
            else if a < 0xF0 then .char (charOfBytes (a.toNat - 0xE0) [b, c]) :: utf8Pieces u
            else match u with
              | [] => [.bad a 3 .truncated]
              | d :: v =>
                if !isContinuation d then .bad a 3 .badContinuation :: utf8Pieces (d :: v)
                else .char (charOfBytes (a.toNat - 0xF0) [b, c, d]) :: utf8Pieces v

/-- Bytes that are no text: `size` bytes from `position` on, the first of which is `first`. -/
structure Undecodable where
  position : Nat
  first : UInt8
  size : Nat
  fault : Utf8Fault
  deriving DecidableEq, Repr

/-- The text of the pieces, the first of which starts at `position`. -/
def textOfPieces (position : Nat) : List Utf8Piece → Except Undecodable (List Char)
  | [] => .ok []
  | .char c :: ps => (textOfPieces (position + c.utf8Size) ps).map (c :: ·)
  | .bad first size fault :: _ => .error ⟨position, first, size, fault⟩

/-- The text of a byte string. -/
def decode (bytes : List UInt8) : Except Undecodable (List Char) := textOfPieces 0 (utf8Pieces bytes)

/-- The text of a byte string, with the replacement character for each piece that is none. -/
def decodeLoosely (bytes : List UInt8) : List Char :=
  (utf8Pieces bytes).map fun
    | .char c => c
    | .bad .. => Char.ofNat 0xFFFD

/-- The bytes of a text. -/
def encode (cs : List Char) : List UInt8 := cs.flatMap String.utf8EncodeChar

/-- The text of a file with these bytes. -/
def fileText (bytes : List UInt8) : Except Undecodable (List Char) := (decode bytes).map unifyBreaks

/-- How a fault is named. -/
def Utf8Fault.name : Utf8Fault → String
  | .badStart => "invalid start byte"
  | .badContinuation => "invalid continuation byte"
  | .truncated => "unexpected end of data"

/-- What is reported of undecodable bytes. -/
def Undecodable.message (u : Undecodable) : String :=
  let place :=
    if u.size = 1 then
      "byte 0x" ++ String.ofList (hexDigits 2 u.first.toNat) ++ " in position " ++ toString u.position
    else
      "bytes in position " ++ toString u.position ++ "-" ++ toString (u.position + u.size - 1)
  "'utf-8' codec can't decode " ++ place ++ ": " ++ u.fault.name

/-! ## Small facts -/

theorem textOfPieces_map_char (position : Nat) (cs : List Char) :
    textOfPieces position (cs.map .char) = .ok cs := by
  induction cs generalizing position with
  | nil => rfl
  | cons c cs ih => simp [textOfPieces, ih, Except.map]

end SchemaMigration.Text
