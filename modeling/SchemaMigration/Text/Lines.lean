import SchemaMigration.Text.Blank

/-!
# SchemaMigration.Text.Lines — the lines of a text

* `lines` cuts a text at its line breaks; a carriage return with a line feed after it is one break,
  and a break at the very end opens no further line.
* `unifyBreaks` turns the two carriage-return forms of a break into a line feed, as reading a file does.
* `lines_cons_of_not_break` : a character that breaks no line joins the line after it.
-/

namespace SchemaMigration.Text

/-! ## Definitions -/

/-- The characters that end a line. -/
def isLineBreak (c : Char) : Bool :=
  let n := c.toNat
  (0x0A ≤ n && n ≤ 0x0D) || (0x1C ≤ n && n ≤ 0x1E) || n == 0x85 || n == 0x2028 || n == 0x2029

/-- The lines of a text, without their breaks. -/
def lines : List Char → List (List Char)
  | [] => []
  | '\r' :: '\n' :: cs => [] :: lines cs
  | c :: cs =>
    if isLineBreak c then [] :: lines cs
    else match lines cs with
      | [] => [[c]]
      | l :: ls => (c :: l) :: ls

/-- The text with each carriage return, alone or before a line feed, written as one line feed. -/
def unifyBreaks : List Char → List Char
  | [] => []
  | '\r' :: '\n' :: cs => '\n' :: unifyBreaks cs
  | c :: cs => (if c = '\r' then '\n' else c) :: unifyBreaks cs

/-! ## Small facts -/

@[simp] theorem lines_nil : lines [] = [] := rfl

theorem lines_cons_of_not_break {c : Char} (h : isLineBreak c = false) (cs : List Char) :
    lines (c :: cs) = match lines cs with
      | [] => [[c]]
      | l :: ls => (c :: l) :: ls := by
  have hc : c ≠ '\r' := by rintro rfl; simp [isLineBreak] at h
  rw [lines.eq_def]
  split
  · simp_all
  · simp_all
  · next d ds _ heq =>
    cases heq
    simp [h]

end SchemaMigration.Text
