/-!
# SchemaMigration.Text.Blank — blank characters, trimming and cutting

* `isBlank` : the characters that trimming removes and that stand between words.
* `trim` cuts them off at both ends, `trimRight` at the right end only.
* `splitBy p` cuts a text at every character in `p`; `words` are the non-empty pieces between blanks.
* `splitBy_ne_nil` : a text always has at least one piece.
* `trimLeft_eq_nil_iff` : trimming leaves nothing exactly when all characters are blank.
-/

namespace SchemaMigration.Text

/-! ## Definitions -/

/-- The characters that count as blank: the control characters `09`–`0D` and `1C`–`1F`, the space,
`85`, `A0` and the spaces and separators of the general punctuation. -/
def isBlank (c : Char) : Bool :=
  let n := c.toNat
  (0x09 ≤ n && n ≤ 0x0D) || (0x1C ≤ n && n ≤ 0x20) || n == 0x85 || n == 0xA0 || n == 0x1680 ||
    (0x2000 ≤ n && n ≤ 0x200A) || n == 0x2028 || n == 0x2029 || n == 0x202F || n == 0x205F ||
    n == 0x3000

/-- `cs` without its leading blanks. -/
def trimLeft (cs : List Char) : List Char := cs.dropWhile isBlank

/-- `cs` without the longest run of characters in `p` at its end. -/
def dropRightWhile (p : Char → Bool) (cs : List Char) : List Char :=
  (cs.reverse.dropWhile p).reverse

/-- `cs` without its trailing blanks. -/
def trimRight (cs : List Char) : List Char := dropRightWhile isBlank cs

/-- `cs` without blanks at either end. -/
def trim (cs : List Char) : List Char := trimRight (trimLeft cs)

/-- A string without blanks at either end. -/
def trimmed (s : String) : String := String.ofList (trim s.toList)

/-- The pieces of a text between the characters in `p`, empty pieces included. -/
def splitBy (p : Char → Bool) : List Char → List (List Char)
  | [] => [[]]
  | c :: cs =>
    if p c then [] :: splitBy p cs
    else match splitBy p cs with
      | [] => [[c]]
      | w :: ws => (c :: w) :: ws

/-- The words of a text: its longest runs of characters that are not blank. -/
def words (cs : List Char) : List (List Char) := (splitBy isBlank cs).filter (!·.isEmpty)

/-- The pieces joined with `sep` between each two. -/
def joinWith (sep : List Char) : List (List Char) → List Char
  | [] => []
  | [w] => w
  | w :: ws => w ++ sep ++ joinWith sep ws

/-! ## Small facts -/

theorem splitBy_ne_nil (p : Char → Bool) (cs : List Char) : splitBy p cs ≠ [] := by
  cases cs with
  | nil => simp [splitBy]
  | cons c cs =>
    unfold splitBy
    split
    · simp
    · split <;> simp

theorem trimLeft_eq_nil_iff {cs : List Char} : trimLeft cs = [] ↔ ∀ c ∈ cs, isBlank c = true := by
  induction cs with
  | nil => simp [trimLeft]
  | cons c cs ih =>
    by_cases h : isBlank c
    · simp only [trimLeft, List.dropWhile_cons, h, if_true, List.mem_cons, forall_eq_or_imp, true_and]
      exact ih
    · simp [trimLeft, h]

end SchemaMigration.Text
