import SchemaMigration.ScriptRun
import SchemaMigration.Proofs.Script.Segments
import SchemaMigration.Proofs.Text.Utf8

/-!
# SchemaMigration.Proofs.Script.Substance — what the statements of a script depend on

A script is read line by line, and of a line only its right-trimmed form counts.  Blank lines and comments do not count
at all.  What is left is the substance of the script, and the form of a line break does not show in it.

* `substance` : the lines that count, without blanks at their ends.
* `step_trimRight`, `step_of_isSkipped` : what a line does depends on its right-trimmed form; a skipped line does
  nothing.
* `foldl_substance` : reading the substance is reading the script.
* `substance_append_cons` : a line break cuts the substance in two, in whatever form and wherever it stands.
* `statements_of_substance` : the changes to a script that its statements do not show.
-/

namespace SchemaMigration.Script

open Text (IsBreak IsUnbroken isBlank isLineBreak splitBy trim trimRight)

variable {a b cs l ws : List Char} {ls ms : List (List Char)} {c : Char}

/-! ## Definitions -/

/-- The lines that count, without blanks at their ends. -/
def countingLines (ls : List (List Char)) : List (List Char) :=
  (ls.map trimRight).filter fun line => !isSkipped (trim line)

/-- The substance of a script: its lines that count. -/
def substance (cs : List Char) : List (List Char) := countingLines (Text.lines cs)

/-- A line begins behind the text. -/
def LineBeginsBehind (a : List Char) : Prop := ∀ c ∈ a.getLast?, isLineBreak c = true

/-- A line ends in front of the text. -/
def LineEndsBefore (b : List Char) : Prop := ∀ c ∈ b.head?, isLineBreak c = true

/-! ## Reading the lines that count -/

theorem lineKind_trimRight (t l : List Char) : lineKind t (trimRight l) = lineKind t l := by
  unfold lineKind
  rw [Text.trim_trimRight, Text.trimRight_idem]

theorem step_trimRight (p : Progress) (l : List Char) : step p (trimRight l) = step p l := by
  rw [step, step, lineKind_trimRight]

theorem step_of_isSkipped (h : isSkipped (trim l) = true) (p : Progress) : step p l = p := by
  simp [step, lineKind, h]

theorem foldl_countingLines (ls : List (List Char)) (p : Progress) :
    (countingLines ls).foldl step p = ls.foldl step p := by
  induction ls generalizing p with
  | nil => rfl
  | cons l ls ih =>
    unfold countingLines at ih ⊢
    rw [List.map_cons, List.filter_cons, List.foldl_cons, Text.trim_trimRight]
    by_cases hl : isSkipped (trim l) = true
    · rw [hl, step_of_isSkipped hl]
      exact ih p
    · rw [Bool.not_eq_true] at hl
      rw [hl, Bool.not_false, if_pos rfl, List.foldl_cons, step_trimRight]
      exact ih _

theorem foldl_substance (cs : List Char) (p : Progress) :
    (substance cs).foldl step p = (Text.lines cs).foldl step p := foldl_countingLines _ p

theorem statements_congr (h : substance a = substance b) : statements a = statements b := by
  rw [statements_eq_finish, statements_eq_finish, ← foldl_substance, ← foldl_substance, h]

/-! ## The substance of a text -/

theorem countingLines_append (ls ms : List (List Char)) :
    countingLines (ls ++ ms) = countingLines ls ++ countingLines ms := by
  simp [countingLines]

theorem countingLines_of_isSkipped (h : isSkipped (trim l) = true) : countingLines [l] = [] := by
  simp [countingLines, h]

/-- An empty line does not count. -/
theorem countingLines_filter (ls : List (List Char)) : countingLines (ls.filter (!·.isEmpty)) = countingLines ls := by
  induction ls with
  | nil => rfl
  | cons l ls ih =>
    have hsplit : ∀ ms, countingLines (l :: ms) = countingLines [l] ++ countingLines ms := countingLines_append [l]
    cases l with
    | nil =>
      rw [hsplit, countingLines_of_isSkipped rfl]
      exact ih
    | cons c cs => rw [List.filter_cons_of_pos rfl, hsplit, hsplit ls, ih]

theorem substance_eq (cs : List Char) : substance cs = countingLines (splitBy isLineBreak cs) := by
  rw [substance, ← countingLines_filter, Text.filter_lines, countingLines_filter]

theorem substance_append_cons (hc : isLineBreak c = true) (a b : List Char) :
    substance (a ++ c :: b) = substance a ++ substance b := by
  rw [substance_eq, Text.splitBy_append_cons hc, countingLines_append, ← substance_eq, ← substance_eq]

theorem substance_nil : substance [] = [] := rfl

theorem substance_of_isSkipped (hl : IsUnbroken l) (h : isSkipped (trim l) = true) : substance l = [] := by
  rw [substance_eq, Text.splitBy_of_not_mem hl, countingLines_of_isSkipped h]

theorem substance_append_break {br : List Char} (h : IsBreak br) (a b : List Char) :
    substance (a ++ br ++ b) = substance a ++ substance b := by
  rcases h with rfl | ⟨c, hc, rfl⟩
  · rw [List.append_assoc, List.cons_append, substance_append_cons rfl, List.cons_append,
      ← List.nil_append ('\n' :: _), substance_append_cons rfl, substance_nil, List.nil_append, List.nil_append]
  · rw [List.append_assoc, List.singleton_append, substance_append_cons hc]

/-- Behind a line break, or at the beginning, a text adds its own substance. -/
theorem substance_append_of_lineBeginsBehind (h : LineBeginsBehind a) (b : List Char) :
    substance (a ++ b) = substance a ++ substance b := by
  rcases List.eq_nil_or_concat a with rfl | ⟨a, c, rfl⟩
  · rfl
  · have hc : isLineBreak c = true := h c (by simp)
    have hend : substance (a ++ [c]) = substance a := by
      rw [substance_append_cons hc, substance_nil, List.append_nil]
    rw [List.concat_eq_append, hend, List.append_assoc, List.singleton_append, substance_append_cons hc]

/-- In front of a line break, or at the end, a text adds its own substance. -/
theorem substance_append_of_lineEndsBefore (h : LineEndsBefore b) (a : List Char) :
    substance (a ++ b) = substance a ++ substance b := by
  cases b with
  | nil => rw [List.append_nil, substance_nil, List.append_nil]
  | cons c b =>
    have hc : isLineBreak c = true := h c rfl
    rw [substance_append_cons hc, ← List.nil_append (c :: b), substance_append_cons hc, substance_nil, List.nil_append]

theorem countingLines_trimRight_eq {k m : List Char} (h : trimRight k = trimRight m) (ls : List (List Char)) :
    countingLines (ls ++ [k]) = countingLines (ls ++ [m]) := by
  simp [countingLines, h]

/-- Blanks at the end of a line do not count, nor do line breaks among them. -/
theorem substance_append_blank (h : ∀ c ∈ ws, isBlank c = true) (a : List Char) :
    substance (a ++ ws) = substance a := by
  induction ws using List.reverseRecOn with
  | nil => rw [List.append_nil]
  | append_singleton ws c ih =>
    have hws : ∀ d ∈ ws, isBlank d = true := fun d hd => h d (List.mem_append_left _ hd)
    have hc : isBlank c = true := h c (List.mem_append_right _ List.mem_cons_self)
    rw [← ih hws, ← List.append_assoc]
    by_cases hb : isLineBreak c = true
    · rw [substance_append_cons hb, substance_nil, List.append_nil]
    · rw [Bool.not_eq_true] at hb
      obtain ⟨vs, v, hsplit, hconcat⟩ := Text.splitBy_concat hb (a ++ ws)
      have hv : trimRight (v ++ [c]) = trimRight v :=
        Text.trimRight_append_blank fun d hd => by rwa [List.mem_singleton.1 hd]
      rw [substance_eq, substance_eq, hsplit, hconcat, countingLines_trimRight_eq hv]

/-! ## Files -/

theorem statements_unifyBreaks (cs : List Char) : statements (Text.unifyBreaks cs) = statements cs := by
  rw [statements_eq_finish, Text.lines_unifyBreaks, statements_eq_finish]

/-- A file with the bytes of a text holds the statements of the text. -/
theorem ofBytes_encode (path : String) (cs : List Char) :
    ScriptRun.Loaded.ofBytes path (Text.encode cs) = .ok ⟨path, (statements cs).map String.ofList⟩ := by
  have hdecode : Text.decode (Text.encode cs) = .ok cs := Text.decode_eq_ok_iff.2 rfl
  simp only [ScriptRun.Loaded.ofBytes, Text.fileText, hdecode, Except.map, statements_unifyBreaks]

/-! ## What the statements do not show -/

theorem substance_rows (rows : List (List Char × List Char × List Char)) (last : List Char)
    (h : ∀ row ∈ rows, IsBreak row.2.1 ∧ IsBreak row.2.2) :
    substance (rows.flatMap (fun row => row.1 ++ row.2.1) ++ last) =
      substance (rows.flatMap (fun row => row.1 ++ row.2.2) ++ last) := by
  induction rows with
  | nil => rfl
  | cons row rows ih =>
    obtain ⟨hone, hother⟩ := h row List.mem_cons_self
    have hrest := ih fun r hr => h r (List.mem_cons_of_mem _ hr)
    rw [List.flatMap_cons, List.flatMap_cons, List.append_assoc (row.1 ++ row.2.1), substance_append_break hone, hrest,
      List.append_assoc (row.1 ++ row.2.2), substance_append_break hother]

/-- Two scripts with the same substance have the same statements.  So the statements show neither the form of a line
break, nor a blank line or a comment wherever it stands, nor blanks at the end of a line; and a file holds the
statements of the text that it encodes. -/
theorem statements_of_substance :
    (∀ a b, substance a = substance b → statements a = statements b) ∧
    (∀ (rows : List (List Char × List Char × List Char)) (last : List Char),
      (∀ row ∈ rows, IsBreak row.2.1 ∧ IsBreak row.2.2) →
        statements (rows.flatMap (fun row => row.1 ++ row.2.1) ++ last) =
          statements (rows.flatMap (fun row => row.1 ++ row.2.2) ++ last)) ∧
    (∀ a line br b, IsUnbroken line → isSkipped (trim line) = true → IsBreak br →
      (LineBeginsBehind a → statements (a ++ line ++ br ++ b) = statements (a ++ b)) ∧
        (LineEndsBefore b → statements (a ++ br ++ line ++ b) = statements (a ++ b))) ∧
    (∀ a ws b, (∀ c ∈ ws, isBlank c = true) → LineEndsBefore b → statements (a ++ ws ++ b) = statements (a ++ b)) ∧
    ∀ path cs, ScriptRun.Loaded.ofBytes path (Text.encode cs) = .ok ⟨path, (statements cs).map String.ofList⟩ := by
  refine ⟨fun a b => statements_congr, fun rows last h => statements_congr (substance_rows rows last h), ?_, ?_,
    ofBytes_encode⟩
  · intro a line br b hline hskipped hbr
    have hnone : substance line = [] := substance_of_isSkipped hline hskipped
    refine ⟨fun ha => statements_congr ?_, fun hb => statements_congr ?_⟩
    · rw [substance_append_break hbr, substance_append_of_lineBeginsBehind ha, hnone, List.append_nil,
        substance_append_of_lineBeginsBehind ha]
    · rw [substance_append_of_lineEndsBefore hb, substance_append_break hbr, hnone, List.append_nil,
        substance_append_of_lineEndsBefore hb]
  · intro a ws b hws hb
    apply statements_congr
    rw [substance_append_of_lineEndsBefore hb, substance_append_blank hws, substance_append_of_lineEndsBefore hb]

/-- A procedure keeps its statements when its line feeds become carriage returns and other separators, a comment and a
blank line come in between its lines, and blanks behind its terminator. -/
theorem statements_of_substance_procedure :
    substance "delimiter $\nBEGIN\n  END;\n$".toList =
        substance "delimiter $\r\n\rBEGIN  \x0b\t-- why\u2028  END;\x85$ \x1f\n".toList ∧
      statements "delimiter $\nBEGIN\n  END;\n$".toList =
        statements "delimiter $\r\n\rBEGIN  \x0b\t-- why\u2028  END;\x85$ \x1f\n".toList ∧
      statements "delimiter $\nBEGIN\n  END;\n$".toList = statements "delimiter $\rBEGIN\u2029  END;\n$".toList ∧
      statements "A\n-- why\nB".toList = statements "A\nB".toList ∧
      statements "A \t\nB".toList = statements "A\nB".toList := by
  have h := statements_of_substance
  have hsame : substance "delimiter $\nBEGIN\n  END;\n$".toList =
      substance "delimiter $\r\n\rBEGIN  \x0b\t-- why\u2028  END;\x85$ \x1f\n".toList := by decide +kernel
  refine ⟨hsame, h.1 _ _ hsame, ?_, ?_, ?_⟩
  · refine h.2.1 [("delimiter $".toList, ['\n'], ['\r']), ("BEGIN".toList, ['\n'], ['\u2029'])] "  END;\n$".toList ?_
    intro row hrow
    rcases List.mem_pair.1 hrow with rfl | rfl <;> exact ⟨.inr ⟨_, rfl, rfl⟩, .inr ⟨_, rfl, rfl⟩⟩
  · refine (h.2.2.1 "A\n".toList "-- why".toList ['\n'] ['B'] (by decide +kernel) (by decide +kernel)
      (.inr ⟨_, rfl, rfl⟩)).1 ?_
    rintro c ⟨⟩
    rfl
  · refine h.2.2.2.1 ['A'] [' ', '\t'] ['\n', 'B'] (fun c hc => ?_) ?_
    · rcases List.mem_pair.1 hc with rfl | rfl <;> rfl
    · rintro c ⟨⟩
      rfl

end SchemaMigration.Script
