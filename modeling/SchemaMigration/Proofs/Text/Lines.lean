import SchemaMigration.Text.Lines
import SchemaMigration.Proofs.Text.Pieces

/-!
# SchemaMigration.Proofs.Text.Lines — the lines of a text, and texts made of lines

* `isUnbroken_of_mem_lines` : no line holds a line break.
* `lines_append_newline` : a line feed ends a line.
* `lines_joinWith`, `lines_joinWith_append` : lines that are joined with line feeds are found again.
* `lines_unifyBreaks` : unifying the line breaks of a text keeps its lines.
* `filter_lines` : but for empty lines, the lines are the pieces between line breaks, whatever forms these have.
-/

namespace SchemaMigration.Text

variable {c : Char} {l cs : List Char} {ls ws : List (List Char)}

/-! ## Definitions -/

/-- The text holds no line break. -/
def IsUnbroken (cs : List Char) : Prop := ∀ c ∈ cs, isLineBreak c = false

instance (cs : List Char) : Decidable (IsUnbroken cs) := List.decidableBAll (isLineBreak · = false) cs

/-- The text is one line break: a character that ends a line, or a carriage return and a line feed. -/
def IsBreak (cs : List Char) : Prop := cs = ['\r', '\n'] ∨ ∃ c, isLineBreak c = true ∧ cs = [c]

/-- The first texts are the same, or there is none and an empty one; the others are the same but for empty ones. -/
def StartAlike (ls ws : List (List Char)) : Prop :=
  (ls = [] ∧ ws = [[]]) ∨ ∃ l ls' ws', ls = l :: ls' ∧ ws = l :: ws' ∧
    ls'.filter (!·.isEmpty) = ws'.filter (!·.isEmpty)

/-! ## Lines are unbroken -/

theorem isUnbroken_nil : IsUnbroken [] := fun _ hc => nomatch hc

theorem isUnbroken_cons : IsUnbroken (c :: cs) ↔ isLineBreak c = false ∧ IsUnbroken cs := List.forall_mem_cons

theorem IsUnbroken.append (hcs : IsUnbroken cs) (hl : IsUnbroken l) : IsUnbroken (cs ++ l) :=
  List.forall_mem_append.2 ⟨hcs, hl⟩

/-- A part of an unbroken text is unbroken. -/
theorem IsUnbroken.of_subset (h : IsUnbroken cs) (hl : l ⊆ cs) : IsUnbroken l := fun c hc => h c (hl hc)

theorem isUnbroken_of_mem_lines (h : l ∈ lines cs) : IsUnbroken l := by
  fun_induction lines cs generalizing l with
  | case1 => cases h
  | case2 cs ih =>
    rcases List.mem_cons.1 h with rfl | h
    · exact isUnbroken_nil
    · exact ih h
  | case3 c cs _ _ ih =>
    rcases List.mem_cons.1 h with rfl | h
    · exact isUnbroken_nil
    · exact ih h
  | case4 c cs _ hc heq ih =>
    rw [List.mem_singleton.1 h]
    exact isUnbroken_cons.2 ⟨by simpa using hc, isUnbroken_nil⟩
  | case5 c cs _ hc m ms heq ih =>
    rw [heq] at ih
    rcases List.mem_cons.1 h with rfl | h
    · exact isUnbroken_cons.2 ⟨by simpa using hc, ih List.mem_cons_self⟩
    · exact ih (List.mem_cons_of_mem _ h)

/-! ## Lines that are joined -/

theorem lines_newline (cs : List Char) : lines ('\n' :: cs) = [] :: lines cs := by
  rw [lines.eq_def]
  rfl

theorem lines_append_newline (h : IsUnbroken l) (cs : List Char) : lines (l ++ '\n' :: cs) = l :: lines cs := by
  induction l with
  | nil => exact lines_newline cs
  | cons c l ih =>
    obtain ⟨hc, hl⟩ := isUnbroken_cons.1 h
    rw [List.cons_append, lines_cons_of_not_break hc, ih hl]

theorem lines_of_isUnbroken (h : IsUnbroken l) (hne : l ≠ []) : lines l = [l] := by
  induction l with
  | nil => exact absurd rfl hne
  | cons c l ih =>
    obtain ⟨hc, hl⟩ := isUnbroken_cons.1 h
    rw [lines_cons_of_not_break hc]
    by_cases hnil : l = []
    · rw [hnil, lines_nil]
    · rw [ih hl hnil]

/-- Lines that are not empty are the lines of the text that joins them. -/
theorem lines_joinWith (h : ∀ l ∈ ls, IsUnbroken l ∧ l ≠ []) : lines (joinWith ['\n'] ls) = ls := by
  induction ls with
  | nil => rfl
  | cons l ls ih =>
    obtain ⟨hl, hne⟩ := h l List.mem_cons_self
    cases ls with
    | nil => exact lines_of_isUnbroken hl hne
    | cons m ms =>
      have hrest := ih fun k hk => h k (List.mem_cons_of_mem _ hk)
      rw [joinWith, List.append_assoc, List.cons_append, List.nil_append, lines_append_newline hl, hrest]
      simp

theorem lines_joinWith_append (hne : ls ≠ []) (h : ∀ l ∈ ls, IsUnbroken l) (cs : List Char) :
    lines (joinWith ['\n'] ls ++ '\n' :: cs) = ls ++ lines cs := by
  induction ls with
  | nil => exact absurd rfl hne
  | cons l ls ih =>
    have hl : IsUnbroken l := h l List.mem_cons_self
    cases ls with
    | nil => exact lines_append_newline hl cs
    | cons m ms =>
      have hrest := ih (List.cons_ne_nil m ms) fun k hk => h k (List.mem_cons_of_mem _ hk)
      rw [joinWith, List.append_assoc, List.append_assoc, List.singleton_append, lines_append_newline hl, hrest]
      · rfl
      · simp

/-- A text that is joined with line feeds has no other line break. -/
theorem eq_newline_of_mem_joinWith (h : ∀ l ∈ ls, IsUnbroken l) (hc : c ∈ joinWith ['\n'] ls)
    (hb : isLineBreak c = true) : c = '\n' := by
  rcases mem_joinWith hc with hnewline | ⟨l, hl, hcl⟩
  · exact List.mem_singleton.1 hnewline
  · rw [h l hl c hcl] at hb
    cases hb

/-! ## Line breaks -/

theorem isBlank_of_isLineBreak (h : isLineBreak c = true) : isBlank c = true := by
  simp only [isLineBreak, isBlank, Bool.or_eq_true, Bool.and_eq_true, decide_eq_true_eq, beq_iff_eq] at h ⊢
  omega

/-- A word is in one line. -/
theorem IsWord.isUnbroken (h : IsWord l) : IsUnbroken l := by
  intro c hc
  rw [← Bool.not_eq_true]
  intro hbreak
  have hblank := isBlank_of_isLineBreak hbreak
  rw [h.2 c hc] at hblank
  cases hblank

theorem lines_cons_of_break (h : isLineBreak c = true) (hc : c ≠ '\r') (cs : List Char) :
    lines (c :: cs) = [] :: lines cs := by
  rw [lines.eq_def]
  split
  · next heq => cases heq
  · next heq => exact absurd (List.cons.inj heq).1 hc
  · next heq =>
    obtain ⟨rfl, rfl⟩ := List.cons.inj heq
    rw [if_pos h]

theorem lines_unifyBreaks (cs : List Char) : lines (unifyBreaks cs) = lines cs := by
  fun_induction lines cs with
  | case1 => rfl
  | case2 cs ih => rw [unifyBreaks, lines_newline, ih]
  | case3 c cs hcrlf hc ih =>
    have hunified : isLineBreak (if c = '\r' then '\n' else c) = true ∧ (if c = '\r' then '\n' else c) ≠ '\r' := by
      split
      · decide
      · next hne => exact ⟨hc, hne⟩
    rw [unifyBreaks, lines_cons_of_break hunified.1 hunified.2, ih]
    exact hcrlf
  | case4 c cs hcrlf hc heq ih =>
    have hne : c ≠ '\r' := by
      rintro rfl
      exact hc rfl
    rw [unifyBreaks, if_neg hne, lines_cons_of_not_break (by simpa using hc), ih, heq]
    exact hcrlf
  | case5 c cs hcrlf hc l ls heq ih =>
    have hne : c ≠ '\r' := by
      rintro rfl
      exact hc rfl
    rw [unifyBreaks, if_neg hne, lines_cons_of_not_break (by simpa using hc), ih, heq]
    exact hcrlf

/-! ## Lines that are not empty -/

theorem StartAlike.filter_eq (h : StartAlike ls ws) : ls.filter (!·.isEmpty) = ws.filter (!·.isEmpty) := by
  rcases h with ⟨rfl, rfl⟩ | ⟨l, ls, ws, rfl, rfl, hrest⟩
  · rfl
  · rw [List.filter_cons, List.filter_cons, hrest]

theorem startAlike_lines (cs : List Char) : StartAlike (lines cs) (splitBy isLineBreak cs) := by
  fun_induction lines cs with
  | case1 => exact .inl ⟨rfl, rfl⟩
  | case2 cs ih => exact .inr ⟨[], _, _, rfl, rfl, ih.filter_eq⟩
  | case3 c cs _ hc ih => exact .inr ⟨[], _, _, rfl, by rw [splitBy, if_pos hc], ih.filter_eq⟩
  | case4 c cs _ hc heq ih =>
    rw [heq] at ih
    rcases ih with ⟨-, hs⟩ | ⟨l, ls, ws, hl, -, -⟩
    · exact .inr ⟨[c], [], [], rfl, by rw [splitBy, if_neg hc, hs], rfl⟩
    · cases hl
  | case5 c cs _ hc l ls heq ih =>
    rw [heq] at ih
    rcases ih with ⟨hl, -⟩ | ⟨m, ms, ws, hl, hs, hrest⟩
    · cases hl
    · obtain ⟨rfl, rfl⟩ := List.cons.inj hl
      exact .inr ⟨c :: l, ls, ws, rfl, by rw [splitBy, if_neg hc, hs], hrest⟩

theorem filter_lines (cs : List Char) :
    (lines cs).filter (!·.isEmpty) = (splitBy isLineBreak cs).filter (!·.isEmpty) := (startAlike_lines cs).filter_eq

end SchemaMigration.Text
