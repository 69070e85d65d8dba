import Mathlib.Tactic.MkIffOfInductiveProp
import SchemaMigration.Proofs.Script.Concatenation

/-!
# SchemaMigration.Proofs.Script.Rendering — writing statements and reading them back

A statement is written as its lines, the last with the terminator behind it.  Reading leaves a line as it is when it has
no blanks at its end, and a statement when it begins with none; so the statements come back as they were written.

* `IsNeatLine`, `IsNeat` : lines and statements that reading leaves as they are; `IsRenderable` : statements that a
  script can hold with the first terminator.
* `foldl_step_open` : lines that end nothing are added to what is pending.
* `step_closes` : a line that ends in the terminator closes the statement.
* `statements_render` : the statements of a script that was written from statements are these.
-/

namespace SchemaMigration.Script

open Text (IsUnbroken isBlank isLineBreak joinWith trim trimLeft trimRight)

variable {l s t body : List Char} {ls ss done pending : List (List Char)} {c : Char}

/-! ## Definitions -/

/-- A line that reading leaves as it is: a line of a statement that sets no terminator and has no blanks at its end. -/
@[mk_iff]
structure IsNeatLine (l : List Char) : Prop extends IsLine l where
  plain : directive? (trim l) = none
  neat : trimRight l = l

/-- A text that reading leaves as it is: neat lines with a line feed between each two, the first without blanks in
front. -/
@[mk_iff]
structure IsNeat (s : List Char) : Prop where
  ne_nil : s ≠ []
  separated : joinWith ['\n'] (Text.lines s) = s
  lines : ∀ l ∈ Text.lines s, IsNeatLine l
  first : ∀ l ∈ (Text.lines s).head?, trimLeft l = l

/-- A statement that a script can hold: of its lines only the last may end in the terminator, and that one has no
blanks in front. -/
@[mk_iff]
structure IsRenderable (s : List Char) : Prop extends IsNeat s where
  goesOn : ∀ l ∈ (Text.lines s).dropLast, ¬ defaultTerminator <:+ l
  last : ∀ l ∈ (Text.lines s).getLast?, trimLeft l = l

instance (l : List Char) : Decidable (IsLine l) :=
  decidable_of_iff (IsUnbroken l ∧ isSkipped (trim l) = false) ⟨fun h => ⟨h.1, h.2⟩, fun h => ⟨h.1, h.2⟩⟩

instance (l : List Char) : Decidable (IsNeatLine l) := decidable_of_iff' _ (isNeatLine_iff l)

instance (s : List Char) : Decidable (IsNeat s) := decidable_of_iff' _ (isNeat_iff s)

instance (s : List Char) : Decidable (IsRenderable s) := decidable_of_iff' _ (isRenderable_iff s)

/-! ## Neat lines -/

theorem IsNeatLine.trim_eq (h : IsNeatLine l) : trim l = trimLeft l := by
  rw [← Text.trimLeft_trimRight, h.neat]

theorem IsNeatLine.suffix_of_suffix_trim (h : IsNeatLine l) (ht : t <:+ trim l) : t <:+ l := by
  rw [h.trim_eq] at ht
  exact ht.trans (List.dropWhile_suffix isBlank)

theorem lineKind_open (h : IsNeatLine l) (ht : ¬ t <:+ l) : lineKind t l = .continued l := by
  have hs : t.isSuffixOf (trim l) = false := by
    rw [← Bool.not_eq_true, List.isSuffixOf_iff_suffix]
    exact fun hsuffix => ht (h.suffix_of_suffix_trim hsuffix)
  simp [lineKind, h.kept, h.plain, hs, h.neat]

theorem lineKind_closes (hkept : isSkipped (trim l) = false) (hplain : directive? (trim l) = none)
    (h : trim l = body ++ t) : lineKind t l = .terminated body := by
  have hs : t.isSuffixOf (trim l) = true := by
    rw [List.isSuffixOf_iff_suffix, h]
    exact List.suffix_append _ _
  simp only [lineKind, hkept, hplain, hs, if_true, Bool.false_eq_true, if_false]
  simp [h]

/-! ## Lines of a statement -/

/-- Lines that do not end in the terminator are added to what is pending, as they are. -/
theorem foldl_step_open (h : ∀ l ∈ ls, IsNeatLine l ∧ ¬ t <:+ l) (pending done : List (List Char)) :
    ls.foldl step ⟨t, pending, done⟩ = ⟨t, pending ++ ls, done⟩ := by
  induction ls generalizing pending with
  | nil => rw [List.append_nil]; rfl
  | cons l ls ih =>
    obtain ⟨hl, ht⟩ := h l List.mem_cons_self
    have hstep : step ⟨t, pending, done⟩ l = ⟨t, pending ++ [l], done⟩ := by
      rw [step, lineKind_open hl ht]
    rw [List.foldl_cons, hstep, ih (fun k hk => h k (List.mem_cons_of_mem _ hk)), List.append_assoc]
    rfl

theorem step_closes (hkept : isSkipped (trim l) = false) (hplain : directive? (trim l) = none)
    (h : trim l = body ++ t) (pending done : List (List Char)) :
    step ⟨t, pending, done⟩ l = ⟨t, [], close done (pending ++ [body])⟩ := by
  rw [step, lineKind_closes hkept hplain h]

/-! ## Neat statements -/

theorem IsNeat.lines_ne_nil (h : IsNeat s) : Text.lines s ≠ [] := by
  intro hnil
  have hs := h.separated
  rw [hnil] at hs
  exact h.ne_nil hs.symm

theorem IsNeat.lines_append (h : IsNeat s) (rest : List Char) :
    Text.lines (s ++ '\n' :: rest) = Text.lines s ++ Text.lines rest := by
  have hlines := Text.lines_joinWith_append h.lines_ne_nil (fun l hl => (h.lines l hl).unbroken) rest
  rwa [h.separated] at hlines

theorem IsNeat.exists_concat (h : IsNeat s) : ∃ init last, Text.lines s = init ++ [last] :=
  ⟨_, _, (List.dropLast_append_getLast h.lines_ne_nil).symm⟩

/-- A neat text has no blanks at either end. -/
theorem IsNeat.trim_eq (h : IsNeat s) : trim s = s := by
  obtain ⟨first, others, hcons⟩ := List.exists_cons_of_ne_nil h.lines_ne_nil
  obtain ⟨init, last, hconcat⟩ := h.exists_concat
  have hfirst : IsNeatLine first := h.lines first (by simp [hcons])
  have hlast : IsNeatLine last := h.lines last (by simp [hconcat])
  have hleft : trimLeft s = s := by
    rw [← h.separated, hcons, Text.trimLeft_joinWith hfirst.trimLeft_ne_nil, h.first first (by simp [hcons])]
  have hright : trimRight s = s := by
    rw [← h.separated, hconcat, Text.trimRight_joinWith hlast.trimRight_ne_nil, hlast.neat]
  rw [trim, hleft, hright]

theorem IsNeat.close_lines (h : IsNeat s) (done : List (List Char)) : close done (Text.lines s) = done ++ [s] := by
  have hassemble : assemble (Text.lines s) = s := by rw [assemble, h.separated, h.trim_eq]
  rw [close, hassemble, if_neg]
  simpa using h.ne_nil

/-! ## The last line of a statement -/

/-- A semicolon behind a line makes no comment of it. -/
theorem isSkipped_concat (h : isSkipped l = false) : isSkipped (l ++ [';']) = false := by
  obtain ⟨-, hdash, hslash⟩ := isSkipped_eq_false_iff.1 h
  refine isSkipped_eq_false_iff.2 ⟨by simp, fun hp => ?_, fun hp => ?_⟩
  · rcases List.prefix_concat_iff.1 hp with heq | hp
    · have hlast := congrArg List.getLast? heq
      simp at hlast
    · exact hdash hp
  · rcases List.prefix_concat_iff.1 hp with heq | hp
    · have hlast := congrArg List.getLast? heq
      simp at hlast
    · exact hslash hp

/-- A semicolon behind a line makes no directive of it: it joins the last word, and the words stay as many. -/
theorem directive?_concat (hneat : trimRight l = l) (hne : l ≠ []) (h : directive? l = none) :
    directive? (l ++ [';']) = none := by
  obtain ⟨init, c, rfl⟩ : ∃ init c, l = init ++ [c] := ⟨_, _, (List.dropLast_append_getLast hne).symm⟩
  have hc : isBlank c = false := by simpa using List.rdropWhile_eq_self_iff.1 hneat hne
  obtain ⟨ws, w, hwords, hconcat⟩ := Text.words_concat hc (show isBlank ';' = false by decide) init
  unfold directive? at h ⊢
  rw [hwords] at h
  rw [hconcat]
  match ws with
  | [] => rfl
  | [v] =>
    simp only [List.singleton_append] at h ⊢
    split at h
    · cases h
    · next hname => rw [if_neg hname]
  | _ :: _ :: _ =>
    split
    · next heq => simp at heq
    · rfl

/-- The lines of a statement: those that go on, and the last. -/
theorem IsRenderable.exists_lines (h : IsRenderable s) :
    ∃ init last, Text.lines s = init ++ [last] ∧ (∀ l ∈ init, IsNeatLine l ∧ ¬ defaultTerminator <:+ l) ∧
      IsNeatLine last ∧ trimLeft last = last := by
  obtain ⟨init, last, hconcat⟩ := h.exists_concat
  refine ⟨init, last, hconcat, fun l hl => ⟨h.lines l (by simp [hconcat, hl]), h.goesOn l (by simp [hconcat, hl])⟩,
    h.lines last (by simp [hconcat]), h.last last (by simp [hconcat])⟩

/-- The line that ends a statement: the last of its lines with the terminator behind it. -/
theorem step_last (h : IsNeatLine l) (hleft : trimLeft l = l) (pending done : List (List Char)) :
    step ⟨defaultTerminator, pending, done⟩ (l ++ [';']) =
      ⟨defaultTerminator, [], close done (pending ++ [l])⟩ := by
  have hkept : isSkipped l = false := by
    have hl := h.kept
    rwa [h.trim_eq, hleft] at hl
  have hplain : directive? l = none := by
    have hl := h.plain
    rwa [h.trim_eq, hleft] at hl
  have htrim : trim (l ++ [';']) = l ++ [';'] := by
    rw [trim, Text.trimLeft_append h.trimLeft_ne_nil, hleft, Text.trimRight_append]
    · rfl
    · decide
  refine step_closes ?_ ?_ htrim pending done
  · rw [htrim]
    exact isSkipped_concat hkept
  · rw [htrim]
    exact directive?_concat h.neat h.ne_nil hplain

/-! ## Scripts written from statements -/

theorem isWord_defaultTerminator : Text.IsWord defaultTerminator := by decide

theorem render_cons (s : List Char) (ss : List (List Char)) : render (s :: ss) = s ++ ';' :: '\n' :: render ss := by
  simp [render]

/-- Of the lines of a statement, the last is written with the terminator behind it. -/
theorem lines_render_cons {init : List (List Char)} {last : List Char} (h : IsRenderable s)
    (hlines : Text.lines s = init ++ [last]) (ss : List (List Char)) :
    Text.lines (render (s :: ss)) = init ++ (last ++ [';']) :: Text.lines (render ss) := by
  have hwritten : s ++ [';'] = joinWith ['\n'] (init ++ [last ++ [';']]) := by
    rw [← h.separated, hlines]
    by_cases hnil : init = []
    · rw [hnil]
      rfl
    · rw [Text.joinWith_concat hnil, Text.joinWith_concat hnil, List.append_assoc]
  have hunbroken : ∀ l ∈ init ++ [last ++ [';']], IsUnbroken l := by
    have hall : ∀ l ∈ init ++ [last], IsUnbroken l := fun l hl => (h.lines l (hlines ▸ hl)).unbroken
    rw [List.forall_mem_append, List.forall_mem_singleton] at hall ⊢
    exact ⟨hall.1, hall.2.append isWord_defaultTerminator.isUnbroken⟩
  have happend := Text.lines_joinWith_append (by simp) hunbroken (render ss)
  rw [← hwritten, List.append_assoc] at happend
  rw [render_cons]
  simpa using happend

/-- Reading a statement that was written makes it done. -/
theorem foldl_step_render (h : ∀ s ∈ ss, IsRenderable s) (done : List (List Char)) :
    (Text.lines (render ss)).foldl step ⟨defaultTerminator, [], done⟩ = ⟨defaultTerminator, [], done ++ ss⟩ := by
  induction ss generalizing done with
  | nil => rw [List.append_nil]; rfl
  | cons s ss ih =>
    have hs : IsRenderable s := h s List.mem_cons_self
    obtain ⟨init, last, hlines, hinit, hlast, hleft⟩ := hs.exists_lines
    rw [lines_render_cons hs hlines, List.foldl_append, foldl_step_open hinit, List.foldl_cons, List.nil_append,
      step_last hlast hleft, ← hlines, hs.close_lines, ih (fun r hr => h r (List.mem_cons_of_mem _ hr)),
      List.append_assoc]
    rfl

theorem statements_of_render (h : ∀ s ∈ ss, IsRenderable s) : statements (render ss) = ss := by
  rw [statements_eq_finish]
  exact congrArg finish (foldl_step_render h [])

/-- Writing statements and reading them is the identity, from a text and from a file with its bytes. -/
theorem statements_render (h : ∀ s ∈ ss, IsRenderable s) (path : String) :
    statements (render ss) = ss ∧
      ScriptRun.Loaded.ofBytes path (Text.encode (render ss)) = .ok ⟨path, ss.map String.ofList⟩ := by
  have hread := statements_of_render h
  exact ⟨hread, by rw [ofBytes_encode, hread]⟩

/-- A semicolon at the end of the last line, or alone on it, is kept, and so are blanks in front of an inner line. -/
theorem statements_render_semicolons :
    (∀ s ∈ ["CREATE TABLE t (\n  id INT\n);".toList, "A\n\t;;a\n;".toList, "delimiter".toList], IsRenderable s) ∧
      statements "CREATE TABLE t (\n  id INT\n);;\nA\n\t;;a\n;;\ndelimiter;\n".toList =
        ["CREATE TABLE t (\n  id INT\n);".toList, "A\n\t;;a\n;".toList, "delimiter".toList] := by
  have h : ∀ s ∈ ["CREATE TABLE t (\n  id INT\n);".toList, "A\n\t;;a\n;".toList, "delimiter".toList],
      IsRenderable s := by decide +kernel
  exact ⟨h, (statements_render h "sql/t.sql").1⟩

end SchemaMigration.Script
