import Mathlib.Tactic.SplitIfs
import SchemaMigration.Script
import SchemaMigration.Proofs.Text.Lines
import SchemaMigration.Proofs.Text.Trimming

/-!
# SchemaMigration.Proofs.Script.Segments — the statements are the segments of the script

The significant lines of a script, cut behind each that ends with the terminator in force, are its segments.  Reading
makes a statement of each segment that is not blank, in order, and nothing of a segment is lost.

* `Piece`, `pieces`, `segments` : the significant lines with the terminator in force at each, and how they are cut.
* `Reflects` : what has been read so far is what the lines so far say; `Reflects.step` keeps it, `reflects_foldl`
  has it for all lines.
* `IsLine`, `IsStatement` : how the lines of a statement and how a statement look; `IsTidy.step` and `isTidy_foldl`.
* `statements_segments` : both for all statements of a script.
-/

namespace SchemaMigration.Script

open Text (IsUnbroken inked joinWith trim trimLeft trimRight)

variable {l line t : List Char} {ls before done pending : List (List Char)} {p : Progress} {ps qs last : List Piece}
  {closed : List (List Piece)} {q : Piece}

/-! ## Definitions -/

/-- The line counts: it is neither blank nor a comment, and it sets no terminator. -/
def isSignificant (line : List Char) : Bool := !isSkipped (trim line) && (directive? (trim line)).isNone

/-- The terminator in force behind the lines `before`: the one that was set last. -/
def inForce (before : List (List Char)) : List Char :=
  (before.filterMap fun line => directive? (trim line)).getLast?.getD defaultTerminator

/-- A significant line without the blanks around it: what it adds to a statement, and whether it ends it. -/
structure Piece where
  text : List Char
  ends : Bool
  deriving DecidableEq, Repr

/-- The piece of a line: one terminator at its end is taken off. -/
def pieceOf (terminator line : List Char) : Piece :=
  if terminator.isSuffixOf (trim line) then
    ⟨(trim line).take ((trim line).length - terminator.length), true⟩
  else ⟨trim line, false⟩

/-- The pieces of the significant lines, where the lines `before` stand in front of the first. -/
def pieces (before : List (List Char)) : List (List Char) → List Piece
  | [] => []
  | line :: lines =>
    if isSignificant line then pieceOf (inForce before) line :: pieces (before ++ [line]) lines
    else pieces (before ++ [line]) lines

/-- The pieces, cut behind each that ends a statement. -/
def segments : List Piece → List (List Piece)
  | [] => [[]]
  | p :: ps =>
    if p.ends then [p] :: segments ps
    else match segments ps with
      | [] => [[p]]
      | s :: ss => (p :: s) :: ss

/-- The characters of a segment that are not blank. -/
def content (segment : List Piece) : List Char := inked (segment.flatMap (·.text))

/-- The contents of the segments that are not blank. -/
def contents (segs : List (List Piece)) : List (List Char) := (segs.map content).filter (!·.isEmpty)

/-- What was read of the lines `before`: the closed segments are the statements, and the last segment is pending. -/
structure Reflects (before : List (List Char)) (p : Progress) : Prop where
  terminator : p.terminator = inForce before
  segments : ∃ closed last, segments (pieces [] before) = closed ++ [last] ∧ p.done.map inked = contents closed ∧
    inked p.pending.flatten = content last

/-- A line of a statement: it is in one piece, and neither blank nor a comment. -/
structure IsLine (line : List Char) : Prop where
  unbroken : IsUnbroken line
  kept : isSkipped (trim line) = false

/-- How every statement looks. -/
structure IsStatement (s : List Char) : Prop where
  ne_nil : s ≠ []
  trimmed : trim s = s
  breaks : ∀ c ∈ s, Text.isLineBreak c = true → c = '\n'
  lines : ∀ line ∈ Text.lines s, IsLine line

/-- What was read so far is made of such lines and statements. -/
structure IsTidy (p : Progress) : Prop where
  pending : ∀ line ∈ p.pending, IsLine line
  done : ∀ s ∈ p.done, IsStatement s

/-! ## Lines and their pieces -/

theorem isSkipped_eq_false_iff :
    isSkipped l = false ↔ l ≠ [] ∧ ¬ ['-', '-'] <+: l ∧ ¬ ['/', '/'] <+: l := by
  unfold isSkipped
  rw [Bool.or_eq_false_iff, Bool.or_eq_false_iff, List.isEmpty_eq_false_iff, ← Bool.not_eq_true, ← Bool.not_eq_true,
    List.isPrefixOf_iff_prefix, List.isPrefixOf_iff_prefix, and_assoc]

/-- The first word of a text that starts with `c` starts with `c`. -/
theorem words_cons {c : Char} (hc : Text.isBlank c = false) (cs : List Char) :
    ∃ w ws, Text.words (c :: cs) = (c :: w) :: ws := by
  unfold Text.words Text.splitBy
  rw [hc]
  cases hs : Text.splitBy Text.isBlank cs with
  | nil => exact absurd hs (Text.splitBy_ne_nil _ _)
  | cons w ws => exact ⟨w, ws.filter (!·.isEmpty), by simp⟩

theorem directive?_cons_eq_none {c : Char} (hc : Text.isBlank c = false) (hd : c.toLower ≠ 'd') (cs : List Char) :
    directive? (c :: cs) = none := by
  obtain ⟨w, ws, hw⟩ := words_cons hc cs
  unfold directive?
  rw [hw]
  split
  · next word terminator heq =>
    obtain ⟨rfl, -⟩ := List.cons.inj heq
    rw [if_neg]
    intro hname
    exact hd (List.cons.inj hname).1
  · rfl

/-- What is skipped sets no terminator. -/
theorem directive?_of_isSkipped (h : isSkipped l = true) : directive? l = none := by
  simp only [isSkipped, Bool.or_eq_true, List.isEmpty_iff, List.isPrefixOf_iff_prefix] at h
  rcases h with (rfl | ⟨cs, rfl⟩) | ⟨cs, rfl⟩
  · rfl
  · exact directive?_cons_eq_none (by decide) (by decide) _
  · exact directive?_cons_eq_none (by decide) (by decide) _

/-- What is taken off is one terminator. -/
theorem pieceOf_append (h : (pieceOf t line).ends = true) : (pieceOf t line).text ++ t = trim line := by
  unfold pieceOf at h ⊢
  split_ifs at h ⊢ with hs
  obtain ⟨body, hbody⟩ := List.isSuffixOf_iff_suffix.1 hs
  rw [← hbody]
  simp

theorem pieceOf_text_of_not_ends (h : ¬ (pieceOf t line).ends = true) : (pieceOf t line).text = trim line := by
  unfold pieceOf at h ⊢
  split_ifs at h ⊢ with hs
  · exact absurd rfl h
  · rfl

theorem inForce_concat (before : List (List Char)) (line : List Char) :
    inForce (before ++ [line]) = (directive? (trim line)).getD (inForce before) := by
  unfold inForce
  cases h : directive? (trim line) with
  | none => simp [h]
  | some t => simp [h]

theorem pieces_append (before ls ms : List (List Char)) :
    pieces before (ls ++ ms) = pieces before ls ++ pieces (before ++ ls) ms := by
  induction ls generalizing before with
  | nil => rw [List.nil_append, List.append_nil, pieces, List.nil_append]
  | cons l ls ih =>
    simp only [List.cons_append, pieces, ih, List.append_assoc, List.nil_append]
    split_ifs <;> rfl

theorem pieces_concat (before ls : List (List Char)) (line : List Char) :
    pieces before (ls ++ [line]) =
      pieces before ls ++ if isSignificant line then [pieceOf (inForce (before ++ ls)) line] else [] := by
  rw [pieces_append, pieces, pieces]

/-- Of the lines in front only the terminator that they leave in force counts. -/
theorem pieces_congr {before' : List (List Char)} (h : inForce before = inForce before') (ls : List (List Char)) :
    pieces before ls = pieces before' ls := by
  induction ls generalizing before before' with
  | nil => rfl
  | cons line ls ih =>
    have hnext : inForce (before ++ [line]) = inForce (before' ++ [line]) := by
      rw [inForce_concat, inForce_concat, h]
    rw [pieces, pieces, h, ih hnext]

/-! ## Cutting -/

theorem segments_ne_nil (ps : List Piece) : segments ps ≠ [] := by
  cases ps with
  | nil => simp [segments]
  | cons p ps =>
    unfold segments
    split
    · simp
    · split <;> simp

theorem exists_segments_concat (ps : List Piece) : ∃ closed last, segments ps = closed ++ [last] :=
  ⟨_, _, (List.dropLast_append_getLast (segments_ne_nil ps)).symm⟩

theorem segments_nil_eq (h : segments [] = closed ++ [last]) : closed = [] ∧ last = [] := by
  obtain ⟨rfl, hlast⟩ := List.append_inj' (show [] ++ [[]] = closed ++ [last] from h) rfl
  obtain ⟨rfl, -⟩ := List.cons.inj hlast
  exact ⟨rfl, rfl⟩

/-- The last segment of the first pieces goes on in the first segment of those behind them. -/
theorem segments_append {first : List Piece} {others : List (List Piece)} (h : segments ps = closed ++ [last])
    (hqs : segments qs = first :: others) : segments (ps ++ qs) = closed ++ (last ++ first) :: others := by
  induction ps generalizing closed last with
  | nil =>
    obtain ⟨rfl, rfl⟩ := segments_nil_eq h
    exact hqs
  | cons p ps ih =>
    obtain ⟨closed', last', hrest⟩ := exists_segments_concat ps
    have hps := ih hrest
    rw [segments, hrest] at h
    rw [List.cons_append, segments, hps]
    by_cases hp : p.ends = true
    · simp only [hp, if_true] at h ⊢
      rw [← List.cons_append] at h
      obtain ⟨rfl, hlast⟩ := List.append_inj' h rfl
      obtain ⟨rfl, -⟩ := List.cons.inj hlast
      rfl
    · simp only [hp, Bool.false_eq_true, if_false] at h ⊢
      cases closed' with
      | nil =>
        -- the piece joins the only segment, which is still the last
        have hone : [] ++ [p :: last'] = [p :: last'] := List.nil_append _
        obtain ⟨rfl, hlast⟩ := List.append_inj' (hone.trans h) rfl
        obtain ⟨rfl, -⟩ := List.cons.inj hlast
        rfl
      | cons s ss =>
        rw [List.cons_append] at h
        simp only [← List.cons_append] at h
        obtain ⟨rfl, hlast⟩ := List.append_inj' h rfl
        obtain ⟨rfl, -⟩ := List.cons.inj hlast
        rfl

theorem segments_concat (h : segments ps = closed ++ [last]) (q : Piece) :
    segments (ps ++ [q]) = closed ++ if q.ends then [last ++ [q], []] else [last ++ [q]] := by
  by_cases hq : q.ends = true
  · rw [segments_append h (show segments [q] = [q] :: [[]] by simp [segments, hq]), if_pos hq]
  · rw [segments_append h (show segments [q] = [q] :: [] by simp [segments, hq]), if_neg hq]

/-! ## What a line does -/

/-- A line is passed over, sets the terminator, or adds its piece to the statement that is pending. -/
theorem lineKind_cases (t line : List Char) :
    (isSignificant line = false ∧ directive? (trim line) = none ∧ lineKind t line = .skipped) ∨
      (∃ u, isSignificant line = false ∧ directive? (trim line) = some u ∧ lineKind t line = .directive u) ∨
      (isSignificant line = true ∧ (pieceOf t line).ends = true ∧
        lineKind t line = .terminated (pieceOf t line).text) ∨
      (isSignificant line = true ∧ pieceOf t line = ⟨trim line, false⟩ ∧
        lineKind t line = .continued (trimRight line)) := by
  by_cases hs : isSkipped (trim line) = true
  · exact .inl ⟨by simp [isSignificant, hs], directive?_of_isSkipped hs, by simp [lineKind, hs]⟩
  · refine .inr ?_
    rw [Bool.not_eq_true] at hs
    cases hd : directive? (trim line) with
    | some u => exact .inl ⟨u, by simp [isSignificant, hd], rfl, by simp [lineKind, hs, hd]⟩
    | none =>
      refine .inr ?_
      have hsig : isSignificant line = true := by simp [isSignificant, hs, hd]
      by_cases ht : t.isSuffixOf (trim line) = true
      · exact .inl ⟨hsig, by simp [pieceOf, ht], by simp [lineKind, pieceOf, hs, hd, ht]⟩
      · exact .inr ⟨hsig, by simp [pieceOf, ht], by simp [lineKind, hs, hd, ht]⟩

theorem directive?_of_isSignificant (h : isSignificant line = true) : directive? (trim line) = none := by
  unfold isSignificant at h
  rw [Bool.and_eq_true, Option.isNone_iff_eq_none] at h
  exact h.2

/-! ## What is read so far -/

theorem content_append (a b : List Piece) : content (a ++ b) = content a ++ content b := by
  simp [content]

theorem content_concat (last : List Piece) (q : Piece) : content (last ++ [q]) = content last ++ inked q.text := by
  simp [content]

theorem contents_append (a b : List (List Piece)) : contents (a ++ b) = contents a ++ contents b := by
  simp [contents]

theorem assemble_eq_nil_iff : assemble pending = [] ↔ inked pending.flatten = [] := by
  rw [assemble, Text.trim_eq_nil_iff, Text.inked_joinWith rfl]

/-- Where a statement is closed, its segment is: a blank one leaves no trace. -/
theorem map_inked_close (h : inked pending.flatten = content last) (done : List (List Char)) :
    (close done pending).map inked = done.map inked ++ contents [last] := by
  unfold close
  by_cases hnil : assemble pending = []
  · have hlast : content last = [] := by rw [← h, assemble_eq_nil_iff.1 hnil]
    simp [hnil, contents, hlast]
  · have hlast : content last ≠ [] := by rwa [← h, ne_eq, ← assemble_eq_nil_iff]
    have hinked : inked (assemble pending) = content last := by
      rw [assemble, Text.inked_trim, Text.inked_joinWith rfl, h]
    simp [hnil, contents, hlast, hinked]

theorem reflects_nil : Reflects [] {} := ⟨rfl, [], [], rfl, rfl, rfl⟩

theorem Reflects.step (h : Reflects before p) (line : List Char) : Reflects (before ++ [line]) (step p line) := by
  obtain ⟨hterm, closed, last, hseg, hdone, hpend⟩ := h
  have hpieces := pieces_concat [] before line
  rw [List.nil_append] at hpieces
  rcases lineKind_cases p.terminator line with
    ⟨hsig, hdir, hkind⟩ | ⟨u, hsig, hdir, hkind⟩ | ⟨hsig, hends, hkind⟩ | ⟨hsig, hpiece, hkind⟩
  · have hstep : Script.step p line = p := by rw [Script.step, hkind]
    rw [hstep]
    refine ⟨by rw [inForce_concat, hdir, hterm]; rfl, closed, last, ?_, hdone, hpend⟩
    rw [hpieces, hsig, if_neg Bool.false_ne_true, List.append_nil, hseg]
  · have hstep : Script.step p line = { p with terminator := u } := by rw [Script.step, hkind]
    rw [hstep]
    refine ⟨by rw [inForce_concat, hdir]; rfl, closed, last, ?_, hdone, hpend⟩
    rw [hpieces, hsig, if_neg Bool.false_ne_true, List.append_nil, hseg]
  · -- the line ends a statement: its segment is closed and an empty one is opened
    rw [hterm] at hends hkind
    have hstep : Script.step p line =
        { p with pending := [], done := close p.done (p.pending ++ [(pieceOf (inForce before) line).text]) } := by
      rw [Script.step, hterm, hkind]
    rw [hstep]
    have hlast : inked (p.pending ++ [(pieceOf (inForce before) line).text]).flatten =
        content (last ++ [pieceOf (inForce before) line]) := by
      rw [content_concat, ← hpend]
      simp
    refine ⟨?_, closed ++ [last ++ [pieceOf (inForce before) line]], [], ?_, ?_, rfl⟩
    · rw [inForce_concat, directive?_of_isSignificant hsig]
      exact hterm
    · rw [hpieces, hsig, if_pos rfl, segments_concat hseg, hends, if_pos rfl, List.append_assoc]
      rfl
    · rw [map_inked_close hlast, hdone, contents_append]
  · rw [hterm] at hkind hpiece
    have hstep : Script.step p line = { p with pending := p.pending ++ [trimRight line] } := by
      rw [Script.step, hterm, hkind]
    rw [hstep]
    refine ⟨?_, closed, last ++ [pieceOf (inForce before) line], ?_, hdone, ?_⟩
    · rw [inForce_concat, directive?_of_isSignificant hsig]
      exact hterm
    · rw [hpieces, hsig, if_pos rfl, segments_concat hseg, hpiece]
      rfl
    · rw [content_concat, ← hpend, hpiece]
      simp

theorem reflects_foldl (ls : List (List Char)) : Reflects ls (ls.foldl step {}) := by
  induction ls using List.reverseRecOn with
  | nil => exact reflects_nil
  | append_singleton ls line ih =>
    rw [List.foldl_append]
    exact ih.step line

/-- The statements are the segments that are not blank. -/
theorem map_inked_finish (h : Reflects ls p) : (finish p).map inked = contents (segments (pieces [] ls)) := by
  obtain ⟨-, closed, last, hseg, hdone, hpend⟩ := h
  rw [finish, map_inked_close hpend, hdone, hseg, contents_append]

/-! ## How lines and statements look -/

theorem IsLine.ne_nil (h : IsLine l) : l ≠ [] := by
  rintro rfl
  exact (isSkipped_eq_false_iff.1 h.kept).1 rfl

theorem IsLine.trimLeft_ne_nil (h : IsLine l) : trimLeft l ≠ [] := by
  intro hnil
  refine (isSkipped_eq_false_iff.1 h.kept).1 ?_
  rw [trim, hnil]
  rfl

theorem IsLine.trimRight_ne_nil (h : IsLine l) : trimRight l ≠ [] := by
  intro hnil
  refine (isSkipped_eq_false_iff.1 h.kept).1 ?_
  rw [← Text.trimLeft_trimRight, hnil]
  rfl

/-- Only the trimmed line counts. -/
theorem IsLine.of_trim_eq {m : List Char} (h : IsLine l) (hm : m ⊆ l) (ht : trim m = trim l) : IsLine m :=
  ⟨h.unbroken.of_subset hm, by rw [ht]; exact h.kept⟩

theorem IsLine.trimLeft (h : IsLine l) : IsLine (trimLeft l) := by
  refine h.of_trim_eq (List.dropWhile_suffix Text.isBlank).subset ?_
  rw [trim, Text.trimLeft_idem]
  rfl

theorem IsLine.trimRight (h : IsLine l) : IsLine (trimRight l) := by
  exact h.of_trim_eq (List.rdropWhile_prefix Text.isBlank l).subset (Text.trim_trimRight l)

/-- What is left of a line in front of its terminator is a line again, unless nothing is left. -/
theorem IsLine.of_beginning {body : List Char} (h : IsLine l) (hb : body <+: trim l) (hne : body ≠ []) :
    IsLine body := by
  obtain ⟨c, cs, rfl⟩ := List.exists_cons_of_ne_nil hne
  have hc : Text.isBlank c = false := Text.not_isBlank_of_prefix_trim hb
  have hleft : Text.trimLeft (c :: cs) = c :: cs := by simp [Text.trimLeft, hc]
  have htrim : trim (c :: cs) <+: trim l := by
    rw [trim, hleft]
    exact (List.rdropWhile_prefix Text.isBlank _).trans hb
  obtain ⟨-, hdash, hslash⟩ := isSkipped_eq_false_iff.1 h.kept
  refine ⟨h.unbroken.of_subset fun d hd => Text.trim_subset l (hb.subset hd), ?_⟩
  refine isSkipped_eq_false_iff.2 ⟨?_, fun hp => hdash (hp.trans htrim), fun hp => hslash (hp.trans htrim)⟩
  rw [ne_eq, Text.trim_eq_nil_iff, Text.inked_eq_nil_iff]
  intro hall
  rw [hall c List.mem_cons_self] at hc
  cases hc

/-! ## Statements are tidy -/

/-- A statement is made of lines: trimming it trims the first and the last of them. -/
theorem exists_joinWith_eq_assemble (h : ∀ l ∈ ls, IsLine l) :
    ∃ ms, assemble ls = joinWith ['\n'] ms ∧ (∀ l ∈ ms, IsLine l) ∧ (ms = [] ↔ ls = []) := by
  cases ls with
  | nil => exact ⟨[], rfl, h, Iff.rfl⟩
  | cons l ls =>
    have hl : IsLine l := h l List.mem_cons_self
    have hfirst : ∀ m ∈ Text.trimLeft l :: ls, IsLine m := by
      intro m hm
      rcases List.mem_cons.1 hm with rfl | hm
      · exact hl.trimLeft
      · exact h m (List.mem_cons_of_mem _ hm)
    obtain ⟨init, last, hsplit⟩ : ∃ init last, Text.trimLeft l :: ls = init ++ [last] :=
      ⟨_, _, (List.dropLast_append_getLast (List.cons_ne_nil _ _)).symm⟩
    rw [hsplit] at hfirst
    have hlast : IsLine last := hfirst last (List.mem_append_right _ List.mem_cons_self)
    refine ⟨init ++ [Text.trimRight last], ?_, ?_, by simp⟩
    · rw [assemble, trim, Text.trimLeft_joinWith hl.trimLeft_ne_nil, hsplit,
        Text.trimRight_joinWith hlast.trimRight_ne_nil]
    · intro m hm
      rcases List.mem_append.1 hm with hm | hm
      · exact hfirst m (List.mem_append_left _ hm)
      · rw [List.mem_singleton.1 hm]
        exact hlast.trimRight

theorem isStatement_assemble (h : ∀ l ∈ ls, IsLine l) (hne : ls ≠ []) : IsStatement (assemble ls) := by
  obtain ⟨ms, heq, hms, hnil⟩ := exists_joinWith_eq_assemble h
  have hlines : Text.lines (assemble ls) = ms := by
    rw [heq]
    exact Text.lines_joinWith fun l hl => ⟨(hms l hl).unbroken, (hms l hl).ne_nil⟩
  constructor
  · intro hempty
    rw [hempty] at hlines
    exact hne (hnil.1 hlines.symm)
  · exact Text.trim_trim _
  · intro c hc hb
    rw [heq] at hc
    exact Text.eq_newline_of_mem_joinWith (fun l hl => (hms l hl).unbroken) hc hb
  · rw [hlines]
    exact hms

/-- A terminator on a line of its own adds nothing to the statement that it ends. -/
theorem assemble_concat_nil (ls : List (List Char)) : assemble (ls ++ [[]]) = assemble ls := by
  by_cases hne : ls = []
  · rw [hne]
    rfl
  · have hnewline : ∀ c ∈ ['\n'], Text.isBlank c = true := fun c hc => by
      rw [List.mem_singleton.1 hc]
      rfl
    rw [assemble, Text.joinWith_concat hne, List.append_nil, ← Text.trimLeft_trimRight,
      Text.trimRight_append_blank hnewline, Text.trimLeft_trimRight]
    rfl

theorem isStatement_of_mem_close (h : ∀ s ∈ done, IsStatement s) (hp : ∀ l ∈ pending, IsLine l) :
    ∀ s ∈ close done pending, IsStatement s := by
  unfold close
  intro s hs
  by_cases hnil : assemble pending = []
  · simp only [hnil, List.isEmpty_nil, if_true] at hs
    exact h s hs
  · rw [if_neg (by simpa using hnil)] at hs
    rcases List.mem_append.1 hs with hs | hs
    · exact h s hs
    · rw [List.mem_singleton.1 hs]
      refine isStatement_assemble hp ?_
      rintro rfl
      exact hnil rfl

theorem close_concat_nil (done pending : List (List Char)) : close done (pending ++ [[]]) = close done pending := by
  unfold close
  rw [assemble_concat_nil]

theorem pieceOf_text_begins (t line : List Char) : (pieceOf t line).text <+: trim line := by
  by_cases hends : (pieceOf t line).ends = true
  · exact ⟨t, pieceOf_append hends⟩
  · exact ⟨[], by rw [List.append_nil, pieceOf_text_of_not_ends hends]⟩

theorem isTidy_init : IsTidy {} := ⟨List.forall_mem_nil _, List.forall_mem_nil _⟩

theorem IsTidy.step (h : IsTidy p) (hline : IsUnbroken line) : IsTidy (step p line) := by
  have hisLine : isSignificant line = true → IsLine line := by
    intro hsig
    unfold isSignificant at hsig
    rw [Bool.and_eq_true, Bool.not_eq_true'] at hsig
    exact ⟨hline, hsig.1⟩
  rcases lineKind_cases p.terminator line with
    ⟨-, -, hkind⟩ | ⟨u, -, -, hkind⟩ | ⟨hsig, -, hkind⟩ | ⟨hsig, -, hkind⟩
  · rw [Script.step, hkind]
    exact h
  · rw [Script.step, hkind]
    exact ⟨h.pending, h.done⟩
  · rw [Script.step, hkind]
    refine ⟨List.forall_mem_nil _, ?_⟩
    by_cases hbody : (pieceOf p.terminator line).text = []
    · dsimp only
      rw [hbody, close_concat_nil]
      exact isStatement_of_mem_close h.done h.pending
    · have hpiece : IsLine (pieceOf p.terminator line).text :=
        (hisLine hsig).of_beginning (pieceOf_text_begins _ _) hbody
      refine isStatement_of_mem_close h.done fun l hl => ?_
      rcases List.mem_append.1 hl with hl | hl
      · exact h.pending l hl
      · rw [List.mem_singleton.1 hl]
        exact hpiece
  · rw [Script.step, hkind]
    refine ⟨fun l hl => ?_, h.done⟩
    rcases List.mem_append.1 hl with hl | hl
    · exact h.pending l hl
    · rw [List.mem_singleton.1 hl]
      exact (hisLine hsig).trimRight

theorem isTidy_foldl (h : ∀ l ∈ ls, IsUnbroken l) : IsTidy (ls.foldl step {}) := by
  induction ls using List.reverseRecOn with
  | nil => exact isTidy_init
  | append_singleton ls line ih =>
    rw [List.foldl_append]
    have hrest := ih fun l hl => h l (List.mem_append_left _ hl)
    exact hrest.step (h line (List.mem_append_right _ List.mem_cons_self))

theorem isStatement_of_mem_statements {cs s : List Char} (hs : s ∈ statements cs) : IsStatement s := by
  have h : IsTidy ((Text.lines cs).foldl step {}) := isTidy_foldl fun l hl => Text.isUnbroken_of_mem_lines hl
  exact isStatement_of_mem_close h.done h.pending s hs

/-! ## All statements of a script -/

/-- Splitting loses, repeats and reorders nothing.  The statements of a script, blanks aside, are its segments, in
order, without those that are blank.  And every statement begins and ends with a character that is not blank, has no
line break but line feeds, and no line of it is blank or a comment. -/
theorem statements_segments (cs : List Char) :
    (statements cs).map inked = contents (segments (pieces [] (Text.lines cs))) ∧
      ∀ s ∈ statements cs, s ≠ [] ∧ trim s = s ∧ (∀ c ∈ s, Text.isLineBreak c = true → c = '\n') ∧
        ∀ line ∈ Text.lines s, trim line ≠ [] ∧ ¬ ['-', '-'] <+: trim line ∧ ¬ ['/', '/'] <+: trim line := by
  refine ⟨map_inked_finish (reflects_foldl _), fun s hs => ?_⟩
  have h := isStatement_of_mem_statements hs
  exact ⟨h.ne_nil, h.trimmed, h.breaks, fun line hl => isSkipped_eq_false_iff.1 (h.lines line hl).kept⟩

/-- A procedure under a terminator of its own keeps its semicolons, and the last statement needs none. -/
example : split "delimiter $\nBEGIN;\n\n  -- why\n  END; $\n$\ndelimiter ;\nA" = ["BEGIN;\nEND;", "A"] := by
  decide +kernel

end SchemaMigration.Script
