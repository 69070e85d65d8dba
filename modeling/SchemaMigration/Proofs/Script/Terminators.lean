import SchemaMigration.Proofs.Script.Rendering

/-!
# SchemaMigration.Proofs.Script.Terminators — statements under a terminator of their own

A script sets a terminator, writes each statement with the terminator on a line of its own behind it, and sets the
semicolon again.  A terminator that looks like a comment is skipped where it stands alone, so it ends no statement: the
statements become one, together with what follows up to the next line that ends one.

* `underTerminator` : such a script, with a text behind it; `lines_underTerminator` : its lines.
* `directive?_setting`, `step_directive` : what the line that sets a terminator does.
* `statements_underTerminator_of_kept` : the statements, if the terminator is not skipped.
* `statements_underTerminator_of_skipped`, `map_inked_statements_underTerminator` : the statements, if it is.
* `finish_of_blank` : where a line ends nothing but what is pending, that becomes a statement.
* `statements_underTerminator_iff` : for which terminators, statements and texts behind them all is read as written.
-/

namespace SchemaMigration.Script

open Text (IsUnbroken IsWord inked joinWith trim trimLeft trimRight)

variable {l t rest : List Char} {bodies before ls : List (List Char)} {first : List Piece} {others : List (List Piece)}

/-! ## Definitions -/

/-- The line that sets the terminator `t`. -/
def setting (t : List Char) : List Char := "delimiter".toList ++ ' ' :: t

/-- The script that sets the terminator `t`, holds each of `bodies` with `t` on a line of its own behind it, sets the
semicolon again and goes on with `rest`. -/
def underTerminator (t : List Char) (bodies : List (List Char)) (rest : List Char) : List Char :=
  setting t ++ '\n' ::
    (bodies.flatMap (fun body => body ++ '\n' :: t ++ ['\n']) ++ (setting defaultTerminator ++ '\n' :: rest))

/-- The lines of the script in front of `rest`. -/
def linesUnder (t : List Char) (bodies : List (List Char)) : List (List Char) :=
  setting t :: (bodies.flatMap (fun body => Text.lines body ++ [t]) ++ [setting defaultTerminator])

/-- A text that starts a comment. -/
def StartsComment (t : List Char) : Prop := ['-', '-'] <+: t ∨ ['/', '/'] <+: t

/-- A text that can stand under the terminator `t`: none of its lines ends in it. -/
@[mk_iff]
structure StandsUnder (t body : List Char) : Prop extends IsNeat body where
  goesOn : ∀ l ∈ Text.lines body, ¬ t <:+ l

instance (t body : List Char) : Decidable (StandsUnder t body) := decidable_of_iff' _ (standsUnder_iff t body)

/-! ## The lines that set a terminator -/

theorem setting_eq (t : List Char) : setting t = "delimiter".toList ++ ' ' :: t := rfl

theorem isUnbroken_setting (ht : IsUnbroken t) : IsUnbroken (setting t) := by
  have hkeyword : IsUnbroken "delimiter".toList := by decide +kernel
  rw [setting_eq]
  exact hkeyword.append (Text.isUnbroken_cons.2 ⟨rfl, ht⟩)

theorem directive?_setting (ht : IsWord t) : directive? (trim (setting t)) = some t := by
  have hword : IsWord "delimiter".toList := by decide +kernel
  have hname : "delimiter".toList.map Char.toLower = "delimiter".toList := by decide +kernel
  have hright : trimRight (' ' :: t) = ' ' :: t := by
    have hrest : trimRight t ≠ [] := by
      rw [ht.trimRight_eq]
      exact ht.1
    have happend := Text.trimRight_append (a := [' ']) hrest
    rwa [ht.trimRight_eq] at happend
  have htrim : trim (setting t) = "delimiter".toList ++ ' ' :: t := by
    rw [setting_eq, trim, Text.trimLeft_append (by rw [hword.trimLeft_eq]; exact hword.1), hword.trimLeft_eq,
      Text.trimRight_append (by rw [hright]; exact List.cons_ne_nil _ _), hright]
  have hwords : Text.words ("delimiter".toList ++ ' ' :: t) = ["delimiter".toList, t] := by
    rw [Text.words_append_cons (by decide), ht.words_eq, hword.words_eq, List.singleton_append]
  rw [htrim, directive?, hwords]
  exact if_pos hname

theorem step_directive (h : directive? (trim l) = some t) (p : Progress) : step p l = { p with terminator := t } := by
  rcases lineKind_cases p.terminator l with ⟨-, hd, -⟩ | ⟨u, -, hd, hkind⟩ | ⟨hsig, -, -⟩ | ⟨hsig, -, -⟩
  · rw [h] at hd
    cases hd
  · rw [step, hkind]
    rw [h] at hd
    rw [Option.some.inj hd]
  · rw [directive?_of_isSignificant hsig] at h
    cases h
  · rw [directive?_of_isSignificant hsig] at h
    cases h

theorem directive?_of_isWord (ht : IsWord t) : directive? t = none := by
  rw [directive?, ht.words_eq]

theorem step_terminator (ht : IsWord t) (hkept : isSkipped t = false) (pending done : List (List Char)) :
    step ⟨t, pending, done⟩ t = ⟨t, [], close done pending⟩ := by
  have htrim : trim t = [] ++ t := ht.trim_eq
  rw [step_closes (by rwa [htrim]) (by rw [htrim]; exact directive?_of_isWord ht) htrim, close_concat_nil]

section Statements

variable (ht : IsWord t) (hbodies : ∀ b ∈ bodies, StandsUnder t b)

/-! ## The lines of the script -/

theorem StandsUnder.lines_open {body : List Char} (h : StandsUnder t body) :
    ∀ l ∈ Text.lines body, IsNeatLine l ∧ ¬ t <:+ l := fun l hl => ⟨h.lines l hl, h.goesOn l hl⟩

include ht hbodies

theorem lines_bodies (cs : List Char) :
    Text.lines (bodies.flatMap (fun body => body ++ '\n' :: t ++ ['\n']) ++ cs) =
      bodies.flatMap (fun body => Text.lines body ++ [t]) ++ Text.lines cs := by
  induction bodies with
  | nil => rfl
  | cons body bodies ih =>
    have hrest := ih fun b hb => hbodies b (List.mem_cons_of_mem _ hb)
    have hbody : IsNeat body := (hbodies body List.mem_cons_self).toIsNeat
    simp only [List.flatMap_cons, List.append_assoc, List.cons_append, List.nil_append]
    simp only [List.append_assoc, List.cons_append] at hrest
    rw [hbody.lines_append, Text.lines_append_newline ht.isUnbroken, hrest]

theorem lines_underTerminator (rest : List Char) :
    Text.lines (underTerminator t bodies rest) = linesUnder t bodies ++ Text.lines rest := by
  have hsemicolon : IsUnbroken (setting defaultTerminator) := isUnbroken_setting isWord_defaultTerminator.isUnbroken
  rw [underTerminator, Text.lines_append_newline (isUnbroken_setting ht.isUnbroken), lines_bodies ht hbodies,
    Text.lines_append_newline hsemicolon, linesUnder, List.cons_append, List.append_assoc, List.singleton_append]

/-! ## A terminator that ends statements -/

theorem foldl_step_bodies (hkept : isSkipped t = false) (done : List (List Char)) :
    (bodies.flatMap (fun body => Text.lines body ++ [t])).foldl step ⟨t, [], done⟩ = ⟨t, [], done ++ bodies⟩ := by
  induction bodies generalizing done with
  | nil => rw [List.append_nil]; rfl
  | cons body bodies ih =>
    have hbody := hbodies body List.mem_cons_self
    rw [List.flatMap_cons, List.foldl_append, List.foldl_append, foldl_step_open hbody.lines_open, List.nil_append,
      List.foldl_cons, List.foldl_nil, step_terminator ht hkept, hbody.toIsNeat.close_lines,
      ih fun b hb => hbodies b (List.mem_cons_of_mem _ hb), List.append_assoc]
    rfl

theorem statements_underTerminator_of_kept (hkept : isSkipped t = false) (rest : List Char) :
    statements (underTerminator t bodies rest) = bodies ++ statements rest := by
  have hread : (linesUnder t bodies).foldl step {} = Progress.behind bodies {} := by
    rw [linesUnder, List.foldl_cons, step_directive (directive?_setting ht), List.foldl_append,
      foldl_step_bodies ht hbodies hkept, List.foldl_cons, List.foldl_nil,
      step_directive (directive?_setting isWord_defaultTerminator), Progress.behind, List.append_nil, List.nil_append]
  rw [statements_eq_finish, lines_underTerminator ht hbodies, List.foldl_append, hread, foldl_step_behind,
    finish_behind, statements_eq_finish]

/-! ## A terminator that is skipped -/

theorem foldl_step_skipped (hskipped : isSkipped t = true) (pending done : List (List Char)) :
    (bodies.flatMap (fun body => Text.lines body ++ [t])).foldl step ⟨t, pending, done⟩ =
      ⟨t, pending ++ bodies.flatMap Text.lines, done⟩ := by
  induction bodies generalizing pending with
  | nil => rw [List.flatMap_nil, List.flatMap_nil, List.append_nil]; rfl
  | cons body bodies ih =>
    have hbody := hbodies body List.mem_cons_self
    rw [List.flatMap_cons, List.foldl_append, List.foldl_append, foldl_step_open hbody.lines_open, List.foldl_cons,
      List.foldl_nil, step_of_isSkipped (by rwa [ht.trim_eq]),
      ih fun b hb => hbodies b (List.mem_cons_of_mem _ hb), List.flatMap_cons, List.append_assoc]

/-- Where the semicolon is set again, all the statements are pending. -/
theorem foldl_step_linesUnder (hskipped : isSkipped t = true) :
    (linesUnder t bodies).foldl step {} = ⟨defaultTerminator, bodies.flatMap Text.lines, []⟩ := by
  rw [linesUnder, List.foldl_cons, step_directive (directive?_setting ht), List.foldl_append,
    foldl_step_skipped ht hbodies hskipped, List.foldl_cons, List.foldl_nil,
    step_directive (directive?_setting isWord_defaultTerminator), List.nil_append]

theorem statements_underTerminator_of_skipped (hskipped : isSkipped t = true) (rest : List Char) :
    statements (underTerminator t bodies rest) =
      finish ((Text.lines rest).foldl step ⟨defaultTerminator, bodies.flatMap Text.lines, []⟩) := by
  rw [statements_eq_finish, lines_underTerminator ht hbodies, List.foldl_append,
    foldl_step_linesUnder ht hbodies hskipped]

omit ht in
theorem inked_flatMap_lines : inked (bodies.flatMap Text.lines).flatten = inked bodies.flatten := by
  induction bodies with
  | nil => rfl
  | cons body bodies ih =>
    have hbody : inked (joinWith ['\n'] (Text.lines body)) = inked (Text.lines body).flatten :=
      Text.inked_joinWith rfl _
    rw [(hbodies body List.mem_cons_self).separated] at hbody
    rw [List.flatMap_cons, List.flatten_append, List.flatten_cons, Text.inked_append, Text.inked_append, ← hbody,
      ih fun b hb => hbodies b (List.mem_cons_of_mem _ hb)]

/-- The statements are one with what follows them, up to the next line that ends a statement. -/
theorem map_inked_statements_underTerminator (hskipped : isSkipped t = true) (hsome : bodies ≠ [])
    (hseg : segmentsOf rest = first :: others) :
    (statements (underTerminator t bodies rest)).map inked =
      (inked bodies.flatten ++ content first) :: contents others := by
  have hreflects := reflects_foldl (linesUnder t bodies)
  rw [foldl_step_linesUnder ht hbodies hskipped] at hreflects
  obtain ⟨hforce, closed, last, hlast, hdone, hpend⟩ := hreflects
  have hcontent : inked bodies.flatten = content last := by
    rw [← hpend, inked_flatMap_lines hbodies]
  have hpieces : pieces (linesUnder t bodies) (Text.lines rest) = pieces [] (Text.lines rest) :=
    pieces_congr hforce.symm _
  have hvisible : content (last ++ first) ≠ [] := by
    obtain ⟨body, others', hcons⟩ := List.exists_cons_of_ne_nil hsome
    have hbody := (hbodies body (hcons ▸ List.mem_cons_self)).toIsNeat
    have hinked : inked body ≠ [] := by
      rw [ne_eq, ← Text.trim_eq_nil_iff, hbody.trim_eq]
      exact hbody.ne_nil
    rw [content_append, ← hcontent, hcons, List.flatten_cons, Text.inked_append]
    simp [hinked]
  rw [statements_eq_finish, map_inked_finish (reflects_foldl _), lines_underTerminator ht hbodies, pieces_append,
    List.nil_append, hpieces, segments_append hlast hseg, contents_append, ← hdone, List.map_nil, List.nil_append,
    hcontent, ← content_append]
  simp [contents, hvisible]

end Statements

/-! ## A line that ends nothing but what is pending -/

theorem pieceOf_text_eq_nil (h : inked (pieceOf t l).text = []) : (pieceOf t l).text = [] := by
  cases htext : (pieceOf t l).text with
  | nil => rfl
  | cons c cs =>
    have hbegins := pieceOf_text_begins t l
    rw [htext] at h hbegins
    have hblank := Text.inked_eq_nil_iff.1 h c List.mem_cons_self
    rw [Text.not_isBlank_of_prefix_trim hbegins] at hblank
    cases hblank

/-- Where the first segment is blank, what is pending becomes a statement by itself. -/
theorem finish_of_blank (hseg : segments (pieces before ls) = first :: others) (hblank : content first = [])
    (pending done : List (List Char)) :
    finish (ls.foldl step ⟨inForce before, pending, done⟩) =
      finish (ls.foldl step ⟨inForce before, [], close done pending⟩) := by
  induction ls generalizing before with
  | nil => rfl
  | cons line ls ih =>
    have hforce := inForce_concat before line
    rw [List.foldl_cons, List.foldl_cons]
    rcases lineKind_cases (inForce before) line with
      ⟨hsig, hdir, hkind⟩ | ⟨u, hsig, hdir, hkind⟩ | ⟨hsig, hends, hkind⟩ | ⟨hsig, hpiece, -⟩
    · rw [pieces, hsig, if_neg Bool.false_ne_true] at hseg
      rw [hdir, Option.getD_none] at hforce
      rw [step, step, hkind, ← hforce]
      exact ih hseg
    · rw [pieces, hsig, if_neg Bool.false_ne_true] at hseg
      rw [hdir, Option.getD_some] at hforce
      rw [step, step, hkind, ← hforce]
      exact ih hseg
    · -- the line holds the terminator only: it adds nothing to what it ends
      rw [pieces, hsig, if_pos rfl, segments, if_pos hends] at hseg
      obtain ⟨rfl, -⟩ := List.cons.inj hseg
      have htext : (pieceOf (inForce before) line).text = [] := by
        apply pieceOf_text_eq_nil
        rw [← hblank, content]
        simp
      rw [step, step, hkind, htext]
      dsimp only
      rw [close_concat_nil, close_concat_nil]
      rfl
    · -- the line would add something to the first segment
      rw [pieces, hsig, if_pos rfl, hpiece, segments, if_neg Bool.false_ne_true] at hseg
      obtain ⟨first', hfirst⟩ : ∃ first', first = ⟨trim line, false⟩ :: first' := by
        split at hseg
        · exact ⟨_, (List.cons.inj hseg).1.symm⟩
        · exact ⟨_, (List.cons.inj hseg).1.symm⟩
      have hinked : inked (trim line) = [] := by
        rw [hfirst, content, List.flatMap_cons, Text.inked_append] at hblank
        exact (List.append_eq_nil_iff.1 hblank).1
      have hskipped : isSkipped (trim line) = true := by
        rw [Text.inked_trim, ← Text.trim_eq_nil_iff] at hinked
        rw [hinked]
        rfl
      rw [isSignificant, hskipped] at hsig
      cases hsig

theorem statements_underTerminator_of_blank {body : List Char} (ht : IsWord t) (hskipped : isSkipped t = true)
    (hbody : StandsUnder t body) (hseg : segmentsOf rest = first :: others) (hblank : content first = []) :
    statements (underTerminator t [body] rest) = [body] ++ statements rest := by
  have hforce : inForce [] = defaultTerminator := rfl
  have hbodies : ∀ b ∈ [body], StandsUnder t b := fun b hb => by rwa [List.mem_singleton.1 hb]
  have hbehind : (⟨defaultTerminator, [], [body]⟩ : Progress) = Progress.behind [body] {} := rfl
  rw [statements_underTerminator_of_skipped ht hbodies hskipped, List.flatMap_singleton, ← hforce,
    finish_of_blank hseg hblank, hbody.toIsNeat.close_lines, hforce, List.nil_append, hbehind, foldl_step_behind,
    finish_behind, statements_eq_finish]

/-! ## Every terminator -/

theorem isSkipped_iff_startsComment (hne : t ≠ []) : isSkipped t = true ↔ StartsComment t := by
  rw [isSkipped, Bool.or_eq_true, Bool.or_eq_true, List.isEmpty_iff, List.isPrefixOf_iff_prefix,
    List.isPrefixOf_iff_prefix, StartsComment]
  simp [hne]

theorem length_contents_cons (first : List Piece) (others : List (List Piece)) :
    (contents (first :: others)).length = (if content first = [] then 0 else 1) + (contents others).length := by
  by_cases h : content first = []
  · simp [contents, h]
  · simp [contents, h, Nat.add_comm]

/-- The statements under a terminator are read as they were written, in front of those of the text behind them, just
where the terminator starts no comment, or there is none of them, or there is one and the first segment of the text
behind it is blank.  Elsewhere they make one statement, together with that segment. -/
theorem statements_underTerminator_iff (ht : IsWord t) (hbodies : ∀ b ∈ bodies, StandsUnder t b) (rest : List Char) :
    ∃ first others, segmentsOf rest = first :: others ∧
      (statements (underTerminator t bodies rest) = bodies ++ statements rest ↔
        ¬ StartsComment t ∨ bodies = [] ∨ (bodies.length = 1 ∧ content first = [])) ∧
      (StartsComment t → bodies ≠ [] → (statements (underTerminator t bodies rest)).map inked =
        (inked bodies.flatten ++ content first) :: contents others) := by
  obtain ⟨first, others, hseg⟩ := List.exists_cons_of_ne_nil (segments_ne_nil (pieces [] (Text.lines rest)))
  have hmerged : StartsComment t → bodies ≠ [] → (statements (underTerminator t bodies rest)).map inked =
      (inked bodies.flatten ++ content first) :: contents others := fun hcomment hsome =>
    map_inked_statements_underTerminator ht hbodies ((isSkipped_iff_startsComment ht.1).2 hcomment) hsome hseg
  refine ⟨first, others, hseg, ⟨fun heq => ?_, ?_⟩, hmerged⟩
  · by_contra hno
    rw [not_or, not_or, not_not] at hno
    obtain ⟨hcomment, hsome, hlone⟩ := hno
    -- there are too few statements: those of the bodies and of the first segment are one
    have hmany : (statements rest).length = (if content first = [] then 0 else 1) + (contents others).length := by
      have hrest := congrArg List.length (map_inked_finish (reflects_foldl (Text.lines rest)))
      rwa [← statements_eq_finish, List.length_map, hseg, length_contents_cons] at hrest
    have hfew := congrArg List.length (hmerged hcomment hsome)
    rw [List.length_map, heq, List.length_append, List.length_cons, hmany] at hfew
    have hpositive : 0 < bodies.length := List.length_pos_iff.2 hsome
    by_cases hblank : content first = []
    · rw [if_pos hblank] at hfew
      exact hlone ⟨by omega, hblank⟩
    · rw [if_neg hblank] at hfew
      omega
  · intro hwhere
    by_cases hskipped : isSkipped t = true
    · rcases hwhere with hcomment | rfl | ⟨hone, hblank⟩
      · exact absurd ((isSkipped_iff_startsComment ht.1).1 hskipped) hcomment
      · exact statements_underTerminator_of_skipped ht hbodies hskipped rest
      · obtain ⟨body, rfl⟩ := List.length_eq_one_iff.1 hone
        exact statements_underTerminator_of_blank ht hskipped (hbodies body List.mem_cons_self) hseg hblank
    · rw [Bool.not_eq_true] at hskipped
      exact statements_underTerminator_of_kept ht hbodies hskipped rest

/-- Two slashes are a terminator that scripts often set, and a procedure under it is not told from the call behind. -/
theorem not_statements_underTerminator_slashes :
    (∀ b ∈ ["BEGIN\n  A;\nEND;".toList], StandsUnder "//".toList b) ∧
      statements (underTerminator "//".toList ["BEGIN\n  A;\nEND;".toList] "CALL p();\n".toList) ≠
        ["BEGIN\n  A;\nEND;".toList] ++ statements "CALL p();\n".toList := by
  have hbodies : ∀ b ∈ ["BEGIN\n  A;\nEND;".toList], StandsUnder "//".toList b := by decide +kernel
  have hcomment : StartsComment "//".toList := .inr (List.prefix_refl _)
  have hcontent : segmentsOf "CALL p();\n".toList = [[⟨"CALL p()".toList, true⟩], []] := by decide +kernel
  obtain ⟨first, others, hseg, hiff, -⟩ := statements_underTerminator_iff (t := "//".toList) (by decide +kernel)
    hbodies "CALL p();\n".toList
  rw [hcontent] at hseg
  obtain ⟨rfl, -⟩ := List.cons.inj hseg
  refine ⟨hbodies, fun heq => ?_⟩
  rcases hiff.1 heq with hno | hnone | ⟨-, hblank⟩
  · exact hno hcomment
  · cases hnone
  · revert hblank
    decide +kernel

end SchemaMigration.Script
