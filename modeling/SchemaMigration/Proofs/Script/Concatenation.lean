import SchemaMigration.Proofs.Script.Substance

/-!
# SchemaMigration.Proofs.Script.Concatenation — a script behind another

What was read of a script is the terminator in force, the lines that are pending and the statements that are done.  The
statements that are done take no part in what is read next, so a text that follows never alters them, and it is read as
a script of its own where the terminator is the first again and nothing is pending.

* `read` : what is read of a script; `foldl_step_behind` : what is done stays, in front of what comes.
* `endedStatements` : the statements that end in a terminated line; `endedStatements_eq` : those that are done.
* `pending_eq_nil` : nothing is pending behind a terminated line.
* `statements_append_newline` : both for a script and any text behind it.
-/

namespace SchemaMigration.Script

open Text (isLineBreak trim)

variable {a b : List Char} {ls done pending : List (List Char)} {p : Progress} {ps last : List Piece}
  {closed : List (List Piece)} {c : Char}

/-! ## Definitions -/

/-- What is read of a script. -/
def read (cs : List Char) : Progress := (Text.lines cs).foldl step {}

/-- The same behind the statements `done`. -/
def Progress.behind (done : List (List Char)) (p : Progress) : Progress := { p with done := done ++ p.done }

/-- The segment ends in a terminated line. -/
def isTerminated (segment : List Piece) : Bool := segment.getLast?.any (·.ends)

/-- The segment is not blank. -/
def hasContent (segment : List Piece) : Bool := !(content segment).isEmpty

/-- The segments of a script. -/
def segmentsOf (cs : List Char) : List (List Piece) := segments (pieces [] (Text.lines cs))

/-- The segments of a script that are not blank, one for each statement. -/
def statementSegments (cs : List Char) : List (List Piece) := (segmentsOf cs).filter hasContent

/-- The statements of a script that end in a terminated line. -/
def endedStatements (cs : List Char) : List (List Char) :=
  (((statements cs).zip (statementSegments cs)).filter fun pair => isTerminated pair.2).map Prod.fst

/-! ## What is done stays -/

theorem close_append (done done' pending : List (List Char)) :
    close (done ++ done') pending = done ++ close done' pending := by
  unfold close
  split
  · rfl
  · rw [List.append_assoc]

theorem step_behind (done : List (List Char)) (p : Progress) (line : List Char) :
    step (p.behind done) line = (step p line).behind done := by
  unfold step Progress.behind
  dsimp only
  split
  · rfl
  · rfl
  · rw [close_append]
  · rfl

theorem foldl_step_behind (done : List (List Char)) (ls : List (List Char)) (p : Progress) :
    ls.foldl step (p.behind done) = (ls.foldl step p).behind done := by
  induction ls generalizing p with
  | nil => rfl
  | cons line ls ih => rw [List.foldl_cons, step_behind, ih, List.foldl_cons]

theorem finish_behind (done : List (List Char)) (p : Progress) : finish (p.behind done) = done ++ finish p :=
  close_append done p.done p.pending

/-- Reading goes on where the first text ends. -/
theorem statements_append_cons (hc : isLineBreak c = true) (a b : List Char) :
    statements (a ++ c :: b) = finish ((Text.lines b).foldl step (read a)) := by
  rw [statements_eq_finish, ← foldl_substance, substance_append_cons hc, List.foldl_append, foldl_substance,
    foldl_substance]
  rfl

theorem done_prefix_statements (hc : isLineBreak c = true) (a b : List Char) :
    (read a).done <+: statements (a ++ c :: b) := by
  have hsplit : Progress.behind (read a).done { read a with done := [] } = read a := by
    rw [Progress.behind, List.append_nil]
  have hfold := foldl_step_behind (read a).done (Text.lines b) { read a with done := [] }
  rw [hsplit] at hfold
  rw [statements_append_cons hc, hfold, finish_behind]
  exact List.prefix_append _ _

/-! ## The statements that are ended -/

theorem isTerminated_concat (last : List Piece) (q : Piece) : isTerminated (last ++ [q]) = q.ends := by
  simp [isTerminated]

/-- Just the closed segments end in a terminated line. -/
theorem isTerminated_of_segments (h : segments ps = closed ++ [last]) :
    (∀ s ∈ closed, isTerminated s = true) ∧ isTerminated last = false := by
  induction ps using List.reverseRecOn generalizing closed last with
  | nil =>
    obtain ⟨rfl, rfl⟩ := segments_nil_eq h
    exact ⟨List.forall_mem_nil _, rfl⟩
  | append_singleton ps q ih =>
    obtain ⟨before, current, hps⟩ := exists_segments_concat ps
    obtain ⟨hbefore, -⟩ := ih hps
    rw [segments_concat hps] at h
    by_cases hq : q.ends = true
    · rw [if_pos hq, ← List.singleton_append, ← List.append_assoc] at h
      obtain ⟨rfl, hlast⟩ := List.append_inj' h rfl
      obtain ⟨rfl, -⟩ := List.cons.inj hlast
      refine ⟨fun s hs => ?_, rfl⟩
      rcases List.mem_append.1 hs with hs | hs
      · exact hbefore s hs
      · rw [List.mem_singleton.1 hs, isTerminated_concat, hq]
    · rw [if_neg hq] at h
      obtain ⟨rfl, hlast⟩ := List.append_inj' h rfl
      obtain ⟨rfl, -⟩ := List.cons.inj hlast
      refine ⟨hbefore, ?_⟩
      rw [isTerminated_concat]
      simpa using hq

theorem endedStatements_eq (cs : List Char) : endedStatements cs = (read cs).done := by
  obtain ⟨-, closed, last, hseg, hdone, -⟩ := reflects_foldl (Text.lines cs)
  obtain ⟨hclosed, hlast⟩ := isTerminated_of_segments hseg
  have hrest : ∃ rest, statements cs = (read cs).done ++ rest := by
    rw [statements_eq_finish, finish, close]
    split
    · exact ⟨[], (List.append_nil _).symm⟩
    · exact ⟨_, rfl⟩
  obtain ⟨rest, hrest⟩ := hrest
  have hlength : (read cs).done.length = (closed.filter hasContent).length := by
    calc (read cs).done.length = ((read cs).done.map Text.inked).length := (List.length_map _).symm
      _ = (contents closed).length := congrArg List.length hdone
      _ = (closed.filter hasContent).length := by
        rw [contents, List.filter_map, List.length_map]
        rfl
  unfold endedStatements statementSegments segmentsOf
  rw [hseg, hrest, List.filter_append, List.zip_append hlength, List.filter_append, List.map_append]
  have hkept : ((read cs).done.zip (closed.filter hasContent)).filter
      (fun pair => isTerminated pair.2) = (read cs).done.zip (closed.filter hasContent) :=
    List.filter_eq_self.2 fun pair hpair => hclosed _ (List.mem_of_mem_filter (List.of_mem_zip hpair).2)
  have hdropped : (rest.zip ([last].filter hasContent)).filter (fun pair => isTerminated pair.2) = [] :=
    List.filter_eq_nil_iff.2 fun pair hpair => by
      rw [List.mem_singleton.1 (List.mem_of_mem_filter (List.of_mem_zip hpair).2), hlast]
      exact Bool.false_ne_true
  rw [hkept, hdropped, List.map_fst_zip hlength.le]
  exact List.append_nil _

/-! ## Nothing is pending -/

/-- Behind a terminated line, and at the beginning, nothing is pending. -/
theorem pending_eq_nil (h : ∀ q ∈ (pieces [] ls).getLast?, q.ends = true) : (ls.foldl step {}).pending = [] := by
  induction ls using List.reverseRecOn with
  | nil => rfl
  | append_singleton ls line ih =>
    have hterm := (reflects_foldl ls).terminator
    have hpieces := pieces_concat [] ls line
    rw [List.nil_append] at hpieces
    rw [hpieces] at h
    rw [List.foldl_append, List.foldl_cons, List.foldl_nil]
    rcases lineKind_cases (ls.foldl step {}).terminator line with
      ⟨hsig, -, hkind⟩ | ⟨u, hsig, -, hkind⟩ | ⟨-, -, hkind⟩ | ⟨hsig, hpiece, -⟩
    · rw [hsig, if_neg Bool.false_ne_true, List.append_nil] at h
      rw [step, hkind]
      exact ih h
    · rw [hsig, if_neg Bool.false_ne_true, List.append_nil] at h
      rw [step, hkind]
      exact ih h
    · rw [step, hkind]
    · -- the last piece would be one that ends nothing
      rw [hterm] at hpiece
      rw [hsig, if_pos rfl, List.getLast?_concat, hpiece] at h
      exact absurd (h _ rfl) Bool.false_ne_true

theorem close_nil (done : List (List Char)) : close done [] = done := rfl

/-- Where nothing is pending and the first terminator is in force, a script is read as at the beginning. -/
theorem read_eq (hpending : ∀ q ∈ (pieces [] (Text.lines a)).getLast?, q.ends = true)
    (hterm : inForce (Text.lines a) = defaultTerminator) : read a = Progress.behind (statements a) {} := by
  have hnil : (read a).pending = [] := pending_eq_nil hpending
  have hread : (read a).terminator = defaultTerminator := (reflects_foldl _).terminator.trans hterm
  have hdone : statements a = (read a).done := by
    rw [statements_eq_finish, finish]
    exact (congrArg (close _) hnil).trans (close_nil _)
  rw [hdone, Progress.behind, List.append_nil, ← hread, ← hnil]

/-! ## A script and a text behind it -/

/-- A text behind a script never alters the statements that are ended, and if nothing is pending where it begins and
the first terminator is in force, it adds its own statements. -/
theorem statements_append_newline (a b : List Char) :
    endedStatements a <+: statements (a ++ '\n' :: b) ∧
      ((∀ q ∈ (pieces [] (Text.lines a)).getLast?, q.ends = true) → inForce (Text.lines a) = defaultTerminator →
        statements (a ++ '\n' :: b) = statements a ++ statements b) := by
  constructor
  · rw [endedStatements_eq]
    exact done_prefix_statements rfl a b
  · intro hpending hterm
    rw [statements_append_cons rfl, read_eq hpending hterm, foldl_step_behind, finish_behind]
    rfl

/-- The last line of the first script is a comment without a line break, and its last directive sets the semicolon. -/
theorem statements_append_newline_comment :
    endedStatements "delimiter $\nA;\n$\ndelimiter ;\nB;\r-- end".toList = [['A', ';'], ['B']] ∧
      statements ("delimiter $\nA;\n$\ndelimiter ;\nB;\r-- end".toList ++ '\n' :: "C;\nD".toList) =
        statements "delimiter $\nA;\n$\ndelimiter ;\nB;\r-- end".toList ++ statements "C;\nD".toList :=
  ⟨by decide +kernel, (statements_append_newline _ _).2 (by decide +kernel) (by decide +kernel)⟩

end SchemaMigration.Script
