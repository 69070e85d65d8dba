import SchemaMigration.Proofs.FolderSize
import SchemaMigration.Proofs.Upgrade.Step

/-!
# SchemaMigration.Proofs.Upgrade.Loop — the steps of an upgrade, one after the other

The version that was reached so far is carried along, and a step that is not above it is passed over.  So which
steps are carried out is known in advance, whatever their order, and an upgrade is a sequence of operations.

* `Operation`, `Performs` : what changes a database, and a sequence of it.
* `pending`, `reached` : the steps that are carried out, and the version that they lead to.
* `isGreatestOf_reached`, `le_reached_pending` : that version is the greatest of all.
* `applyStep_cases`, `foldlM_applyStep_cases` : one step of the loop, and the loop.
-/

namespace SchemaMigration.Upgrade

open Job
open ScriptRun (alone runAll)

/-! ## Definitions -/

/-- What changes a database in an upgrade. -/
inductive Operation where
  /-- A statement of a script. -/
  | run (stmt : String)
  | writeVersion (v : Version)
  | updateSizes
  deriving DecidableEq, Repr

/-- The operation makes `db'` of `db` and commits `cs`. -/
inductive Operation.Does (site : Site) :
    Operation → Sql.Database → Sql.Database → List Sent → Prop
  | run {stmt : String} {db db' : Sql.Database} (h : site.execute stmt db = .ok db') :
      Does site (.run stmt) db db' [alone stmt]
  | writeVersion {v : Version} {t : String} {db db' : Sql.Database}
      (h : Yields (InstalledVersion.set v) site db (.ok t) db' [InstalledVersion.writing t v]) :
      Does site (.writeVersion v) db db' [InstalledVersion.writing t v]
  | updateSizes {errors : List Failure} {db db' : Sql.Database} {cs : List Sent}
      (h : Yields Upgrade.updateSizes site db (.ok errors) db' cs) :
      Does site .updateSizes db db' cs

/-- The operations, one after the other, make `db'` of `db` and commit `cs`. -/
inductive Performs (site : Site) :
    List Operation → Sql.Database → Sql.Database → List Sent → Prop
  | nil {db : Sql.Database} : Performs site [] db db []
  | cons {op : Operation} {ops : List Operation} {db db₁ db₂ : Sql.Database} {cs ds : List Sent}
      (h : op.Does site db db₁ cs) (hs : Performs site ops db₁ db₂ ds) :
      Performs site (op :: ops) db db₂ (cs ++ ds)

/-- All statements of a step. -/
def statementsOf (site : Site) (step : Step) : List String :=
  statementsAt site (ddlPath site step.name) ++ statementsAt site (dmlPath site step.name)

/-- What is done for a step. -/
def operationsOf (site : Site) (step : Step) : List Operation :=
  (statementsAt site (ddlPath site step.name)).map .run ++
    ((statementsAt site (dmlPath site step.name)).map .run ++
      .writeVersion step.version :: if step.version.Same sizesVersion then [.updateSizes] else [])

/-- The steps that are carried out from the version `v` on. -/
def pending (v : Version) : List Step → List Step
  | [] => []
  | step :: steps => if step.version ≤ v then pending v steps else step :: pending step.version steps

/-- The version that is reached from `v` when the steps were carried out. -/
def reached (v : Version) (steps : List Step) : Version := steps.foldl (fun _ step => step.version) v

/-- One of the versions, and none of them is above it. -/
def IsGreatestOf (v : Version) (vs : List Version) : Prop := v ∈ vs ∧ ∀ w ∈ vs, w ≤ v

/-- The report after one more step, with what went wrong with the folder sizes. -/
def Report.after (report : Report) (step : Step) (errors : List Failure) : Report :=
  { report with
    final := step.version
    applied := report.applied ++ [step.name]
    sizeErrors := report.sizeErrors ++ errors }

/-- The report after further steps, with what went wrong with the folder sizes. -/
def Report.afterAll (report : Report) (steps : List Step) (errors : List Failure) : Report :=
  { report with
    final := reached report.final steps
    applied := report.applied ++ steps.map (·.name)
    sizeErrors := report.sizeErrors ++ errors }

/-! ## Operations -/

section Operations

variable {site : Site} {db db₁ db₂ : Sql.Database} {op : Operation} {ops ops' : List Operation}
  {cs ds : List Sent}

theorem Performs.append (h : Performs site ops db db₁ cs) (h' : Performs site ops' db₁ db₂ ds) :
    Performs site (ops ++ ops') db db₂ (cs ++ ds) := by
  induction h with
  | nil => exact h'
  | cons hop _ ih =>
    rw [List.append_assoc]
    exact .cons hop (ih h')

theorem Performs.single (h : op.Does site db db₁ cs) : Performs site [op] db db₁ cs := by
  rw [← List.append_nil cs]
  exact .cons h .nil

theorem Performs.append_inv (h : Performs site (ops ++ ops') db db₂ cs) :
    ∃ db₁ cs₁ cs₂, Performs site ops db db₁ cs₁ ∧ Performs site ops' db₁ db₂ cs₂ ∧ cs = cs₁ ++ cs₂ := by
  induction ops generalizing db cs with
  | nil => exact ⟨db, [], cs, .nil, h, rfl⟩
  | cons op ops ih =>
    cases h with
    | cons hop hrest =>
      obtain ⟨db₁, cs₁, cs₂, h₁, h₂, rfl⟩ := ih hrest
      exact ⟨db₁, _, cs₂, .cons hop h₁, h₂, (List.append_assoc _ _ _).symm⟩

theorem Performs.single_inv (h : Performs site [op] db db₁ cs) : op.Does site db db₁ cs := by
  cases h with
  | cons hop hrest =>
    cases hrest
    rwa [List.append_nil]

theorem performs_run {stmts : List String} (h : runAll site.execute stmts db = .ok db₁) :
    Performs site (stmts.map .run) db db₁ (stmts.map alone) := by
  induction stmts generalizing db with
  | nil =>
    cases h
    exact .nil
  | cons s ss ih =>
    unfold runAll at h
    cases hs : site.execute s db with
    | error e => simp [hs] at h
    | ok d =>
      simp only [hs] at h
      exact .cons (.run hs) (ih h)

theorem operationsOf_eq (site : Site) (step : Step) :
    operationsOf site step = (statementsOf site step).map .run ++
      .writeVersion step.version :: if step.version.Same sizesVersion then [.updateSizes] else [] := by
  simp only [operationsOf, statementsOf, List.map_append, List.append_assoc]

end Operations

/-! ## The steps that are carried out -/

section Pending

variable {u v w : Version} {step : Step} {steps steps' : List Step} {vs : List Version}

theorem pending_cons_of_le (h : step.version ≤ v) : pending v (step :: steps) = pending v steps := if_pos h

theorem pending_cons_of_lt (h : v < step.version) :
    pending v (step :: steps) = step :: pending step.version steps := if_neg (Version.not_le.2 h)

@[simp] theorem reached_nil : reached v [] = v := rfl

@[simp] theorem reached_cons : reached v (step :: steps) = reached step.version steps := rfl

theorem reached_append : reached v (steps ++ steps') = reached (reached v steps) steps' := List.foldl_append

theorem pending_sublist (v : Version) (steps : List Step) : (pending v steps).Sublist steps := by
  induction steps generalizing v with
  | nil => exact .slnil
  | cons step steps ih =>
    unfold pending
    split
    · exact (ih v).cons step
    · exact (ih _).cons_cons step

theorem le_reached_pending_self (v : Version) (steps : List Step) : v ≤ reached v (pending v steps) := by
  induction steps generalizing v with
  | nil => exact le_refl v
  | cons step steps ih =>
    by_cases hle : step.version ≤ v
    · rw [pending_cons_of_le hle]
      exact ih v
    · have hlt := Version.not_le.1 hle
      rw [pending_cons_of_lt hlt]
      exact le_trans (le_of_lt hlt) (ih _)

/-- No step leads above the version that is reached. -/
theorem le_reached_pending (h : step ∈ steps) : step.version ≤ reached v (pending v steps) := by
  induction steps generalizing v with
  | nil => cases h
  | cons s steps ih =>
    by_cases hle : s.version ≤ v
    · rw [pending_cons_of_le hle]
      rcases List.mem_cons.1 h with rfl | h
      · exact le_trans hle (le_reached_pending_self v steps)
      · exact ih h
    · rw [pending_cons_of_lt (Version.not_le.1 hle)]
      rcases List.mem_cons.1 h with rfl | h
      · exact le_reached_pending_self _ steps
      · exact ih h

/-- Each step that is carried out leads above the version at the start and above all steps before it. -/
theorem pending_ascends (v : Version) (steps : List Step) :
    (∀ s ∈ pending v steps, v < s.version) ∧ (pending v steps).Pairwise fun a b => a.version < b.version := by
  induction steps generalizing v with
  | nil => exact ⟨fun s hs => (nomatch hs), .nil⟩
  | cons step steps ih =>
    by_cases hle : step.version ≤ v
    · rw [pending_cons_of_le hle]
      exact ih v
    · have hlt := Version.not_le.1 hle
      rw [pending_cons_of_lt hlt]
      obtain ⟨habove, hsorted⟩ := ih step.version
      refine ⟨fun s hs => ?_, .cons habove hsorted⟩
      rcases List.mem_cons.1 hs with rfl | hs
      · exact hlt
      · exact lt_trans hlt (habove s hs)

theorem isGreatestOf_self (v : Version) : IsGreatestOf v [v] := ⟨List.mem_singleton.2 rfl, fun w hw => by
  rw [List.mem_singleton.1 hw]⟩

theorem IsGreatestOf.cons_of_lt (h : IsGreatestOf u (w :: vs)) (hlt : v < w) : IsGreatestOf u (v :: w :: vs) := by
  refine ⟨List.mem_cons_of_mem _ h.1, fun x hx => ?_⟩
  rcases List.mem_cons.1 hx with rfl | hx
  · exact le_trans (le_of_lt hlt) (h.2 w List.mem_cons_self)
  · exact h.2 x hx

/-- The version that is reached is the greatest of that at the start and those of the steps. -/
theorem isGreatestOf_reached (v : Version) (steps : List Step) :
    IsGreatestOf (reached v (pending v steps)) (v :: (pending v steps).map (·.version)) := by
  induction steps generalizing v with
  | nil => exact isGreatestOf_self v
  | cons step steps ih =>
    by_cases hle : step.version ≤ v
    · rw [pending_cons_of_le hle]
      exact ih v
    · have hlt := Version.not_le.1 hle
      rw [pending_cons_of_lt hlt]
      exact (ih step.version).cons_of_lt hlt

end Pending

/-! ## One step -/

section OneStep

variable {site : Site} {db : Sql.Database} {report : Report} {step : Step}

/-- New folder sizes never stop an upgrade. -/
theorem yields_updateSizes (site : Site) (db : Sql.Database) :
    ∃ errors cs, Yields updateSizes site db (.ok errors) (FolderSize.resizeAll FolderSize.defaultTable db) cs := by
  obtain ⟨o, cs, h⟩ := FolderSize.yields_updateAll site db FolderSize.defaultTable
  have hforM : ∀ (fs : List Failure) (d : Sql.Database),
      Yields (fs.forM fun f => notify (.sizesNotUpdated f.message)) site d (.ok ()) d [] := by
    intro fs d
    induction fs with
    | nil => exact yields_pure ()
    | cons f fs ih => exact yields_bind_of_quiet (yields_notify _) ih
  exact ⟨o.errors, cs, yields_bind_quiet h (yields_bind_of_quiet (hforM o.errors _) (yields_pure _))⟩

theorem eq_resizeAll_of_does {db' : Sql.Database} {cs : List Sent}
    (h : Operation.updateSizes.Does site db db' cs) :
    db' = FolderSize.resizeAll FolderSize.defaultTable db := by
  cases h with
  | updateSizes hy =>
    obtain ⟨errors, cs', hsizes⟩ := yields_updateSizes site db
    exact (hsizes.unique hy).2.1

/-- The part of a step before the folder sizes. -/
theorem performs_of_completes {v : Version} {db' : Sql.Database} {cs : List Sent}
    (hname : Step.ofName step.name = .ok step) (h : Completes site step.name db v db' cs) :
    v = step.version ∧ Performs site
      ((statementsAt site (ddlPath site step.name)).map .run ++
        ((statementsAt site (dmlPath site step.name)).map .run ++ [.writeVersion step.version])) db db' cs := by
  obtain ⟨hname', hddl, hdml, hrun, hset⟩ := h
  rw [hname] at hname'
  cases hname'
  rw [statementsAt_ok hddl, statementsAt_ok hdml, ← List.append_assoc, ← List.map_append]
  exact ⟨rfl, (performs_run hrun).append (.single (.writeVersion hset))⟩

/-- A step above the version that was reached so far fails, or does what it should. -/
theorem applyStep_cases (hname : Step.ofName step.name = .ok step) (hlt : report.final < step.version)
    (db : Sql.Database) :
    (∃ e db' cs, Yields (applyStep report step) site db (.error e) db' cs) ∨
      ∃ errors db' cs, Yields (applyStep report step) site db (.ok (report.after step errors)) db' cs ∧
        Performs site (operationsOf site step) db db' cs := by
  have hle : ¬ step.version ≤ report.final := Version.not_le.2 hlt
  unfold applyStep
  rw [if_neg hle]
  rcases step_cases site step.name db with ⟨v, db₁, cs₁, hc⟩ | ⟨e, done, hs⟩
  swap
  · obtain ⟨db', -, hy⟩ := yields_step_of_stops hs
    exact .inl ⟨e, db', _, yields_bind_of_quiet (yields_notify _) (yields_bind_error hy)⟩
  obtain ⟨rfl, hp⟩ := performs_of_completes hname hc
  have hstep := yields_step_of_completes hc
  refine .inr ?_
  unfold operationsOf
  by_cases hsame : step.version.Same sizesVersion
  · -- the folder sizes are computed again, and their failures do not matter
    obtain ⟨errors, cs₂, hu⟩ := yields_updateSizes site db₁
    refine ⟨errors, FolderSize.resizeAll FolderSize.defaultTable db₁, cs₁ ++ cs₂,
      yields_bind_of_quiet (yields_notify _) (yields_bind hstep ?_), ?_⟩
    · rw [if_pos hsame]
      exact yields_bind_quiet hu (yields_pure _)
    · rw [if_pos hsame]
      have hboth := hp.append (.single (.updateSizes hu))
      simpa only [List.append_assoc, List.cons_append, List.nil_append] using hboth
  · refine ⟨[], db₁, cs₁, yields_bind_of_quiet (yields_notify _) (yields_bind_quiet hstep ?_), ?_⟩
    · rw [if_neg hsame]
      exact yields_bind_of_quiet (yields_pure []) (yields_pure _)
    · rw [if_neg hsame]
      exact hp

end OneStep

/-! ## The loop -/

theorem Report.afterAll_nil (report : Report) : report.afterAll [] [] = report := by
  simp [afterAll]

theorem Report.afterAll_after (report : Report) (step : Step) (steps : List Step) (errors errors' : List Failure) :
    (report.after step errors).afterAll steps errors' = report.afterAll (step :: steps) (errors ++ errors') := by
  simp [afterAll, after]

section Loop

variable {steps : List Step}

/-- The loop fails, or it carries out the steps that are pending. -/
theorem foldlM_applyStep_cases (site : Site) (hnames : ∀ s ∈ steps, Step.ofName s.name = .ok s)
    (report : Report) (db : Sql.Database) :
    (∃ e db' cs, Yields (steps.foldlM applyStep report) site db (.error e) db' cs) ∨
      ∃ errors db' cs, Yields (steps.foldlM applyStep report) site db
          (.ok (report.afterAll (pending report.final steps) errors)) db' cs ∧
        Performs site ((pending report.final steps).flatMap (operationsOf site)) db db' cs := by
  induction steps generalizing report db with
  | nil =>
    refine .inr ⟨[], db, [], ?_, .nil⟩
    rw [pending, Report.afterAll_nil]
    exact yields_pure report
  | cons step steps ih =>
    have hrest := ih fun s hs => hnames s (List.mem_cons_of_mem _ hs)
    rw [List.foldlM_cons]
    by_cases hle : step.version ≤ report.final
    · -- a step that is not newer is passed over
      rw [pending_cons_of_le hle, applyStep_of_le hle]
      rcases hrest report db with ⟨e, db', cs, hy⟩ | ⟨errors, db', cs, hy, hp⟩
      · exact .inl ⟨e, db', cs, yields_bind_of_quiet (yields_pure report) hy⟩
      · exact .inr ⟨errors, db', cs, yields_bind_of_quiet (yields_pure report) hy, hp⟩
    · have hlt := Version.not_le.1 hle
      rw [pending_cons_of_lt hlt]
      rcases applyStep_cases (hnames step List.mem_cons_self) hlt db with
        ⟨e, db', cs, hy⟩ | ⟨errors₁, db₁, cs₁, hy₁, hp₁⟩
      · exact .inl ⟨e, db', cs, yields_bind_error hy⟩
      rcases hrest (report.after step errors₁) db₁ with ⟨e, db', cs, hy⟩ | ⟨errors, db', cs, hy, hp⟩
      · exact .inl ⟨e, db', _, yields_bind hy₁ hy⟩
      · rw [Report.afterAll_after] at hy
        refine .inr ⟨errors₁ ++ errors, db', _, yields_bind hy₁ hy, ?_⟩
        rw [List.flatMap_cons]
        exact hp₁.append hp

/-- Where no step is newer, the loop does nothing. -/
theorem yields_foldlM_applyStep_of_le {site : Site} {db : Sql.Database} {report : Report}
    (h : ∀ s ∈ steps, s.version ≤ report.final) :
    Yields (steps.foldlM applyStep report) site db (.ok report) db [] := by
  induction steps with
  | nil => exact yields_pure report
  | cons step steps ih =>
    rw [List.foldlM_cons, applyStep_of_le (h step List.mem_cons_self)]
    exact yields_bind_of_quiet (yields_pure report) (ih fun s hs => h s (List.mem_cons_of_mem _ hs))

end Loop

end SchemaMigration.Upgrade
