import SchemaMigration.Proofs.JobLogic

/-!
# SchemaMigration.Proofs.JobFaults — the faults that a job can end with

`FailsIn cause P job` says that every fault of `job` is one of `P`, whatever it is started on.  What keeps a
connection from being made can be anything, so it stands in the statement: it comes through unless the job handles
it.

* `Covers`, `Admits` : the faults of `P` take in why there is no connection, as it is or as an error of the database.
* `failsIn_bind`, `failsIn_rescue`, `failsIn_onDatabaseError`, `failsIn_transaction`, `failsIn_connected` : the rules.
-/

namespace SchemaMigration.Job

variable {α β : Type} {cause : Option Accident} {P : Fault → Prop}

/-! ## Definitions -/

/-- Where `cause` is why there is no connection, if there is none, every fault that the job can end with is one of
`P`; and the job leaves that as it is. -/
def FailsIn (cause : Option Accident) (P : Fault → Prop) (job : Job α) : Prop :=
  ∀ site store, store.storage.cause? = cause →
    (job.run site store).2.storage.cause? = cause ∧ ∀ e, (job.run site store).1 = .error e → P e

/-- Why there is no connection, if there is none, is one of `P`. -/
def Covers (P : Fault → Prop) (cause : Option Accident) : Prop := ∀ a, cause = some a → P (.accident a)

/-- Why there is no connection, if there is none, is an error of the database or one of `P`. -/
def Admits (P : Fault → Prop) (cause : Option Accident) : Prop := Covers (fun e => IsDatabaseError e ∨ P e) cause

/-! ## Jobs put together -/

theorem failsIn_pure (a : α) : FailsIn cause P (pure a : Job α) := fun _ _ hs => ⟨hs, fun _ h => by cases h⟩

theorem failsIn_fail {e : Fault} (h : P e) : FailsIn cause P (fail e : Job α) := fun _ _ hs =>
  ⟨hs, fun _ h' => by cases h'; exact h⟩

theorem failsIn_site : FailsIn cause P Job.site := fun _ _ hs => ⟨hs, fun _ h => by cases h⟩

theorem failsIn_record (e : Event) : FailsIn cause P (record e) := fun _ _ hs => ⟨hs, fun _ h => by cases h⟩

theorem failsIn_bind {job : Job α} {next : α → Job β} (h : FailsIn cause P job)
    (hn : ∀ a, FailsIn cause P (next a)) : FailsIn cause P (job >>= next) := by
  intro site store hs
  obtain ⟨hs', he⟩ := h site store hs
  cases hj : job.run site store with
  | mk r store' =>
    rw [hj] at hs' he
    cases r with
    | ok a =>
      rw [run_bind_ok hj]
      exact hn a site store' hs'
    | error e =>
      rw [run_bind_error hj]
      exact ⟨hs', fun _ h => he _ (by cases h; rfl)⟩

theorem failsIn_foldlM {f : β → α → Job β} (h : ∀ b a, FailsIn cause P (f b a)) (l : List α) (b : β) :
    FailsIn cause P (l.foldlM f b) := by
  induction l generalizing b with
  | nil => exact failsIn_pure b
  | cons a l ih =>
    rw [List.foldlM_cons]
    exact failsIn_bind (h b a) ih

theorem failsIn_ofExcept {ε : Type} {wrap : ε → Fault} {r : Except ε α} (h : ∀ e, P (wrap e)) :
    FailsIn cause P (ofExcept wrap r) := by
  cases r with
  | ok a => exact failsIn_pure a
  | error e => exact failsIn_fail (h e)

theorem FailsIn.mono {Q : Fault → Prop} {job : Job α} (h : FailsIn cause P job) (hq : ∀ e, P e → Q e) :
    FailsIn cause Q job := fun site store hs => (h site store hs).imp_right fun he e h => hq e (he e h)

theorem failsIn_rescue {Q : Fault → Prop} {job : Job α} {handle : Fault → Job α} (h : FailsIn cause Q job)
    (hh : ∀ e, Q e → FailsIn cause P (handle e)) : FailsIn cause P (job.rescue handle) := by
  intro site store hs
  obtain ⟨hs', he⟩ := h site store hs
  cases hj : job.run site store with
  | mk r store' =>
    rw [hj] at hs' he
    cases r with
    | ok a =>
      rw [run_rescue_ok hj]
      exact ⟨hs', fun _ h => by cases h⟩
    | error e =>
      rw [run_rescue_error hj]
      exact hh e (he e rfl) site store' hs'

/-- Where database errors are handled, the others are left. -/
theorem failsIn_onDatabaseError {job : Job α} {handle : Accident → Job α}
    (h : FailsIn cause (fun e => IsDatabaseError e ∨ P e) job) (hh : ∀ c, FailsIn cause P (handle c)) :
    FailsIn cause P (job.onDatabaseError handle) := by
  refine failsIn_rescue h fun e he => ?_
  rcases he with ⟨f, rfl⟩ | he
  · exact hh _
  · split
    · exact hh _
    · exact failsIn_fail he

theorem failsIn_connect (hc : Covers P cause) : FailsIn cause P connect := by
  rintro site ⟨storage, j⟩ hs
  refine ⟨?_, fun e he => ?_⟩
  · cases storage <;> exact hs
  · cases storage with
    | unreachable a =>
      cases he
      exact hc a hs.symm
    | notADatabase => cases he
    | database db => cases he

section Sending

variable (hc : Covers P cause) (hd : ∀ f, P (.accident (.database f)))

include hc hd in
/-- A change of the database ends with the errors of the change itself, or with those of the database. -/
theorem failsIn_change {f : Sql.Database → Except Accident (α × Sql.Database)}
    (hf : ∀ db e, f db = .error e → P (.accident e)) : FailsIn cause P (change f) := by
  rintro site ⟨storage, j⟩ hs
  cases storage with
  | unreachable a =>
    refine ⟨hs, fun e he => ?_⟩
    cases he
    exact hc a hs.symm
  | notADatabase =>
    refine ⟨hs, fun e he => ?_⟩
    cases he
    exact hd _
  | database db =>
    simp only [change, run]
    cases hfdb : f db with
    | ok p => exact ⟨hs, fun e he => by cases he⟩
    | error a =>
      refine ⟨hs, fun e he => ?_⟩
      cases he
      exact hf _ _ hfdb

include hc hd in
theorem failsIn_send (s : String) (p : Parameters) {f : Sql.Database → Except Accident (α × Sql.Database)}
    (hf : ∀ db e, f db = .error e → P (.accident e)) : FailsIn cause P (send s p f) := by
  refine failsIn_bind (failsIn_record _) fun _ => failsIn_bind (failsIn_change hc hd hf) fun _ => ?_
  refine failsIn_bind failsIn_site fun site => ?_
  cases site.slow with
  | true => exact failsIn_bind (failsIn_record _) fun _ => failsIn_pure _
  | false => exact failsIn_pure _

include hc hd in
theorem failsIn_ask (s : String) (values : List Sql.Value) (f : Sql.Database → Except Sql.Fault α) :
    FailsIn cause P (ask s values f) := by
  refine failsIn_send hc hd _ _ fun db e he => ?_
  split at he
  · cases he
  · cases he
    exact hd _

include hc in
theorem failsIn_transaction {job : Job α} (h : FailsIn cause P job) : FailsIn cause P (transaction job) := by
  intro site store hs
  obtain ⟨hs', he⟩ := failsIn_bind (failsIn_connect hc) (fun _ => h) site store hs
  simp only [run] at hs' he
  simp only [transaction, run]
  cases hj : (do connect; job : Job α) site store with
  | mk r after =>
    rw [hj] at hs' he
    cases r with
    | ok a => exact ⟨hs', fun _ h => by cases h⟩
    | error e => exact ⟨hs, fun _ h => he _ (by cases h; rfl)⟩

end Sending

/-- A report of a database error and the failure for it. -/
theorem failsIn_report (n : Notice) {r : Reason} (h : P (.ofReason r)) :
    FailsIn cause P (do notify n; failFor r : Job α) := failsIn_bind (failsIn_record _) fun _ => failsIn_fail h

theorem failsIn_connected {job : Job α} (hc : Admits P cause)
    (h : FailsIn cause (fun e => IsDatabaseError e ∨ P e) job)
    (hq : ∀ message query cause, P (.ofReason (.queryFailed message query cause))) :
    FailsIn cause P (connected job) := by
  refine failsIn_onDatabaseError (failsIn_bind (failsIn_connect hc) fun _ => h) fun _ => ?_
  exact failsIn_report _ (hq _ _ _)

end SchemaMigration.Job
