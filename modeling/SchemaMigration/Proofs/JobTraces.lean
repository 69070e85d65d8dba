import SchemaMigration.Proofs.JobLogic

/-!
# SchemaMigration.Proofs.JobTraces — what a job sends

`Sends job site db r db' es` says that `job`, started on the database `db`, ends with the result `r`, leaves the
database `db'`, and that `es` are the statements that it sends and its commits, in their order.  Reports do not
count.

* `commitsAfter_statements`, `Sends.yields` : what is committed can be told from what is sent.
* `sends_bind`, `sends_send_ok`, `sends_onDatabaseError_*` : the rules, as for what a job commits.
-/

namespace SchemaMigration

/-- A report does not count for what is committed. -/
theorem commitsAfter_statements (last : Option Sent) (k : Journal) :
    commitsAfter last (statements k) = commitsAfter last k := by
  induction k generalizing last with
  | nil => rfl
  | cons e k ih =>
    cases e with
    | notice n => exact ih last
    | sent s p => exact ih _
    | committed => exact congrArg (last.toList ++ ·) (ih none)

namespace Job

variable {α β : Type} {site : Site} {db db' db₁ db₂ : Sql.Database} {es es₁ es₂ : List Event} {cs : List Sent}

/-! ## Definitions -/

/-- `job` on the database `db` ends with `r`, leaves `db'`, and sends and commits `es`. -/
def Sends (job : Job α) (site : Site) (db : Sql.Database) (r : Except Fault α) (db' : Sql.Database)
    (es : List Event) : Prop :=
  ∃ k, Emits job site db r db' k ∧ statements k = es

/-! ## What is known of a job that sends -/

theorem Sends.run_eq {job : Job α} {r r' : Except Fault α} {j : Journal} {s : Store}
    (h : Sends job site db r db' es) (hr : job.run site ⟨.database db, j⟩ = (r', s)) :
    r' = r ∧ s.storage = .database db' ∧ statements s.journal = statements j ++ es := by
  obtain ⟨k, hk, rfl⟩ := h
  rw [hk j] at hr
  cases hr
  exact ⟨rfl, rfl, statements_append j k⟩

theorem Sends.yields {job : Job α} {r : Except Fault α} (h : Sends job site db r db' es) (hc : Commits es cs) :
    Yields job site db r db' cs := by
  obtain ⟨k, hk, rfl⟩ := h
  refine ⟨k, hk, fun last => ?_⟩
  rw [← commitsAfter_statements]
  exact hc last

/-! ## Jobs put together -/

theorem sends_pure (a : α) : Sends (pure a) site db (.ok a) db [] := ⟨[], emits_pure a, rfl⟩

theorem sends_fail (e : Fault) : Sends (fail e : Job α) site db (.error e) db [] := ⟨[], emits_fail e, rfl⟩

theorem sends_site : Sends Job.site site db (.ok site) db [] := ⟨[], emits_site, rfl⟩

theorem sends_connect : Sends connect site db (.ok ()) db [] := ⟨[], emits_connect, rfl⟩

theorem sends_notify (n : Notice) : Sends (notify n) site db (.ok ()) db [] := ⟨_, emits_record _, rfl⟩

theorem sends_commit : Sends (record .committed) site db (.ok ()) db [.committed] := ⟨_, emits_record _, rfl⟩

theorem sends_bind {job : Job α} {next : α → Job β} {a : α} {r : Except Fault β}
    (h₁ : Sends job site db (.ok a) db₁ es₁) (h₂ : Sends (next a) site db₁ r db₂ es₂) :
    Sends (job >>= next) site db r db₂ (es₁ ++ es₂) := by
  obtain ⟨k₁, e₁, rfl⟩ := h₁
  obtain ⟨k₂, e₂, rfl⟩ := h₂
  exact ⟨k₁ ++ k₂, emits_bind e₁ e₂, statements_append k₁ k₂⟩

/-- A job that sends nothing in front of another one. -/
theorem sends_bind_of_quiet {job : Job α} {next : α → Job β} {a : α} {r : Except Fault β}
    (h₁ : Sends job site db (.ok a) db₁ []) (h₂ : Sends (next a) site db₁ r db₂ es) :
    Sends (job >>= next) site db r db₂ es := sends_bind h₁ h₂

/-- A job that sends nothing behind another one. -/
theorem sends_bind_quiet {job : Job α} {next : α → Job β} {a : α} {r : Except Fault β}
    (h₁ : Sends job site db (.ok a) db₁ es) (h₂ : Sends (next a) site db₁ r db₂ []) :
    Sends (job >>= next) site db r db₂ es := by
  have h := sends_bind h₁ h₂
  rwa [List.append_nil] at h

theorem sends_bind_error {job : Job α} {next : α → Job β} {e : Fault}
    (h : Sends job site db (.error e) db' es) : Sends (job >>= next) site db (.error e) db' es := by
  obtain ⟨k, hk, hs⟩ := h
  exact ⟨k, emits_bind_error hk, hs⟩

theorem sends_rescue_error {job : Job α} {handle : Fault → Job α} {e : Fault} {r : Except Fault α}
    (h₁ : Sends job site db (.error e) db₁ es₁) (h₂ : Sends (handle e) site db₁ r db₂ es₂) :
    Sends (job.rescue handle) site db r db₂ (es₁ ++ es₂) := by
  obtain ⟨k₁, e₁, rfl⟩ := h₁
  obtain ⟨k₂, e₂, rfl⟩ := h₂
  exact ⟨k₁ ++ k₂, emits_rescue_error e₁ e₂, statements_append k₁ k₂⟩

theorem sends_onDatabaseError_ok {job : Job α} {handle : Accident → Job α} {a : α}
    (h : Sends job site db (.ok a) db' es) : Sends (job.onDatabaseError handle) site db (.ok a) db' es := by
  obtain ⟨k, hk, hs⟩ := h
  exact ⟨k, emits_rescue_ok hk, hs⟩

/-- A database error for which the job fails with something else. -/
theorem sends_onDatabaseError_database {job : Job α} {handle : Accident → Job α} {f : Sql.Fault} {e : Fault}
    (h₁ : Sends job site db (.error (.accident (.database f))) db₁ es)
    (h₂ : Sends (handle (.database f)) site db₁ (.error e) db₂ []) :
    Sends (job.onDatabaseError handle) site db (.error e) db₂ es := by
  rw [← List.append_nil es]
  exact sends_rescue_error h₁ h₂

theorem sends_onDatabaseError_other {job : Job α} {handle : Accident → Job α} {e : Fault}
    (h : Sends job site db (.error e) db' es) (he : ¬ IsDatabaseError e) :
    Sends (job.onDatabaseError handle) site db (.error e) db' es := by
  rw [← List.append_nil es]
  refine sends_rescue_error h ?_
  split
  · exact absurd ⟨_, rfl⟩ he
  · exact sends_fail _

theorem sends_send_ok {f : Sql.Database → Except Accident (α × Sql.Database)} {s : String} {p : Parameters} {a : α}
    (h : f db = .ok (a, db')) : Sends (send s p f) site db (.ok a) db' [.sent s p] := by
  refine ⟨_, emits_send_ok h, ?_⟩
  unfold sentEvents
  cases site.slow <;> rfl

theorem sends_send_error {f : Sql.Database → Except Accident (α × Sql.Database)} {s : String} {p : Parameters}
    {e : Accident} (h : f db = .error e) :
    Sends (send s p f) site db (.error (.accident e)) db [.sent s p] := ⟨_, emits_send_error h, rfl⟩

end Job

end SchemaMigration
