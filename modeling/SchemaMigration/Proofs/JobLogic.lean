import SchemaMigration.Job
import SchemaMigration.Proofs.Except

/-!
# SchemaMigration.Proofs.JobLogic — a small program logic for jobs

`Yields job site db r db' cs` says that `job`, started on the database `db`, ends with the result `r`,
leaves the database `db'` and commits the statements `cs`, whatever the journal held before.  Rules for
every way in which jobs are put together; a job is not unfolded to its journal afterwards.

* `LawfulMonad Job` : the laws by which jobs are put together in another way.
* `Commits` : the statements that a journal commits, the view in which two runs are compared.
* `yields_bind`, `yields_onDatabaseError_*`, `yields_connected_*`, `yields_transaction_*` : the rules.
* `Yields.unique` : what a job does on a database is determined.
* `Returns` : the results that a job can end with.
* `EndsWith` : the job does not look at the database at all.
* `IsReading` : the job only reads; its result is then `answer`, a function of the database alone, and
  `answer_bind` takes it apart.
-/

namespace SchemaMigration

/-! ## Definitions -/

/-- A statement as it is sent, with the values for it. -/
abbrev Sent := String × Parameters

/-- For each commit of a journal the statement that was sent last before it; `last` was sent before the
journal begins. -/
def commitsAfter (last : Option Sent) : Journal → List Sent
  | [] => []
  | .notice _ :: j => commitsAfter last j
  | .sent s p :: j => commitsAfter (some (s, p)) j
  | .committed :: j => last.toList ++ commitsAfter none j

/-- The statements that a journal commits. -/
def commits (j : Journal) : List Sent := commitsAfter none j

/-- What is sent and not committed at the end of a journal. -/
def openAfter (last : Option Sent) : Journal → Option Sent
  | [] => last
  | .notice _ :: j => openAfter last j
  | .sent s p :: j => openAfter (some (s, p)) j
  | .committed :: j => openAfter none j

/-- The journal commits the statements `cs`, whatever was sent before it. -/
def Commits (k : Journal) (cs : List Sent) : Prop := ∀ last, commitsAfter last k = cs

namespace Job

variable {α β : Type}

/-- `job` on the database `db` ends with `r`, leaves `db'` and adds `k` to the journal. -/
def Emits (job : Job α) (site : Site) (db : Sql.Database) (r : Except Fault α) (db' : Sql.Database)
    (k : Journal) : Prop :=
  ∀ j, job.run site ⟨.database db, j⟩ = (r, ⟨.database db', j ++ k⟩)

/-- `job` on the database `db` ends with `r`, leaves `db'` and commits `cs`. -/
def Yields (job : Job α) (site : Site) (db : Sql.Database) (r : Except Fault α) (db' : Sql.Database)
    (cs : List Sent) : Prop :=
  ∃ k, Emits job site db r db' k ∧ Commits k cs

/-- What `job` answers on the database `db`. -/
def answer (job : Job α) (site : Site) (db : Sql.Database) : Except Fault α :=
  (job.run site ⟨.database db, []⟩).1

/-- Every result that the job can end with at this site is one of `P`. -/
def Returns (site : Site) (P : α → Prop) (job : Job α) : Prop :=
  ∀ store a, (job.run site store).1 = .ok a → P a

/-- Whatever the store holds, the job ends with `r`, leaves the storage as it is and commits nothing. -/
def EndsWith (job : Job α) (site : Site) (r : Except Fault α) : Prop :=
  ∃ k, Commits k [] ∧ ∀ store, job.run site store = (r, ⟨store.storage, store.journal ++ k⟩)

/-- The job leaves every database as it is and commits nothing. -/
def IsReading (job : Job α) : Prop := ∀ site db, Yields job site db (job.answer site db) db []

end Job

/-! ## Commits -/

section Commits

variable {j k : Journal} {cs ds : List Sent}

theorem commitsAfter_append (last : Option Sent) (j k : Journal) :
    commitsAfter last (j ++ k) = commitsAfter last j ++ commitsAfter (openAfter last j) k := by
  induction j generalizing last with
  | nil => rfl
  | cons e j ih =>
    cases e with
    | notice n => exact ih last
    | sent s p => exact ih _
    | committed => simp only [List.cons_append, commitsAfter, openAfter, ih, List.append_assoc]

theorem openAfter_append (last : Option Sent) (j k : Journal) :
    openAfter last (j ++ k) = openAfter (openAfter last j) k := by
  induction j generalizing last with
  | nil => rfl
  | cons e j ih =>
    cases e with
    | notice n => exact ih last
    | sent s p => exact ih _
    | committed => exact ih _

theorem commits_nil : Commits [] [] := fun _ => rfl

theorem commits_notice (n : Notice) : Commits [.notice n] [] := fun _ => rfl

theorem commits_sent (s : String) (p : Parameters) : Commits [.sent s p] [] := fun _ => rfl

theorem Commits.append (hj : Commits j cs) (hk : Commits k ds) : Commits (j ++ k) (cs ++ ds) := by
  intro last
  rw [commitsAfter_append, hj, hk]

/-- What stands open when a journal is committed is committed with it. -/
theorem Commits.commit {c : Sent} (hj : Commits j cs) (hc : ∀ last, openAfter last j = some c) :
    Commits (j ++ [.committed]) (cs ++ [c]) := by
  intro last
  rw [commitsAfter_append, hj, hc]
  rfl

theorem commits_append_of (hk : Commits k cs) : commits (j ++ k) = commits j ++ cs := by
  rw [commits, commitsAfter_append, hk]
  rfl

end Commits

namespace Job

variable {α β : Type} {site : Site} {db db' db₁ db₂ : Sql.Database} {cs cs₁ cs₂ : List Sent}
  {k k₁ k₂ : Journal}

/-! ## Jobs put together -/

theorem emits_pure (a : α) : Emits (pure a) site db (.ok a) db [] := fun j => by
  rw [List.append_nil]; rfl

theorem emits_fail (e : Fault) : Emits (fail e : Job α) site db (.error e) db [] := fun j => by
  rw [List.append_nil]; rfl

theorem emits_site : Emits Job.site site db (.ok site) db [] := fun j => by
  rw [List.append_nil]; rfl

theorem emits_connect : Emits connect site db (.ok ()) db [] := fun j => by
  rw [List.append_nil]; rfl

theorem emits_record (e : Event) : Emits (record e) site db (.ok ()) db [e] := fun _ => rfl

theorem emits_bind {job : Job α} {next : α → Job β} {a : α} {r : Except Fault β}
    (h₁ : Emits job site db (.ok a) db₁ k₁) (h₂ : Emits (next a) site db₁ r db₂ k₂) :
    Emits (job >>= next) site db r db₂ (k₁ ++ k₂) := by
  intro j
  rw [run_bind_ok (h₁ j), h₂ (j ++ k₁), List.append_assoc]

theorem emits_bind_error {job : Job α} {next : α → Job β} {e : Fault}
    (h : Emits job site db (.error e) db' k) : Emits (job >>= next) site db (.error e) db' k :=
  fun j => run_bind_error (h j)

theorem run_rescue_ok {job : Job α} {handle : Fault → Job α} {a : α} {s s' : Store}
    (h : job.run site s = (.ok a, s')) : (job.rescue handle).run site s = (.ok a, s') := by
  simp only [run] at h ⊢
  simp only [rescue, h]

theorem run_rescue_error {job : Job α} {handle : Fault → Job α} {e : Fault} {s s' : Store}
    (h : job.run site s = (.error e, s')) : (job.rescue handle).run site s = (handle e).run site s' := by
  simp only [run] at h ⊢
  simp only [rescue, h]

theorem emits_rescue_ok {job : Job α} {handle : Fault → Job α} {a : α}
    (h : Emits job site db (.ok a) db' k) : Emits (job.rescue handle) site db (.ok a) db' k :=
  fun j => run_rescue_ok (h j)

theorem emits_rescue_error {job : Job α} {handle : Fault → Job α} {e : Fault} {r : Except Fault α}
    (h₁ : Emits job site db (.error e) db₁ k₁) (h₂ : Emits (handle e) site db₁ r db₂ k₂) :
    Emits (job.rescue handle) site db r db₂ (k₁ ++ k₂) := by
  intro j
  rw [run_rescue_error (h₁ j), h₂ (j ++ k₁), List.append_assoc]

instance : LawfulMonad Job := LawfulMonad.mk' Job
  (fun job => by
    funext site store
    simp only [Functor.map]
    cases job site store with
    | mk r s => cases r <;> rfl)
  (fun _ _ => rfl)
  (fun job f g => by
    funext site store
    simp only [bind]
    cases job site store with
    | mk r s => cases r <;> rfl)

/-- The result of a job, changed by a function. -/
theorem run_bind_pure (job : Job α) (f : α → β) (site : Site) (s : Store) :
    (job >>= fun a => pure (f a)).run site s = (job.run site s).map (·.map f) id := by
  cases h : job.run site s with
  | mk r t =>
    cases r with
    | ok a => exact run_bind_ok h
    | error e => exact run_bind_error h

/-- A report in front of a job adds to the journal and does nothing else. -/
theorem run_after_notify (n : Notice) (job : Job α) (site : Site) (st : Storage) (j : Journal) :
    (notify n >>= fun _ => job).run site ⟨st, j⟩ = job.run site ⟨st, j ++ [.notice n]⟩ := rfl

/-! ## Results with their commits -/

/-- A run has one result, one database and one list of commits. -/
theorem Yields.run_eq {job : Job α} {r r' : Except Fault α} {j : Journal} {s : Store}
    (h : Yields job site db r db' cs) (hr : job.run site ⟨.database db, j⟩ = (r', s)) :
    r' = r ∧ s.storage = .database db' ∧ commits s.journal = commits j ++ cs := by
  obtain ⟨k, hk, hc⟩ := h
  rw [hk j] at hr
  cases hr
  exact ⟨rfl, rfl, commits_append_of hc⟩

theorem Yields.answer_eq {job : Job α} {r : Except Fault α} (h : Yields job site db r db' cs) :
    job.answer site db = r := by
  obtain ⟨k, hk, -⟩ := h
  exact congrArg Prod.fst (hk [])

/-- A job on a database ends in one way only. -/
theorem Yields.unique {job : Job α} {r r' : Except Fault α} (h : Yields job site db r db₁ cs₁)
    (h' : Yields job site db r' db₂ cs₂) : r' = r ∧ db₂ = db₁ ∧ cs₂ = cs₁ := by
  obtain ⟨k, hk, hc⟩ := h'
  obtain ⟨hr, hst, hj⟩ := h.run_eq (hk [])
  refine ⟨hr, Storage.database.inj hst, ?_⟩
  rw [commits_append_of hc] at hj
  exact hj

theorem yields_pure (a : α) : Yields (pure a) site db (.ok a) db [] := ⟨[], emits_pure a, commits_nil⟩

theorem yields_fail (e : Fault) : Yields (fail e : Job α) site db (.error e) db [] :=
  ⟨[], emits_fail e, commits_nil⟩

theorem yields_site : Yields Job.site site db (.ok site) db [] := ⟨[], emits_site, commits_nil⟩

theorem yields_ofExcept {ε : Type} (wrap : ε → Fault) (r : Except ε α) :
    Yields (ofExcept wrap r) site db (r.mapError wrap) db [] := by
  cases r with
  | ok a => exact yields_pure a
  | error e => exact yields_fail (wrap e)

theorem yields_connect : Yields connect site db (.ok ()) db [] := ⟨[], emits_connect, commits_nil⟩

theorem yields_notify (n : Notice) : Yields (notify n) site db (.ok ()) db [] :=
  ⟨_, emits_record _, commits_notice n⟩

theorem yields_bind {job : Job α} {next : α → Job β} {a : α} {r : Except Fault β}
    (h₁ : Yields job site db (.ok a) db₁ cs₁) (h₂ : Yields (next a) site db₁ r db₂ cs₂) :
    Yields (job >>= next) site db r db₂ (cs₁ ++ cs₂) := by
  obtain ⟨k₁, e₁, c₁⟩ := h₁
  obtain ⟨k₂, e₂, c₂⟩ := h₂
  exact ⟨k₁ ++ k₂, emits_bind e₁ e₂, c₁.append c₂⟩

/-- A job that commits nothing in front of another one. -/
theorem yields_bind_of_quiet {job : Job α} {next : α → Job β} {a : α} {r : Except Fault β}
    (h₁ : Yields job site db (.ok a) db₁ []) (h₂ : Yields (next a) site db₁ r db₂ cs) :
    Yields (job >>= next) site db r db₂ cs := yields_bind h₁ h₂

/-- A job that commits nothing behind another one. -/
theorem yields_bind_quiet {job : Job α} {next : α → Job β} {a : α} {r : Except Fault β}
    (h₁ : Yields job site db (.ok a) db₁ cs) (h₂ : Yields (next a) site db₁ r db₂ []) :
    Yields (job >>= next) site db r db₂ cs := by
  have h := yields_bind h₁ h₂
  rwa [List.append_nil] at h

/-- Saying what is wrong and failing for it. -/
theorem yields_report (n : Notice) (r : Reason) :
    Yields (do notify n; failFor r : Job α) site db (.error (.ofReason r)) db [] :=
  yields_bind_of_quiet (yields_notify n) (yields_fail (.ofReason r))

theorem yields_bind_error {job : Job α} {next : α → Job β} {e : Fault}
    (h : Yields job site db (.error e) db' cs) : Yields (job >>= next) site db (.error e) db' cs := by
  obtain ⟨k, hk, hc⟩ := h
  exact ⟨k, emits_bind_error hk, hc⟩

theorem yields_rescue_ok {job : Job α} {handle : Fault → Job α} {a : α}
    (h : Yields job site db (.ok a) db' cs) : Yields (job.rescue handle) site db (.ok a) db' cs := by
  obtain ⟨k, hk, hc⟩ := h
  exact ⟨k, emits_rescue_ok hk, hc⟩

theorem yields_rescue_error {job : Job α} {handle : Fault → Job α} {e : Fault} {r : Except Fault α}
    (h₁ : Yields job site db (.error e) db₁ cs₁) (h₂ : Yields (handle e) site db₁ r db₂ cs₂) :
    Yields (job.rescue handle) site db r db₂ (cs₁ ++ cs₂) := by
  obtain ⟨k₁, e₁, c₁⟩ := h₁
  obtain ⟨k₂, e₂, c₂⟩ := h₂
  exact ⟨k₁ ++ k₂, emits_rescue_error e₁ e₂, c₁.append c₂⟩

/-! ### Database errors -/

/-- The fault is an error of the database. -/
def IsDatabaseError (e : Fault) : Prop := ∃ f, e = .accident (.database f)

theorem yields_onDatabaseError_ok {job : Job α} {handle : Accident → Job α} {a : α}
    (h : Yields job site db (.ok a) db' cs) : Yields (job.onDatabaseError handle) site db (.ok a) db' cs :=
  yields_rescue_ok h

theorem yields_onDatabaseError_database {job : Job α} {handle : Accident → Job α} {f : Sql.Fault}
    {r : Except Fault α} (h₁ : Yields job site db (.error (.accident (.database f))) db₁ cs₁)
    (h₂ : Yields (handle (.database f)) site db₁ r db₂ cs₂) :
    Yields (job.onDatabaseError handle) site db r db₂ (cs₁ ++ cs₂) :=
  yields_rescue_error h₁ h₂

theorem yields_onDatabaseError_other {job : Job α} {handle : Accident → Job α} {e : Fault}
    (h : Yields job site db (.error e) db' cs) (he : ¬ IsDatabaseError e) :
    Yields (job.onDatabaseError handle) site db (.error e) db' cs := by
  rw [← List.append_nil cs]
  refine yields_rescue_error h ?_
  cases e with
  | failure f => exact yields_fail _
  | accident a =>
    cases a with
    | database f => exact absurd ⟨f, rfl⟩ he
    | _ => exact yields_fail _

/-- The fault that is reported in the place of `e`: a failure for the reason `r` where `e` is an error of the
database. -/
def asFailure (r : Accident → Reason) : Fault → Fault
  | .accident (.database f) => .ofReason (r (.database f))
  | e => e

/-- Why a piece of work on a connection fails. -/
def connectionLost (cause : Accident) : Reason :=
  .queryFailed ("Database connection error: " ++ cause.message) none (some cause)

theorem asFailure_of_not {r : Accident → Reason} {e : Fault} (he : ¬ IsDatabaseError e) :
    asFailure r e = e := by
  unfold asFailure
  split
  · exact absurd ⟨_, rfl⟩ he
  · rfl

theorem not_isDatabaseError_ofReason (r : Reason) : ¬ IsDatabaseError (.ofReason r) := by
  rintro ⟨f, hf⟩
  cases hf

theorem yields_connected_ok {job : Job α} {a : α} (h : Yields job site db (.ok a) db' cs) :
    Yields (connected job) site db (.ok a) db' cs :=
  yields_onDatabaseError_ok (yields_bind_of_quiet yields_connect h)

theorem yields_connected_other {job : Job α} {e : Fault} (h : Yields job site db (.error e) db' cs)
    (he : ¬ IsDatabaseError e) : Yields (connected job) site db (.error e) db' cs :=
  yields_onDatabaseError_other (yields_bind_of_quiet yields_connect h) he

/-! ### Transactions -/

theorem emits_transaction_ok {job : Job α} {a : α} (h : Emits job site db (.ok a) db' k) :
    Emits (transaction job) site db (.ok a) db' (k ++ [.committed]) := by
  intro j
  have hj : (do connect; job : Job α).run site ⟨.database db, j⟩ = _ := emits_bind emits_connect h j
  simp only [run, List.nil_append] at hj ⊢
  simp only [transaction, hj, List.append_assoc]

theorem emits_transaction_error {job : Job α} {e : Fault} (h : Emits job site db (.error e) db' k) :
    Emits (transaction job) site db (.error e) db k := by
  intro j
  have hj : (do connect; job : Job α).run site ⟨.database db, j⟩ = _ := emits_bind emits_connect h j
  simp only [run, List.nil_append] at hj ⊢
  simp only [transaction, hj]

/-- What fails in a transaction leaves no trace in the database. -/
theorem yields_transaction_error {job : Job α} {e : Fault} (h : Yields job site db (.error e) db' cs) :
    Yields (transaction job) site db (.error e) db cs := by
  obtain ⟨k, hk, hc⟩ := h
  exact ⟨k, emits_transaction_error hk, hc⟩

/-! ### Statements -/

/-- What a statement adds to the journal where it succeeds. -/
def sentEvents (site : Site) (s : String) (p : Parameters) : Journal :=
  .sent s p :: if site.slow then [.notice (.slowStatement s)] else []

theorem emits_send_ok {f : Sql.Database → Except Accident (α × Sql.Database)} {s : String}
    {p : Parameters} {a : α} (h : f db = .ok (a, db')) :
    Emits (send s p f) site db (.ok a) db' (sentEvents site s p) := by
  intro j
  simp only [send, run, bind, record, change, h, Job.site, sentEvents, pure, notify]
  cases site.slow <;> simp

theorem emits_send_error {f : Sql.Database → Except Accident (α × Sql.Database)} {s : String}
    {p : Parameters} {e : Accident} (h : f db = .error e) :
    Emits (send s p f) site db (.error (.accident e)) db [.sent s p] := by
  intro j
  simp only [send, run, bind, record, change, h]

theorem commits_sentEvents (site : Site) (s : String) (p : Parameters) :
    Commits (sentEvents site s p) [] := by
  intro last
  unfold sentEvents
  cases site.slow <;> rfl

theorem openAfter_sentEvents (site : Site) (s : String) (p : Parameters) (last : Option Sent) :
    openAfter last (sentEvents site s p) = some (s, p) := by
  unfold sentEvents
  cases site.slow <;> rfl

theorem yields_send_ok {f : Sql.Database → Except Accident (α × Sql.Database)} {s : String}
    {p : Parameters} {a : α} (h : f db = .ok (a, db')) :
    Yields (send s p f) site db (.ok a) db' [] :=
  ⟨_, emits_send_ok h, commits_sentEvents site s p⟩

theorem yields_send_error {f : Sql.Database → Except Accident (α × Sql.Database)} {s : String}
    {p : Parameters} {e : Accident} (h : f db = .error e) :
    Yields (send s p f) site db (.error (.accident e)) db [] :=
  ⟨_, emits_send_error h, commits_sent s p⟩

theorem yields_ask_ok {f : Sql.Database → Except Sql.Fault α} {s : String} {values : List Sql.Value}
    {a : α} (h : f db = .ok a) : Yields (ask s values f) site db (.ok a) db [] := by
  refine yields_send_ok ?_
  simp only [h]

theorem yields_ask_error {f : Sql.Database → Except Sql.Fault α} {s : String}
    {values : List Sql.Value} {e : Sql.Fault} (h : f db = .error e) :
    Yields (ask s values f) site db (.error (.accident (.database e))) db [] := by
  refine yields_send_error ?_
  simp only [h]

/-! ## Results -/

section Results

variable {P : α → Prop} {Q : β → Prop}

theorem returns_true (job : Job α) : Returns site (fun _ => True) job := fun _ _ _ => trivial

theorem returns_pure {a : α} (h : P a) : Returns site P (pure a : Job α) := fun _ _ ha => by
  cases ha
  exact h

theorem returns_fail (e : Fault) : Returns site P (fail e : Job α) := fun _ _ ha => by cases ha

theorem returns_site : Returns site (· = site) Job.site := fun _ _ ha => by
  cases ha
  rfl

theorem returns_ofExcept {ε : Type} (wrap : ε → Fault) (r : Except ε α) :
    Returns site (fun a => r = .ok a) (ofExcept wrap r) := by
  cases r with
  | ok a => exact returns_pure rfl
  | error e => exact returns_fail _

theorem returns_bind {job : Job α} {next : α → Job β} (h : Returns site P job)
    (hn : ∀ a, P a → Returns site Q (next a)) : Returns site Q (job >>= next) := by
  intro store b hb
  cases hj : job.run site store with
  | mk r store' =>
    cases r with
    | ok a =>
      rw [run_bind_ok hj] at hb
      exact hn a (h store a (by rw [hj])) store' b hb
    | error e =>
      rw [run_bind_error hj] at hb
      cases hb

theorem returns_rescue {job : Job α} {handle : Fault → Job α} (h : Returns site P job)
    (hh : ∀ e, Returns site P (handle e)) : Returns site P (job.rescue handle) := by
  intro store a ha
  simp only [rescue, run] at ha
  cases hj : job site store with
  | mk r store' =>
    cases r with
    | ok b =>
      simp only [hj, Except.ok.injEq] at ha
      subst ha
      exact h store b (by rw [run, hj])
    | error e =>
      simp only [hj] at ha
      exact hh e store' a ha

theorem returns_connected {job : Job α} (h : Returns site P job) : Returns site P (connected job) := by
  refine returns_rescue (returns_bind (returns_true _) fun _ _ => h) fun e => ?_
  split
  · exact returns_bind (returns_true _) fun _ _ => returns_fail _
  · exact returns_fail _

end Results

/-! ## Jobs that do not look at the database -/

section AnyStore

theorem endsWith_pure (a : α) : EndsWith (pure a) site (.ok a) :=
  ⟨[], commits_nil, fun store => by rw [List.append_nil]; rfl⟩

theorem endsWith_fail (e : Fault) : EndsWith (fail e : Job α) site (.error e) :=
  ⟨[], commits_nil, fun store => by rw [List.append_nil]; rfl⟩

theorem endsWith_site : EndsWith Job.site site (.ok site) :=
  ⟨[], commits_nil, fun store => by rw [List.append_nil]; rfl⟩

theorem endsWith_notify (n : Notice) : EndsWith (notify n) site (.ok ()) :=
  ⟨_, commits_notice n, fun _ => rfl⟩

theorem endsWith_ofExcept {ε : Type} {wrap : ε → Fault} {x : Except ε α} {r : Except Fault α}
    (h : x.mapError wrap = r) : EndsWith (ofExcept wrap x) site r := by
  subst h
  cases x with
  | ok a => exact endsWith_pure a
  | error e => exact endsWith_fail (wrap e)

theorem endsWith_bind {job : Job α} {next : α → Job β} {a : α} {r : Except Fault β}
    (h : EndsWith job site (.ok a)) (hn : EndsWith (next a) site r) : EndsWith (job >>= next) site r := by
  obtain ⟨k, hk, hrun⟩ := h
  obtain ⟨l, hl, hnext⟩ := hn
  refine ⟨k ++ l, hk.append hl, fun store => ?_⟩
  rw [run_bind_ok (hrun store), hnext, List.append_assoc]

theorem endsWith_bind_error {job : Job α} {next : α → Job β} {e : Fault} (h : EndsWith job site (.error e)) :
    EndsWith (job >>= next) site (.error e) := by
  obtain ⟨k, hk, hrun⟩ := h
  exact ⟨k, hk, fun store => run_bind_error (hrun store)⟩

theorem EndsWith.yields {job : Job α} {r : Except Fault α} (h : EndsWith job site r) : Yields job site db r db [] := by
  obtain ⟨k, hk, hrun⟩ := h
  exact ⟨k, fun j => hrun ⟨.database db, j⟩, hk⟩

theorem EndsWith.returns {job : Job α} {r : Except Fault α} (h : EndsWith job site r) :
    Returns site (fun a => r = .ok a) job := by
  obtain ⟨k, -, hrun⟩ := h
  intro store a ha
  rwa [hrun store] at ha

end AnyStore

/-! ## Reading -/

theorem isReading_of {job : Job α} (h : ∀ site db, ∃ r, Yields job site db r db []) : IsReading job := by
  intro site db
  obtain ⟨r, hr⟩ := h site db
  rwa [hr.answer_eq]

theorem IsReading.yields {job : Job α} {r : Except Fault α} (h : IsReading job)
    (ha : job.answer site db = r) : Yields job site db r db [] := by
  rw [← ha]
  exact h site db

theorem IsReading.run_fst {job : Job α} {s : Store} (h : IsReading job)
    (hs : s.storage = .database db) : (job.run site s).1 = job.answer site db := by
  obtain ⟨storage, j⟩ := s
  cases hs
  exact ((h site db).run_eq rfl).1

theorem isReading_pure (a : α) : IsReading (pure a : Job α) := isReading_of fun _ _ => ⟨_, yields_pure a⟩

theorem isReading_fail (e : Fault) : IsReading (fail e : Job α) := isReading_of fun _ _ => ⟨_, yields_fail e⟩

theorem isReading_failFor (r : Reason) : IsReading (failFor r : Job α) := isReading_fail _

theorem isReading_site : IsReading Job.site := isReading_of fun _ _ => ⟨_, yields_site⟩

theorem isReading_notify (n : Notice) : IsReading (notify n) := isReading_of fun _ _ => ⟨_, yields_notify n⟩

theorem isReading_ofExcept {ε : Type} (wrap : ε → Fault) (r : Except ε α) :
    IsReading (ofExcept wrap r) := by
  cases r with
  | ok a => exact isReading_pure a
  | error e => exact isReading_fail _

theorem isReading_bind {job : Job α} {next : α → Job β} (h : IsReading job)
    (hn : ∀ a, IsReading (next a)) : IsReading (job >>= next) := by
  refine isReading_of fun site db => ?_
  cases ha : job.answer site db with
  | ok a => exact ⟨_, yields_bind_of_quiet (h.yields ha) (hn a site db)⟩
  | error e => exact ⟨_, yields_bind_error (h.yields ha)⟩

theorem isReading_ask (s : String) (values : List Sql.Value)
    (f : Sql.Database → Except Sql.Fault α) : IsReading (ask s values f) := by
  refine isReading_of fun site db => ?_
  cases h : f db with
  | ok a => exact ⟨_, yields_ask_ok h⟩
  | error e => exact ⟨_, yields_ask_error h⟩

theorem isReading_onDatabaseError {job : Job α} {handle : Accident → Job α} (h : IsReading job)
    (hh : ∀ c, IsReading (handle c)) : IsReading (job.onDatabaseError handle) := by
  refine isReading_of fun site db => ?_
  cases ha : job.answer site db with
  | ok a => exact ⟨_, yields_onDatabaseError_ok (h.yields ha)⟩
  | error e =>
    have hj := h.yields ha
    by_cases he : IsDatabaseError e
    · obtain ⟨f, rfl⟩ := he
      exact ⟨_, yields_onDatabaseError_database hj (hh _ site db)⟩
    · exact ⟨_, yields_onDatabaseError_other hj he⟩

theorem isReading_connect : IsReading connect := isReading_of fun _ _ => ⟨_, yields_connect⟩

theorem isReading_connected {job : Job α} (h : IsReading job) : IsReading (connected job) :=
  isReading_onDatabaseError (isReading_bind isReading_connect fun _ => h) fun _ =>
    isReading_bind (isReading_notify _) fun _ => isReading_failFor _

/-- A job behind a condition. -/
theorem isReading_require {job : Job α} (h : IsReading job) (b : Bool) (r : Reason) :
    IsReading (do unless b do failFor r
                  job : Job α) := by
  cases b with
  | true => exact h
  | false => exact isReading_bind (isReading_failFor r) fun _ => h

/-! ### Answers -/

@[simp] theorem answer_pure (a : α) : (pure a : Job α).answer site db = .ok a := rfl

@[simp] theorem answer_site : Job.site.answer site db = .ok site := rfl

@[simp] theorem answer_ofExcept {ε : Type} (wrap : ε → Fault) (r : Except ε α) :
    (ofExcept wrap r).answer site db = r.mapError wrap := by
  cases r <;> rfl

theorem answer_bind {job : Job α} {next : α → Job β} (h : IsReading job)
    (hn : ∀ a, IsReading (next a)) :
    (job >>= next).answer site db = (job.answer site db).bind fun a => (next a).answer site db := by
  cases ha : job.answer site db with
  | ok a => exact (yields_bind_of_quiet (h.yields ha) (hn a site db)).answer_eq
  | error e => exact (yields_bind_error (h.yields ha)).answer_eq

theorem answer_bind_eq_ok {job : Job α} {next : α → Job β} {b : β} (h : IsReading job)
    (hn : ∀ a, IsReading (next a)) :
    (job >>= next).answer site db = .ok b ↔
      ∃ a, job.answer site db = .ok a ∧ (next a).answer site db = .ok b := by
  rw [answer_bind h hn]
  exact bind_eq_ok_iff

theorem require_eq_ok_iff {job : Job α} (h : IsReading job) {b : Bool} {r : Reason} {a : α} :
    (do unless b do failFor r
        job : Job α).answer site db = .ok a ↔ b = true ∧ job.answer site db = .ok a := by
  cases b with
  | true => exact ⟨fun ha => ⟨rfl, ha⟩, fun ha => ha.2⟩
  | false =>
    have hf : (do unless false do failFor r
                  job : Job α).answer site db = .error (.ofReason r) :=
      answer_bind (isReading_failFor r) fun _ => h
    rw [hf]
    simp

theorem answer_ask (s : String) (values : List Sql.Value) (f : Sql.Database → Except Sql.Fault α) :
    (ask s values f).answer site db = (f db).mapError fun e => .accident (.database e) := by
  cases h : f db with
  | ok a => exact (yields_ask_ok h).answer_eq
  | error e => exact (yields_ask_error h).answer_eq

theorem answer_reported {job : Job α} (h : IsReading job) (n : Accident → Notice)
    (r : Accident → Reason) :
    (job.onDatabaseError fun c => do notify (n c); failFor (r c)).answer site db =
      (job.answer site db).mapError (asFailure r) := by
  cases ha : job.answer site db with
  | ok a => exact (yields_onDatabaseError_ok (h.yields ha)).answer_eq
  | error e =>
    have hj := h.yields ha
    by_cases he : IsDatabaseError e
    · obtain ⟨f, rfl⟩ := he
      exact (yields_onDatabaseError_database hj (yields_report _ _)).answer_eq
    · have hr : Except.error (asFailure r e) = (Except.error e : Except Fault α) := by
        rw [asFailure_of_not he]
      exact (yields_onDatabaseError_other hj he).answer_eq.trans hr.symm

theorem answer_connected {job : Job α} (h : IsReading job) :
    (connected job).answer site db = (job.answer site db).mapError (asFailure connectionLost) := by
  have hr : IsReading (do connect; job : Job α) := isReading_bind isReading_connect fun _ => h
  have hc : (do connect; job : Job α).answer site db = job.answer site db :=
    answer_bind isReading_connect fun _ => h
  exact (answer_reported hr _ _).trans (congrArg _ hc)

end Job

end SchemaMigration
