import SchemaMigration.Proofs.JobLogic
import SchemaMigration.Proofs.Sql.Others

/-!
# SchemaMigration.Proofs.JobPairs — two runs side by side

Two databases differ in one table.  Jobs that are run on them go side by side if they end in the same way, leave
databases that again differ in that table only, and report and send the same, but for stretches that are left open.
Rules for every way in which jobs are put together, as for a single run.

* `Margin` : the table in which the databases may differ, and the stretches in which the journals may.
* `Alike` : journals that are the same but for such stretches.
* `GoAlong` : two jobs that go side by side.
* `goAlong_bind`, `goAlong_rescue`, `goAlong_connected`, `goAlong_transaction`, `goAlong_send` : the rules.
-/

namespace SchemaMigration

/-! ## Definitions -/

/-- Where two runs may differ: in one table of the database, and in stretches of the journal. -/
structure Margin where
  table : String
  stretch : Journal → Prop

/-- The journals are the same, but for stretches that stand in the same places. -/
inductive Alike (m : Margin) : Journal → Journal → Prop
  | nil : Alike m [] []
  | event (e : Event) {k k' : Journal} (h : Alike m k k') : Alike m (e :: k) (e :: k')
  | stretch {a a' k k' : Journal} (ha : m.stretch a) (ha' : m.stretch a') (h : Alike m k k') :
      Alike m (a ++ k) (a' ++ k')

namespace Job

variable {α β γ δ : Type}

/-- Two runs end with related results, or with the same fault. -/
inductive SameEnd (R : α → β → Prop) : Except Fault α → Except Fault β → Prop
  | ok {a : α} {b : β} (h : R a b) : SameEnd R (.ok a) (.ok b)
  | error (e : Fault) : SameEnd R (.error e) (.error e)

/-- On databases that differ in the table of the margin only, the jobs end in the same way, with such databases
again, and with journals that are alike. -/
def GoAlong (site : Site) (m : Margin) (R : α → β → Prop) (job : Job α) (job' : Job β) : Prop :=
  ∀ db db', db.without m.table = db'.without m.table →
    ∃ r r' d d' k k', Emits job site db r d k ∧ Emits job' site db' r' d' k' ∧ SameEnd R r r' ∧
      d.without m.table = d'.without m.table ∧ Alike m k k'

end Job

/-! ## Journals -/

section Journals

variable {m : Margin} {k k' l l' : Journal}

theorem Alike.refl (m : Margin) (k : Journal) : Alike m k k := by
  induction k with
  | nil => exact .nil
  | cons e k ih => exact .event e ih

theorem Alike.append (h : Alike m k k') (h' : Alike m l l') : Alike m (k ++ l) (k' ++ l') := by
  induction h with
  | nil => exact h'
  | event e _ ih => exact .event e ih
  | stretch ha ha' _ ih =>
    rw [List.append_assoc, List.append_assoc]
    exact .stretch ha ha' ih

theorem Alike.of_stretch (h : m.stretch k) (h' : m.stretch k') : Alike m k k' := by
  rw [← List.append_nil k, ← List.append_nil k']
  exact .stretch h h' .nil

end Journals

namespace Job

variable {α β γ δ : Type} {site : Site} {m : Margin} {R : α → β → Prop} {S : γ → δ → Prop}

/-! ## Jobs put together -/

theorem goAlong_pure {a : α} {b : β} (h : R a b) : GoAlong site m R (pure a) (pure b) := fun _ _ heq =>
  ⟨_, _, _, _, _, _, emits_pure a, emits_pure b, .ok h, heq, .nil⟩

theorem goAlong_fail (e : Fault) : GoAlong site m R (fail e) (fail e) := fun _ _ heq =>
  ⟨_, _, _, _, _, _, emits_fail e, emits_fail e, .error e, heq, .nil⟩

theorem goAlong_record (e : Event) : GoAlong site m Eq (record e) (record e) := fun _ _ heq =>
  ⟨_, _, _, _, _, _, emits_record e, emits_record e, .ok rfl, heq, .event e .nil⟩

theorem goAlong_connect : GoAlong site m Eq connect connect := fun _ _ heq =>
  ⟨_, _, _, _, _, _, emits_connect, emits_connect, .ok rfl, heq, .nil⟩

theorem goAlong_ofExcept {ε : Type} (wrap : ε → Fault) (r : Except ε α) :
    GoAlong site m Eq (ofExcept wrap r) (ofExcept wrap r) := by
  cases r with
  | ok a => exact goAlong_pure rfl
  | error e => exact goAlong_fail _

theorem goAlong_bind {job : Job α} {job' : Job β} {next : α → Job γ} {next' : β → Job δ}
    (h : GoAlong site m R job job') (hn : ∀ a b, R a b → GoAlong site m S (next a) (next' b)) :
    GoAlong site m S (job >>= next) (job' >>= next') := by
  intro db db' heq
  obtain ⟨r, r', d, d', k, k', hk, hk', hend, hd, halike⟩ := h db db' heq
  cases hend with
  | error e => exact ⟨_, _, _, _, _, _, emits_bind_error hk, emits_bind_error hk', .error e, hd, halike⟩
  | ok hab =>
    obtain ⟨q, q', f, f', l, l', hl, hl', hend', hf, halike'⟩ := hn _ _ hab d d' hd
    exact ⟨_, _, _, _, _, _, emits_bind hk hl, emits_bind hk' hl', hend', hf, halike.append halike'⟩

/-- The same result is handed on in both runs. -/
theorem goAlong_bind_eq {job : Job α} {next : α → Job γ} {next' : α → Job δ} (h : GoAlong site m Eq job job)
    (hn : ∀ a, GoAlong site m S (next a) (next' a)) : GoAlong site m S (job >>= next) (job >>= next') := by
  refine goAlong_bind h fun a b hab => ?_
  subst hab
  exact hn a

/-- The same, with what is known of the answers. -/
theorem goAlong_bind_of_answer {P : α → Prop} {job : Job α} {next : α → Job γ} {next' : α → Job δ}
    (h : GoAlong site m Eq job job) (hp : ∀ db a, job.answer site db = .ok a → P a)
    (hn : ∀ a, P a → GoAlong site m S (next a) (next' a)) : GoAlong site m S (job >>= next) (job >>= next') := by
  have hboth : GoAlong site m (fun a b => a = b ∧ P a) job job := by
    intro db db' heq
    obtain ⟨r, r', d, d', k, k', hk, hk', hend, hd, halike⟩ := h db db' heq
    refine ⟨r, r', d, d', k, k', hk, hk', ?_, hd, halike⟩
    cases hend with
    | error e => exact .error e
    | ok hab => exact .ok ⟨hab, hp db _ (by rw [answer, hk []])⟩
  refine goAlong_bind hboth fun a b hab => ?_
  obtain ⟨rfl, ha⟩ := hab
  exact hn a ha

/-- The same, with what is known of the result on every store. -/
theorem goAlong_bind_of_returns {P : α → Prop} {job : Job α} {next : α → Job γ} {next' : α → Job δ}
    (h : GoAlong site m Eq job job) (hp : Returns site P job)
    (hn : ∀ a, P a → GoAlong site m S (next a) (next' a)) : GoAlong site m S (job >>= next) (job >>= next') :=
  goAlong_bind_of_answer h (fun _ => hp _) hn

theorem goAlong_bind_site {next : Site → Job γ} {next' : Site → Job δ}
    (h : GoAlong site m S (next site) (next' site)) :
    GoAlong site m S (Job.site >>= next) (Job.site >>= next') := by
  intro db db' heq
  obtain ⟨r, r', d, d', k, k', hk, hk', hrest⟩ := h db db' heq
  exact ⟨r, r', d, d', _, _, emits_bind emits_site hk, emits_bind emits_site hk', hrest⟩

/-- A report, or another event, in front of both jobs. -/
theorem goAlong_after_record (e : Event) {job : Job γ} {job' : Job δ} (h : GoAlong site m S job job') :
    GoAlong site m S (record e >>= fun _ => job) (record e >>= fun _ => job') :=
  goAlong_bind_eq (goAlong_record e) fun _ => h

theorem goAlong_foldlM {f : β → α → Job β} {R : β → β → Prop} {l : List α}
    (h : ∀ b b', R b b' → ∀ a ∈ l, GoAlong site m R (f b a) (f b' a)) {b b' : β} (hb : R b b') :
    GoAlong site m R (l.foldlM f b) (l.foldlM f b') := by
  induction l generalizing b b' with
  | nil => exact goAlong_pure hb
  | cons a l ih =>
    rw [List.foldlM_cons, List.foldlM_cons]
    refine goAlong_bind (h b b' hb a List.mem_cons_self) fun c c' hc => ?_
    exact ih (fun b b' hb a ha => h b b' hb a (List.mem_cons_of_mem _ ha)) hc

/-! ## Faults that are handled -/

theorem goAlong_rescue {job : Job α} {job' : Job β} {handle : Fault → Job α} {handle' : Fault → Job β}
    (h : GoAlong site m R job job') (hh : ∀ e, GoAlong site m R (handle e) (handle' e)) :
    GoAlong site m R (job.rescue handle) (job'.rescue handle') := by
  intro db db' heq
  obtain ⟨r, r', d, d', k, k', hk, hk', hend, hd, halike⟩ := h db db' heq
  cases hend with
  | ok hab => exact ⟨_, _, _, _, _, _, emits_rescue_ok hk, emits_rescue_ok hk', .ok hab, hd, halike⟩
  | error e =>
    obtain ⟨q, q', f, f', l, l', hl, hl', hend', hf, halike'⟩ := hh e d d' hd
    exact ⟨_, _, _, _, _, _, emits_rescue_error hk hl, emits_rescue_error hk' hl', hend', hf,
      halike.append halike'⟩

theorem goAlong_onDatabaseError {job : Job α} {job' : Job β} {handle : Accident → Job α}
    {handle' : Accident → Job β} (h : GoAlong site m R job job')
    (hh : ∀ c, GoAlong site m R (handle c) (handle' c)) :
    GoAlong site m R (job.onDatabaseError handle) (job'.onDatabaseError handle') := by
  refine goAlong_rescue h fun e => ?_
  cases e with
  | failure f => exact goAlong_fail _
  | accident a =>
    cases a with
    | database f => exact hh _
    | _ => exact goAlong_fail _

/-- A report of what is wrong, and the failure for it. -/
theorem goAlong_report (n : Notice) (r : Reason) :
    GoAlong site m R (do notify n; failFor r) (do notify n; failFor r) :=
  goAlong_after_record _ (goAlong_fail _)

theorem goAlong_connected {job : Job α} {job' : Job β} (h : GoAlong site m R job job') :
    GoAlong site m R (connected job) (connected job') :=
  goAlong_onDatabaseError (goAlong_bind_eq goAlong_connect fun _ => h) fun _ => goAlong_report _ _

/-- What is undone is undone in both runs. -/
theorem goAlong_transaction {job : Job α} {job' : Job β} (h : GoAlong site m R job job') :
    GoAlong site m R (transaction job) (transaction job') := by
  intro db db' heq
  obtain ⟨r, r', d, d', k, k', hk, hk', hend, hd, halike⟩ := h db db' heq
  cases hend with
  | ok hab =>
    refine ⟨_, _, _, _, _, _, emits_transaction_ok hk, emits_transaction_ok hk', .ok hab, hd, ?_⟩
    exact halike.append (.refl m _)
  | error e => exact ⟨_, _, _, _, _, _, emits_transaction_error hk, emits_transaction_error hk', .error e, heq, halike⟩

/-! ## Statements -/

/-- A change that does not see the table of the margin. -/
theorem goAlong_send (s : String) (p : Parameters) {f : Sql.Database → Except Accident (α × Sql.Database)}
    (hf : ∀ db, f (db.without m.table) = (f db).map fun r => (r.1, r.2.without m.table)) :
    GoAlong site m Eq (send s p f) (send s p f) := by
  intro db db' heq
  have hsame : (f db).map (fun r => (r.1, r.2.without m.table)) = (f db').map fun r => (r.1, r.2.without m.table) := by
    rw [← hf, ← hf, heq]
  cases h : f db with
  | error e =>
    cases h' : f db' with
    | ok r => rw [h, h'] at hsame; cases hsame
    | error e' =>
      rw [h, h'] at hsame
      cases hsame
      exact ⟨_, _, _, _, _, _, emits_send_error h, emits_send_error h', .error _, heq, .refl m _⟩
  | ok r =>
    cases h' : f db' with
    | error e' => rw [h, h'] at hsame; cases hsame
    | ok r' =>
      obtain ⟨a, d⟩ := r
      obtain ⟨a', d'⟩ := r'
      rw [h, h'] at hsame
      simp only [Except.map, Except.ok.injEq, Prod.mk.injEq] at hsame
      obtain ⟨rfl, hd⟩ := hsame
      exact ⟨_, _, _, _, _, _, emits_send_ok h, emits_send_ok h', .ok rfl, hd, .refl m _⟩

/-- A question that does not see the table of the margin. -/
theorem goAlong_ask (s : String) (values : List Sql.Value) {f : Sql.Database → Except Sql.Fault α}
    (hf : ∀ db, f (db.without m.table) = f db) : GoAlong site m Eq (ask s values f) (ask s values f) := by
  refine goAlong_send _ _ fun db => ?_
  rw [hf]
  cases f db <;> rfl

end Job

end SchemaMigration
