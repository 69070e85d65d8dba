import SchemaMigration.Proofs.InstalledVersion.Beside
import SchemaMigration.Proofs.Upgrade.Calls

/-!
# SchemaMigration.Proofs.Upgrade.Written — the versions that an upgrade asks for, and those in the journal

An upgrade that lists its calls says which versions it asks to be written.  The updates that are sent for them stand
in the journal, among all that is sent otherwise: questions to the catalog, the statements of scripts, and folder
sizes.  Here the one is read off the other.

* `writtenText?`, `writtenTexts` : the texts that a journal writes as versions.
* `Writes` : a job whose journal writes a beginning of the given texts, and all of them where it ends well.
* `writes_set` : a version is written once; everything else in an upgrade writes none.
* `Listed.Mirrors` : work whose list of calls agrees with the journal.
* `latest_written`, `latest_written_ascends` : the updates of a whole upgrade.
-/

namespace SchemaMigration

open Job

variable {α β γ : Type} {s : String} {ts us : List String}

/-! ## Definitions -/

namespace InstalledVersion

/-- The statement that writes the version in a table. -/
def updateOf (name : String) : String := "UPDATE " ++ name ++ " SET version = " ++ placed "version"

/-- The text that an event writes as the version. -/
def writtenText? : Event → Option String
  | .sent statement (.once [.text s]) => if statement ∈ [table, legacyTable].map updateOf then some s else none
  | _ => none

/-- The texts that a journal writes as versions, in their order. -/
def writtenTexts (k : Journal) : List String := k.filterMap writtenText?

end InstalledVersion

open InstalledVersion (writtenText? writtenTexts)

namespace Job

/-- What the job writes as versions is a beginning of `ts`, and all of it where the job ends well. -/
def Writes (job : Job α) (ts : List String) : Prop :=
  ∀ site store, ∃ k, (job.run site store).2.journal = store.journal ++ k ∧ writtenTexts k <+: ts ∧
    ∀ a, (job.run site store).1 = .ok a → writtenTexts k = ts

end Job

/-! ## Rules -/

@[simp] theorem InstalledVersion.writtenTexts_append (k l : Journal) :
    writtenTexts (k ++ l) = writtenTexts k ++ writtenTexts l := List.filterMap_append

namespace Job

theorem writes_pure (a : α) : Writes (pure a : Job α) [] := fun _ _ =>
  ⟨[], (List.append_nil _).symm, List.prefix_rfl, fun _ _ => rfl⟩

/-- A job that ends with a fault may have had anything to write. -/
theorem writes_fail (e : Fault) (ts : List String) : Writes (fail e : Job α) ts := fun _ _ =>
  ⟨[], (List.append_nil _).symm, List.nil_prefix, fun _ h => by cases h⟩

theorem writes_site : Writes Job.site [] := fun _ _ =>
  ⟨[], (List.append_nil _).symm, List.prefix_rfl, fun _ _ => rfl⟩

theorem writes_ofExcept {ε : Type} (wrap : ε → Fault) (r : Except ε α) : Writes (ofExcept wrap r) [] := by
  cases r with
  | ok a => exact writes_pure a
  | error e => exact writes_fail _ _

theorem writes_record (e : Event) : Writes (record e) (writtenTexts [e]) := fun _ _ =>
  ⟨[e], rfl, List.prefix_rfl, fun _ _ => rfl⟩

theorem writes_notify (n : Notice) : Writes (notify n) [] := writes_record (.notice n)

theorem writes_bind {P : α → Prop} {job : Job α} {next : α → Job β} (h : Writes job ts)
    (hp : ∀ site, Returns site P job) (hn : ∀ a, P a → Writes (next a) us) : Writes (job >>= next) (ts ++ us) := by
  intro site store
  obtain ⟨k, hk, hpre, hall⟩ := h site store
  cases hj : job.run site store with
  | mk r store' =>
    rw [hj] at hk hall
    cases r with
    | error e =>
      rw [run_bind_error hj]
      exact ⟨k, hk, hpre.trans (List.prefix_append _ _), fun _ h => by cases h⟩
    | ok a =>
      rw [run_bind_ok hj]
      obtain ⟨l, hl, hpre', hall'⟩ := hn a (hp site store a (by rw [hj])) site store'
      have hts : writtenTexts k = ts := hall a rfl
      refine ⟨k ++ l, by rw [hl, hk, List.append_assoc], ?_, fun b hb => ?_⟩
      · rw [InstalledVersion.writtenTexts_append, hts]
        exact (List.prefix_append_right_inj _).2 hpre'
      · rw [InstalledVersion.writtenTexts_append, hts, hall' b hb]

/-- A job that writes nothing in front of another one. -/
theorem writes_after {job : Job α} {next : α → Job β} (h : Writes job []) (hn : ∀ a, Writes (next a) us) :
    Writes (job >>= next) us := writes_bind h (fun _ => returns_true _) fun a _ => hn a

/-- A job that writes nothing behind another one. -/
theorem writes_before {job : Job α} {next : α → Job β} (h : Writes job ts) (hn : ∀ a, Writes (next a) []) :
    Writes (job >>= next) ts := by
  rw [← List.append_nil ts]
  exact writes_bind h (fun _ => returns_true _) fun a _ => hn a

theorem writes_foldlM {f : β → α → Job β} (h : ∀ b a, Writes (f b a) []) (l : List α) (b : β) :
    Writes (l.foldlM f b) [] := by
  induction l generalizing b with
  | nil => exact writes_pure b
  | cons a l ih =>
    rw [List.foldlM_cons]
    exact writes_after (h b a) ih

/-- What handles a fault has the rest to write. -/
theorem writes_rescue {job : Job α} {handle : Fault → Job α} (h : Writes job ts)
    (hh : ∀ e us, us <:+ ts → Writes (handle e) us) : Writes (job.rescue handle) ts := by
  intro site store
  obtain ⟨k, hk, hpre, hall⟩ := h site store
  cases hj : job.run site store with
  | mk r store' =>
    rw [hj] at hk hall
    cases r with
    | ok a =>
      rw [run_rescue_ok hj]
      exact ⟨k, hk, hpre, fun b _ => hall a rfl⟩
    | error e =>
      rw [run_rescue_error hj]
      obtain ⟨us, rfl⟩ := hpre
      obtain ⟨l, hl, hpre', hall'⟩ := hh e us (List.suffix_append _ _) site store'
      refine ⟨k ++ l, by rw [hl, hk, List.append_assoc], ?_, fun b hb => ?_⟩
      · rw [InstalledVersion.writtenTexts_append]
        exact (List.prefix_append_right_inj _).2 hpre'
      · rw [InstalledVersion.writtenTexts_append, hall' b hb]

theorem writes_onDatabaseError {job : Job α} {handle : Accident → Job α} (h : Writes job ts)
    (hh : ∀ cause us, us <:+ ts → Writes (handle cause) us) : Writes (job.onDatabaseError handle) ts := by
  refine writes_rescue h fun e us hus => ?_
  split
  · exact hh _ us hus
  · exact writes_fail _ us

/-- Saying what is wrong and failing for it. -/
theorem writes_report (n : Notice) (r : Reason) (ts : List String) : Writes (do notify n; failFor r : Job α) ts :=
  writes_after (writes_notify n) fun _ => writes_fail _ ts

theorem writes_connect : Writes connect [] := by
  rintro site ⟨storage, j⟩
  cases storage <;> exact ⟨[], (List.append_nil _).symm, List.prefix_rfl, fun _ _ => rfl⟩

theorem writes_change (f : Sql.Database → Except Accident (α × Sql.Database)) : Writes (change f) [] := by
  rintro site ⟨storage, j⟩
  refine ⟨[], ?_, List.prefix_rfl, fun _ _ => rfl⟩
  rw [List.append_nil]
  cases storage with
  | unreachable cause => rfl
  | notADatabase => rfl
  | database db =>
    simp only [change, run]
    cases f db <;> rfl

theorem writes_send (statement : String) (p : Parameters)
    (f : Sql.Database → Except Accident (α × Sql.Database)) :
    Writes (send statement p f) (writtenTexts [.sent statement p]) := by
  refine writes_before (writes_record _) fun _ => writes_after (writes_change f) fun a => ?_
  refine writes_after writes_site fun site => ?_
  cases site.slow with
  | true => exact writes_after (writes_notify _) fun _ => writes_pure a
  | false => exact writes_pure a

/-- A statement that writes no version. -/
theorem writes_send_nil {statement : String} {p : Parameters}
    (f : Sql.Database → Except Accident (α × Sql.Database)) (h : writtenText? (.sent statement p) = none) :
    Writes (send statement p f) [] := by
  have hs := writes_send statement p f
  rwa [writtenTexts, List.filterMap_cons_none h] at hs

theorem writes_transaction {job : Job α} (h : Writes job ts) : Writes (transaction job) ts := by
  intro site store
  obtain ⟨k, hk, hpre, hall⟩ := writes_after writes_connect (fun _ => h) site store
  simp only [transaction, run] at hk hall ⊢
  cases hj : (do connect; job : Job α) site store with
  | mk r after =>
    rw [hj] at hk hall
    cases r with
    | error e => exact ⟨k, hk, hpre, fun _ h => by cases h⟩
    | ok a =>
      have hcommit : writtenTexts (k ++ [.committed]) = writtenTexts k := by
        rw [InstalledVersion.writtenTexts_append]
        exact List.append_nil _
      refine ⟨k ++ [.committed], by rw [← List.append_assoc, ← hk], ?_, fun b _ => ?_⟩
      · rw [hcommit]
        exact hpre
      · rw [hcommit]
        exact hall a rfl

theorem writes_connected {job : Job α} (h : Writes job ts) : Writes (connected job) ts :=
  writes_onDatabaseError (writes_after writes_connect fun _ => h) fun _ us _ => writes_report _ _ us

end Job

/-! ## The installed version -/

namespace InstalledVersion

theorem writes_askCatalog {query : (String → String) → Vendor → String} {values : List (String × String)}
    (f : Site → Sql.Database → Except Sql.Fault Bool)
    (h : ∀ vendor, writtenText? (.sent (query placed vendor) (.once (values.map fun v => .text v.2))) = none) :
    Writes (askCatalog query values f) [] := by
  refine writes_after writes_site fun site => ?_
  exact writes_onDatabaseError (writes_send_nil _ (h site.vendor)) fun _ us _ => writes_report _ _ us

theorem writes_tableKnown (name : String) : Writes (tableKnown name) [] := by
  refine writes_after writes_site fun site => writes_askCatalog _ fun vendor => ?_
  have hquery : Vendor.tableQuery placed vendor ∉ [table, legacyTable].map updateOf := by
    cases vendor <;> decide
  exact if_neg hquery

theorem writes_columnKnown (name column : String) : Writes (columnKnown name column) [] :=
  writes_after writes_site fun _ => writes_askCatalog _ fun _ => rfl

theorem writes_current (name : String) : Writes (current name) [] := by
  refine writes_after writes_site fun site => writes_after (writes_connected ?_) fun v => writes_ofExcept _ _
  refine writes_after (writes_tableKnown _) fun known => ?_
  have hrow : ∀ folded, Writes (readRow folded) [] := fun folded =>
    writes_onDatabaseError (writes_send_nil _ rfl) fun _ us _ => writes_report _ _ us
  cases known with
  | true => exact hrow _
  | false => exact writes_after (writes_fail _ _) fun _ => hrow _

theorem writes_existingTables : Writes existingTables [] := by
  refine writes_connected ?_
  induction [table, legacyTable] with
  | nil => exact writes_pure _
  | cons name names ih => exact writes_after (writes_tableKnown name) fun _ => writes_after ih fun _ => writes_pure _

theorem writes_stored (names : List String) : Writes (stored names) [] := by
  induction names with
  | nil => exact writes_pure _
  | cons name names ih =>
    refine writes_after (writes_current name) fun v => ?_
    cases v with
    | some v => exact writes_pure _
    | none => exact ih

theorem writes_resolveTable : Writes resolveTable [] := by
  refine writes_after writes_existingTables fun names => ?_
  match names with
  | [] => exact writes_fail _ _
  | [name] => exact writes_pure _
  | _ :: _ :: _ => exact writes_after (writes_stored _) fun _ => writes_pure _

theorem writes_writeRow {name : String} (hname : name ∈ [table, legacyTable]) (v : Version) :
    Writes (writeRow name v) [v.text] := by
  have hone : writtenTexts [.sent (updateOf name) (.once [.text v.text])] = [v.text] :=
    List.filterMap_cons_some (if_pos (List.mem_map_of_mem hname))
  rw [← hone]
  refine writes_before (writes_onDatabaseError (writes_send _ _ _) fun _ us _ => writes_report _ _ us) fun count => ?_
  split
  · exact writes_fail _ _
  · exact writes_pure _

/-- Writing a version sends one update, which writes its text. -/
theorem writes_set (v : Version) : Writes (set v) [v.text] := by
  rw [← List.nil_append [v.text]]
  refine writes_bind writes_resolveTable (fun _ => returns_resolveTable) fun name hname => ?_
  refine writes_before (writes_connected (writes_transaction (writes_writeRow hname v))) fun _ => ?_
  exact writes_after (writes_notify _) fun _ => writes_pure _

theorem writes_detect : Writes detect [] := by
  refine writes_after writes_existingTables fun names => ?_
  match names with
  | [] =>
    refine writes_after (writes_connected ?_) fun v => ?_
    · refine writes_after (writes_columnKnown _ _) fun column => ?_
      cases column with
      | true => exact writes_pure _
      | false =>
        refine writes_after (writes_tableKnown _) fun known => ?_
        cases known <;> exact writes_pure _
    · cases v with
      | some v => exact writes_pure _
      | none => exact writes_report _ _ _
  | name :: names =>
    refine writes_after (writes_stored _) fun v => ?_
    cases v with
    | some v => exact writes_pure _
    | none => exact writes_fail _ _

end InstalledVersion

/-! ## Scripts, releases and folder sizes -/

namespace ScriptRun

theorem writes_load (path : String) : Writes (load path) [] := by
  refine writes_after (writes_after writes_site fun site => ?_) fun found => ?_
  · refine writes_after (writes_ofExcept _ _) fun bytes => ?_
    cases bytes with
    | some bytes => exact writes_pure _
    | none => exact writes_fail _ _
  · obtain ⟨file, bytes⟩ := found
    dsimp only
    cases Loaded.ofBytes path bytes with
    | ok script => exact writes_pure _
    | error e => exact writes_report _ _ _

/-- The statements of a script are sent without values, and so write no version. -/
theorem writes_runStatements (path : String) (number : Nat) (stmts : List String) :
    Writes (runStatements path number stmts) [] := by
  induction stmts generalizing number with
  | nil => exact writes_pure _
  | cons stmt stmts ih =>
    refine writes_after ?_ fun _ => ih _
    refine writes_after (writes_notify _) fun _ => writes_after writes_site fun site => ?_
    refine writes_after ?_ fun _ => writes_record _
    exact writes_onDatabaseError (writes_send_nil _ rfl) fun _ us _ => writes_fail _ us

theorem writes_execute (path : String) : Writes (execute path) [] := by
  refine writes_after (writes_load path) fun script => writes_after ?_ fun _ => ?_
  · refine writes_onDatabaseError ?_ fun _ us _ => writes_fail _ us
    exact writes_after writes_connect fun _ => writes_runStatements _ _ _
  · exact writes_after (writes_notify _) fun _ => writes_pure _

end ScriptRun

namespace Release

theorem writes_readSteps (directory : Path) (entries : List (String × Node)) :
    Writes (readSteps directory entries) [] := by
  induction entries with
  | nil => exact writes_pure _
  | cons entry entries ih =>
    refine writes_after ?_ fun _ => writes_after ih fun _ => writes_pure _
    refine writes_after (writes_ofExcept _ _) fun _ => ?_
    split
    · split
      · exact writes_pure _
      · exact writes_after (writes_notify _) fun _ => writes_pure _
      · exact writes_fail _ _
    · exact writes_pure _

theorem writes_steps : Writes steps [] := by
  refine writes_after writes_site fun site => writes_after (writes_ofExcept _ _) fun found => ?_
  cases found with
  | true => exact writes_after (writes_readSteps _ _) fun _ => writes_pure _
  | false => exact writes_after (writes_notify _) fun _ => writes_pure _

theorem writes_softVersion : Writes softVersion [] := by
  refine writes_after writes_site fun site => writes_after (writes_ofExcept _ _) fun found => ?_
  cases found with
  | none => exact writes_fail _ _
  | some bytes => exact writes_after (writes_ofExcept _ _) fun _ => writes_ofExcept _ _

end Release

namespace FolderSize

/-- Sizes are sent three values at a time, or for several folders at once. -/
theorem writtenText?_parametersOf (statement : String) (type : ResourceType) (totals : List (Sql.Value × Sql.Value)) :
    writtenText? (.sent statement (parametersOf type totals)) = none := by
  match totals with
  | [] => rfl
  | [(_, size)] => cases size <;> rfl
  | _ :: _ :: _ => rfl

theorem writes_updateRows (table : String) (type : ResourceType) : Writes (updateRows table type) [] := by
  refine writes_after (writes_send_nil _ rfl) fun read => ?_
  obtain ⟨declared, rows⟩ := read
  dsimp only
  split
  · exact writes_fail _ _
  · refine writes_after (writes_ofExcept _ _) fun totals => ?_
    cases totals.isEmpty with
    | true => exact writes_pure _
    | false => exact writes_after (writes_send_nil _ (writtenText?_parametersOf _ _ _)) fun _ => writes_pure _

theorem writes_updateAll (table : String) : Writes (updateAll table) [] := by
  refine writes_foldlM (fun o type => writes_rescue ?_ fun e us hus => ?_) _ _
  · refine writes_after ?_ fun _ => writes_pure _
    exact writes_after (writes_transaction (writes_updateRows table type)) fun _ =>
      writes_after (writes_notify _) fun _ => writes_pure _
  · rw [List.suffix_nil.1 hus]
    exact writes_pure _

end FolderSize

/-! ## Upgrades -/

namespace Upgrade

theorem writes_runStepScript (name : String) (kind : ScriptKind) : Writes (runStepScript name kind) [] := by
  refine writes_after writes_site fun site => writes_after ?_ fun _ => writes_notify _
  refine writes_rescue (writes_after (ScriptRun.writes_execute _) fun _ => writes_pure _) fun e us _ => ?_
  cases e with
  | failure f => exact writes_after (writes_notify _) fun _ => writes_fail _ us
  | accident a => exact writes_fail _ us

theorem writes_updateSizes : Writes updateSizes [] := by
  have hnotices : ∀ fs : List Failure, Writes (fs.forM fun f => notify (.sizesNotUpdated f.message)) [] := by
    intro fs
    induction fs with
    | nil => exact writes_pure _
    | cons f fs ih => exact writes_after (writes_notify _) fun _ => ih
  exact writes_after (FolderSize.writes_updateAll _) fun o => writes_after (hnotices _) fun _ => writes_pure _

/-- The texts of the versions that are to be written. -/
def texts (calls : List Call) : List String := (writes calls).map (·.text)

@[simp] theorem texts_append (calls calls' : List Call) : texts (calls ++ calls') = texts calls ++ texts calls' := by
  simp [texts]

namespace Listed

/-- The journal of the work writes the versions that are listed, but for the last of them where the work stops at
it. -/
def Mirrors (work : Listed α) : Prop :=
  ∀ site store, ∃ k, (work site store).1.2.journal = store.journal ++ k ∧
    (writtenTexts k = texts (work site store).2 ∨
      ∃ e calls v, (work site store).1.1 = .error e ∧ (work site store).2 = calls ++ [.write v] ∧
        writtenTexts k = texts calls)

theorem mirrors_pure (a : α) : Mirrors (pure a : Listed α) := fun _ _ => ⟨[], (List.append_nil _).symm, .inl rfl⟩

theorem mirrors_silent {job : Job α} (h : Writes job []) : Mirrors (silent job) := by
  intro site store
  obtain ⟨k, hk, hpre, -⟩ := h site store
  exact ⟨k, hk, .inl (List.prefix_nil.1 hpre)⟩

theorem mirrors_bind {work : Listed α} {next : α → Listed β} (h : Mirrors work) (hn : ∀ a, Mirrors (next a)) :
    Mirrors (work >>= next) := by
  intro site store
  obtain ⟨k, hk, hw⟩ := h site store
  simp only [bind]
  cases hrun : work site store with
  | mk e made =>
  rw [hrun] at hk hw
  obtain ⟨r, store'⟩ := e
  cases r with
  | error e =>
    refine ⟨k, hk, hw.imp_right ?_⟩
    rintro ⟨_, calls, v, -, hcalls, hw⟩
    exact ⟨e, calls, v, rfl, hcalls, hw⟩
  | ok a =>
    have hmade : writtenTexts k = texts made := by
      rcases hw with hw | ⟨e, -, -, he, -⟩
      · exact hw
      · cases he
    obtain ⟨l, hl, hw'⟩ := hn a site store'
    refine ⟨k ++ l, ?_, ?_⟩
    · rw [hl, ← List.append_assoc]
      exact congrArg (· ++ l) hk
    rcases hw' with hw' | ⟨e, calls, v, he, hcalls, hw'⟩
    · exact .inl (by rw [InstalledVersion.writtenTexts_append, texts_append, hmade, hw'])
    · refine .inr ⟨e, made ++ calls, v, he, ?_, ?_⟩
      · rw [List.append_assoc]
        exact congrArg (made ++ ·) hcalls
      · rw [InstalledVersion.writtenTexts_append, texts_append, hmade, hw']

theorem mirrors_ite {c : Prop} [Decidable c] {work work' : Listed α} (h : Mirrors work) (h' : Mirrors work') :
    Mirrors (if c then work else work') := by
  split
  · exact h
  · exact h'

theorem mirrors_foldlM {f : β → α → Listed β} (h : ∀ b a, Mirrors (f b a)) (l : List α) (b : β) :
    Mirrors (l.foldlM f b) := by
  induction l generalizing b with
  | nil => exact mirrors_pure b
  | cons a l ih =>
    rw [List.foldlM_cons]
    exact mirrors_bind (h b a) ih

/-- A script that is asked for writes no version. -/
theorem mirrors_script {name : String} {kind : ScriptKind} {job : Job α} (h : Writes job []) :
    Mirrors (calling (.script name kind) job) := by
  intro site store
  obtain ⟨k, hk, hpre, -⟩ := h site store
  exact ⟨k, hk, .inl (List.prefix_nil.1 hpre)⟩

/-- A version that is asked for is written once, or not at all and then the work stops. -/
theorem mirrors_write {v : Version} {job : Job α} (h : Writes job [v.text]) : Mirrors (calling (.write v) job) := by
  intro site store
  obtain ⟨k, hk, hpre, hall⟩ := h site store
  refine ⟨k, hk, ?_⟩
  cases hr : (job.run site store).1 with
  | ok a => exact .inl (hall a hr)
  | error e =>
    rcases List.prefix_cons_iff.1 hpre with hnone | ⟨l, hone, hl⟩
    · exact .inr ⟨e, [], v, hr, rfl, hnone⟩
    · rw [List.prefix_nil.1 hl] at hone
      exact .inl hone

theorem mirrors_applyStep (report : Report) (s : Step) : Mirrors (applyStep report s) := by
  unfold applyStep step
  refine mirrors_ite (mirrors_pure _) (mirrors_bind (mirrors_silent (writes_notify _)) fun _ => ?_)
  refine mirrors_bind ?_ fun _ => mirrors_bind (mirrors_silent ?_) fun _ => mirrors_pure _
  · have hscript : ∀ kind, Mirrors (runStepScript s.name kind) := fun kind =>
      mirrors_script (writes_runStepScript s.name kind)
    refine mirrors_bind (mirrors_silent (writes_ofExcept _ _)) fun s => ?_
    refine mirrors_bind (hscript .ddl) fun _ => mirrors_bind (hscript .dml) fun _ => ?_
    exact mirrors_bind (mirrors_write (InstalledVersion.writes_set _)) fun _ => mirrors_pure _
  · split
    · exact writes_updateSizes
    · exact writes_pure _

theorem mirrors_applySoftVersion (report : Report) : Mirrors (applySoftVersion report) := by
  unfold applySoftVersion
  refine mirrors_bind (mirrors_silent Release.writes_softVersion) fun soft => mirrors_ite ?_ (mirrors_pure _)
  refine mirrors_bind (mirrors_write (InstalledVersion.writes_set soft)) fun _ => ?_
  exact mirrors_bind (mirrors_silent (writes_notify _)) fun _ => mirrors_pure _

theorem mirrors_latest : Mirrors latest := by
  unfold latest latestFrom
  refine mirrors_bind (mirrors_silent InstalledVersion.writes_detect) fun current => ?_
  refine mirrors_bind (mirrors_silent Release.writes_steps) fun steps => mirrors_ite ?_ ?_
  · exact mirrors_bind (mirrors_silent (writes_notify _)) fun _ => mirrors_pure _
  · exact mirrors_bind (mirrors_foldlM mirrors_applyStep _ _) fun _ => mirrors_applySoftVersion _

end Listed

/-- The updates of version tables in the journal of an upgrade are those that it asks for, but for the last of them
where the upgrade stops at it. -/
theorem latest_written (site : Site) (store : Store) :
    ∃ k, (Upgrade.latest.run site store).2.journal = store.journal ++ k ∧
      (writtenTexts k = texts (Listed.latest site store).2 ∨
        ∃ e calls v, (Upgrade.latest.run site store).1 = .error e ∧
          (Listed.latest site store).2 = calls ++ [.write v] ∧ writtenTexts k = texts calls) := by
  have hrun : (Listed.latest site store).1 = Upgrade.latest.run site store :=
    congrFun₂ Listed.unlisted_latest site store
  rw [← hrun]
  exact Listed.mirrors_latest site store

/-- The versions in the journal ascend. -/
theorem latest_written_ascends (site : Site) (store : Store) :
    ∃ (k : Journal) (vs : List Version), (Upgrade.latest.run site store).2.journal = store.journal ++ k ∧
      writtenTexts k = vs.map (·.text) ∧ vs.Pairwise (· < ·) := by
  obtain ⟨k, hk, hw⟩ := latest_written site store
  have hasc : (writes (Listed.latest site store).2).Pairwise (· < ·) := by
    rcases Listed.latest_calls site store with hnil | ⟨start, -, hpre⟩
    · rw [hnil]
      exact .nil
    · exact (pairwise_writes_allCalls site start).sublist (hpre.filterMap _).sublist
  rcases hw with hw | ⟨_, calls, v, -, hcalls, hw⟩
  · exact ⟨k, _, hk, hw, hasc⟩
  · rw [hcalls, writes_append] at hasc
    exact ⟨k, _, hk, hw, hasc.sublist (List.sublist_append_left _ _)⟩

example : writtenTexts (Upgrade.latest.run oneStepSite ⟨.database oldSchema, []⟩).2.journal = ["2.0.6.0", "3"] := by
  decide +kernel

end Upgrade

end SchemaMigration
