import SchemaMigration.Proofs.Upgrade.Latest

/-!
# SchemaMigration.Proofs.Upgrade.Calls — which versions an upgrade asks to be written

An upgrade asks for scripts to be run and for versions to be written.  Where something goes wrong, what it has asked
for until then is a beginning of what it asks for where nothing goes wrong; and there each version is above all
versions before it.

* `Listed`, `unlisted` : work that lists what it asks for, and the same work without the list.
* `Listed.latest`, `unlisted_latest` : an upgrade that lists its calls is an upgrade.
* `Makes` : work that makes a beginning of the given calls, and all of them where it ends well.
* `makes_applyStep`, `makes_foldlM_applyStep` : one step of the loop, and the loop.
* `latest_calls`, `writes_ascend` : the calls of a whole upgrade, and the versions in them.
-/

namespace SchemaMigration.Upgrade

open Job (Returns)
open Release (catalog releaseVersion)

variable {α β : Type}

/-! ## Definitions -/

/-- What an upgrade asks for. -/
inductive Call where
  /-- A script of the step of this name is to be run. -/
  | script (name : String) (kind : ScriptKind)
  | write (v : Version)
  deriving DecidableEq, Repr

/-- The versions that are to be written, in their order. -/
def writes (calls : List Call) : List Version := calls.filterMap fun
  | .script _ _ => none
  | .write v => some v

/-- The calls for one step. -/
def callsOf (step : Step) : List Call :=
  [.script step.name .ddl, .script step.name .dml, .write step.version]

/-- The call for the version of the release, if it can be read and is above the version `v` that was reached. -/
def softCall (v : Version) : Except Fault Version → List Call
  | .ok soft => if v < soft then [.write soft] else []
  | .error _ => []

/-- The calls of an upgrade from the version `start` that nothing stops. -/
def allCalls (site : Site) (start : Version) : List Call :=
  if (catalog site).isEmpty then []
  else (pending start (catalog site)).flatMap callsOf ++
    softCall (reached start (pending start (catalog site))) (releaseVersion site)

/-- Work with the calls that it makes, whether it ends well or not. -/
def Listed (α : Type) : Type := Site → Store → (Except Fault α × Store) × List Call

namespace Listed

instance : Monad Listed where
  pure a := fun _ store => ((.ok a, store), [])
  bind work next := fun site store =>
    match work site store with
    | ((.ok a, store), calls) => ((next a site store).1, calls ++ (next a site store).2)
    | ((.error e, store), calls) => ((.error e, store), calls)

/-- A job that makes no call. -/
def silent (job : Job α) : Listed α := fun site store => (job.run site store, [])

/-- A job that is itself a call. -/
def calling (call : Call) (job : Job α) : Listed α := fun site store => (job.run site store, [call])

/-- The work without the list. -/
def unlisted (work : Listed α) : Job α := fun site store => (work site store).1

/-- Runs a script of a step, and lists that. -/
def runStepScript (name : String) (kind : ScriptKind) : Listed Unit :=
  calling (.script name kind) (Upgrade.runStepScript name kind)

/-- Writes a version, and lists that. -/
def set (v : Version) : Listed String := calling (.write v) (InstalledVersion.set v)

/-- Carries out a step. -/
def step (name : String) : Listed Version := do
  let s ← silent (Job.ofExcept Fault.ofVersion (Step.ofName name))
  runStepScript name .ddl
  runStepScript name .dml
  let _ ← set s.version
  return s.version

/-- Carries out a step if it leads to a newer version. -/
def applyStep (report : Report) (s : Step) : Listed Report := do
  if s.version ≤ report.final then return report
  silent (Job.notify (.upgrading report.final.text s.version.text))
  let _ ← step s.name
  let errors ← silent (if s.version.Same sizesVersion then updateSizes else pure [])
  return report.after s errors

/-- Writes the version of the release if it is newer. -/
def applySoftVersion (report : Report) : Listed Report := do
  let soft ← silent Release.softVersion
  if report.final < soft then
    let _ ← set soft
    silent (Job.notify (.upgraded report.start.text soft.text))
    return { report with final := soft }
  else return report

/-- An upgrade of an installation of the version `current`. -/
def latestFrom (current : Version) : Listed Report := do
  let steps ← silent Release.steps
  if steps.isEmpty then
    silent (Job.notify .noSteps)
    return { start := current, final := current }
  else
    applySoftVersion (← steps.foldlM applyStep { start := current, final := current, hadSteps := true })

/-- An upgrade. -/
def latest : Listed Report := do latestFrom (← silent InstalledVersion.detect)

/-- The calls are a beginning of `calls`; where the work ends well they are all of them, and its result is one
of `P`. -/
def Makes (site : Site) (work : Listed α) (calls : List Call) (P : α → Prop) : Prop :=
  ∀ store, (work site store).2 <+: calls ∧
    ∀ a, (work site store).1.1 = .ok a → (work site store).2 = calls ∧ P a

/-! ## The work without the list -/

@[simp] theorem unlisted_pure (a : α) : (pure a : Listed α).unlisted = pure a := rfl

@[simp] theorem unlisted_silent (job : Job α) : (silent job).unlisted = job := rfl

@[simp] theorem unlisted_calling (call : Call) (job : Job α) : (calling call job).unlisted = job := rfl

@[simp] theorem unlisted_runStepScript (name : String) (kind : ScriptKind) :
    (runStepScript name kind).unlisted = Upgrade.runStepScript name kind := unlisted_calling _ _

@[simp] theorem unlisted_set (v : Version) : (set v).unlisted = InstalledVersion.set v := unlisted_calling _ _

@[simp] theorem unlisted_bind (work : Listed α) (next : α → Listed β) :
    (work >>= next).unlisted = work.unlisted >>= fun a => (next a).unlisted := by
  funext site store
  simp only [unlisted, bind]
  cases work site store with
  | mk e calls =>
    obtain ⟨r, s⟩ := e
    cases r <;> rfl

@[simp] theorem unlisted_ite (c : Prop) [Decidable c] (x y : Listed α) :
    (if c then x else y).unlisted = if c then x.unlisted else y.unlisted := apply_ite unlisted c x y

theorem unlisted_foldlM {f : β → α → Listed β} {g : β → α → Job β} (h : ∀ b a, (f b a).unlisted = g b a)
    (l : List α) (b : β) : (l.foldlM f b).unlisted = l.foldlM g b := by
  induction l generalizing b with
  | nil => rfl
  | cons a l ih => simp only [List.foldlM_cons, unlisted_bind, h, ih]

theorem unlisted_step (name : String) : (step name).unlisted = Upgrade.step name := by
  simp [step, Upgrade.step]

theorem unlisted_applyStep (report : Report) (s : Step) :
    (applyStep report s).unlisted = Upgrade.applyStep report s := by
  by_cases h : s.version ≤ report.final
  · simp [applyStep, Upgrade.applyStep, h]
  · by_cases hs : s.version.Same sizesVersion <;>
      simp [applyStep, Upgrade.applyStep, h, hs, unlisted_step, Report.after]

theorem unlisted_applySoftVersion (report : Report) :
    (applySoftVersion report).unlisted = Upgrade.applySoftVersion report := by
  simp [applySoftVersion, Upgrade.applySoftVersion]

theorem unlisted_latest : latest.unlisted = Upgrade.latest := by
  simp [latest, latestFrom, Upgrade.latest, unlisted_foldlM unlisted_applyStep, unlisted_applySoftVersion]

/-! ## Rules -/

section Rules

variable {site : Site} {P : α → Prop} {Q : β → Prop} {calls calls' : List Call}

theorem makes_pure {a : α} (h : P a) : Makes site (pure a : Listed α) [] P := by
  refine fun store => ⟨List.nil_prefix, fun b hb => ⟨rfl, ?_⟩⟩
  cases hb
  exact h

theorem makes_silent {job : Job α} (h : Returns site P job) : Makes site (silent job) [] P := fun store =>
  ⟨List.nil_prefix, fun a ha => ⟨rfl, h store a ha⟩⟩

theorem makes_calling {call : Call} {job : Job α} (h : Returns site P job) :
    Makes site (calling call job) [call] P := fun store =>
  ⟨List.prefix_rfl, fun a ha => ⟨rfl, h store a ha⟩⟩

theorem makes_bind {work : Listed α} {next : α → Listed β} (h : Makes site work calls P)
    (hn : ∀ a, P a → Makes site (next a) calls' Q) : Makes site (work >>= next) (calls ++ calls') Q := by
  intro store
  obtain ⟨hpre, hok⟩ := h store
  simp only [bind]
  cases hw : work site store with
  | mk e made =>
  rw [hw] at hpre hok
  obtain ⟨r, store'⟩ := e
  cases r with
  | error e => exact ⟨hpre.trans (List.prefix_append _ _), fun b hb => by cases hb⟩
  | ok a =>
    obtain ⟨rfl, ha⟩ := hok a rfl
    obtain ⟨hpre', hok'⟩ := hn a ha store'
    refine ⟨(List.prefix_append_right_inj _).2 hpre', fun b hb => ?_⟩
    obtain ⟨hmade, hb'⟩ := hok' b hb
    exact ⟨congrArg _ hmade, hb'⟩

/-- In front of other work a job that makes no call adds nothing to the list. -/
theorem makes_silent_bind {job : Job α} {next : α → Listed β} (h : Returns site P job)
    (hn : ∀ a, P a → Makes site (next a) calls Q) : Makes site (silent job >>= next) calls Q :=
  makes_bind (makes_silent h) hn

theorem makes_runStepScript (name : String) (kind : ScriptKind) :
    Makes site (runStepScript name kind) [.script name kind] fun _ => True := makes_calling (Job.returns_true _)

theorem makes_set (v : Version) : Makes site (set v) [.write v] fun _ => True := makes_calling (Job.returns_true _)

end Rules

/-! ## The calls of an upgrade -/

section Upgrades

variable {site : Site} {steps : List Step}

/-- A step asks for its two scripts, then for its version. -/
theorem makes_step {s : Step} (hname : Step.ofName s.name = .ok s) :
    Makes site (step s.name) (callsOf s) fun _ => True := by
  refine makes_silent_bind (Job.returns_ofExcept _ _) fun s' hs' => ?_
  rw [hname] at hs'
  cases hs'
  refine makes_bind (makes_runStepScript _ _) fun _ _ => makes_bind (makes_runStepScript _ _) fun _ _ => ?_
  exact makes_bind (makes_set _) fun _ _ => makes_pure trivial

theorem makes_applyStep {s : Step} (hname : Step.ofName s.name = .ok s) (report : Report) :
    Makes site (applyStep report s) (if s.version ≤ report.final then [] else callsOf s)
      (·.final = if s.version ≤ report.final then report.final else s.version) := by
  unfold applyStep
  by_cases hle : s.version ≤ report.final
  · simp only [if_pos hle]
    exact makes_pure rfl
  · simp only [if_neg hle]
    refine makes_silent_bind (Job.returns_true _) fun _ _ => ?_
    rw [← List.append_nil (callsOf s)]
    refine makes_bind (makes_step hname) fun _ _ => ?_
    exact makes_silent_bind (Job.returns_true _) fun _ _ => makes_pure rfl

/-- The loop asks for the steps that are pending, whatever it reports otherwise. -/
theorem makes_foldlM_applyStep (hnames : ∀ s ∈ steps, Step.ofName s.name = .ok s) (report : Report) :
    Makes site (steps.foldlM applyStep report) ((pending report.final steps).flatMap callsOf)
      (·.final = reached report.final (pending report.final steps)) := by
  induction steps generalizing report with
  | nil => exact makes_pure rfl
  | cons s steps ih =>
    have hstep : Makes site (applyStep report s) _ _ := makes_applyStep (hnames s List.mem_cons_self) report
    rw [List.foldlM_cons]
    by_cases hle : s.version ≤ report.final
    · simp only [if_pos hle] at hstep
      rw [pending_cons_of_le hle]
      refine makes_bind hstep fun next hnext => ?_
      rw [← hnext]
      exact ih (fun s' hs' => hnames s' (List.mem_cons_of_mem _ hs')) next
    · simp only [if_neg hle] at hstep
      rw [pending_cons_of_lt (Version.not_le.1 hle), List.flatMap_cons]
      refine makes_bind hstep fun next hnext => ?_
      rw [reached_cons, ← hnext]
      exact ih (fun s' hs' => hnames s' (List.mem_cons_of_mem _ hs')) next

theorem makes_applySoftVersion (report : Report) :
    Makes site (applySoftVersion report) (softCall report.final (releaseVersion site)) fun _ => True := by
  refine makes_silent_bind Release.returns_softVersion fun soft hsoft => ?_
  rw [hsoft, softCall]
  by_cases hlt : report.final < soft
  · simp only [if_pos hlt]
    refine makes_bind (makes_set _) fun _ _ => ?_
    exact makes_silent_bind (Job.returns_true _) fun _ _ => makes_pure trivial
  · simp only [if_neg hlt]
    exact makes_pure trivial

theorem makes_latestFrom (site : Site) (start : Version) :
    Makes site (latestFrom start) (allCalls site start) fun _ => True := by
  unfold latestFrom allCalls
  refine makes_silent_bind Release.returns_steps fun steps hsteps => ?_
  subst hsteps
  by_cases hnil : (catalog site).isEmpty = true
  · simp only [if_pos hnil]
    exact makes_silent_bind (Job.returns_true _) fun _ _ => makes_pure trivial
  · simp only [if_neg hnil]
    refine makes_bind (makes_foldlM_applyStep (fun _ => ofName_of_mem_catalog) _) fun report hreport => ?_
    rw [← hreport]
    exact makes_applySoftVersion report

/-- An upgrade asks for nothing before it knows the installed version. -/
theorem latest_calls (site : Site) (store : Store) :
    (latest site store).2 = [] ∨ ∃ start, (InstalledVersion.detect.run site store).1 = .ok start ∧
      (latest site store).2 <+: allCalls site start := by
  simp only [latest, bind, silent]
  cases InstalledVersion.detect.run site store with
  | mk r store' =>
  cases r with
  | error e => exact .inl rfl
  | ok start => exact .inr ⟨start, rfl, ((makes_latestFrom site start) store').1⟩

end Upgrades

end Listed

/-! ## Versions and scripts in the calls -/

section Versions

variable {site : Site} {start v : Version} {steps : List Step}

@[simp] theorem writes_append (calls calls' : List Call) : writes (calls ++ calls') = writes calls ++ writes calls' :=
  List.filterMap_append

theorem writes_flatMap_callsOf (steps : List Step) : writes (steps.flatMap callsOf) = steps.map (·.version) := by
  induction steps with
  | nil => rfl
  | cons s steps ih => rw [List.flatMap_cons, writes_append, ih]; rfl

theorem mem_writes_softCall {soft : Except Fault Version} {w : Version} :
    w ∈ writes (softCall v soft) ↔ soft = .ok w ∧ v < w := by
  cases soft with
  | error e => simp [softCall, writes]
  | ok soft =>
    by_cases hlt : v < soft
    · simp only [softCall, if_pos hlt, writes, List.filterMap_cons, List.filterMap_nil, List.mem_singleton,
        Except.ok.injEq]
      constructor
      · rintro rfl
        exact ⟨rfl, hlt⟩
      · exact fun h => h.1.symm
    · simp only [softCall, if_neg hlt, writes, List.filterMap_nil, List.not_mem_nil, Except.ok.injEq, false_iff]
      rintro ⟨rfl, hlt'⟩
      exact hlt hlt'

theorem pairwise_writes_softCall (v : Version) (soft : Except Fault Version) :
    (writes (softCall v soft)).Pairwise (· < ·) := by
  cases soft with
  | error e => exact .nil
  | ok soft =>
    by_cases hlt : v < soft
    · rw [softCall, if_pos hlt]
      exact List.pairwise_singleton _ _
    · rw [softCall, if_neg hlt]
      exact .nil

/-- Each version that is to be written is above the version at the start, and a step or the release has it. -/
theorem of_mem_writes_allCalls (h : v ∈ writes (allCalls site start)) :
    start < v ∧ ((∃ step ∈ catalog site, step.version = v) ∨ releaseVersion site = .ok v) := by
  unfold allCalls at h
  split at h
  · cases h
  rw [writes_append, writes_flatMap_callsOf, List.mem_append, List.mem_map, mem_writes_softCall] at h
  rcases h with ⟨step, hstep, rfl⟩ | ⟨hsoft, hlt⟩
  · exact ⟨(pending_ascends _ _).1 step hstep, .inl ⟨step, (pending_sublist _ _).subset hstep, rfl⟩⟩
  · exact ⟨lt_of_le_of_lt (le_reached_pending_self _ _) hlt, .inr hsoft⟩

theorem pairwise_writes_allCalls (site : Site) (start : Version) :
    (writes (allCalls site start)).Pairwise (· < ·) := by
  unfold allCalls
  split
  · exact .nil
  rw [writes_append, writes_flatMap_callsOf]
  refine List.pairwise_append.2 ⟨?_, pairwise_writes_softCall _ _, fun v hv w hw => ?_⟩
  · exact List.pairwise_map.2 (pending_ascends _ _).2
  · -- no step that is carried out leads above the version that is reached, and the release is above that
    have hle := (isGreatestOf_reached start (catalog site)).2 v (List.mem_cons_of_mem _ hv)
    exact lt_of_le_of_lt hle (mem_writes_softCall.1 hw).2

/-- Only the scripts of pending steps are to be run. -/
theorem of_script_mem_allCalls {name : String} {kind : ScriptKind} (h : .script name kind ∈ allCalls site start) :
    ∃ step ∈ pending start (catalog site), step.name = name := by
  unfold allCalls at h
  split at h
  · cases h
  rcases List.mem_append.1 h with h | h
  · obtain ⟨step, hstep, hcall⟩ := List.mem_flatMap.1 h
    simp only [callsOf, List.mem_cons, Call.script.injEq, reduceCtorEq, List.not_mem_nil, or_false] at hcall
    rcases hcall with ⟨rfl, -⟩ | ⟨rfl, -⟩ <;> exact ⟨step, hstep, rfl⟩
  · unfold softCall at h
    split at h
    · split at h <;> simp at h
    · cases h

/-- Pending steps to the same version are one step. -/
theorem eq_of_same_of_pending {a b : Step} (ha : a ∈ pending start steps) (hb : b ∈ pending start steps)
    (hsame : a.version.Same b.version) : a = b := by
  have hsorted := (pending_ascends start steps).2
  have hone : (pending start steps).Pairwise fun a b => a.version.Same b.version → a = b :=
    hsorted.imp fun hlt h => absurd h (Version.not_same_of_lt hlt)
  have hother : (pending start steps).Pairwise fun a b => b.version.Same a.version → b = a :=
    hsorted.imp fun hlt h => absurd h.symm (Version.not_same_of_lt hlt)
  exact hone.forall_of_forall_of_flip (fun _ _ _ => rfl) hother ha hb hsame

/-- The step of the release whose script is to be run. -/
theorem mem_pending_of_script {step : Step} {kind : ScriptKind} (hs : step ∈ catalog site)
    (h : .script step.name kind ∈ allCalls site start) : step ∈ pending start (catalog site) := by
  obtain ⟨s, hmem, hname⟩ := of_script_mem_allCalls h
  have hread := ofName_of_mem_catalog ((pending_sublist _ _).subset hmem)
  rw [hname, ofName_of_mem_catalog hs] at hread
  cases hread
  exact hmem

end Versions

/-- In every upgrade, however it ends, the versions that it asks to be written ascend.  Each of them is above the
version that was installed, and a step of the release or the release itself has it.  So of the steps to the same
version the scripts of one at most are run. -/
theorem writes_ascend (site : Site) (store : Store) :
    (Listed.latest site store).1 = Upgrade.latest.run site store ∧
    (writes (Listed.latest site store).2).Pairwise (· < ·) ∧
    (∀ v ∈ writes (Listed.latest site store).2,
      (∃ start, (InstalledVersion.detect.run site store).1 = .ok start ∧ start < v) ∧
      ((∃ step ∈ catalog site, step.version = v) ∨ releaseVersion site = .ok v)) ∧
    ∀ a ∈ catalog site, ∀ b ∈ catalog site, a.version.Same b.version →
      ∀ k l, .script a.name k ∈ (Listed.latest site store).2 → .script b.name l ∈ (Listed.latest site store).2 →
        a = b := by
  refine ⟨congrFun₂ Listed.unlisted_latest site store, ?_⟩
  rcases Listed.latest_calls site store with hnil | ⟨start, hstart, hpre⟩
  · rw [hnil]
    exact ⟨.nil, fun v hv => (nomatch hv), fun _ _ _ _ _ _ _ h => (nomatch h)⟩
  have hwrites : writes (Listed.latest site store).2 <+: writes (allCalls site start) := hpre.filterMap _
  refine ⟨(pairwise_writes_allCalls site start).sublist hwrites.sublist, fun v hv => ?_, ?_⟩
  · obtain ⟨hlt, hof⟩ := of_mem_writes_allCalls (hwrites.subset hv)
    exact ⟨⟨start, hstart, hlt⟩, hof⟩
  · intro a ha b hb hsame k l hka hlb
    exact eq_of_same_of_pending (mem_pending_of_script ha (hpre.subset hka))
      (mem_pending_of_script hb (hpre.subset hlb)) hsame

example : (Listed.latest oneStepSite ⟨.database oldSchema, []⟩).2 =
    [.script "2.0.6.0_sizes" .ddl, .script "2.0.6.0_sizes" .dml, .write (.ofParts [2, 0, 6, 0]),
      .write (.ofParts [3])] := by decide +kernel

end SchemaMigration.Upgrade
