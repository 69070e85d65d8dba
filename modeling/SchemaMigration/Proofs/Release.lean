import SchemaMigration.Release
import SchemaMigration.Proofs.JobLogic
import SchemaMigration.Proofs.Version.Order
import SchemaMigration.Proofs.Version.Text

/-!
# SchemaMigration.Proofs.Release — what a release brings

The steps and the version of a release stand in files, so they do not depend on the database.

* `endsWith_steps`, `returns_softVersion` : what is read, whatever the database is.
* `listing_eq_ok`, `steps_eq_ok_catalog` : the steps that are read are those of the catalog.
* `yields_softVersion` : the version of the release.
* `mem_stepsOfNames_iff`, `pairwise_lt_stepsOfNames` : which steps there are, and in which order.
* `releaseFiles`, `releaseTexts` : the files of a release as they are laid out.
-/

namespace SchemaMigration.Release

open Job

variable {site : Site} {db db' : Sql.Database} {names : List String} {found : List Step}

/-! ## Definitions -/

/-- The names of the directories of steps; none where the directory of the steps is missing. -/
def stepNames (site : Site) : List String :=
  match site.files.isDirectory (stepDirectory site.root) with
  | .ok true => site.files.subdirectories (stepDirectory site.root)
  | _ => []

/-- The steps of a release, in ascending order. -/
def catalog (site : Site) : List Step := stepsOfNames (stepNames site)

/-- The step that an entry of a directory stands for. -/
def stepAt (entry : String × Node) : Option Step :=
  if entry.2 = .directory then (Step.ofName entry.1).toOption else none

/-- What an entry of a directory is read as. -/
def entryStep (directory : Path) (entry : String × Node) : Except Fault (Option Step) :=
  match FileTree.checkLength (directory.child entry.1) with
  | .error e => .error (.accident (.nameTooLong e.path))
  | .ok () =>
    if entry.2 = .directory then
      match Step.ofName entry.1 with
      | .ok step => .ok (some step)
      | .error (.malformed _) => .ok none
      | .error fault => .error (.ofVersion fault)
    else .ok none

/-- What the entries of a directory are read as, the first fault winning. -/
def entrySteps (directory : Path) : List (String × Node) → Except Fault (List Step)
  | [] => .ok []
  | entry :: entries =>
    match entryStep directory entry with
    | .error e => .error e
    | .ok found => (entrySteps directory entries).map (found.toList ++ ·)

/-- What the directory of the steps is read as. -/
def listing (site : Site) : Except Fault (List Step) :=
  match site.files.isDirectory (stepDirectory site.root) with
  | .error e => .error (.accident (.nameTooLong e.path))
  | .ok false => .ok []
  | .ok true =>
    (entrySteps (stepDirectory site.root) (site.files.children (stepDirectory site.root))).map sortSteps

/-- The version of a release. -/
def releaseVersion (site : Site) : Except Fault Version :=
  match site.files.read? (site.root.join (.parse softVersionFile)) with
  | .error e => .error (.accident (.nameTooLong e.path))
  | .ok none => .error (.ofReason (.scriptNotFound softVersionFile))
  | .ok (some bytes) =>
    match Text.fileText bytes with
    | .error e => .error (.accident (.undecodable e))
    | .ok cs => (Version.ofChars cs).mapError Fault.ofVersion

/-! ## Reading -/

theorem endsWith_readEntry (directory : Path) (entry : String × Node) :
    EndsWith (readEntry directory entry) site (entryStep directory entry) := by
  unfold readEntry entryStep
  cases FileTree.checkLength (directory.child entry.1) with
  | error e => exact endsWith_bind_error (endsWith_fail _)
  | ok u =>
    refine endsWith_bind (endsWith_pure u) ?_
    dsimp only
    split_ifs
    · cases Step.ofName entry.1 with
      | ok step => exact endsWith_pure _
      | error fault =>
        cases fault with
        | malformed text => exact endsWith_bind (endsWith_notify _) (endsWith_pure _)
        | tooLong digits => exact endsWith_fail _
    · exact endsWith_pure _

theorem endsWith_readSteps (directory : Path) (entries : List (String × Node)) :
    EndsWith (readSteps directory entries) site (entrySteps directory entries) := by
  induction entries with
  | nil => exact endsWith_pure _
  | cons entry entries ih =>
    have hentry : EndsWith (readEntry directory entry) site (entryStep directory entry) :=
      endsWith_readEntry directory entry
    unfold readSteps entrySteps
    cases hfound : entryStep directory entry with
    | error e =>
      rw [hfound] at hentry
      exact endsWith_bind_error hentry
    | ok found =>
      rw [hfound] at hentry
      refine endsWith_bind hentry ?_
      cases hrest : entrySteps directory entries with
      | error e =>
        rw [hrest] at ih
        exact endsWith_bind_error ih
      | ok rest =>
        rw [hrest] at ih
        exact endsWith_bind ih (endsWith_pure _)

/-- The steps are read in the same way whatever the database is. -/
theorem endsWith_steps (site : Site) : EndsWith steps site (listing site) := by
  refine endsWith_bind endsWith_site ?_
  unfold listing
  cases hdir : site.files.isDirectory (stepDirectory site.root) with
  | error e => exact endsWith_bind_error (endsWith_ofExcept (by rw [hdir]; rfl))
  | ok b =>
    refine endsWith_bind (endsWith_ofExcept (r := .ok b) (by rw [hdir]; rfl)) ?_
    cases b with
    | false => exact endsWith_bind (endsWith_notify _) (endsWith_pure _)
    | true =>
      have hread : EndsWith (readSteps _ (site.files.children (stepDirectory site.root))) site _ :=
        endsWith_readSteps (stepDirectory site.root) _
      dsimp only
      cases hfound : entrySteps (stepDirectory site.root) (site.files.children (stepDirectory site.root)) with
      | error e =>
        rw [hfound] at hread
        exact endsWith_bind_error hread
      | ok found =>
        rw [hfound] at hread
        exact endsWith_bind hread (endsWith_pure _)

theorem isReading_steps : IsReading steps := isReading_of fun site _ => ⟨_, (endsWith_steps site).yields⟩

theorem answer_steps_eq (site : Site) (db : Sql.Database) : steps.answer site db = listing site :=
  (endsWith_steps site).yields.answer_eq

/-- The steps do not depend on the database. -/
theorem answer_steps (site : Site) (db db' : Sql.Database) : steps.answer site db = steps.answer site db' := by
  rw [answer_steps_eq, answer_steps_eq]

theorem entryStep_eq_ok {directory : Path} {entry : String × Node} {o : Option Step}
    (h : entryStep directory entry = .ok o) : o = stepAt entry := by
  unfold entryStep at h
  unfold stepAt
  split at h
  · cases h
  · split_ifs at h ⊢
    · split at h
      · next hstep =>
        cases h
        rw [hstep]
        rfl
      · next hstep =>
        cases h
        rw [hstep]
        rfl
      · cases h
    · cases h
      rfl

/-- Where nothing goes wrong, the steps are those that the entries stand for. -/
theorem entrySteps_eq_ok {directory : Path} {entries : List (String × Node)}
    (h : entrySteps directory entries = .ok found) : found = entries.filterMap stepAt := by
  induction entries generalizing found with
  | nil =>
    cases h
    rfl
  | cons entry entries ih =>
    unfold entrySteps at h
    split at h
    · cases h
    · next o ho =>
      obtain ⟨rest, hrest, rfl⟩ := map_eq_ok_iff.1 h
      rw [entryStep_eq_ok ho, ih hrest]
      cases hstep : stepAt entry <;> simp [hstep]

theorem filterMap_stepAt (entries : List (String × Node)) :
    entries.filterMap stepAt =
      (entries.filterMap fun (name, node) => if node = .directory then some name else none).filterMap
        fun name => (Step.ofName name).toOption := by
  rw [List.filterMap_filterMap]
  refine List.filterMap_congr fun entry _ => ?_
  unfold stepAt
  split_ifs with hnode
  · simp [hnode]
  · simp [hnode]

/-- The steps that are read are those of the catalog. -/
theorem listing_eq_ok (h : listing site = .ok found) : found = catalog site := by
  unfold catalog stepNames
  unfold listing at h
  split at h
  · cases h
  · next hdir =>
    cases h
    rw [hdir]
    simp [stepsOfNames, sortSteps]
  · next hdir =>
    obtain ⟨read, hread, rfl⟩ := map_eq_ok_iff.1 h
    rw [hdir, entrySteps_eq_ok hread, filterMap_stepAt]
    rfl

theorem returns_steps : Returns site (· = catalog site) steps := fun store found h =>
  listing_eq_ok ((endsWith_steps site).returns store found h)

theorem steps_eq_of_ok (h : steps.answer site db = .ok found) : found = catalog site := returns_steps _ _ h

/-- Where every entry can be read, the steps can be read. -/
theorem steps_eq_ok_catalog (h : (listing site).isOk = true) (db : Sql.Database) :
    steps.answer site db = .ok (catalog site) := by
  rw [answer_steps_eq]
  cases hlisting : listing site with
  | error e =>
    rw [hlisting] at h
    cases h
  | ok found => rw [listing_eq_ok hlisting]

theorem returns_softVersion : Returns site (fun soft => releaseVersion site = .ok soft) softVersion := by
  unfold softVersion releaseVersion
  refine returns_bind returns_site fun s hs => ?_
  subst hs
  refine returns_bind (returns_ofExcept _ _) fun found hfound => ?_
  rw [hfound]
  cases found with
  | none => exact returns_fail _
  | some bytes =>
    refine returns_bind (returns_ofExcept _ _) fun cs hcs store soft hsoft => ?_
    dsimp only
    rw [hcs]
    exact mapError_eq_ok_iff.2 (returns_ofExcept _ _ store soft hsoft)

/-- Reading the version of the release does not touch the database. -/
theorem yields_softVersion (site : Site) (db : Sql.Database) :
    Yields softVersion site db (releaseVersion site) db [] := by
  unfold softVersion releaseVersion
  cases hr : site.files.read? (site.root.join (.parse softVersionFile)) with
  | error e =>
    refine yields_bind_of_quiet yields_site (yields_bind_error ?_)
    rw [hr]
    exact yields_fail _
  | ok found =>
    have hread : Yields (ofExcept (fun e => Fault.accident (.nameTooLong e.path))
        (site.files.read? (site.root.join (.parse softVersionFile)))) site db (.ok found) db [] := by
      rw [hr]
      exact yields_pure _
    refine yields_bind_of_quiet yields_site (yields_bind_of_quiet hread ?_)
    cases found with
    | none => exact yields_fail _
    | some bytes =>
      dsimp only
      cases Text.fileText bytes with
      | error e => exact yields_bind_error (yields_fail _)
      | ok cs => exact yields_bind_of_quiet (yields_pure cs) (yields_ofExcept _ _)

/-! ## The steps of a release -/

theorem mem_stepsOfNames_iff {step : Step} :
    step ∈ stepsOfNames names ↔ ∃ name ∈ names, Step.ofName name = .ok step := by
  refine ⟨mem_stepsOfNames, ?_⟩
  rintro ⟨name, hn, hs⟩
  simp only [stepsOfNames, sortSteps, List.mem_mergeSort, List.mem_filterMap]
  exact ⟨name, hn, by rw [hs]; rfl⟩

theorem isRead_of_mem_stepsOfNames {step : Step} (h : step ∈ stepsOfNames names) : step.version.IsRead := by
  obtain ⟨name, -, hname⟩ := mem_stepsOfNames h
  obtain ⟨v, hv, rfl⟩ := map_eq_ok_iff.1 hname
  exact Version.isRead_of_ofChars hv

theorem isRead_of_releaseVersion {v : Version} (h : releaseVersion site = .ok v) : v.IsRead := by
  unfold releaseVersion at h
  split at h
  · cases h
  · cases h
  · split at h
    · cases h
    · exact Version.isRead_of_ofChars (mapError_eq_ok_iff.1 h)

theorem pairwise_le_sortSteps (found : List Step) :
    (sortSteps found).Pairwise fun a b => a.version ≤ b.version := by
  have htrans : ∀ a b c : Step, decide (a.version ≤ b.version) = true →
      decide (b.version ≤ c.version) = true → decide (a.version ≤ c.version) = true := by
    intro a b c hab hbc
    exact decide_eq_true (le_trans (of_decide_eq_true hab) (of_decide_eq_true hbc))
  have htotal : ∀ a b : Step, (decide (a.version ≤ b.version) || decide (b.version ≤ a.version)) = true := by
    intro a b
    simpa using Version.le_total a.version b.version
  exact (List.pairwise_mergeSort htrans htotal _).imp fun h => of_decide_eq_true h

theorem pairwise_le_stepsOfNames (names : List String) :
    (stepsOfNames names).Pairwise fun a b => a.version ≤ b.version := pairwise_le_sortSteps _

/-- Steps to different versions stand in strictly ascending order. -/
theorem pairwise_lt_stepsOfNames
    (h : (stepsOfNames names).Pairwise fun a b => ¬ a.version.Same b.version) :
    (stepsOfNames names).Pairwise fun a b => a.version < b.version :=
  (pairwise_le_stepsOfNames names).imp₂ (fun _ _ hle hne => Version.lt_of_le_of_not_same hle hne) h

/-- Steps whose directories stand in ascending order already. -/
theorem catalog_eq_of_pairwise {found : List Step}
    (h : (stepNames site).filterMap (fun name => (Step.ofName name).toOption) = found)
    (hsorted : found.Pairwise fun a b => a.version < b.version) : catalog site = found := by
  rw [catalog, stepsOfNames, h]
  exact List.mergeSort_of_pairwise (hsorted.imp fun hlt => decide_eq_true (le_of_lt hlt))

/-! ## Releases as they are laid out -/

/-- The files of a release for a database in a file: the names of its steps, each with the bytes of its two
scripts, and the bytes of the file of its version. -/
def releaseFiles (steps : List (String × List UInt8 × List UInt8)) (soft : List UInt8) : FileTree where
  entries :=
    [(["sql"], .directory), (["sql", "soft_version"], .file soft), (["sql", "upgrade"], .directory)] ++
      steps.flatMap fun (name, ddl, dml) =>
        [(["sql", "upgrade", name], .directory), (["sql", "upgrade", name, "sqlite"], .directory),
          (["sql", "upgrade", name, "sqlite", "dolphinscheduler_ddl.sql"], .file ddl),
          (["sql", "upgrade", name, "sqlite", "dolphinscheduler_dml.sql"], .file dml)]

/-- The same where each step has a script for the tables only, and everything is given as a text. -/
def releaseTexts (steps : List (String × String)) (soft : String) : FileTree :=
  releaseFiles (steps.map fun (name, ddl) => (name, Text.encode ddl.toList, [])) (Text.encode soft.toList)

end SchemaMigration.Release
