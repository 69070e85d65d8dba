import SchemaMigration.Proofs.FolderSize.Locality
import SchemaMigration.Proofs.InstalledVersion.Agreement
import SchemaMigration.Proofs.Upgrade.Latest

/-!
# SchemaMigration.Proofs.Upgrade.Stored — which version is stored in the course of an upgrade

Scripts may do anything to the version tables, and new folder sizes do nothing to them.  Where one version table
exists and the scripts leave it alone, the version that it holds is the one that was written last.

* `Performs.isStored_step` : after the operations of a step its version is stored.
* `written` : the version that was written last.
* `Operation.IsTame`, `Performs.holdsAlone` : operations after which that version is stored in the one table.
* `Course.written_eq` : at the end of an upgrade that is the version in the report.
-/

namespace SchemaMigration.Upgrade

open Job
open InstalledVersion (SameVersions LeavesVersions IsStored HoldsAlone KeepsVersionTexts Shadows)
open Release (catalog releaseVersion)

/-! ## Definitions -/

/-- The version that is stored after an operation, where `v` is stored before it. -/
def Operation.storedAfter (v : Version) : Operation → Version
  | .writeVersion w => w
  | .run _ => v
  | .updateSizes => v

/-- The version that is stored after some operations, where `v` is stored before them. -/
def written (v : Version) (ops : List Operation) : Version := ops.foldl Operation.storedAfter v

/-- Statements leave the version tables alone, and versions that are written can be read back. -/
def Operation.IsTame (site : Site) : Operation → Prop
  | .run stmt => LeavesVersions site stmt
  | .writeVersion w => w.IsRead
  | .updateSizes => True

variable {site : Site} {db db' : Sql.Database} {name : String} {step : Step} {steps : List Step}
  {start final v : Version} {op : Operation} {ops : List Operation} {cs : List Sent}

/-! ## One operation -/

/-- The resources do not stand in a version table. -/
theorem sizesTable_ne (hname : name ∈ [InstalledVersion.table, InstalledVersion.legacyTable]) :
    Sql.sameName FolderSize.defaultTable name = false := by
  simp only [List.mem_cons, List.not_mem_nil, or_false] at hname
  rcases hname with rfl | rfl <;> decide +kernel

theorem sameVersions_resizeAll (site : Site) (db : Sql.Database) :
    SameVersions site db (FolderSize.resizeAll FolderSize.defaultTable db) :=
  InstalledVersion.sameVersions_of_sameBut (FolderSize.sameBut_resizeAll _ db) fun _ => sizesTable_ne

/-- The one version table holds the version that was written last. -/
theorem Operation.Does.holdsAlone (hop : op.Does site db db' cs) (ht : op.IsTame site)
    (h : HoldsAlone site db name v) : HoldsAlone site db' name (op.storedAfter v) := by
  cases hop with
  | run hrun => exact h.of_same (ht _ _ hrun)
  | writeVersion hset => exact (h.set ht hset).1
  | updateSizes hy =>
    rw [eq_resizeAll_of_does (.updateSizes hy)]
    exact h.of_same (sameVersions_resizeAll site db)

/-! ## Many operations -/

theorem Performs.holdsAlone (hp : Performs site ops db db' cs) (ht : ∀ op ∈ ops, op.IsTame site)
    (h : HoldsAlone site db name v) : HoldsAlone site db' name (written v ops) := by
  induction hp generalizing v with
  | nil => exact h
  | cons hop _ ih =>
    exact ih (fun op hmem => ht op (List.mem_cons_of_mem _ hmem)) (hop.holdsAlone (ht _ List.mem_cons_self) h)

theorem written_append (v : Version) (ops ops' : List Operation) :
    written v (ops ++ ops') = written (written v ops) ops' := List.foldl_append

theorem written_run (v : Version) (stmts : List String) : written v (stmts.map .run) = v := by
  induction stmts with
  | nil => rfl
  | cons s ss ih => exact ih

theorem written_operationsOf (site : Site) (v : Version) (step : Step) :
    written v (operationsOf site step) = step.version := by
  rw [operationsOf_eq, written_append, written_run]
  split <;> rfl

theorem written_flatMap (site : Site) (v : Version) (steps : List Step) :
    written v (steps.flatMap (operationsOf site)) = reached v steps := by
  induction steps generalizing v with
  | nil => rfl
  | cons step steps ih => rw [List.flatMap_cons, written_append, written_operationsOf, ih, reached_cons]

/-- An upgrade ends with the version that was written last. -/
theorem Course.written_eq (h : Course site start final ops) : written start ops = final := by
  cases h with
  | idle h => rfl
  | @planned soft hne hs =>
    rw [plan_pending, written_append, written_flatMap]
    by_cases hlt : reached start (pending start (catalog site)) < soft
    · rw [if_pos hlt, later_of_lt hlt]
      rfl
    · rw [if_neg hlt, later_of_not_lt hlt]
      rfl

theorem mem_operationsOf_cases (hop : op ∈ operationsOf site step) :
    (∃ stmt ∈ statementsOf site step, op = .run stmt) ∨ op = .writeVersion step.version ∨ op = .updateSizes := by
  rw [operationsOf_eq] at hop
  rcases List.mem_append.1 hop with hrun | hrest
  · obtain ⟨stmt, hstmt, rfl⟩ := List.mem_map.1 hrun
    exact .inl ⟨stmt, hstmt, rfl⟩
  · rcases List.mem_cons.1 hrest with rfl | hsizes
    · exact .inr (.inl rfl)
    · split at hsizes
      · exact .inr (.inr (List.mem_singleton.1 hsizes))
      · cases hsizes

/-- Every operation of steps whose scripts leave the version tables alone. -/
theorem isTame_of_mem_flatMap (hsub : steps ⊆ catalog site)
    (hs : ∀ step ∈ steps, ∀ stmt ∈ statementsOf site step, LeavesVersions site stmt)
    (hop : op ∈ steps.flatMap (operationsOf site)) : op.IsTame site := by
  obtain ⟨step, hstep, hop⟩ := List.mem_flatMap.1 hop
  rcases mem_operationsOf_cases hop with ⟨stmt, hstmt, rfl⟩ | rfl | rfl
  · exact hs step hstep stmt hstmt
  · exact Release.isRead_of_mem_stepsOfNames (hsub hstep)
  · trivial

theorem Course.isTame (h : Course site start final ops)
    (hs : ∀ step ∈ catalog site, ∀ stmt ∈ statementsOf site step, LeavesVersions site stmt) (hop : op ∈ ops) :
    op.IsTame site := by
  cases h with
  | idle h => cases hop
  | @planned soft hne hread =>
    have hsub := (pending_sublist start (catalog site)).subset
    rw [plan_pending] at hop
    rcases List.mem_append.1 hop with hop | hop
    · exact isTame_of_mem_flatMap hsub (fun step hstep => hs step (hsub hstep)) hop
    · split at hop
      · rw [List.mem_singleton.1 hop]
        exact Release.isRead_of_releaseVersion hread
      · cases hop

/-! ## Scripts that do anything -/

/-- Behind the scripts of a step its version is written, and nothing else happens to the version tables. -/
theorem Performs.isStored_step (hp : Performs site (operationsOf site step) db db' cs) (hv : step.version.IsRead)
    (hpoint : ∀ d ds, Performs site ((statementsOf site step).map .run) db d ds →
      KeepsVersionTexts site d ∧ ¬ ∃ w, Shadows site d w) :
    IsStored site db' step.version := by
  rw [operationsOf_eq] at hp
  obtain ⟨d, ds, cs₂, hrun, hrest, -⟩ := hp.append_inv
  obtain ⟨hkeeps, hns⟩ := hpoint d ds hrun
  cases hrest with
  | @cons _ _ _ d₁ _ _ _ hwrite hsizes =>
    have hstored : IsStored site d₁ step.version := by
      cases hwrite with
      | writeVersion hset => exact InstalledVersion.isStored_of_set hkeeps hv hns hset
    split at hsizes
    · rw [eq_resizeAll_of_does hsizes.single_inv]
      exact hstored.of_same (sameVersions_resizeAll site d₁)
    · cases hsizes
      exact hstored

end SchemaMigration.Upgrade
