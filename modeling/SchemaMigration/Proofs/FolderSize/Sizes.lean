import Mathlib.Algebra.BigOperators.Group.List.Basic
import Mathlib.Algebra.Ring.Int.Defs
import Mathlib.Data.List.Basic
import Mathlib.Data.List.Induction
import SchemaMigration.FolderSize
import SchemaMigration.Proofs.Except

/-!
# SchemaMigration.Proofs.FolderSize.Sizes — what the sizes of folders are computed to

The files are kept by their names, so of the rows with one name the last one counts.  The size of a folder is the sum
over the rows that count and whose names begin with that of the folder and a slash.

* `files`, `latest` : the rows of files, and those of them that count.
* `begins`, `sumBelow` : what lies below a folder, and the sum of its sizes, every row counted.
* `keepSize_perm`, `keptSizes_perm` : the sizes that are kept are those of the rows that count.
* `total_eq_ok` : the sum over them, where all sizes are integers.
* `folderTotals_eq_ok` : the folders with their sizes.
-/

namespace SchemaMigration.FolderSize

open Sql (Value)

variable {rows : List Resource} {r : Resource} {sizes totals : List (Value × Value)} {name v soFar : Value}
  {start : List Char} {n : Int}

/-! ## Definitions -/

/-- The rows of files. -/
def files (rows : List Resource) : List Resource := rows.filter (!isFolder ·)

/-- The rows that no later row of the same name follows. -/
def latest : List Resource → List Resource
  | [] => []
  | r :: rows => if rows.any (·.name = r.name) then latest rows else r :: latest rows

/-- The sizes that are kept for the rows of files. -/
def keptSizes (rows : List Resource) : List (Value × Value) :=
  rows.foldl (fun sizes r => keepSize sizes r.name (sizeOf r)) []

/-- The name is a text that begins with these characters. -/
def begins (start : List Char) : Value → Bool
  | .text s => start.isPrefixOf s.toList
  | _ => false

/-- The number that a size is; a null counts as nothing. -/
def number : Value → Int
  | .integer i => i
  | _ => 0

/-- The sum of the sizes of the files below a folder, every row counted: their names begin with that of the folder,
slashes at its end cut off, and a slash. -/
def sumBelow (folder : String) (rows : List Resource) : Int :=
  ((rows.filter fun r => begins (Text.dropRightWhile (· == '/') folder.toList ++ ['/']) r.name).map
    (number ·.size)).sum

/-- The size is an integer or null. -/
def HasNumber (r : Resource) : Prop := r.size = .null ∨ ∃ i, r.size = .integer i

/-! ## The rows that count -/

theorem latest_sublist (rows : List Resource) : (latest rows).Sublist rows := by
  induction rows with
  | nil => exact .refl _
  | cons r rows ih =>
    unfold latest
    split
    · exact ih.cons r
    · exact ih.cons_cons r

theorem pairwise_latest (rows : List Resource) : (latest rows).Pairwise fun r s => r.name ≠ s.name := by
  induction rows with
  | nil => exact .nil
  | cons r rows ih =>
    unfold latest
    split
    · exact ih
    · next hnone =>
      refine .cons (fun s hs heq => hnone ?_) ih
      exact List.any_eq_true.2 ⟨s, (latest_sublist rows).subset hs, decide_eq_true heq.symm⟩

/-- Where no two rows have the same name, all of them count. -/
theorem latest_eq_self (h : rows.Pairwise fun r s => r.name ≠ s.name) : latest rows = rows := by
  induction h with
  | nil => rfl
  | cons hr _ ih =>
    rw [latest, if_neg, ih]
    simpa using fun s hs => (hr s hs).symm

/-- One more row takes out the row of its name. -/
theorem latest_concat (rows : List Resource) (r : Resource) :
    latest (rows ++ [r]) = (latest rows).filter (·.name ≠ r.name) ++ [r] := by
  induction rows with
  | nil => rfl
  | cons a rows ih =>
    rw [List.cons_append, latest, latest, ih, List.any_append]
    by_cases hlater : rows.any (·.name = a.name) = true
    · simp [hlater]
    · by_cases hsame : r.name = a.name
      · simp [hlater, hsame]
      · simp [hlater, hsame, Ne.symm hsame]

/-! ## The sizes that are kept -/

theorem sameFile_text {s : String} {w : Value} : sameFile (.text s) w = true ↔ w = .text s := by
  cases w <;> simp [sameFile, Value.equal, Value.isNull, eq_comm]

/-- A size takes the place of the one that is kept for its name. -/
theorem keepSize_perm {s : String} (htexts : ∀ p ∈ sizes, ∃ t, p.1 = .text t)
    (hdistinct : sizes.Pairwise fun p q => p.1 ≠ q.1) :
    (keepSize sizes (.text s) v).Perm (sizes.filter (·.1 ≠ .text s) ++ [(.text s, v)]) := by
  induction sizes with
  | nil => exact .refl _
  | cons p sizes ih =>
    obtain ⟨m, w⟩ := p
    obtain ⟨t, rfl⟩ : ∃ t, m = .text t := htexts _ List.mem_cons_self
    rw [List.pairwise_cons] at hdistinct
    unfold keepSize
    by_cases hsame : t = s
    · -- no later size is kept for this name
      have hrest : sizes.filter (·.1 ≠ .text s) = sizes :=
        List.filter_eq_self.2 fun q hq => decide_eq_true (hsame ▸ (hdistinct.1 q hq).symm)
      rw [if_pos (sameFile_text.2 (hsame ▸ rfl)), List.filter_cons_of_neg (by simp [hsame]), hrest, hsame]
      exact List.perm_append_singleton _ _ |>.symm
    · have hother : ¬ sameFile (.text t) (.text s) = true := fun h => hsame (by simpa using (sameFile_text.1 h).symm)
      rw [if_neg hother, List.filter_cons_of_pos (by simpa using hsame)]
      exact (ih (fun q hq => htexts q (List.mem_cons_of_mem _ hq)) hdistinct.2).cons _

theorem texts_of_keepSize (h : ∀ p ∈ keepSize sizes name v, ∃ s, p.1 = .text s) :
    (∀ p ∈ sizes, ∃ s, p.1 = .text s) ∧ ∃ s, name = .text s := by
  induction sizes with
  | nil => exact ⟨by simp, h _ List.mem_cons_self⟩
  | cons p sizes ih =>
    unfold keepSize at h
    split at h
    · next hsame =>
      obtain ⟨hp, hrest⟩ := List.forall_mem_cons.1 h
      obtain ⟨s, hs⟩ := hp
      exact ⟨List.forall_mem_cons.2 ⟨⟨s, hs⟩, hrest⟩, s, sameFile_text.1 (hs ▸ hsame)⟩
    · obtain ⟨hp, hrest⟩ := List.forall_mem_cons.1 h
      obtain ⟨hsizes, hname⟩ := ih hrest
      exact ⟨List.forall_mem_cons.2 ⟨hp, hsizes⟩, hname⟩

theorem keptSizes_concat (rows : List Resource) (r : Resource) :
    keptSizes (rows ++ [r]) = keepSize (keptSizes rows) r.name (sizeOf r) := by
  simp [keptSizes]

theorem texts_of_keptSizes (h : ∀ p ∈ keptSizes rows, ∃ s, p.1 = .text s) : ∀ r ∈ rows, ∃ s, r.name = .text s := by
  induction rows using List.reverseRecOn with
  | nil => simp
  | append_singleton rows r ih =>
    rw [keptSizes_concat] at h
    obtain ⟨hrows, hname⟩ := texts_of_keepSize h
    intro q hq
    rcases List.mem_append.1 hq with hq | hq
    · exact ih hrows q hq
    · exact List.mem_singleton.1 hq ▸ hname

/-- The sizes that are kept are those of the rows that count. -/
theorem keptSizes_perm (htexts : ∀ r ∈ rows, ∃ s, r.name = .text s) :
    (keptSizes rows).Perm ((latest rows).map fun r => (r.name, sizeOf r)) := by
  induction rows using List.reverseRecOn with
  | nil => exact .refl _
  | append_singleton rows r ih =>
    have hperm := ih fun q hq => htexts q (List.mem_append_left _ hq)
    obtain ⟨s, hs⟩ := htexts r (List.mem_append_right _ List.mem_cons_self)
    have hkept : ∀ p ∈ keptSizes rows, ∃ t, p.1 = .text t := by
      intro p hp
      obtain ⟨q, hq, rfl⟩ := List.mem_map.1 (hperm.mem_iff.1 hp)
      exact htexts q (List.mem_append_left _ ((latest_sublist rows).subset hq))
    have hdistinct : (keptSizes rows).Pairwise fun p q => p.1 ≠ q.1 :=
      (hperm.pairwise_iff fun h => h.symm).2 (List.pairwise_map.2 (pairwise_latest rows))
    have hothers : ((keptSizes rows).filter (·.1 ≠ .text s)).Perm
        (((latest rows).filter (·.name ≠ .text s)).map fun r => (r.name, sizeOf r)) := by
      have hfiltered := hperm.filter (·.1 ≠ .text s)
      rwa [List.filter_map] at hfiltered
    rw [keptSizes_concat, latest_concat, List.map_append, List.map_singleton, hs]
    exact (keepSize_perm hkept hdistinct).trans (hothers.append_right _)

/-! ## The sum -/

theorem total_eq_ok (hnumbers : ∀ p ∈ sizes, ∃ i, p.2 = .integer i)
    (h : total start (.integer n) sizes = .ok v) :
    v = .integer (n + ((sizes.filter (begins start ·.1)).map (number ·.2)).sum) := by
  induction sizes generalizing n with
  | nil =>
    cases h
    simp
  | cons p sizes ih =>
    obtain ⟨name, size⟩ := p
    obtain ⟨i, rfl⟩ : ∃ i, size = .integer i := hnumbers _ List.mem_cons_self
    have hrest := fun q hq => hnumbers q (List.mem_cons_of_mem _ hq)
    cases name with
    | text s =>
      simp only [total, liesBelow] at h
      cases hs : start.isPrefixOf s.toList with
      | false =>
        rw [hs] at h
        rw [List.filter_cons_of_neg (by simp [begins, hs])]
        exact ih hrest h
      | true =>
        rw [hs] at h
        rw [List.filter_cons_of_pos (by simp [begins, hs]), List.map_cons, List.sum_cons, number, ← add_assoc]
        exact ih hrest h
    | _ => cases h

/-- Where a sum was reached, all names are texts. -/
theorem texts_of_total (h : total start soFar sizes = .ok v) : ∀ p ∈ sizes, ∃ s, p.1 = .text s := by
  induction sizes generalizing soFar with
  | nil => simp
  | cons p sizes ih =>
    obtain ⟨name, size⟩ := p
    cases name with
    | text s =>
      have hrest : ∃ next, total start next sizes = .ok v := by
        simp only [total, liesBelow] at h
        split at h
        · cases h
        · exact ⟨_, h⟩
        · split at h
          · cases h
          · exact ⟨_, h⟩
      obtain ⟨next, hnext⟩ := hrest
      exact List.forall_mem_cons.2 ⟨⟨s, rfl⟩, ih hnext⟩
    | _ => cases h

/-! ## Folders -/

theorem sizeOf_eq (h : HasNumber r) : sizeOf r = .integer (number r.size) := by
  rcases h with hnull | ⟨i, hi⟩
  · rw [sizeOf, hnull]
    rfl
  · rw [sizeOf, hi, isNothing]
    by_cases h0 : i = 0
    · simp [h0, number]
    · simp [h0, number]

/-- The size of a folder is the sum over the rows below it that count. -/
theorem folderTotal_eq_ok {folder : Value} (hnumbers : ∀ r ∈ files rows, HasNumber r)
    (h : folderTotal (fileSizes rows) folder = .ok v) :
    ∃ s, folder = .text s ∧ v = .integer (sumBelow s (latest (files rows))) := by
  cases folder with
  | text s =>
    refine ⟨s, rfl, ?_⟩
    have htotal : total (Text.dropRightWhile (· == '/') s.toList ++ ['/']) (.integer 0) (keptSizes (files rows)) =
        .ok v := h
    have hperm := keptSizes_perm (texts_of_keptSizes (texts_of_total htotal))
    have hsizes : ∀ p ∈ keptSizes (files rows), ∃ i, p.2 = .integer i := by
      intro p hp
      obtain ⟨r, hr, rfl⟩ := List.mem_map.1 (hperm.mem_iff.1 hp)
      exact ⟨_, sizeOf_eq (hnumbers r ((latest_sublist _).subset hr))⟩
    rw [total_eq_ok hsizes htotal, zero_add, sumBelow]
    have hsum := ((hperm.filter (begins (Text.dropRightWhile (· == '/') s.toList ++ ['/']) ·.1)).map
      (number ·.2)).sum_eq
    rw [hsum, List.filter_map, List.map_map]
    refine congrArg (Value.integer ·.sum) (List.map_congr_left fun r hr => ?_)
    have hr' := (latest_sublist _).subset (List.mem_of_mem_filter hr)
    simp [sizeOf_eq (hnumbers r hr'), number]
  | _ => cases h

/-- The folders that are written, each with the sum over the rows below it that count. -/
theorem folderTotals_eq_ok (hnumbers : ∀ r ∈ files rows, HasNumber r) (h : folderTotals rows = .ok totals) :
    totals.map Prod.fst = (rows.filter isFolder).map (·.name) ∧
      ∀ p ∈ totals, ∃ s, p.1 = .text s ∧ p.2 = .integer (sumBelow s (latest (files rows))) := by
  obtain ⟨hfolders, hall⟩ := mapM_pair_eq_ok h
  exact ⟨hfolders, fun p hp => folderTotal_eq_ok hnumbers (hall p hp)⟩

end SchemaMigration.FolderSize
