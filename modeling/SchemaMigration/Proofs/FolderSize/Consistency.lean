import SchemaMigration.Proofs.FolderSize.Sums
import SchemaMigration.Proofs.FolderSize.Tree

/-!
# SchemaMigration.Proofs.FolderSize.Consistency — sizes that agree along a tree stay as they are

Where the rows of a type form a tree, every folder ends with the sum over what lies directly in it.  The work on the
type then finds every size where it would write it: it writes the same sizes again and changes nothing.

* `exists_folderTotals` : the sums over integers are always computed.
* `writeSizes_accepted`, `writeSizes_again` : sizes that were written are accepted again, and change nothing where they
  stand already.
* `AreSums`, `AreSums.resources_perm` : the sizes of a tree, and the rows of the type once they are written.
* `number_kept_sumUnder` : the column keeps the sums over its own integers as integers.
* `resize_again`, `update_tree` : the sizes of folders along the tree, and the same work once more.
* `nested` : a tree with a folder whose name begins as that of another one does.
-/

namespace SchemaMigration.FolderSize

open Job
open Sql (Value Table Row)

variable {site : Site} {db db' : Sql.Database} {table : String} {type : ResourceType} {t t' : Table} {r : Row}
  {totals sizes : List (Value × Value)} {rows rows' : List Resource} {start : List Char} {n : Int}
  {declared : List String}

/-! ## Definitions -/

/-- A resource with the size that it has once the sizes of the folders among the rows are written. -/
def filled (t : Table) (rows : List Resource) (r : Resource) : Resource :=
  if isFolder r then { r with size := t.kept "size" (.integer (sumUnder r.name (files rows))) } else r

theorem name_filled (t : Table) (rows : List Resource) (r : Resource) : (filled t rows r).name = r.name := by
  unfold filled
  split <;> rfl

theorem flag_filled (t : Table) (rows : List Resource) (r : Resource) : (filled t rows r).flag = r.flag := by
  unfold filled
  split <;> rfl

theorem filled_of_file {r : Resource} (h : isFolder r = false) : filled t rows r = r := by
  rw [filled, h]
  rfl

theorem isFolder_filled (t : Table) (rows : List Resource) (r : Resource) :
    isFolder (filled t rows r) = isFolder r := by
  rw [isFolder, isFolder, flag_filled]

/-! ## Computing -/

/-- Names that are texts and sizes that are integers are added up. -/
theorem exists_total (htexts : ∀ p ∈ sizes, ∃ s, p.1 = .text s) (hnumbers : ∀ p ∈ sizes, ∃ i, p.2 = .integer i) :
    ∃ v, total start (.integer n) sizes = .ok v := by
  induction sizes generalizing n with
  | nil => exact ⟨_, rfl⟩
  | cons p sizes ih =>
    obtain ⟨⟨s, hs⟩, htexts'⟩ := List.forall_mem_cons.1 htexts
    obtain ⟨⟨i, hi⟩, hnumbers'⟩ := List.forall_mem_cons.1 hnumbers
    obtain ⟨name, size⟩ := p
    subst hs hi
    simp only [total, liesBelow]
    cases start.isPrefixOf s.toList with
    | false => exact ih htexts' hnumbers'
    | true => exact ih htexts' hnumbers'

/-- Where all names are texts and all sizes of files integers or null, nothing keeps the sums from being computed. -/
theorem exists_folderTotals (htexts : ∀ r ∈ rows, ∃ s, r.name = .text s) (hnumbers : ∀ r ∈ files rows, HasNumber r) :
    ∃ totals, folderTotals rows = .ok totals := by
  have hfiles : ∀ r ∈ files rows, ∃ s, r.name = .text s := fun r hr => htexts r (List.mem_of_mem_filter hr)
  have hperm := keptSizes_perm hfiles
  have hkept : ∀ p ∈ keptSizes (files rows), (∃ s, p.1 = .text s) ∧ ∃ i, p.2 = .integer i := by
    intro p hp
    obtain ⟨r, hr, rfl⟩ := List.mem_map.1 (hperm.mem_iff.1 hp)
    have hr' := (latest_sublist _).subset hr
    exact ⟨hfiles r hr', _, sizeOf_eq (hnumbers r hr')⟩
  refine exists_mapM_pair fun folder hfolder => ?_
  obtain ⟨d, hd, rfl⟩ := List.mem_map.1 hfolder
  obtain ⟨s, hs⟩ := htexts d (List.mem_of_mem_filter hd)
  rw [hs]
  exact exists_total (fun p hp => (hkept p hp).1) fun p hp => (hkept p hp).2

theorem missingColumn?_perm (h : rows'.Perm (rows.map (filled t rows))) :
    missingColumn? declared rows' = missingColumn? declared rows := by
  have hempty : rows'.isEmpty = rows.isEmpty := by
    rw [h.isEmpty_eq, List.isEmpty_map]
  have hall : rows'.all isFolder = rows.all isFolder := by
    rw [h.all_eq, List.all_map]
    exact congrArg rows.all (funext (isFolder_filled t rows))
  rw [missingColumn?, missingColumn?, hempty, hall]

/-! ## Writing -/

/-- Where every size is written into some row, the column accepts all of them, and the table admits them again. -/
theorem writeSizes_accepted (h : writeSizes table type db totals = .ok db') (ht : db.find? table = some t)
    (hsome : ∀ p ∈ totals, ∃ r ∈ t.rows, takes t type p.1 r = true) :
    (∀ p ∈ totals, fits p.2 = true ∧ t.Accepts "size" p.2) ∧
      (totals ≠ [] → ∃ t', db'.find? table = some t' ∧ t'.Admits "size") := by
  induction totals generalizing db t with
  | nil => exact ⟨by simp, fun hne => absurd rfl hne⟩
  | cons p totals ih =>
    obtain ⟨hp, hrest⟩ := List.forall_mem_cons.1 hsome
    unfold writeSizes at h
    split at h
    · cases h
    · next d hd =>
      have hfits : fits p.2 = true := by
        by_contra hwide
        rw [writeSize_of_not_fits (by simpa using hwide)] at hd
        cases hd
      obtain ⟨-, t₁, ht₁, hcolumns, hrows⟩ := writeSize_rows hd ht
      rw [writeSize_of_fits hfits, mapError_eq_ok_iff] at hd
      obtain ⟨⟨n, d'⟩, hset, rfl⟩ := map_eq_ok_iff.1 hd
      obtain ⟨haccepts, u, hu, -, hadmits⟩ := Sql.setWhere_accepted hset ht (by simpa [takes, isOfType] using hp)
      have hsome' : ∀ q ∈ totals, ∃ r ∈ t₁.rows, takes t₁ type q.1 r = true := by
        intro q hq
        obtain ⟨r, hr, hqr⟩ := hrest q hq
        refine ⟨sized t type r p, hrows.mem_iff.2 (List.mem_map_of_mem hr), ?_⟩
        rw [takes_congr hcolumns, takes_sized]
        exact hqr
      obtain ⟨hall, hlast⟩ := ih h ht₁ hsome'
      refine ⟨List.forall_mem_cons.2 ⟨⟨hfits, haccepts⟩, fun q hq => ?_⟩, fun _ => ?_⟩
      · exact ⟨(hall q hq).1, (hall q hq).2.of_columns hcolumns.symm⟩
      · by_cases hnil : totals = []
        · subst hnil
          cases h
          exact ⟨u, hu, hadmits⟩
        · exact hlast hnil

/-- Sizes that stand where they are written are written again, and nothing is changed. -/
theorem writeSizes_again (hp : Sql.isPlainName table = true) (hcolumns : hasColumns t = true)
    (ht : db.find? table = some t) (hadmits : totals ≠ [] → t.Admits "size")
    (hkeeps : ∀ p ∈ totals, fits p.2 = true ∧ t.Accepts "size" p.2 ∧
      ∀ r ∈ t.rows, takes t type p.1 r = true → t.withCell "size" p.2 r = r) :
    writeSizes table type db totals = .ok db := by
  induction totals with
  | nil => rfl
  | cons p totals ih =>
    obtain ⟨⟨hfits, haccepts, hrows⟩, hrest⟩ := List.forall_mem_cons.1 hkeeps
    obtain ⟨n, hset⟩ := Sql.setWhere_again hp ht (isSome_column?_of_hasColumns hcolumns (by simp [columns]))
      (isSome_column?_given hcolumns p.1) haccepts (hadmits (List.cons_ne_nil _ _))
      (by simpa [takes, isOfType] using hrows)
    rw [writeSizes, writeSize_of_fits hfits, hset]
    exact ih (fun _ => hadmits (List.cons_ne_nil _ _)) hrest

/-! ## The rows of a tree -/

/-- The sizes are those of the folders of the type: each is the sum over the files below its folder, and it is written
into the rows with the name of that folder. -/
structure AreSums (t : Table) (type : ResourceType) (totals : List (Value × Value)) : Prop where
  folders : ∀ v, (∃ p ∈ totals, p.1 = v) ↔ ∃ d ∈ resources t type, isFolder d = true ∧ d.name = v
  sums : ∀ p ∈ totals, p.2 = .integer (sumUnder p.1 (files (resources t type)))
  takes : ∀ p ∈ totals, ∀ r ∈ t.rows,
    takes t type p.1 r = true ↔ isOfType t type r = true ∧ (resourceOf t r).name = p.1

theorem mem_resources (hr : r ∈ t.rows) (htype : isOfType t type r = true) : resourceOf t r ∈ resources t type :=
  List.mem_map_of_mem (List.mem_filter.2 ⟨hr, htype⟩)

theorem exists_row_of_mem_resources {d : Resource} (hd : d ∈ resources t type) :
    ∃ r ∈ t.rows, isOfType t type r = true ∧ resourceOf t r = d := by
  obtain ⟨r, hr, rfl⟩ := List.mem_map.1 hd
  exact ⟨r, (List.mem_filter.1 hr).1, (List.mem_filter.1 hr).2, rfl⟩

theorem latest_files (h : (rows.map (·.name)).Nodup) : latest (files rows) = files rows :=
  latest_eq_self ((List.pairwise_map.1 h).filter _)

theorem sums_of_folderTotals (hdistinct : (rows.map (·.name)).Nodup) (hnumbers : ∀ r ∈ files rows, HasNumber r)
    (h : folderTotals rows = .ok totals) : ∀ p ∈ totals, p.2 = .integer (sumUnder p.1 (files rows)) := by
  intro p hp
  obtain ⟨s, hs, hsum⟩ := (folderTotals_eq_ok hnumbers h).2 p hp
  rw [hsum, hs, latest_files hdistinct, sumUnder_text]

theorem areSums_of_folderTotals (hstored : t.IsStored) (hname : (t.column? "full_name").isSome)
    (hdistinct : ((resources t type).map (·.name)).Nodup) (hnumbers : ∀ r ∈ files (resources t type), HasNumber r)
    (h : folderTotals (resources t type) = .ok totals) : AreSums t type totals := by
  obtain ⟨hfolders, htexts⟩ := folderTotals_eq_ok hnumbers h
  refine ⟨fun v => mem_folders hfolders, sums_of_folderTotals hdistinct hnumbers h, fun p hp r hr => ?_⟩
  obtain ⟨s, hs, -⟩ := htexts p hp
  obtain ⟨d, hd, -, hdp⟩ := (mem_folders hfolders).1 ⟨p, hp, rfl⟩
  rw [← hdp]
  exact takes_iff hstored hname hd (hdp.trans hs) hr

/-- A row that takes a size takes no other one. -/
theorem AreSums.resized_of_takes (h : AreSums t type totals) (hr : r ∈ t.rows) {p : Value × Value} (hp : p ∈ totals)
    (htakes : FolderSize.takes t type p.1 r = true) : resized t type totals r = t.withCell "size" p.2 r := by
  refine resized_eq_withCell (fun q hq hqr => ?_) ⟨p, hp, htakes⟩
  rw [h.sums p hp, h.sums q hq, ← ((h.takes p hp r hr).1 htakes).2, ← ((h.takes q hq r hr).1 hqr).2]

/-- Every size is written into some row. -/
theorem AreSums.exists_takes (h : AreSums t type totals) {p : Value × Value} (hp : p ∈ totals) :
    ∃ r ∈ t.rows, FolderSize.takes t type p.1 r = true := by
  obtain ⟨d, hd, -, hdp⟩ := (h.folders p.1).1 ⟨p, hp, rfl⟩
  obtain ⟨r, hr, htype, rfl⟩ := exists_row_of_mem_resources hd
  exact ⟨r, hr, (h.takes p hp r hr).2 ⟨htype, hdp⟩⟩

theorem resourceOf_withCell (hc : (t.column? "size").isSome) (hr : r ∈ t.rows) (v : Value) :
    resourceOf t (t.withCell "size" v r) = { resourceOf t r with size := t.kept "size" v } := by
  have hname : t.cell "full_name" (t.withCell "size" v r) = t.cell "full_name" r := Sql.cell_withCell_other (by decide)
  have hflag : t.cell "is_directory" (t.withCell "size" v r) = t.cell "is_directory" r :=
    Sql.cell_withCell_other (by decide)
  rw [resourceOf, hname, hflag, Sql.cell_withCell_self hc (t.cells_fit r hr)]
  rfl

/-- Only the sizes of folders are new. -/
theorem AreSums.resourceOf_resized (h : AreSums t type totals) (htree : IsTree (resources t type))
    (hc : (t.column? "size").isSome) (hr : r ∈ t.rows) (htype : isOfType t type r = true) :
    resourceOf t (resized t type totals r) = filled t (resources t type) (resourceOf t r) := by
  have hmem := mem_resources hr htype
  cases hdir : isFolder (resourceOf t r) with
  | true =>
    obtain ⟨p, hp, hpr⟩ := (h.folders _).2 ⟨_, hmem, hdir, rfl⟩
    rw [h.resized_of_takes hr hp ((h.takes p hp r hr).2 ⟨htype, hpr.symm⟩), resourceOf_withCell hc hr, h.sums p hp, hpr,
      filled, if_pos hdir]
  | false =>
    rw [filled_of_file hdir, resized_of_not_takes fun p hp => ?_]
    rw [Bool.eq_false_iff, ne_eq, h.takes p hp r hr]
    rintro ⟨-, hname⟩
    obtain ⟨d, hd, hddir, hdp⟩ := (h.folders p.1).1 ⟨p, hp, rfl⟩
    -- a folder of the same name would be this file
    rw [htree.eq_of_name hmem hd (hname.trans hdp.symm), hddir] at hdir
    cases hdir

theorem AreSums.resources_perm (h : AreSums t type totals) (htree : IsTree (resources t type))
    (hc : (t.column? "size").isSome) (hcolumns : t'.columns = t.columns)
    (hrows : t'.rows.Perm (t.rows.map (resized t type totals))) :
    (resources t' type).Perm ((resources t type).map (filled t (resources t type))) := by
  have hfilter : (t.rows.map (resized t type totals)).filter (isOfType t type) =
      (t.rows.filter (isOfType t type)).map (resized t type totals) := by
    rw [List.filter_map]
    exact congrArg _ (List.filter_congr fun r _ => isOfType_resized)
  have hperm := (hrows.filter (isOfType t type)).map (resourceOf t)
  rw [hfilter, List.map_map] at hperm
  rw [resources, isOfType_congr hcolumns, resourceOf_congr hcolumns]
  refine hperm.trans (.of_eq ?_)
  rw [resources, List.map_map]
  refine List.map_congr_left fun r hr => ?_
  obtain ⟨hr, htype⟩ := List.mem_filter.1 hr
  exact h.resourceOf_resized htree hc hr htype

/-- Every size stands where it is written. -/
theorem AreSums.withCell_eq_self (h : AreSums t type totals) (hcolumns : t'.columns = t.columns)
    (hrows : t'.rows.Perm (t.rows.map (resized t type totals))) {p : Value × Value} (hp : p ∈ totals) :
    ∀ r ∈ t'.rows, FolderSize.takes t' type p.1 r = true → t'.withCell "size" p.2 r = r := by
  intro r' hr' htakes
  obtain ⟨r, hr, rfl⟩ := List.mem_map.1 (hrows.mem_iff.1 hr')
  rw [takes_congr hcolumns, takes_resized] at htakes
  rw [Sql.withCell_congr hcolumns, h.resized_of_takes hr hp htakes, Sql.withCell_withCell]

/-! ## Sums as they are kept -/

theorem apply_integer {a : Sql.Affinity} {i : Int} (h : a.apply (.integer i) = .integer i) (k : Int) :
    a.apply (.integer k) = .integer k := by
  cases a with
  | real =>
    rcases Sql.orNull_cases (.real (.ofInt i)) with hnull | hkept
    · exact absurd (hnull.symm.trans h) nofun
    · exact absurd (hkept.symm.trans h) nofun
  | text => cases h
  | _ => rfl

theorem number_apply_zero (a : Sql.Affinity) : number (a.apply (.integer 0)) = 0 := by
  cases a <;> rfl

/-- The column keeps a sum of its own integers as an integer; without any, the sum is nothing. -/
theorem number_kept_sumUnder (hstored : t.IsStored) (v : Value) :
    number (t.kept "size" (.integer (sumUnder v (files (resources t type))))) =
      sumUnder v (files (resources t type)) := by
  unfold Table.kept
  cases hi : t.column? "size" with
  | none => rfl
  | some i =>
    have hcolumn := List.getElem?_eq_getElem (Sql.lt_length_of_column? hi)
    by_cases hsome : ∃ r ∈ t.rows, ∃ k, t.cell "size" r = .integer k
    · obtain ⟨r, hr, k, hk⟩ := hsome
      have hkept : t.kept "size" (t.cell "size" r) = t.cell "size" r := hstored.kept_cell hr (by rw [hi]; rfl)
      simp only [hk, Table.kept, hi, Table.keepAt, hcolumn] at hkept
      simp only [Table.keepAt, hcolumn, apply_integer hkept, number]
    · have hzero : sumUnder v (files (resources t type)) = 0 := by
        refine List.sum_eq_zero fun k hk => ?_
        obtain ⟨d, hd, rfl⟩ := List.mem_map.1 hk
        obtain ⟨r, hr, -, rfl⟩ := exists_row_of_mem_resources (List.mem_of_mem_filter (List.mem_of_mem_filter hd))
        cases hcell : (resourceOf t r).size with
        | integer k => exact absurd ⟨r, hr, k, hcell⟩ hsome
        | _ => rfl
      rw [hzero]
      simp only [Table.keepAt, hcolumn, number_apply_zero]

/-! ## The same work once more -/

theorem resize_eq_ok_iff (ht : db.find? table = some t) :
    resize table type db = .ok db' ↔ Sql.isPlainName table = true ∧ hasColumns t = true ∧
      missingColumn? (declaredIn t) (resources t type) = none ∧
      ∃ totals, folderTotals (resources t type) = .ok totals ∧ writeSizes table type db totals = .ok db' := by
  rw [resize, readRows_eq ht]
  by_cases hasked : (Sql.isPlainName table && hasColumns t) = true
  · rw [if_pos hasked]
    obtain ⟨hp, hcolumns⟩ := Bool.and_eq_true_iff.1 hasked
    dsimp only
    cases missingColumn? (declaredIn t) (resources t type) with
    | some column => simp
    | none => simp [hp, hcolumns, bind_eq_ok_iff]
  · rw [if_neg hasked]
    constructor
    · rintro ⟨⟩
    · rintro ⟨hp, hcolumns, -⟩
      exact absurd (Bool.and_eq_true_iff.2 ⟨hp, hcolumns⟩) hasked

theorem files_perm (h : rows'.Perm (rows.map (filled t rows))) : (files rows').Perm (files rows) := by
  refine (h.filter _).trans (.of_eq ?_)
  rw [List.filter_map]
  have hsame : ∀ r ∈ rows, ((!isFolder ·) ∘ filled t rows) r = !isFolder r := fun r _ => by
    rw [Function.comp_apply, isFolder_filled]
  rw [List.filter_congr hsame]
  refine (List.map_congr_left fun r hr => ?_).trans (List.map_id' _)
  exact filled_of_file (by simpa using (List.mem_filter.1 hr).2)

theorem sumUnder_perm (h : rows.Perm rows') (v : Value) : sumUnder v rows = sumUnder v rows' :=
  ((h.filter _).map _).sum_eq

/-- The sizes of a tree are written again as they are, and nothing is changed. -/
theorem resize_again (ht : db.find? table = some t) (hstored : t.IsStored) (htree : IsTree (resources t type))
    (hnumbers : ∀ r ∈ files (resources t type), HasNumber r) (h : resize table type db = .ok db') :
    ∃ t', db'.find? table = some t' ∧ t'.columns = t.columns ∧
      (resources t' type).Perm ((resources t type).map (filled t (resources t type))) ∧
      resize table type db' = .ok db' := by
  obtain ⟨hp, hcolumns, hmissing, totals, htotals, hwrite⟩ := (resize_eq_ok_iff ht).1 h
  have hsome : ∀ c ∈ columns ++ ["type"], (t.column? c).isSome := fun c hc => isSome_column?_of_hasColumns hcolumns hc
  have hsums := areSums_of_folderTotals hstored (hsome "full_name" (by simp [columns])) htree.distinct hnumbers htotals
  obtain ⟨-, t', ht', hcolumns', hrows⟩ := writeSizes_rows hwrite ht
  obtain ⟨haccepts, hadmits⟩ := writeSizes_accepted hwrite ht fun p hp => hsums.exists_takes hp
  have hperm := hsums.resources_perm htree (hsome "size" (by simp [columns])) hcolumns' hrows
  refine ⟨t', ht', hcolumns', hperm, ?_⟩
  -- what is read and computed then
  have hdistinct : ((resources t' type).map (·.name)).Nodup := by
    refine ((hperm.map _).nodup_iff).2 ?_
    rw [List.map_map]
    exact (congrArg List.Nodup (List.map_congr_left fun r _ => name_filled t _ r)).mpr htree.distinct
  have htexts : ∀ r ∈ resources t' type, ∃ s, r.name = .text s := by
    intro r hr
    obtain ⟨q, hq, rfl⟩ := List.mem_map.1 (hperm.mem_iff.1 hr)
    obtain ⟨parts, -, -, hname, -⟩ := htree.paths q hq
    exact ⟨_, (name_filled t _ q).trans hname⟩
  have hfiles := files_perm hperm
  have hnumbers' : ∀ r ∈ files (resources t' type), HasNumber r := fun r hr => hnumbers r (hfiles.mem_iff.1 hr)
  obtain ⟨totals', htotals'⟩ := exists_folderTotals htexts hnumbers'
  have hsub : ∀ p ∈ totals', p ∈ totals := by
    intro p' hp'
    obtain ⟨d', hd', hdir', hname'⟩ := (mem_folders (folderTotals_eq_ok hnumbers' htotals').1).1 ⟨p', hp', rfl⟩
    obtain ⟨d, hd, rfl⟩ := List.mem_map.1 (hperm.mem_iff.1 hd')
    obtain ⟨p, hp, hpd⟩ := (hsums.folders _).2 ⟨d, hd, (isFolder_filled t _ d) ▸ hdir', rfl⟩
    rw [name_filled] at hname'
    have hvalue := sums_of_folderTotals hdistinct hnumbers' htotals' p' hp'
    rw [sumUnder_perm hfiles, ← hname', ← hpd, ← hsums.sums p hp] at hvalue
    have heq : p' = p := Prod.ext (hname'.symm.trans hpd.symm) hvalue
    exact heq ▸ hp
  refine (resize_eq_ok_iff ht').2 ⟨hp, (hasColumns_congr hcolumns').trans hcolumns, ?_, totals', htotals', ?_⟩
  · rw [declaredIn_congr hcolumns', missingColumn?_perm hperm, hmissing]
  · refine writeSizes_again hp ((hasColumns_congr hcolumns').trans hcolumns) ht' (fun hne => ?_) fun p hp => ?_
    · obtain ⟨p, hp⟩ := List.exists_mem_of_ne_nil _ hne
      obtain ⟨u, hu, hu'⟩ := hadmits (List.ne_nil_of_mem (hsub p hp))
      obtain rfl : u = t' := Option.some.inj (hu.symm.trans ht')
      exact hu'
    · obtain ⟨hfits, haccept⟩ := haccepts p (hsub p hp)
      exact ⟨hfits, haccept.of_columns hcolumns', hsums.withCell_eq_self hcolumns' hrows (hsub p hp)⟩

/-! ## Sizes along a tree -/

theorem countP_filled (h : rows'.Perm (rows.map (filled t rows))) : rows'.countP isFolder = rows.countP isFolder := by
  rw [h.countP_eq, List.countP_map]
  exact congrArg (List.countP · rows) (funext (isFolder_filled t rows))

theorem sumIn_perm (h : rows.Perm rows') (v : Value) : sumIn v rows = sumIn v rows' := ((h.filter _).map _).sum_eq

/-- Where the rows of a type form a tree and the sizes of its files are integers or null, the work on the type, if it
succeeds, gives every folder the sum over what lies directly in it, the new sizes of the folders there included.  Names,
kinds and files stay as they are.  The same work once more succeeds as well and changes nothing. -/
theorem update_tree {j : Journal} {n : Nat} {store : Store} (ht : db.find? table = some t) (hstored : t.IsStored)
    (htree : IsTree (resources t type)) (hnumbers : ∀ r ∈ files (resources t type), HasNumber r)
    (h : (update table type).run site ⟨.database db, j⟩ = (.ok n, store)) :
    ∃ db' t', store.storage = .database db' ∧ db'.find? table = some t' ∧ t'.columns = t.columns ∧
      (∃ f, (∀ r, (f r).name = r.name ∧ (f r).flag = r.flag) ∧ (∀ r, isFolder r = false → f r = r) ∧
        (resources t' type).Perm ((resources t type).map f)) ∧
      (∀ d ∈ resources t' type, isFolder d = true →
        d.size = t'.kept "size" (.integer (sumIn d.name (resources t' type)))) ∧
      ∀ j', ∃ j'', (update table type).run site ⟨.database db', j'⟩ = (.ok n, ⟨.database db', j''⟩) := by
  rcases update_cases site db table type with ⟨e, -, he⟩ | ⟨db', c, hr, hn⟩
  · cases (he.run_eq h).1
  obtain ⟨hcount, hstorage, -⟩ := hn.run_eq h
  obtain ⟨t', ht', hcolumns, hperm, hagain⟩ := resize_again ht hstored htree hnumbers hr
  refine ⟨db', t', hstorage, ht', hcolumns, ⟨filled t (resources t type), fun r => ?_, fun r => filled_of_file, hperm⟩,
    fun d' hd' hdir => ?_, fun j' => ?_⟩
  · exact ⟨name_filled t _ r, flag_filled t _ r⟩
  · obtain ⟨d, hd, rfl⟩ := List.mem_map.1 (hperm.mem_iff.1 hd')
    rw [isFolder_filled] at hdir
    have hsum := htree.sumUnder_eq_sumIn hd (f := filled t (resources t type)) (name_filled t _)
      (fun r => filled_of_file) fun r _ hrdir => by
        rw [filled, if_pos hrdir]
        exact number_kept_sumUnder hstored r.name
    rw [sumIn_perm hperm, name_filled, ← hsum, filled, if_pos hdir]
    simp only [Table.kept, Table.column?, hcolumns, Sql.keepAt_congr hcolumns]
  · rcases update_cases site db' table type with ⟨e, he, -⟩ | ⟨db'', c', hr', k, hk, -⟩
    · rw [hagain] at he
      cases he
    · obtain rfl : db' = db'' := Except.ok.inj (hagain.symm.trans hr')
      rw [Except.ok.injEq, folderCount_eq ht hr] at hcount
      rw [hcount, ← countP_filled hperm, ← folderCount_eq ht' hagain]
      exact ⟨_, hk j'⟩

/-- Folders in each other, and one whose name begins as that of another one does. -/
def nested : Table where
  name := defaultTable
  columns := listedTwice.columns
  rows := [⟨1, [.integer 1, .text "/a", .null, .integer 1, .integer 0]⟩,
    ⟨2, [.integer 2, .text "/ab", .integer 9, .integer 1, .integer 0]⟩,
    ⟨3, [.integer 3, .text "/a/b", .integer 0, .integer 1, .integer 0]⟩,
    ⟨4, [.integer 4, .text "/a/b/x", .integer 4, .integer 0, .integer 0]⟩,
    ⟨5, [.integer 5, .text "/a/b/y", .null, .integer 0, .integer 0]⟩,
    ⟨6, [.integer 6, .text "/a/z", .integer 3, .integer 0, .integer 0]⟩,
    ⟨7, [.integer 7, .text "/ab/x", .integer 1, .integer 0, .integer 0]⟩]
  cells_fit := by decide

/-- Every folder has the sum over what lies directly in it, and a second run changes nothing. -/
theorem update_tree_nested :
    ∃ db' t', ((update defaultTable .file).run { vendor := .sqlite, files := {}, root := ⟨"", []⟩ }
          ⟨.database ⟨[nested]⟩, []⟩).2.storage = .database db' ∧
        db'.find? defaultTable = some t' ∧
        (∀ d ∈ resources t' .file, isFolder d = true →
          d.size = t'.kept "size" (.integer (sumIn d.name (resources t' .file)))) ∧
        ∀ j', ∃ j'', (update defaultTable .file).run { vendor := .sqlite, files := {}, root := ⟨"", []⟩ }
          ⟨.database db', j'⟩ = (.ok 3, ⟨.database db', j''⟩) := by
  have hfound : (⟨[nested]⟩ : Sql.Database).find? defaultTable = some nested := by decide +kernel
  have hresources : resources nested .file = [⟨.text "/a", .null, .integer 1⟩, ⟨.text "/ab", .integer 9, .integer 1⟩,
      ⟨.text "/a/b", .integer 0, .integer 1⟩, ⟨.text "/a/b/x", .integer 4, .integer 0⟩,
      ⟨.text "/a/b/y", .null, .integer 0⟩, ⟨.text "/a/z", .integer 3, .integer 0⟩,
      ⟨.text "/ab/x", .integer 1, .integer 0⟩] := by decide +kernel
  have htree : IsTree (resources nested .file) := by
    rw [hresources]
    refine ⟨by decide, ?_⟩
    simp only [List.forall_mem_cons, List.not_mem_nil, false_imp_iff, implies_true, and_true]
    refine ⟨⟨[['a']], ?_⟩, ⟨[['a', 'b']], ?_⟩, ⟨[['a'], ['b']], ?_⟩, ⟨[['a'], ['b'], ['x']], ?_⟩,
      ⟨[['a'], ['b'], ['y']], ?_⟩, ⟨[['a'], ['z']], ?_⟩, ⟨[['a', 'b'], ['x']], ?_⟩⟩ <;> decide +kernel
  have hnumbers : ∀ r ∈ files (resources nested .file), HasNumber r := by
    rw [hresources]
    simp [files, isFolder, isNothing, HasNumber]
  have hok : ((update defaultTable .file).run { vendor := .sqlite, files := {}, root := ⟨"", []⟩ }
      ⟨.database ⟨[nested]⟩, []⟩).1 = .ok 3 := rfl
  cases hrun : (update defaultTable .file).run { vendor := .sqlite, files := {}, root := ⟨"", []⟩ }
      ⟨.database ⟨[nested]⟩, []⟩ with
  | mk result store =>
    rw [hrun] at hok
    cases hok
    obtain ⟨db', t', hstorage, ht', -, -, hsums, hagain⟩ :=
      update_tree hfound (by decide +kernel) htree hnumbers hrun
    exact ⟨db', t', hstorage, ht', hsums, hagain⟩

end SchemaMigration.FolderSize
