import SchemaMigration.Proofs.FolderSize
import SchemaMigration.Proofs.FolderSize.Locality
import SchemaMigration.Proofs.FolderSize.Sizes
import SchemaMigration.Proofs.Sql.Repeated

/-!
# SchemaMigration.Proofs.FolderSize.Sums — what becomes of every row when the sizes of a type are written

The size of a folder is written into all rows of its type that have its name, be they rows of folders or of files.
Of the files with one name, only the last is in the sums.

* `resources`, `readRows_eq` : the rows of one type, which are what is read.
* `resized`, `writeSizes_rows` : the sizes are written into the rows one by one.
* `takes_withCell`, `getElem?_cells_resized`, `resized_eq_withCell` : a size that was written changes neither which
  sizes follow nor any other column, and where all of them are the same, it stays.
* `Settles`, `resize_settles` : what becomes of a row.
* `update_sums` : the same for the work on a type, and where it leaves every folder with the sum over all files below
  it and every file as it is.
* `listedTwice` : a file that is listed twice.
-/

namespace SchemaMigration.FolderSize

open Job
open Sql (Value Table Row)

variable {site : Site} {db db' : Sql.Database} {table : String} {type other : ResourceType} {t t' : Table} {r : Row}
  {folder size v : Value} {totals : List (Value × Value)} {declared : List String} {rows : List Resource}

/-! ## Definitions -/

/-- The row is one of this type. -/
def isOfType (t : Table) (type : ResourceType) (r : Row) : Bool := t.holdsIn "type" (.integer type.number) r

/-- What a row says of a file or folder. -/
def resourceOf (t : Table) (r : Row) : Resource :=
  ⟨t.cell "full_name" r, t.cell "size" r, t.cell "is_directory" r⟩

/-- What the rows of one type say. -/
def resources (t : Table) (type : ResourceType) : List Resource :=
  (t.rows.filter (isOfType t type)).map (resourceOf t)

/-- The names that the columns which are read were declared with. -/
def declaredIn (t : Table) : List String :=
  columns.filterMap fun n => (t.columns.find? fun c => Sql.sameName c.name n).map (·.name)

/-- The table has every column that the work on a type needs. -/
def hasColumns (t : Table) : Bool := (columns ++ ["type"]).all fun c => (t.column? c).isSome

/-- The size of this folder is written into the row. -/
def takes (t : Table) (type : ResourceType) (folder : Value) (r : Row) : Bool :=
  isOfType t type r && t.holdsIn "full_name" folder r

/-- The row after the size of one folder was written. -/
def sized (t : Table) (type : ResourceType) (r : Row) (total : Value × Value) : Row :=
  if takes t type total.1 r then t.withCell "size" total.2 r else r

/-- The row after the sizes of folders were written, one after the other. -/
def resized (t : Table) (type : ResourceType) (totals : List (Value × Value)) (r : Row) : Row :=
  totals.foldl (sized t type) r

/-! ## Reading -/

theorem selectRows_eq (ht : db.find? table = some t) :
    db.selectRows table columns (some ("type", .integer type.number)) =
      if Sql.isPlainName table && hasColumns t then
        .ok ((t.rows.filter (isOfType t type)).map fun r => columns.map fun c => t.cell c r)
      else .error .operational := by
  have htype : ∀ i, t.column? "type" = some i → t.holds i (.integer type.number) = isOfType t type := by
    intro i hi
    funext r
    rw [isOfType, Table.holdsIn, hi, Option.any_some]
  simp only [Sql.Database.selectRows, Sql.Database.plain?, Table.chosenBy?, hasColumns, columns]
  cases hp : Sql.isPlainName table with
  | false => simp
  | true =>
    cases hname : t.column? "full_name" <;> cases hsize : t.column? "size" <;>
      cases hflag : t.column? "is_directory" <;> cases hi : t.column? "type" <;>
      simp [ht, hname, hsize, hflag, hi, Table.cell, htype]

/-- The rows of a type are read, or the table cannot be asked for them. -/
theorem readRows_eq (ht : db.find? table = some t) :
    readRows table type db =
      if Sql.isPlainName table && hasColumns t then .ok (declaredIn t, resources t type) else .error .operational := by
  rw [readRows, selectRows_eq ht]
  split_ifs with h
  · have hp : Sql.isPlainName table = true := (Bool.and_eq_true_iff.1 h).1
    simp only [Sql.Database.declaredNames, Sql.Database.plain?, hp, if_true, ht, Except.map, List.map_map]
    rfl
  · rfl

theorem readRows_of_find?_eq_none (h : db.find? table = none) : readRows table type db = .error .operational := by
  simp [readRows, Sql.Database.selectRows, Sql.Database.plain?, h, Except.map]

theorem isOfType_congr (h : t'.columns = t.columns) : isOfType t' type = isOfType t type := Sql.holdsIn_congr h

theorem cell_congr (h : t'.columns = t.columns) : t'.cell = t.cell := by
  funext c r
  simp only [Table.cell, Table.column?, h]

theorem resourceOf_congr (h : t'.columns = t.columns) : resourceOf t' = resourceOf t := by
  funext r
  simp only [resourceOf, cell_congr h]

theorem declaredIn_congr (h : t'.columns = t.columns) : declaredIn t' = declaredIn t := by
  simp only [declaredIn, h]

theorem hasColumns_congr (h : t'.columns = t.columns) : hasColumns t' = hasColumns t := by
  simp only [hasColumns, Table.column?, h]

theorem isSome_column?_of_hasColumns {c : String} (h : hasColumns t = true) (hc : c ∈ columns ++ ["type"]) :
    (t.column? c).isSome := List.all_eq_true.1 h c hc

/-- A row can be asked for its type and its name. -/
theorem isSome_column?_given (h : hasColumns t = true) (folder : Value) :
    ∀ p ∈ [("type", Value.integer type.number), ("full_name", folder)], (t.column? p.1).isSome :=
  List.forall_mem_cons.2 ⟨isSome_column?_of_hasColumns h (by simp),
    List.forall_mem_singleton.2 (isSome_column?_of_hasColumns h (by simp [columns]))⟩

theorem readRows_eq_ok (h : readRows table type db = .ok (declared, rows)) :
    ∃ t, db.find? table = some t ∧ (t.column? "full_name").isSome ∧ rows = resources t type := by
  cases ht : db.find? table with
  | none =>
    rw [readRows_of_find?_eq_none ht] at h
    cases h
  | some t =>
    rw [readRows_eq ht] at h
    split_ifs at h with hasked
    cases h
    exact ⟨t, rfl, isSome_column?_of_hasColumns (Bool.and_eq_true_iff.1 hasked).2 (by simp [columns]), rfl⟩

/-! ## Writing -/

theorem writeSize_rows (h : writeSize table type db folder size = .ok db') (ht : db.find? table = some t) :
    (t.column? "size").isSome ∧ ∃ t', db'.find? table = some t' ∧ t'.columns = t.columns ∧
      t'.rows.Perm (t.rows.map fun r => if takes t type folder r then t.withCell "size" size r else r) := by
  rcases writeSize_cases table type folder size with hwide | hset
  · rw [hwide] at h
    cases h
  · rw [hset, mapError_eq_ok_iff] at h
    obtain ⟨⟨n, d⟩, hd, rfl⟩ := map_eq_ok_iff.1 h
    simpa [takes, isOfType] using Sql.setWhere_rows hd ht

theorem takes_congr (h : t'.columns = t.columns) : takes t' type = takes t type := by
  funext folder r
  rw [takes, takes, isOfType_congr h, Sql.holdsIn_congr h]

theorem resized_congr (h : t'.columns = t.columns) : resized t' type totals = resized t type totals := by
  have hsized : sized t' type = sized t type := by
    funext r p
    rw [sized, sized, takes_congr h, Sql.withCell_congr h]
  funext r
  rw [resized, resized, hsized]

/-- The sizes are written into the rows one by one. -/
theorem writeSizes_rows (h : writeSizes table type db totals = .ok db') (ht : db.find? table = some t) :
    (totals ≠ [] → (t.column? "size").isSome) ∧ ∃ t', db'.find? table = some t' ∧ t'.columns = t.columns ∧
      t'.rows.Perm (t.rows.map (resized t type totals)) := by
  induction totals generalizing db t with
  | nil =>
    cases h
    exact ⟨fun hne => absurd rfl hne, t, ht, rfl, .of_eq (List.map_id _).symm⟩
  | cons p totals ih =>
    unfold writeSizes at h
    split at h
    · cases h
    · next d hd =>
      obtain ⟨hsize, u, hu, hcolumns, hrows⟩ := writeSize_rows hd ht
      obtain ⟨-, t', ht', hcolumns', hrows'⟩ := ih h hu
      refine ⟨fun _ => hsize, t', ht', hcolumns'.trans hcolumns, ?_⟩
      rw [resized_congr hcolumns] at hrows'
      exact hrows'.trans ((hrows.map _).trans (.of_eq (by rw [List.map_map]; rfl)))

/-! ## One row -/

theorem takes_withCell : takes t type folder (t.withCell "size" v r) = takes t type folder r := by
  rw [takes, takes, isOfType, isOfType, Sql.holdsIn_withCell_other (by decide),
    Sql.holdsIn_withCell_other (by decide)]

theorem takes_sized (p : Value × Value) : takes t type folder (sized t type r p) = takes t type folder r := by
  unfold sized
  split
  · exact takes_withCell
  · rfl

theorem takes_resized : takes t type folder (resized t type totals r) = takes t type folder r := by
  induction totals generalizing r with
  | nil => rfl
  | cons p totals ih => exact ih.trans (takes_sized p)

/-- New sizes do not change the type of a row. -/
theorem isOfType_resized : isOfType t other (resized t type totals r) = isOfType t other r := by
  induction totals generalizing r with
  | nil => rfl
  | cons p totals ih =>
    refine ih.trans ?_
    unfold sized
    split
    · exact Sql.holdsIn_withCell_other (by decide)
    · rfl

theorem resized_of_not_takes (h : ∀ p ∈ totals, takes t type p.1 r = false) : resized t type totals r = r := by
  induction totals with
  | nil => rfl
  | cons p totals ih =>
    obtain ⟨hp, hrest⟩ := List.forall_mem_cons.1 h
    rw [resized, List.foldl_cons, sized, hp]
    exact ih hrest

/-- Nothing but the size of a row changes. -/
theorem getElem?_cells_resized {j : Nat} (hj : t.column? "size" ≠ some j) :
    (resized t type totals r).cells[j]? = r.cells[j]? := by
  induction totals generalizing r with
  | nil => rfl
  | cons p totals ih =>
    refine ih.trans ?_
    unfold sized
    split
    · exact Sql.getElem?_cells_withCell_other hj
    · rfl

theorem mapIdx_cells_resized (h : r.cells.mapIdx t.keepAt = r.cells) :
    (resized t type totals r).cells.mapIdx t.keepAt = (resized t type totals r).cells := by
  induction totals generalizing r with
  | nil => exact h
  | cons p totals ih =>
    refine ih ?_
    unfold sized
    split
    · exact Sql.mapIdx_cells_withCell h _
    · exact h

/-- Where all sizes that are written into a row are the same, it is written once. -/
theorem resized_eq_withCell (hall : ∀ p ∈ totals, takes t type p.1 r = true → p.2 = v)
    (hex : ∃ p ∈ totals, takes t type p.1 r = true) : resized t type totals r = t.withCell "size" v r := by
  induction totals generalizing r with
  | nil => simp at hex
  | cons p totals ih =>
    obtain ⟨hp, hrest⟩ := List.forall_mem_cons.1 hall
    rw [resized, List.foldl_cons, sized]
    by_cases htakes : takes t type p.1 r = true
    · rw [if_pos htakes, hp htakes]
      by_cases hlater : ∃ q ∈ totals, takes t type q.1 r = true
      · refine (ih (fun q hq => ?_) ?_).trans (Sql.withCell_withCell t _ v r)
        · rw [takes_withCell]
          exact hrest q hq
        · simpa only [takes_withCell] using hlater
      · refine resized_of_not_takes fun q hq => ?_
        rw [takes_withCell]
        simpa using fun h => hlater ⟨q, hq, h⟩
    · rw [if_neg htakes]
      refine ih hrest ?_
      obtain ⟨q, hq, hqtakes⟩ := hex
      rcases List.mem_cons.1 hq with rfl | hq
      · exact absurd hqtakes htakes
      · exact ⟨q, hq, hqtakes⟩

/-- The row has that size then. -/
theorem cell_size_resized (hc : (t.column? "size").isSome) (hr : r.cells.length = t.columns.length)
    (hall : ∀ p ∈ totals, takes t type p.1 r = true → p.2 = v) (hex : ∃ p ∈ totals, takes t type p.1 r = true) :
    t.cell "size" (resized t type totals r) = t.kept "size" v := by
  rw [resized_eq_withCell hall hex]
  exact Sql.cell_withCell_self hc hr

/-! ## All rows of a type -/

/-- A row as it is once the sizes of a type are written. -/
structure Settles (t : Table) (type : ResourceType) (r r' : Row) : Prop where
  /-- Nothing but the size of a row changes. -/
  others : ∀ j, t.column? "size" ≠ some j → r'.cells[j]? = r.cells[j]?
  /-- A row with the name of a folder of its type has the sum over the files below that name that count. -/
  sum : isOfType t type r = true → ∀ d ∈ resources t type, isFolder d = true → d.name = (resourceOf t r).name →
    ∃ folder, d.name = .text folder ∧
      t.cell "size" r' = t.kept "size" (.integer (sumBelow folder (latest (files (resources t type)))))
  /-- All other rows stay as they are. -/
  stays : (isOfType t type r = true → ∀ d ∈ resources t type, isFolder d = true → d.name ≠ (resourceOf t r).name) →
    r' = r

/-- The folders that are written are those of the type. -/
theorem mem_folders (h : totals.map Prod.fst = (rows.filter isFolder).map (·.name)) :
    (∃ p ∈ totals, p.1 = v) ↔ ∃ d ∈ rows, isFolder d = true ∧ d.name = v := by
  have hmem : v ∈ totals.map Prod.fst ↔ v ∈ (rows.filter isFolder).map (·.name) := by rw [h]
  simpa only [List.mem_map, List.mem_filter, and_assoc] using hmem

/-- A folder is written into the rows of its own name. -/
theorem takes_iff (hstored : t.IsStored) (hname : (t.column? "full_name").isSome) {d : Resource} {s : String}
    (hd : d ∈ resources t type) (hs : d.name = .text s) (hr : r ∈ t.rows) :
    takes t type d.name r = true ↔ isOfType t type r = true ∧ (resourceOf t r).name = d.name := by
  obtain ⟨q, hq, rfl⟩ := List.mem_map.1 hd
  have hkept : t.kept "full_name" (.text s) = .text s := by
    rw [← hs]
    exact hstored.kept_cell (List.mem_of_mem_filter hq) hname
  rw [takes, Bool.and_eq_true, hs, Sql.holdsIn_text_iff hname (t.cells_fit r hr) hkept]
  rfl

theorem resize_settles (ht : db.find? table = some t) (hstored : t.IsStored)
    (hnumbers : ∀ r ∈ files (resources t type), HasNumber r) (h : resize table type db = .ok db') :
    ∃ t' after, db'.find? table = some t' ∧ t'.columns = t.columns ∧ t'.IsStored ∧
      t'.rows.Perm (t.rows.map after) ∧ ∀ r ∈ t.rows, Settles t type r (after r) := by
  unfold resize at h
  split at h
  · cases h
  · next declared rows hread =>
    obtain ⟨u, hu, hname, rfl⟩ := readRows_eq_ok hread
    obtain rfl : t = u := Option.some.inj (ht.symm.trans hu)
    split at h
    · cases h
    · obtain ⟨totals, htotals, hwrite⟩ := bind_eq_ok_iff.1 h
      obtain ⟨hfolders, hsums⟩ := folderTotals_eq_ok hnumbers htotals
      obtain ⟨hsize, t', ht', hcolumns, hrows⟩ := writeSizes_rows hwrite ht
      have hstored' : t'.IsStored := by
        intro r' hr'
        obtain ⟨r, hr, rfl⟩ := List.mem_map.1 (hrows.mem_iff.1 hr')
        rw [Sql.keepAt_congr hcolumns]
        exact mapIdx_cells_resized (hstored r hr)
      refine ⟨t', resized t type totals, ht', hcolumns, hstored', hrows, fun r hr => ?_⟩
      have htakes : ∀ p ∈ totals, takes t type p.1 r = true ↔
          isOfType t type r = true ∧ (resourceOf t r).name = p.1 := by
        intro p hp
        obtain ⟨s, hs, -⟩ := hsums p hp
        obtain ⟨d, hd, -, hdp⟩ := (mem_folders hfolders).1 ⟨p, hp, rfl⟩
        rw [← hdp]
        exact takes_iff hstored hname hd (hdp.trans hs) hr
      refine ⟨fun j hj => getElem?_cells_resized hj, fun htype d hd hdir heq => ?_, fun hother => ?_⟩
      · obtain ⟨p, hp, hpd⟩ := (mem_folders hfolders).2 ⟨d, hd, hdir, rfl⟩
        obtain ⟨s, hs, hsum⟩ := hsums p hp
        refine ⟨s, hpd.symm.trans hs, ?_⟩
        refine cell_size_resized (hsize (List.ne_nil_of_mem hp)) (t.cells_fit r hr) (fun q hq hqr => ?_)
          ⟨p, hp, (htakes p hp).2 ⟨htype, heq.symm.trans hpd.symm⟩⟩
        -- all folders of one name have one sum
        obtain ⟨s', hs', hsum'⟩ := hsums q hq
        have hnames : q.1 = p.1 := ((htakes q hq).1 hqr).2.symm.trans (heq.symm.trans hpd.symm)
        rw [hs', hs, Value.text.injEq] at hnames
        rw [hsum', hnames]
      · refine resized_of_not_takes fun p hp => ?_
        rw [Bool.eq_false_iff, ne_eq, htakes p hp]
        rintro ⟨htype, hpr⟩
        obtain ⟨d, hd, hdir, hdp⟩ := (mem_folders hfolders).1 ⟨p, hp, rfl⟩
        exact hother htype d hd hdir (hdp.trans hpr.symm)

theorem folderCount_eq (ht : db.find? table = some t) (h : resize table type db = .ok db') :
    folderCount table type db = (resources t type).countP isFolder := by
  unfold resize at h
  unfold folderCount
  split at h
  · cases h
  · next declared rows hread =>
    obtain ⟨u, hu, -, rfl⟩ := readRows_eq_ok hread
    obtain rfl : t = u := Option.some.inj (ht.symm.trans hu)
    rfl

/-- Where the work on a type succeeds and the sizes of its files are integers or null, every row settles, and every
cell is still as its column keeps it.  The result is the number of the folders.  Where no two files have the same
name, every folder has the sum over all files below it, and where no file has the name of a folder, every file stays
as it is. -/
theorem update_sums {j : Journal} {n : Nat} {store : Store} (ht : db.find? table = some t) (hstored : t.IsStored)
    (hnumbers : ∀ r ∈ files (resources t type), HasNumber r)
    (h : (update table type).run site ⟨.database db, j⟩ = (.ok n, store)) :
    ∃ db' t' after, store.storage = .database db' ∧ db'.find? table = some t' ∧ t'.columns = t.columns ∧
      t'.IsStored ∧ t'.rows.Perm (t.rows.map after) ∧ n = (resources t type).countP isFolder ∧
      (∀ r ∈ t.rows, Settles t type r (after r)) ∧
      ((files (resources t type)).Pairwise (fun a b => a.name ≠ b.name) →
        ∀ r ∈ t.rows, isOfType t type r = true → isFolder (resourceOf t r) = true →
          ∃ folder, (resourceOf t r).name = .text folder ∧
            t.cell "size" (after r) = t.kept "size" (.integer (sumBelow folder (files (resources t type))))) ∧
      ((∀ file ∈ files (resources t type), ∀ d ∈ resources t type, isFolder d = true → d.name ≠ file.name) →
        ∀ r ∈ t.rows, isOfType t type r = true → isFolder (resourceOf t r) = false → after r = r) := by
  rcases update_cases site db table type with ⟨e, -, he⟩ | ⟨db', c, hr, hn⟩
  · cases (he.run_eq h).1
  · obtain ⟨hcount, hstorage, -⟩ := hn.run_eq h
    obtain ⟨t', after, ht', hcolumns, hstored', hrows, hsettles⟩ := resize_settles ht hstored hnumbers hr
    rw [Except.ok.injEq, folderCount_eq ht hr] at hcount
    have hmem : ∀ r ∈ t.rows, isOfType t type r = true → resourceOf t r ∈ resources t type := fun r hr htype =>
      List.mem_map_of_mem (List.mem_filter.2 ⟨hr, htype⟩)
    refine ⟨db', t', after, hstorage, ht', hcolumns, hstored', hrows, hcount, hsettles,
      fun hdistinct r hr htype hdir => ?_, fun hapart r hr htype hfile => (hsettles r hr).stays fun _ d hd hdir => ?_⟩
    · have hsum := (hsettles r hr).sum htype _ (hmem r hr htype) hdir rfl
      rwa [latest_eq_self hdistinct] at hsum
    · exact hapart _ (List.mem_filter.2 ⟨hmem r hr htype, by rw [hfile]; rfl⟩) d hd hdir

/-- A folder, and a file in it that is listed twice. -/
def listedTwice : Table where
  name := defaultTable
  columns := [⟨"id", .integer, false, false, true, true, .null⟩, { name := "full_name", affinity := .text },
    { name := "size", affinity := .integer }, { name := "is_directory", affinity := .integer },
    { name := "type", affinity := .integer }]
  rows := [⟨1, [.integer 1, .text "/a", .integer 0, .integer 1, .integer 0]⟩,
    ⟨2, [.integer 2, .text "/a/x", .integer 1, .integer 0, .integer 0]⟩,
    ⟨3, [.integer 3, .text "/a/x", .integer 2, .integer 0, .integer 0]⟩]
  cells_fit := by decide

/-- The file counts once in the size of the folder, with the size of its last row. -/
theorem update_sums_listedTwice :
    ∃ db' t' r, ((update defaultTable .file).run { vendor := .sqlite, files := {}, root := ⟨"", []⟩ }
          ⟨.database ⟨[listedTwice]⟩, []⟩).2.storage = .database db' ∧
        db'.find? defaultTable = some t' ∧ r ∈ t'.rows ∧ listedTwice.cell "full_name" r = .text "/a" ∧
        listedTwice.cell "size" r = .integer 2 ∧ sumBelow "/a" (files (resources listedTwice .file)) = 3 := by
  have hfound : (⟨[listedTwice]⟩ : Sql.Database).find? defaultTable = some listedTwice := by decide +kernel
  have hfiles : files (resources listedTwice .file) =
      [⟨.text "/a/x", .integer 1, .integer 0⟩, ⟨.text "/a/x", .integer 2, .integer 0⟩] := by decide +kernel
  have hnumbers : ∀ r ∈ files (resources listedTwice .file), HasNumber r := by
    rw [hfiles]
    simp [HasNumber]
  have hok : ((update defaultTable .file).run { vendor := .sqlite, files := {}, root := ⟨"", []⟩ }
      ⟨.database ⟨[listedTwice]⟩, []⟩).1 = .ok 1 := rfl
  cases hrun : (update defaultTable .file).run { vendor := .sqlite, files := {}, root := ⟨"", []⟩ }
      ⟨.database ⟨[listedTwice]⟩, []⟩ with
  | mk result store =>
    rw [hrun] at hok
    cases hok
    obtain ⟨db', t', after, hstorage, ht', -, -, hrows, -, hsettles, -⟩ :=
      update_sums hfound (by decide +kernel) hnumbers hrun
    -- the row of the folder
    obtain ⟨r, hr⟩ : ∃ r : Row, r = ⟨1, [.integer 1, .text "/a", .integer 0, .integer 1, .integer 0]⟩ := ⟨_, rfl⟩
    have hmem : r ∈ listedTwice.rows := hr ▸ List.mem_cons_self
    have hresource : resourceOf listedTwice r = ⟨.text "/a", .integer 0, .integer 1⟩ := by
      rw [hr]
      decide +kernel
    have hname : listedTwice.column? "full_name" = some 1 ∧ listedTwice.column? "size" = some 2 := by decide +kernel
    refine ⟨db', t', after r, hstorage, ht', hrows.mem_iff.2 (List.mem_map_of_mem hmem), ?_, ?_, ?_⟩
    · have hcell : (after r).cells[1]? = r.cells[1]? := (hsettles r hmem).others 1 (by simp [hname.2])
      rw [Table.cell, hname.1, Option.bind_some, hcell, hr]
      rfl
    · obtain ⟨folder, hfolder, hsum⟩ := (hsettles r hmem).sum (by rw [hr]; decide +kernel)
        ⟨.text "/a", .integer 0, .integer 1⟩ (by decide +kernel) rfl (by rw [hresource])
      cases hfolder
      rw [hsum, hfiles]
      decide +kernel
    · rw [hfiles]
      decide +kernel

end SchemaMigration.FolderSize
