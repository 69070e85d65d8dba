import SchemaMigration.Proofs.FolderSize.Sums
import SchemaMigration.Proofs.Sql.FreeColumn

/-!
# SchemaMigration.Proofs.FolderSize.Independence — the types of resources do not get into each other's way

The work on a type reads and writes only the rows of that type, and no row is of two types.  Where no rule binds the
sizes, a write is never refused, so what keeps a type from being written is known from its own rows.  The order of the
types then does not matter.

* `wanted` : the sizes that are written for a type, or what keeps them from being computed or written.
* `isOfType_ne` : no row is of two types.
* `resize_cases` : the sizes that are wanted are what is written.
* `wanted_settle`, `settle_comm`, `foldl_settle_perm` : one type before another one, and all of them in any order.
* `Treats`, `Course` : the work on one type, and on several, one after the other.
* `Course.exists_run` : what is reported of the types is what became of each.
* `updateAll_isolated` : all types, in the order given and in any other.
-/

namespace SchemaMigration.FolderSize

open Job
open Sql (Value Table Row)

variable {site : Site} {db db' : Sql.Database} {table : String} {type other : ResourceType} {t t' : Table} {r : Row}
  {v : Value} {totals : List (Value × Value)} {e : Accident} {order order' : List ResourceType} {st st' : Storage}
  {f : Row → Row} {result : ResourceType → Except Fault Nat}

/-! ## Definitions -/

/-- The sizes that are written for a type, or what keeps them from being computed or written. -/
def wanted (table : String) (type : ResourceType) (db : Sql.Database) : Except Accident (List (Value × Value)) :=
  match readRows table type db with
  | .error e => .error (.database e)
  | .ok (declared, rows) =>
    match missingColumn? declared rows with
    | some column => .error (.missingField column)
    | none => (folderTotals rows).bind fun totals =>
      if totals.all (fits ·.2) then .ok totals else .error .integerTooWide

/-- The table can be read, and no rule of it binds the sizes. -/
structure IsWritable (table : String) (t : Table) (db : Sql.Database) : Prop where
  plain : Sql.isPlainName table = true
  found : db.find? table = some t
  columns : hasColumns t = true
  free : t.IsFree "size"

/-- If the table of the resources is there, no rule of it binds the sizes. -/
def HasFreeSizes (table : String) (db : Sql.Database) : Prop := ∀ t, db.find? table = some t → t.IsFree "size"

/-- The databases differ in nothing but the sizes of the rows of a type. -/
def DiffersInSizes (table : String) (type : ResourceType) (db db' : Sql.Database) : Prop :=
  ∃ t f, db.MapsRows table t f db' ∧ ∀ r ∈ t.rows, (f r).id = r.id ∧
    (∀ j, t.column? "size" ≠ some j → (f r).cells[j]? = r.cells[j]?) ∧ (isOfType t type r = false → f r = r)

/-- The work on a type ends with `r` and leaves `st'`: it fails and changes nothing, or changes nothing but the sizes
of its own rows. -/
structure Treats (site : Site) (table : String) (type : ResourceType) (st : Storage) (r : Except Fault Nat)
    (st' : Storage) : Prop where
  run : ∀ j, ∃ k, (update table type).run site ⟨st, j⟩ = (r, ⟨st', j ++ k⟩)
  failed : ∀ e, r = .error e → st' = st
  succeeded : ∀ n, r = .ok n →
    ∃ db db', st = .database db ∧ st' = .database db' ∧ DiffersInSizes table type db db'

/-- The work on several types, one after the other, each with its result. -/
inductive Course (site : Site) (table : String) (result : ResourceType → Except Fault Nat) :
    Storage → List ResourceType → Storage → Prop
  | nil (st : Storage) : Course site table result st [] st
  | cons {st st₁ st₂ : Storage} {type : ResourceType} {order : List ResourceType}
      (first : Treats site table type st (result type) st₁) (rest : Course site table result st₁ order st₂) :
      Course site table result st (type :: order) st₂

/-- The work on the types in this order. -/
def updateIn (order : List ResourceType) (table : String) : Job Outcome := order.foldlM (tryType table) {}

theorem updateAll_eq (table : String) : updateAll table = updateIn ResourceType.all table := rfl

/-- The type that a failure is about. -/
def typeOf? (f : Failure) : Option ResourceType :=
  match f.reason with
  | .sizesNotUpdated _ resourceType _ => resourceType.bind ResourceType.ofNumber?
  | _ => none

/-- Every type is reported once, in this order: as updated where it succeeded, with an error where it failed. -/
structure Reports (result : ResourceType → Except Fault Nat) (order : List ResourceType) (o : Outcome) : Prop where
  updated : o.updated.map Prod.fst = order.filter fun type => (result type).isOk
  errors : o.errors.map typeOf? = (order.filter fun type => !(result type).isOk).map some

/-- What becomes of a type in a database. -/
def resultOf (table : String) (db : Sql.Database) (type : ResourceType) : Except Fault Nat :=
  match resize table type db with
  | .error e => .error (.accident e)
  | .ok _ => .ok (folderCount table type db)

/-! ## Types -/

theorem eq_of_number {type other : ResourceType} (h : type.number = other.number) : type = other := by
  cases type <;> cases other <;> first | rfl | cases h

/-- No value is equal to two integers. -/
theorem integer_unique {i j : Int} (hi : v.equal (.integer i) = true) (hj : v.equal (.integer j) = true) : i = j := by
  cases v with
  | integer k => exact (of_decide_eq_true hi).symm.trans (of_decide_eq_true hj)
  | real d => exact Option.some.inj ((of_decide_eq_true hi).symm.trans (of_decide_eq_true hj))
  | _ => cases hi

/-- The number of one type only is found in a cell, be it kept as a number or as a text. -/
theorem matchesCondition_number_unique {a : Sql.Affinity}
    (h : Sql.matchesCondition a v (.integer type.number) = true)
    (h' : Sql.matchesCondition a v (.integer other.number) = true) : type = other := by
  cases a with
  | text =>
    have htexts : toString type.number = toString other.number := by
      cases v with
      | text s => exact (of_decide_eq_true h).symm.trans (of_decide_eq_true h')
      | _ => cases h
    revert htexts
    cases type <;> cases other <;> decide
  | _ => exact eq_of_number (integer_unique h h')

/-- No row is of two types. -/
theorem isOfType_ne (hne : type ≠ other) (h : isOfType t type r = true) : isOfType t other r = false := by
  rw [Bool.eq_false_iff]
  intro h'
  refine hne ?_
  unfold isOfType Table.holdsIn at h h'
  cases hi : t.column? "type" with
  | none => simp [hi] at h
  | some i =>
    rw [hi, Option.any_some, Table.holds] at h h'
    split at h
    · next c cell hc hcell =>
      simp only [hc, hcell] at h'
      exact matchesCondition_number_unique h h'
    · cases h

/-- The rows of other types stay as they are. -/
theorem resized_of_not_isOfType (h : isOfType t type r = false) : resized t type totals r = r :=
  resized_of_not_takes fun p _ => by rw [takes, h, Bool.false_and]

/-! ## Reading -/

theorem isWritable_of_readRows {found : List String × List Resource} (hfree : HasFreeSizes table db)
    (h : readRows table type db = .ok found) : ∃ t, IsWritable table t db := by
  cases ht : db.find? table with
  | none =>
    rw [readRows_of_find?_eq_none ht] at h
    cases h
  | some t =>
    rw [readRows_eq ht] at h
    split_ifs at h with hasked
    obtain ⟨hp, hcolumns⟩ := Bool.and_eq_true_iff.1 hasked
    exact ⟨t, hp, ht, hcolumns, hfree t ht⟩

/-- What is read of a type are its own rows. -/
theorem readRows_of_mapsRows (h : db.MapsRows table t f db')
    (htype : ∀ r ∈ t.rows, isOfType t type (f r) = isOfType t type r)
    (hkeep : ∀ r ∈ t.rows, isOfType t type r = true → f r = r) :
    readRows table type db' = readRows table type db := by
  obtain ⟨t', ht', -, hcolumns, hrows⟩ := h.find?
  have hfilter : t'.rows.filter (isOfType t' type) = t.rows.filter (isOfType t type) := by
    have hsame : ∀ r ∈ t.rows, (isOfType t type ∘ f) r = isOfType t type r := htype
    rw [isOfType_congr hcolumns, hrows, List.filter_map, List.filter_congr hsame]
    refine (List.map_congr_left fun r hr => ?_).trans (List.map_id' _)
    obtain ⟨hr, hrtype⟩ := List.mem_filter.1 hr
    exact hkeep r hr hrtype
  have hresources : resources t' type = resources t type := by
    rw [resources, resources, hfilter, resourceOf_congr hcolumns]
  rw [readRows_eq ht', readRows_eq h.found, hresources, hasColumns_congr hcolumns, declaredIn_congr hcolumns]

/-! ## Writing -/

/-- A size is written into the rows that take it. -/
theorem exists_writeSize (type : ResourceType) (h : IsWritable table t db) (hfits : fits v = true) (folder : Value) :
    ∃ db', writeSize table type db folder v = .ok db' ∧ db.MapsRows table t (sized t type · (folder, v)) db' := by
  obtain ⟨n, db', hset, hmaps⟩ := Sql.exists_setWhere_of_isFree h.plain h.found h.free
    (isSome_column?_of_hasColumns h.columns (by simp [columns])) (isSome_column?_given h.columns folder) v
  refine ⟨db', by rw [writeSize_of_fits hfits, hset]; rfl, ?_⟩
  simpa [sized, takes, isOfType] using hmaps

theorem IsWritable.of_mapsRows (h : IsWritable table t db) (hm : db.MapsRows table t f db') :
    ∃ t', IsWritable table t' db' ∧ t'.columns = t.columns := by
  obtain ⟨t', ht', -, hcolumns, -⟩ := hm.find?
  exact ⟨t', ⟨h.plain, ht', (hasColumns_congr hcolumns).trans h.columns, h.free.of_columns hcolumns⟩, hcolumns⟩

/-- The sizes are written into the rows one by one, and none is refused. -/
theorem exists_writeSizes (type : ResourceType) (h : IsWritable table t db) (hfits : ∀ p ∈ totals, fits p.2 = true) :
    ∃ db', writeSizes table type db totals = .ok db' ∧ db.MapsRows table t (resized t type totals) db' := by
  induction totals generalizing db t with
  | nil => exact ⟨db, rfl, Sql.mapsRows_id h.found fun _ _ => rfl⟩
  | cons p totals ih =>
    obtain ⟨hp, hrest⟩ := List.forall_mem_cons.1 hfits
    obtain ⟨db₁, hwrite, hm⟩ := exists_writeSize type h hp p.1
    obtain ⟨t₁, h₁, hcolumns⟩ := h.of_mapsRows hm
    obtain ⟨db', hwrites, hms⟩ := ih h₁ hrest
    rw [resized_congr hcolumns] at hms
    refine ⟨db', ?_, hm.trans h₁.found hms⟩
    rw [writeSizes, hwrite]
    exact hwrites

/-- A size that cannot be sent ends the work, wherever it stands. -/
theorem writeSizes_of_not_fits (h : IsWritable table t db) (hwide : ∃ p ∈ totals, fits p.2 = false) :
    writeSizes table type db totals = .error .integerTooWide := by
  induction totals generalizing db t with
  | nil => simp at hwide
  | cons p totals ih =>
    rw [writeSizes]
    cases hp : fits p.2 with
    | false => rw [writeSize_of_not_fits hp]
    | true =>
      obtain ⟨db₁, hwrite, hm⟩ := exists_writeSize type h hp p.1
      obtain ⟨t₁, h₁, -⟩ := h.of_mapsRows hm
      rw [hwrite]
      refine ih h₁ ?_
      simpa [hp] using hwide

/-- The sizes that are wanted are what is written, and what keeps them from being wanted ends the work. -/
theorem resize_cases (type : ResourceType) (hfree : HasFreeSizes table db) :
    (∃ e, wanted table type db = .error e ∧ resize table type db = .error e) ∨
      ∃ totals t db', wanted table type db = .ok totals ∧ resize table type db = .ok db' ∧
        db.MapsRows table t (resized t type totals) db' := by
  unfold wanted resize
  cases hread : readRows table type db with
  | error e => exact .inl ⟨_, rfl, rfl⟩
  | ok found =>
    obtain ⟨declared, rows⟩ := found
    obtain ⟨t, hwritable⟩ := isWritable_of_readRows hfree hread
    dsimp only
    cases hcolumn : missingColumn? declared rows with
    | some column => exact .inl ⟨_, rfl, rfl⟩
    | none =>
      cases htotals : folderTotals rows with
      | error e => exact .inl ⟨_, rfl, rfl⟩
      | ok totals =>
        by_cases hfits : totals.all (fits ·.2) = true
        · obtain ⟨db', hwrites, hm⟩ := exists_writeSizes type hwritable (List.all_eq_true.1 hfits)
          exact .inr ⟨totals, t, db', if_pos hfits, hwrites, hm⟩
        · have hwide : ∃ p ∈ totals, fits p.2 = false := by simpa using hfits
          exact .inl ⟨_, if_neg hfits, writeSizes_of_not_fits hwritable hwide⟩

/-! ## One type after another -/

/-- The sizes that are written for a type, none where it fails. -/
def sizesOf (table : String) (type : ResourceType) (db : Sql.Database) : List (Value × Value) :=
  (wanted table type db).toOption.getD []

theorem mapsRows_settle (type : ResourceType) (hfree : HasFreeSizes table db) (ht : db.find? table = some t) :
    db.MapsRows table t (resized t type (sizesOf table type db)) (settle table db type) := by
  unfold settle sizesOf
  rcases resize_cases type hfree with ⟨e, hw, hr⟩ | ⟨totals, u, db', hw, hr, hm⟩
  · rw [hw, hr]
    exact Sql.mapsRows_id ht fun _ _ => rfl
  · obtain rfl : t = u := Option.some.inj (ht.symm.trans hm.found)
    rw [hw, hr]
    exact hm

theorem settle_of_find?_eq_none (h : db.find? table = none) : settle table db type = db := by
  rw [settle, resize, readRows_of_find?_eq_none h]
  rfl

theorem hasFreeSizes_settle (type : ResourceType) (hfree : HasFreeSizes table db) :
    HasFreeSizes table (settle table db type) := by
  intro t' ht'
  cases ht : db.find? table with
  | none => exact hfree t' (by rwa [settle_of_find?_eq_none ht] at ht')
  | some t =>
    obtain ⟨u, hu, -, hcolumns, -⟩ := (mapsRows_settle type hfree ht).find?
    obtain rfl : u = t' := Option.some.inj (hu.symm.trans ht')
    exact (hfree t ht).of_columns hcolumns

/-- The work on one type does not change what is read of another one. -/
theorem readRows_settle (hfree : HasFreeSizes table db) (hne : type ≠ other) :
    readRows table other (settle table db type) = readRows table other db := by
  cases ht : db.find? table with
  | none => rw [settle_of_find?_eq_none ht]
  | some t =>
    refine readRows_of_mapsRows (mapsRows_settle type hfree ht) (fun _ _ => isOfType_resized) fun r _ hr => ?_
    exact resized_of_not_isOfType (isOfType_ne hne.symm hr)

theorem wanted_settle (hfree : HasFreeSizes table db) (hne : type ≠ other) :
    wanted table other (settle table db type) = wanted table other db := by
  rw [wanted, wanted, readRows_settle hfree hne]

/-- What becomes of a type does not depend on another one that was before. -/
theorem resultOf_settle (hfree : HasFreeSizes table db) (hne : type ≠ other) :
    resultOf table (settle table db type) other = resultOf table db other := by
  have hcount : folderCount table other (settle table db type) = folderCount table other db := by
    rw [folderCount, folderCount, readRows_settle hfree hne]
  have hwanted := wanted_settle hfree hne
  unfold resultOf
  rcases resize_cases other hfree with ⟨e, hw, hr⟩ | ⟨totals, t, db₁, hw, hr, -⟩ <;>
    rcases resize_cases other (hasFreeSizes_settle type hfree) with
      ⟨e', hw', hr'⟩ | ⟨totals', t', db₂, hw', hr', -⟩ <;>
    rw [hw, hw'] at hwanted <;> cases hwanted <;> rw [hr, hr']
  rw [hcount]

/-- A row takes only the sizes of its own type. -/
theorem resized_comm {totals' : List (Value × Value)} (hne : type ≠ other) :
    resized t other totals' (resized t type totals r) = resized t type totals (resized t other totals' r) := by
  by_cases htype : isOfType t type r = true
  · have hother : isOfType t other r = false := isOfType_ne hne htype
    rw [resized_of_not_isOfType hother, resized_of_not_isOfType (isOfType_resized.trans hother)]
  · rw [Bool.not_eq_true] at htype
    rw [resized_of_not_isOfType htype, resized_of_not_isOfType (isOfType_resized.trans htype)]

theorem settle_comm (hfree : HasFreeSizes table db) :
    settle table (settle table db type) other = settle table (settle table db other) type := by
  by_cases hne : type = other
  · rw [hne]
  cases ht : db.find? table with
  | none => simp only [settle_of_find?_eq_none ht]
  | some t =>
    have hboth : ∀ {type other : ResourceType}, type ≠ other →
        db.MapsRows table t (resized t other (sizesOf table other db) ∘ resized t type (sizesOf table type db))
          (settle table (settle table db type) other) := by
      intro type other hne
      have hfirst := mapsRows_settle type hfree ht
      obtain ⟨t', ht', -, hcolumns, -⟩ := hfirst.find?
      have hsecond := mapsRows_settle other (hasFreeSizes_settle type hfree) ht'
      rw [resized_congr hcolumns, sizesOf, wanted_settle hfree hne] at hsecond
      exact hfirst.trans ht' hsecond
    exact (hboth hne).unique (hboth (Ne.symm hne)) fun r _ => resized_comm hne

/-- The order of the types does not matter. -/
theorem foldl_settle_perm (hfree : HasFreeSizes table db) (h : order.Perm order') :
    order.foldl (settle table) db = order'.foldl (settle table) db := by
  induction h generalizing db with
  | nil => rfl
  | cons type _ ih => exact ih (hasFreeSizes_settle type hfree)
  | swap type other order => rw [List.foldl_cons, List.foldl_cons, List.foldl_cons, List.foldl_cons, settle_comm hfree]
  | trans _ _ ih ih' => exact (ih hfree).trans (ih' hfree)

/-! ## One type -/

theorem id_resized (hfree : t.IsFree "size") : (resized t type totals r).id = r.id := by
  induction totals generalizing r with
  | nil => rfl
  | cons p totals ih =>
    refine ih.trans ?_
    unfold sized
    split
    · exact Sql.id_withCell_of_isFree hfree r
    · rfl

theorem differsInSizes_settle (hfree : HasFreeSizes table db) (ht : db.find? table = some t) :
    DiffersInSizes table type db (settle table db type) :=
  ⟨t, _, mapsRows_settle type hfree ht, fun _ _ =>
    ⟨id_resized (hfree t ht), fun _ hj => getElem?_cells_resized hj, resized_of_not_isOfType⟩⟩

theorem treats_database (site : Site) (hfree : HasFreeSizes table db) (type : ResourceType) :
    Treats site table type (.database db) (resultOf table db type) (.database (settle table db type)) := by
  unfold resultOf
  rcases update_cases site db table type with ⟨e, hr, k, hk, -⟩ | ⟨db', c, hr, k, hk, -⟩
  · have hsettle : settle table db type = db := by
      rw [settle, hr]
      rfl
    rw [hr, hsettle]
    refine ⟨fun j => ⟨k, hk j⟩, fun _ _ => rfl, fun n hn => ?_⟩
    cases hn
  · obtain rfl : settle table db type = db' := by
      rw [settle, hr]
      rfl
    have hdiffers : DiffersInSizes table type db (settle table db type) := by
      cases ht : db.find? table with
      | none =>
        rw [resize, readRows_of_find?_eq_none ht] at hr
        cases hr
      | some t => exact differsInSizes_settle hfree ht
    rw [hr]
    refine ⟨fun j => ⟨k, hk j⟩, fun e he => ?_, fun n _ => ⟨db, _, rfl, rfl, hdiffers⟩⟩
    cases he

/-- Without a database every type fails. -/
theorem exists_treats_of_broken (site : Site) (table : String) (st : Storage) (hst : ∀ db, st ≠ .database db) :
    ∃ e, ∀ type, Treats site table type st (.error e) st := by
  cases st with
  | unreachable cause =>
    refine ⟨.accident cause, fun type => ⟨fun j => ⟨[], ?_⟩, fun _ _ => rfl, nofun⟩⟩
    rw [List.append_nil]
    rfl
  | notADatabase =>
    exact ⟨.accident (.database .notADatabase), fun type => ⟨fun j => ⟨_, rfl⟩, fun _ _ => rfl, nofun⟩⟩
  | database db => exact absurd rfl (hst db)

/-! ## All types -/

theorem course_database (site : Site) (hfree : HasFreeSizes table db) (hnodup : order.Nodup)
    (hresult : ∀ type ∈ order, result type = resultOf table db type) :
    Course site table result (.database db) order (.database (order.foldl (settle table) db)) := by
  induction order generalizing db with
  | nil => exact .nil _
  | cons type order ih =>
    obtain ⟨hnot, hnodup⟩ := List.nodup_cons.1 hnodup
    obtain ⟨htype, hrest⟩ := List.forall_mem_cons.1 hresult
    refine .cons (htype ▸ treats_database site hfree type)
      (ih (hasFreeSizes_settle type hfree) hnodup fun other hother => ?_)
    have hne : type ≠ other := fun h => hnot (h ▸ hother)
    rw [hrest other hother, resultOf_settle hfree hne]

theorem course_of_treats {r : Except Fault Nat} (h : ∀ type, Treats site table type st r st)
    (order : List ResourceType) : Course site table (fun _ => r) st order st := by
  induction order with
  | nil => exact .nil st
  | cons type order ih => exact .cons (h type) ih

/-- The outcome with what became of one more type. -/
def noted (o : Outcome) (type : ResourceType) : Except Fault Nat → Outcome
  | .ok n => { o with updated := o.updated ++ [(type, n)] }
  | .error e => { o with errors := o.errors ++ [failureOf type e] }

theorem Treats.run_tryType {res : Except Fault Nat} (h : Treats site table type st res st') (o : Outcome)
    (j : Journal) : ∃ k, (tryType table o type).run site ⟨st, j⟩ = (.ok (noted o type res), ⟨st', j ++ k⟩) := by
  obtain ⟨k, hk⟩ := h.run j
  refine ⟨k, ?_⟩
  cases res with
  | ok n => exact run_rescue_ok (run_bind_ok hk)
  | error e => exact run_rescue_error (run_bind_error hk)

theorem Course.exists_run (h : Course site table result st order st') (o : Outcome) (j : Journal) :
    ∃ k, (order.foldlM (tryType table) o).run site ⟨st, j⟩ =
      (.ok (order.foldl (fun o type => noted o type (result type)) o), ⟨st', j ++ k⟩) := by
  induction h generalizing o j with
  | nil st => exact ⟨[], by rw [List.append_nil]; rfl⟩
  | cons first rest ih =>
    obtain ⟨k, hk⟩ := first.run_tryType o j
    obtain ⟨k', hk'⟩ := ih (noted o _ (result _)) (j ++ k)
    refine ⟨k ++ k', ?_⟩
    rw [List.foldlM_cons, run_bind_ok hk, hk', List.append_assoc]
    rfl

theorem typeOf?_failureOf (type : ResourceType) (e : Fault) : typeOf? (failureOf type e) = some type := by
  cases type <;> rfl

theorem reports_foldl (result : ResourceType → Except Fault Nat) (order : List ResourceType) (o : Outcome) :
    let o' := order.foldl (fun o type => noted o type (result type)) o
    o'.updated.map Prod.fst = o.updated.map Prod.fst ++ order.filter (fun type => (result type).isOk) ∧
      o'.errors.map typeOf? = o.errors.map typeOf? ++ (order.filter fun type => !(result type).isOk).map some := by
  induction order generalizing o with
  | nil => simp
  | cons type order ih =>
    obtain ⟨hupdated, herrors⟩ := ih (noted o type (result type))
    dsimp only at hupdated herrors ⊢
    rw [List.foldl_cons, hupdated, herrors]
    cases hr : result type with
    | ok n => simp [noted, Except.isOk, Except.toBool, hr]
    | error e => simp [noted, Except.isOk, Except.toBool, hr, typeOf?_failureOf]

/-- The work on all types never fails.  Each type is reported once, in the order of the types: as updated, or with an
error.  A type that fails changes nothing, and one that succeeds changes nothing but the sizes of its own rows.  In
every other order the types end as they do in this one, and so does the database. -/
theorem updateAll_isolated (site : Site) (table : String) (store : Store)
    (hfree : ∀ db, store.storage = .database db → HasFreeSizes table db) :
    ∃ result after,
      (∃ o j, (updateAll table).run site store = (.ok o, ⟨after, j⟩) ∧ Reports result ResourceType.all o) ∧
      ∀ order, order.Perm ResourceType.all → Course site table result store.storage order after ∧
        ∃ o j, (updateIn order table).run site store = (.ok o, ⟨after, j⟩) ∧ Reports result order o := by
  have hcourse : ∃ result after, ∀ order, order.Perm ResourceType.all →
      Course site table result store.storage order after := by
    cases hst : store.storage with
    | database db =>
      refine ⟨resultOf table db, .database (resizeAll table db), fun order horder => ?_⟩
      rw [resizeAll, ← foldl_settle_perm (hfree db hst) horder]
      exact course_database site (hfree db hst) (horder.nodup_iff.2 (by decide)) fun _ _ => rfl
    | _ =>
      obtain ⟨e, htreats⟩ := exists_treats_of_broken site table store.storage (by simp [hst])
      exact ⟨_, _, fun order _ => hst ▸ course_of_treats htreats order⟩
  obtain ⟨result, after, hcourse⟩ := hcourse
  have hends : ∀ order, order.Perm ResourceType.all →
      ∃ o j, (updateIn order table).run site store = (.ok o, ⟨after, j⟩) ∧ Reports result order o := by
    intro order horder
    obtain ⟨k, hk⟩ := (hcourse order horder).exists_run {} store.journal
    obtain ⟨hupdated, herrors⟩ := reports_foldl result order {}
    exact ⟨_, _, hk, hupdated, herrors⟩
  refine ⟨result, after, ?_, fun order horder => ⟨hcourse order horder, hends order horder⟩⟩
  rw [updateAll_eq]
  exact hends _ (.refl _)

/-- A file that has a text for its size, and a folder of the other type. -/
def sizedByText : Table where
  name := defaultTable
  columns := listedTwice.columns
  rows := [⟨1, [.integer 1, .text "/a", .integer 0, .integer 1, .integer 0]⟩,
    ⟨2, [.integer 2, .text "/a/x", .text "large", .integer 0, .integer 0]⟩,
    ⟨3, [.integer 3, .text "/u", .null, .integer 1, .integer 1]⟩,
    ⟨4, [.integer 4, .text "/u/x", .integer 7, .integer 0, .integer 1]⟩]
  cells_fit := by decide

/-- The type with the text fails in both orders, and the other one is updated. -/
theorem updateAll_isolated_sizedByText :
    ∃ result after o j, (updateAll defaultTable).run { vendor := .sqlite, files := {}, root := ⟨"", []⟩ }
          ⟨.database ⟨[sizedByText]⟩, []⟩ = (.ok o, ⟨after, j⟩) ∧
        o.updated = [(.udf, 1)] ∧ o.errors.map typeOf? = [some .file] ∧
        (result .file).isOk = false ∧ (result .udf).isOk = true ∧
        Course { vendor := .sqlite, files := {}, root := ⟨"", []⟩ } defaultTable result (.database ⟨[sizedByText]⟩)
          [.udf, .file] after := by
  have hfree : HasFreeSizes defaultTable ⟨[sizedByText]⟩ := by
    have hfound : (⟨[sizedByText]⟩ : Sql.Database).find? defaultTable = some sizedByText := by decide +kernel
    have hsize : sizedByText.column? "size" = some 2 := by decide +kernel
    intro t ht i c hi hc
    obtain rfl : sizedByText = t := Option.some.inj (hfound.symm.trans ht)
    obtain rfl : 2 = i := Option.some.inj (hsize.symm.trans hi)
    cases hc
    decide
  obtain ⟨result, after, ⟨o, j, hrun, hreports⟩, hcourse⟩ :=
    updateAll_isolated { vendor := .sqlite, files := {}, root := ⟨"", []⟩ } defaultTable ⟨.database ⟨[sizedByText]⟩, []⟩
      fun db hdb => Storage.database.inj hdb ▸ hfree
  have houtcome : ((updateAll defaultTable).run { vendor := .sqlite, files := {}, root := ⟨"", []⟩ }
      ⟨.database ⟨[sizedByText]⟩, []⟩).1.toOption.map (fun o => (o.updated, o.errors.map typeOf?)) =
        some ([(.udf, 1)], [some .file]) := rfl
  rw [hrun] at houtcome
  obtain ⟨hupdated, herrors⟩ := Prod.mk.inj (Option.some.inj houtcome)
  have hresults : [ResourceType.udf] = ResourceType.all.filter fun type => (result type).isOk := by
    rw [← hreports.updated, hupdated]
    rfl
  have hboth : (result .file).isOk = false ∧ (result .udf).isOk = true := by
    cases hfile : (result .file).isOk <;> cases hudf : (result .udf).isOk <;>
      simp [ResourceType.all, hfile, hudf] at hresults ⊢
  exact ⟨result, after, o, j, hrun, hupdated, herrors, hboth.1, hboth.2, (hcourse _ (List.Perm.swap _ _ _)).1⟩

end SchemaMigration.FolderSize
