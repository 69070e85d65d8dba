import SchemaMigration.Proofs.FolderSize
import SchemaMigration.Proofs.Sql.Others

/-!
# SchemaMigration.Proofs.FolderSize.Locality — new folder sizes change one table and read one table

* `fits`, `writeSize_cases` : a size is too wide to be sent, or the database decides.
* `sameBut_resizeAll` : all tables but that of the resources stay as they are.
* `resizeAll_without` : what becomes of the other tables, and which of them there are, does not matter.
-/

namespace SchemaMigration.FolderSize

open Sql (Value)
open Sql.Database (SameBut)

variable {table other : String} {type : ResourceType} {db db' : Sql.Database} {totals : List (Value × Value)}
  {v : Value}

/-! ## Definitions -/

/-- The size can be sent to a database. -/
def fits : Value → Bool
  | .integer i => Sql.fitsInteger i
  | _ => true

/-! ## One table is changed -/

theorem writeSize_of_fits (hfits : fits v = true) (folder : Value) :
    writeSize table type db folder v =
      ((db.setWhere table "size" v [("type", .integer type.number), ("full_name", folder)]).map
        (·.2)).mapError .database := by
  unfold writeSize
  rw [if_neg ?_]
  · cases db.setWhere table "size" v [("type", .integer type.number), ("full_name", folder)] <;> rfl
  · cases v with
    | integer i => simpa [fits] using hfits
    | _ => exact Bool.false_ne_true

theorem writeSize_of_not_fits (hwide : fits v = false) (folder : Value) :
    writeSize table type db folder v = .error .integerTooWide := by
  cases v with
  | integer i =>
    have hi : Sql.fitsInteger i = false := hwide
    simp [writeSize, hi]
  | _ => cases hwide

/-- A size is too wide for every database, or the database decides. -/
theorem writeSize_cases (table : String) (type : ResourceType) (folder size : Value) :
    (∀ db, writeSize table type db folder size = .error .integerTooWide) ∨
      ∀ db, writeSize table type db folder size =
        ((db.setWhere table "size" size [("type", .integer type.number), ("full_name", folder)]).map
          (·.2)).mapError .database := by
  cases hfits : fits size with
  | false => exact .inl fun db => writeSize_of_not_fits hfits folder
  | true => exact .inr fun db => writeSize_of_fits hfits folder

theorem sameBut_writeSize {folder size : Value} (h : writeSize table type db folder size = .ok db') :
    SameBut table db db' := by
  rcases writeSize_cases table type folder size with hwide | hset
  · rw [hwide] at h
    cases h
  · rw [hset, mapError_eq_ok_iff] at h
    obtain ⟨⟨n, d⟩, hd, rfl⟩ := map_eq_ok_iff.1 h
    exact Sql.sameBut_setWhere hd

theorem sameBut_writeSizes (h : writeSizes table type db totals = .ok db') : SameBut table db db' := by
  induction totals generalizing db with
  | nil =>
    cases h
    exact .refl table _
  | cons t ts ih =>
    unfold writeSizes at h
    split at h
    · cases h
    · next hw => exact (sameBut_writeSize hw).trans (ih h)

theorem sameBut_resize (h : resize table type db = .ok db') : SameBut table db db' := by
  unfold resize at h
  split at h
  · cases h
  · split at h
    · cases h
    · obtain ⟨totals, -, hw⟩ := bind_eq_ok_iff.1 h
      exact sameBut_writeSizes hw

theorem sameBut_settle (table : String) (db : Sql.Database) (type : ResourceType) :
    SameBut table db (settle table db type) := by
  unfold settle
  cases hr : resize table type db with
  | error e => exact .refl table db
  | ok db' => exact sameBut_resize hr

/-- New folder sizes leave all other tables as they are. -/
theorem sameBut_resizeAll (table : String) (db : Sql.Database) : SameBut table db (resizeAll table db) := by
  have hfold : ∀ (types : List ResourceType) (d : Sql.Database), SameBut table d (types.foldl (settle table) d) := by
    intro types
    induction types with
    | nil => exact .refl table
    | cons type types ih => exact fun d => (sameBut_settle table d type).trans (ih _)
  exact hfold ResourceType.all db

/-! ## One table is read -/

theorem writeSize_without (hne : Sql.sameName table other = false) (folder size : Value) :
    writeSize table type (db.without other) folder size =
      (writeSize table type db folder size).map (·.without other) := by
  rcases writeSize_cases table type folder size with hwide | hset
  · rw [hwide, hwide]
    rfl
  · rw [hset, hset, Sql.setWhere_without hne]
    cases db.setWhere table "size" size [("type", .integer type.number), ("full_name", folder)] <;> rfl

theorem writeSizes_without (hne : Sql.sameName table other = false) :
    writeSizes table type (db.without other) totals =
      (writeSizes table type db totals).map (·.without other) := by
  induction totals generalizing db with
  | nil => rfl
  | cons t ts ih =>
    simp only [writeSizes, writeSize_without hne]
    cases writeSize table type db t.1 t.2 with
    | error e => rfl
    | ok d => exact ih

theorem readRows_without (hne : Sql.sameName table other = false) :
    readRows table type (db.without other) = readRows table type db := by
  simp only [readRows, Sql.selectRows_without hne, Sql.declaredNames_without hne]

theorem resize_without (hne : Sql.sameName table other = false) :
    resize table type (db.without other) = (resize table type db).map (·.without other) := by
  unfold resize
  rw [readRows_without hne]
  cases readRows table type db with
  | error e => rfl
  | ok found =>
    obtain ⟨declared, rows⟩ := found
    dsimp only
    cases missingColumn? declared rows with
    | some column => rfl
    | none =>
      cases folderTotals rows with
      | error e => rfl
      | ok totals => exact writeSizes_without hne

theorem settle_without (hne : Sql.sameName table other = false) (db : Sql.Database) (type : ResourceType) :
    settle table (db.without other) type = (settle table db type).without other := by
  unfold settle
  rw [resize_without hne]
  cases resize table type db with
  | error e => rfl
  | ok db' => rfl

/-- New folder sizes are the same whether another table is there or not. -/
theorem resizeAll_without (hne : Sql.sameName table other = false) (db : Sql.Database) :
    resizeAll table (db.without other) = (resizeAll table db).without other := by
  have hfold : ∀ (types : List ResourceType) (d : Sql.Database),
      types.foldl (settle table) (d.without other) = (types.foldl (settle table) d).without other := by
    intro types
    induction types with
    | nil => exact fun d => rfl
    | cons type types ih =>
      intro d
      rw [List.foldl_cons, List.foldl_cons, settle_without hne]
      exact ih _
  exact hfold ResourceType.all db

end SchemaMigration.FolderSize
