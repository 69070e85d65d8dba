import SchemaMigration.Proofs.Sql.ColumnUpdate

/-!
# SchemaMigration.Proofs.Sql.Others — the tables beside one that changes

An update of one table leaves every other table and all columns as they are, and it does not look at the
other tables either.

* `Database.without` : a database without one of its tables, the view in which the others are compared.
* `Database.SameBut` : two databases that agree in their columns and in every table but one.
* `setWhere_ok`, `sameBut_setWhere` : what an update leaves alone.
* `without_setColumn`, `setWhere_without`, `selectRows_without` : an update and a query do not see the other tables.
-/

namespace SchemaMigration.Sql

/-! ## Definitions -/

/-- The database without the table of this name. -/
def Database.without (db : Database) (name : String) : Database :=
  ⟨db.tables.filter fun t => !sameName t.name name⟩

/-- The databases have the same tables and columns, and the rows of every table but one. -/
structure Database.SameBut (name : String) (db db' : Database) : Prop where
  schema : db'.schema = db.schema
  others : db'.without name = db.without name

variable {db db' d : Database} {name other column : String} {t t' : Table} {v : Value} {n : Nat}
  {given : List (String × Value)}

/-! ## Without one table -/

/-- Every other table is still found. -/
theorem find?_without (hne : sameName name other = false) : (db.without other).find? name = db.find? name := by
  simp only [Database.find?, Database.without, List.find?_filter]
  congr 1
  funext t
  cases ht : sameName t.name name with
  | false => simp
  | true => simp [not_sameName_of_sameName hne ht]

/-- What is put in the place of a table goes with it. -/
theorem without_replace_self (ht : sameName t.name name = true) :
    (db.replace name t).without name = db.without name := by
  obtain ⟨ts⟩ := db
  simp only [Database.without, Database.replace, Database.mk.injEq]
  induction ts with
  | nil => rfl
  | cons u us ih =>
    unfold Database.replaceFirst
    by_cases hu : sameName u.name name = true
    · simp [hu, ht]
    · simp [hu, ih]

/-! ## Equal but for one table -/

theorem Database.SameBut.refl (name : String) (db : Database) : db.SameBut name db := ⟨rfl, rfl⟩

theorem Database.SameBut.trans (h : db.SameBut name db') (h' : db'.SameBut name d) : db.SameBut name d :=
  ⟨h'.schema.trans h.schema, h'.others.trans h.others⟩

theorem Database.SameBut.found (h : db.SameBut name db') (ho : sameName name other = false) :
    db'.find? other = db.find? other := by
  rw [← find?_without (not_sameName_symm ho), h.others, find?_without (not_sameName_symm ho)]

theorem sameBut_replace (hf : db.find? name = some t) (hn : t'.name = t.name) (hc : t'.columns = t.columns) :
    db.SameBut name (db.replace name t') where
  schema := schema_replace hf hn hc
  others := without_replace_self (hn ▸ find?_name hf)

/-- Changing rows does not change the form of a table. -/
theorem update_ok {sets : List (Nat × Value)} {chosen : Row → Bool}
    (h : t.update sets chosen = .ok (n, t')) : t'.name = t.name ∧ t'.columns = t.columns := by
  unfold Table.update at h
  dsimp only at h
  split_ifs at h
  · cases h
    exact ⟨rfl, rfl⟩
  · cases h
    exact ⟨rfl, rfl⟩

/-- A change of the rows that hold given values is a change of one table. -/
theorem setWhere_ok (h : db.setWhere name column v given = .ok (n, db')) :
    ∃ t t', db.find? name = some t ∧ db' = db.replace name t' ∧ t'.name = t.name ∧ t'.columns = t.columns := by
  unfold Database.setWhere Database.withTable at h
  split_ifs at h
  cases hf : db.find? name with
  | none => simp [hf] at h
  | some t =>
    rw [hf] at h
    obtain ⟨⟨m, t'⟩, hu, heq⟩ := map_eq_ok_iff.1 h
    cases heq
    dsimp only at hu
    split at hu
    · exact ⟨t, t', rfl, rfl, update_ok hu⟩
    · cases hu

theorem sameBut_setWhere (h : db.setWhere name column v given = .ok (n, db')) : db.SameBut name db' := by
  obtain ⟨t, t', hf, rfl, hn, hc⟩ := setWhere_ok h
  exact sameBut_replace hf hn hc

/-! ## Changes and queries of other tables -/

theorem without_replace_other (hne : sameName name other = false) (ht : sameName t.name other = false) :
    (db.replace name t).without other = (db.without other).replace name t := by
  obtain ⟨ts⟩ := db
  simp only [Database.without, Database.replace, Database.mk.injEq]
  induction ts with
  | nil => rfl
  | cons u us ih =>
    simp only [Database.replaceFirst, List.filter_cons]
    by_cases hu : sameName u.name name = true
    · simp [hu, not_sameName_of_sameName hne hu, ht, Database.replaceFirst]
    · by_cases ho : sameName u.name other = true
      · simp [hu, ho, ih]
      · simp [hu, ho, ih, Database.replaceFirst]

theorem without_setColumn {s : String} (hk : ∀ t, db.find? name = some t → t.KeepsTextsIn column)
    (h : db.setColumn name column (.text s) = .ok (n, db')) : db'.without name = db.without name := by
  obtain ⟨t, t', i, hf, -, rfl, -, hn, -, -⟩ := setColumn_ok hk h
  exact without_replace_self (hn ▸ find?_name hf)

/-- A change of one table is the same whether another one is there or not. -/
theorem withTable_without {α : Type} {change : Table → Except Fault (α × Table)}
    (hne : sameName name other = false) (hname : ∀ t a t', db.find? name = some t → change t = .ok (a, t') →
      sameName t'.name other = false) :
    (db.without other).withTable name change =
      (db.withTable name change).map fun r => (r.1, r.2.without other) := by
  unfold Database.withTable
  rw [find?_without hne]
  cases hf : db.find? name with
  | none => rfl
  | some t =>
    dsimp only
    cases hc : change t with
    | error e => rfl
    | ok r =>
      simp only [Except.map]
      rw [without_replace_other hne (hname t r.1 r.2 hf hc)]

theorem setWhere_without (hne : sameName name other = false) :
    (db.without other).setWhere name column v given =
      (db.setWhere name column v given).map fun r => (r.1, r.2.without other) := by
  unfold Database.setWhere
  split_ifs
  · refine withTable_without hne fun t n t' hf hu => not_sameName_of_sameName hne ?_
    split at hu
    · rw [(update_ok hu).1]
      exact find?_name hf
    · cases hu
  · rfl

theorem plain?_without (hne : sameName name other = false) : (db.without other).plain? name = db.plain? name := by
  simp only [Database.plain?, find?_without hne]

theorem valuesIn_without (hne : sameName name other = false) :
    (db.without other).valuesIn name column = db.valuesIn name column := by
  simp only [Database.valuesIn, plain?_without hne]

theorem selectRows_without (hne : sameName name other = false) (columns : List String) (condition : Condition) :
    (db.without other).selectRows name columns condition = db.selectRows name columns condition := by
  simp only [Database.selectRows, plain?_without hne]

theorem declaredNames_without (hne : sameName name other = false) (columns : List String) :
    (db.without other).declaredNames name columns = db.declaredNames name columns := by
  simp only [Database.declaredNames, plain?_without hne]

end SchemaMigration.Sql
