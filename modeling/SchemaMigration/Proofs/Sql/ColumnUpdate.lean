import Mathlib.Tactic.ByContra
import Mathlib.Tactic.SplitIfs
import SchemaMigration.Sql.Execute
import SchemaMigration.Proofs.Except

/-!
# SchemaMigration.Proofs.Sql.ColumnUpdate — one text written into a column of every row

* `KeepsTextsIn` : a column that keeps a text as it is given.
* `find?_replace_self`, `find?_replace_other` : what is found by name after one table was replaced.
* `updateGiven_text` : the table after a text was written into a column, row by row.
* `setColumn_ok` : the same for a table that is named by a text; all other tables stay.
* `valuesIn_setColumn`, `valuesIn_other` : what is read from the column, and from other tables.
* `HasRow` : a table that has a row; `hasRow_iff_setColumn` : just then something was written.
-/

namespace SchemaMigration.Sql

/-! ## Definitions -/

/-- Wherever the table has a column of this name, the column keeps a text as it is given. -/
def Table.KeepsTextsIn (t : Table) (column : String) : Prop :=
  ∀ i c, t.column? column = some i → t.columns[i]? = some c → c.affinity = .text ∧ c.isRowId = false

/-- The row with a text in column `i`. -/
def Row.withText (i : Nat) (s : String) (r : Row) : Row := ⟨r.id, r.cells.set i (.text s)⟩

/-- The table of this name has a row. -/
def Database.HasRow (db : Database) (name : String) : Prop := ∃ t, db.find? name = some t ∧ t.rows ≠ []

/-! ## Names -/

section Names

variable {a b c : String} {db : Database} {t : Table} {name other : String}

theorem sameName_iff : sameName a b = true ↔ Text.foldAscii a = Text.foldAscii b := by
  simp [sameName]

theorem sameName_symm (h : sameName a b = true) : sameName b a = true :=
  sameName_iff.2 (sameName_iff.1 h).symm

theorem not_sameName_symm (h : sameName a b = false) : sameName b a = false := by
  by_contra hs
  rw [Bool.not_eq_false] at hs
  rw [sameName_symm hs] at h
  cases h

theorem sameName_trans (h : sameName a b = true) (h' : sameName b c = true) : sameName a c = true :=
  sameName_iff.2 ((sameName_iff.1 h).trans (sameName_iff.1 h'))

theorem not_sameName_of_sameName (hne : sameName name other = false) (h : sameName a name = true) :
    sameName a other = false := by
  by_contra ho
  rw [Bool.not_eq_false] at ho
  rw [sameName_trans (sameName_symm h) ho] at hne
  cases hne

theorem find?_replaceFirst_self (ht : sameName t.name name = true) (ts : List Table)
    (h : (ts.find? fun u => sameName u.name name).isSome) :
    ((Database.replaceFirst name t ts).find? fun u => sameName u.name name) = some t := by
  induction ts with
  | nil => simp at h
  | cons u us ih =>
    unfold Database.replaceFirst
    by_cases hu : sameName u.name name = true
    · simp [hu, ht]
    · simp only [Bool.not_eq_true] at hu
      simp only [List.find?_cons, hu] at h
      simpa [hu] using ih h

theorem find?_replaceFirst_other (ht : sameName t.name other = false)
    (hne : sameName name other = false) (ts : List Table) :
    ((Database.replaceFirst name t ts).find? fun u => sameName u.name other) =
      ts.find? fun u => sameName u.name other := by
  induction ts with
  | nil => rfl
  | cons u us ih =>
    unfold Database.replaceFirst
    by_cases hu : sameName u.name name = true
    · simp [hu, not_sameName_of_sameName hne hu, ht]
    · simp only [hu, Bool.false_eq_true, if_false, List.find?_cons, ih]

/-- The table that was put in the place of another is found by the name of that one. -/
theorem find?_replace_self (ht : sameName t.name name = true) (h : (db.find? name).isSome) :
    (db.replace name t).find? name = some t := find?_replaceFirst_self ht db.tables h

theorem find?_replace_other (ht : sameName t.name other = false) (hne : sameName name other = false) :
    (db.replace name t).find? other = db.find? other := find?_replaceFirst_other ht hne db.tables

/-- A table that is put in its own place changes nothing. -/
theorem replace_self (h : db.find? name = some t) : db.replace name t = db := by
  obtain ⟨ts⟩ := db
  simp only [Database.replace, Database.mk.injEq]
  induction ts with
  | nil => rfl
  | cons u us ih =>
    unfold Database.replaceFirst
    by_cases hu : sameName u.name name = true
    · simp_all [Database.find?]
    · rw [if_neg hu, ih]
      simpa [Database.find?, hu] using h

theorem replace_replace {u : Table} (h : sameName t.name name = true) :
    (db.replace name t).replace name u = db.replace name u := by
  obtain ⟨ts⟩ := db
  simp only [Database.replace, Database.mk.injEq]
  induction ts with
  | nil => rfl
  | cons w ws ih =>
    by_cases hw : sameName w.name name = true
    · simp [Database.replaceFirst, hw, h]
    · simp [Database.replaceFirst, hw, ih]

theorem find?_congr (h : sameName name other = true) : db.find? name = db.find? other := by
  have hp : (fun u : Table => sameName u.name name) = fun u => sameName u.name other := by
    funext u
    simp only [sameName, sameName_iff.1 h]
  simp only [Database.find?, hp]

theorem hasTable_congr (h : sameName name other = true) : db.hasTable name = db.hasTable other := by
  simp only [Database.hasTable, find?_congr h]

/-- Replacing a table makes none and removes none. -/
theorem hasTable_replace (ht : sameName t.name name = true) (h : (db.find? name).isSome) :
    (db.replace name t).hasTable other = db.hasTable other := by
  by_cases hne : sameName name other = true
  · rw [← hasTable_congr hne, ← hasTable_congr hne]
    simp only [Database.hasTable, find?_replace_self ht h, h, Option.isSome_some]
  · simp only [Bool.not_eq_true] at hne
    simp only [Database.hasTable, find?_replace_other (not_sameName_of_sameName hne ht) hne]

theorem schema_replace {u : Table} (h : db.find? name = some u) (hn : t.name = u.name)
    (hc : t.columns = u.columns) : (db.replace name t).schema = db.schema := by
  obtain ⟨ts⟩ := db
  simp only [Database.schema, Database.replace, Database.find?] at h ⊢
  induction ts with
  | nil => rfl
  | cons v vs ih =>
    unfold Database.replaceFirst
    by_cases hv : sameName v.name name = true
    · simp only [List.find?_cons, hv] at h
      cases h
      simp [hv, hn, hc]
    · simp only [Bool.not_eq_true] at hv
      simp only [List.find?_cons, hv] at h
      simp [hv, ih h]

end Names

/-! ## Rows -/

section Rows

variable {t t' : Table} {column s : String} {i n : Nat}

/-- Only the columns count, not the rows. -/
theorem Table.KeepsTextsIn.of_columns (hk : t.KeepsTextsIn column) (hc : t'.columns = t.columns) :
    t'.KeepsTextsIn column := by
  intro i c hi hcol
  unfold Table.column? at hi
  rw [hc] at hi hcol
  exact hk i c hi hcol

/-- A text column is not the number of the row, so the rows stay in their places. -/
theorem rowIdColumn?_ne (hk : t.KeepsTextsIn column) (hi : t.column? column = some i) :
    t.rowIdColumn? ≠ some i := by
  intro hr
  unfold Table.rowIdColumn? at hr
  obtain ⟨hlt, hrow, -⟩ := List.findIdx?_eq_some_iff_getElem.1 hr
  have hc := (hk i _ hi (List.getElem?_eq_getElem hlt)).2
  rw [hc] at hrow
  cases hrow

theorem assignRow_text (hk : t.KeepsTextsIn column) (hi : t.column? column = some i) (r : Row) :
    t.assignRow [(i, .text s)] r = r.withText i s := by
  unfold Table.assignRow
  cases hr : t.rowIdColumn? with
  | none => rfl
  | some k =>
    have hik : i ≠ k := fun h => rowIdColumn?_ne hk hi (h ▸ hr)
    simp only [List.any_cons, hik, decide_false, List.any_nil, Bool.or_false]
    split <;> rfl

theorem assignRows_text (hk : t.KeepsTextsIn column) (hi : t.column? column = some i) :
    (t.assignRows [(i, .text s)] fun _ => true) = t.rows.map (Row.withText i s) := by
  unfold Table.assignRows
  have hne : decide (t.rowIdColumn? = some i) = false := decide_eq_false (rowIdColumn?_ne hk hi)
  simp only [List.any_cons, hne, List.any_nil, Bool.or_false, Bool.false_eq_true, if_false, if_true]
  exact List.map_congr_left fun r _ => assignRow_text hk hi r

theorem lt_length_of_column? (hi : t.column? column = some i) : i < t.columns.length := by
  unfold Table.column? at hi
  exact (List.findIdx?_eq_some_iff_getElem.1 hi).1

theorem keepAt_text (hk : t.KeepsTextsIn column) (hi : t.column? column = some i) :
    t.keepAt i (.text s) = .text s := by
  have hc := List.getElem?_eq_getElem (lt_length_of_column? hi)
  unfold Table.keepAt
  rw [hc]
  simp only [(hk i _ hi hc).1, apply_text_of_text]

/-- The table after a text was written into a column of every row. -/
theorem updateGiven_text (hk : t.KeepsTextsIn column)
    (h : t.updateGiven [(column, .text s)] none = .ok (n, t')) :
    ∃ i, t.column? column = some i ∧ n = t.rows.length ∧ t'.name = t.name ∧
      t'.columns = t.columns ∧ t'.rows = t.rows.map (Row.withText i s) := by
  cases hi : t.column? column with
  | none => simp [Table.updateGiven, hi] at h
  | some i =>
    refine ⟨i, rfl, ?_⟩
    simp only [Table.updateGiven, List.mapM_cons, hi, Option.map_some, List.mapM_nil, Table.chosenBy?,
      Option.pure_def, Option.bind_eq_bind, Option.bind_some, Table.update, List.map_cons,
      List.map_nil, keepAt_text hk hi] at h
    split_ifs at h with h₁ h₂
    · -- no row is there to be chosen
      have hnil : t.rows = [] := by
        cases hr : t.rows with
        | nil => rfl
        | cons r rs => simp [hr] at h₁
      cases h
      simp [hnil]
    · cases h
      refine ⟨by simp, rfl, rfl, ?_⟩
      exact assignRows_text hk hi

theorem length_cells_gt {r : Row} (hi : t.column? column = some i) (hr : r ∈ t.rows) :
    i < r.cells.length := by
  rw [t.cells_fit r hr]
  exact lt_length_of_column? hi

end Rows

/-! ## Databases -/

section Databases

variable {db db' : Database} {name other column s : String} {n : Nat}

/-- Writing a text into a column changes the rows of one table and nothing else. -/
theorem setColumn_ok (hk : ∀ t, db.find? name = some t → t.KeepsTextsIn column)
    (h : db.setColumn name column (.text s) = .ok (n, db')) :
    ∃ t t' i, db.find? name = some t ∧ t.column? column = some i ∧ db' = db.replace name t' ∧
      n = t.rows.length ∧ t'.name = t.name ∧ t'.columns = t.columns ∧
      t'.rows = t.rows.map (Row.withText i s) := by
  unfold Database.setColumn Database.withTable at h
  split_ifs at h
  cases hf : db.find? name with
  | none => simp [hf] at h
  | some t =>
    rw [hf] at h
    obtain ⟨⟨m, t'⟩, hu, heq⟩ := map_eq_ok_iff.1 h
    cases heq
    obtain ⟨i, hi, hm, hn, hc, hr⟩ := updateGiven_text (hk t hf) hu
    exact ⟨t, t', i, rfl, hi, rfl, hm, hn, hc, hr⟩

theorem hasTable_setColumn (hk : ∀ t, db.find? name = some t → t.KeepsTextsIn column)
    (h : db.setColumn name column (.text s) = .ok (n, db')) (other : String) :
    db'.hasTable other = db.hasTable other := by
  obtain ⟨t, t', i, hf, -, rfl, -, hn, -, -⟩ := setColumn_ok hk h
  exact hasTable_replace (by rw [hn]; exact find?_name hf) (by rw [hf]; rfl)

theorem schema_setColumn (hk : ∀ t, db.find? name = some t → t.KeepsTextsIn column)
    (h : db.setColumn name column (.text s) = .ok (n, db')) : db'.schema = db.schema := by
  obtain ⟨t, t', i, hf, -, rfl, -, hn, hc, -⟩ := setColumn_ok hk h
  exact schema_replace hf hn hc

/-- Every row was written. -/
theorem hasRow_iff_setColumn (hk : ∀ t, db.find? name = some t → t.KeepsTextsIn column)
    (h : db.setColumn name column (.text s) = .ok (n, db')) : db.HasRow name ↔ n ≠ 0 := by
  obtain ⟨t, t', i, hf, -, -, rfl, -⟩ := setColumn_ok hk h
  constructor
  · rintro ⟨u, hu, hne⟩ h0
    rw [hf] at hu
    cases hu
    exact hne (List.length_eq_zero_iff.1 h0)
  · intro h0
    exact ⟨t, hf, fun hnil => h0 (by rw [hnil]; rfl)⟩

/-- What was written is read back, from every row. -/
theorem valuesIn_setColumn (hk : ∀ t, db.find? name = some t → t.KeepsTextsIn column)
    (h : db.setColumn name column (.text s) = .ok (n, db')) :
    db'.valuesIn name column = .ok (List.replicate n (.text s)) := by
  have hplain : isPlainName name = true := by
    unfold Database.setColumn at h
    split_ifs at h with hp
    exact hp
  obtain ⟨t, t', i, hf, hi, rfl, rfl, hn, hc, hr⟩ := setColumn_ok hk h
  have hfind : (db.replace name t').find? name = some t' :=
    find?_replace_self (by rw [hn]; exact find?_name hf) (by rw [hf]; rfl)
  have hi' : t'.column? column = some i := by
    unfold Table.column? at hi ⊢
    rw [hc, hi]
  have hcells : ∀ r ∈ t.rows, (((Row.withText i s r).cells)[i]?).getD .null = .text s := by
    intro r hr
    rw [Row.withText, List.getElem?_set_self (length_cells_gt hi hr), Option.getD_some]
  simp only [Database.valuesIn, Database.plain?, hplain, if_true, hfind, hi', hr, List.map_map]
  exact congrArg _ (List.map_eq_replicate_iff.2 hcells)

theorem find?_other (hk : ∀ t, db.find? name = some t → t.KeepsTextsIn column)
    (h : db.setColumn name column (.text s) = .ok (n, db')) (hne : sameName name other = false) :
    db'.find? other = db.find? other := by
  obtain ⟨t, t', i, hf, -, rfl, -, hn, -, -⟩ := setColumn_ok hk h
  exact find?_replace_other (not_sameName_of_sameName hne (hn ▸ find?_name hf)) hne

theorem valuesIn_other (hk : ∀ t, db.find? name = some t → t.KeepsTextsIn column)
    (h : db.setColumn name column (.text s) = .ok (n, db')) (hne : sameName name other = false)
    (c : String) : db'.valuesIn other c = db.valuesIn other c := by
  simp only [Database.valuesIn, Database.plain?, find?_other hk h hne]

/-- Every table keeps its columns. -/
theorem find?_setColumn (hk : ∀ t, db.find? name = some t → t.KeepsTextsIn column)
    (h : db.setColumn name column (.text s) = .ok (n, db')) {t : Table} (hf : db.find? other = some t) :
    ∃ t', db'.find? other = some t' ∧ t'.columns = t.columns := by
  by_cases hne : sameName name other = true
  · obtain ⟨u, u', i, hu, -, rfl, -, hn, hc, -⟩ := setColumn_ok hk h
    have hsame : ∀ d : Database, d.find? other = d.find? name := fun d => (find?_congr hne).symm
    rw [hsame, hu] at hf
    cases hf
    rw [hsame]
    exact ⟨u', find?_replace_self (by rw [hn]; exact find?_name hu) (by rw [hu]; rfl), hc⟩
  · rw [Bool.not_eq_true] at hne
    exact ⟨t, (find?_other hk h hne).trans hf, rfl⟩

/-- The column still keeps texts afterwards. -/
theorem keepsTextsIn_setColumn (hk : ∀ t, db.find? name = some t → t.KeepsTextsIn column)
    (h : db.setColumn name column (.text s) = .ok (n, db')) :
    ∀ t, db'.find? name = some t → t.KeepsTextsIn column := by
  intro u hu
  obtain ⟨t, -, -, hf, -⟩ := setColumn_ok hk h
  obtain ⟨t', hf', hcols⟩ := find?_setColumn hk h hf
  rw [hf'] at hu
  cases hu
  exact (hk t hf).of_columns hcols

/-- In a table without rows nothing is written, and nothing is refused. -/
theorem setColumn_of_rows_nil {t : Table} {i : Nat} (hp : isPlainName name = true)
    (hf : db.find? name = some t) (hi : t.column? column = some i) (hr : t.rows = []) (v : Value) :
    ∃ db', db.setColumn name column v = .ok (0, db') := by
  have hu : t.updateGiven [(column, v)] none = .ok (0, t) := by
    simp [Table.updateGiven, hi, Table.chosenBy?, Table.update, hr]
  exact ⟨db.replace name t, by simp [Database.setColumn, hp, Database.withTable, hf, hu, Except.map]⟩

theorem hasRow_of_valuesIn {v : Value} {vs : List Value} (h : db.valuesIn name column = .ok (v :: vs)) :
    db.HasRow name := by
  unfold Database.valuesIn Database.plain? at h
  split_ifs at h
  cases hf : db.find? name with
  | none => simp [hf] at h
  | some t =>
    cases hi : t.column? column with
    | none => simp [hf, hi] at h
    | some i =>
      refine ⟨t, hf, fun hr => ?_⟩
      simp [hf, hi, hr] at h

end Databases

end SchemaMigration.Sql
