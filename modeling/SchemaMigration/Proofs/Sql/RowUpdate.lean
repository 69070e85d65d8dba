import Mathlib.Data.List.Perm.Basic
import SchemaMigration.Proofs.Sql.Others

/-!
# SchemaMigration.Proofs.Sql.RowUpdate — one value written into a column of some rows

An update goes over the rows one by one.  It may put them into another order, where the column that it writes is
the number of the row, but it does nothing else to the rows that it does not choose, and nothing to the other columns.

* `Table.cell`, `Table.kept`, `Table.holdsIn`, `Table.withCell` : cells, conditions and changes by the name of a
  column.
* `cell_withCell_self`, `getElem?_cells_withCell_other`, `holdsIn_withCell_other` : what a row holds after a change.
* `setWhere_rows` : the rows after an update.
* `apply_apply` : what a column keeps, it keeps as it is.
* `Table.IsStored` : every cell is as its column keeps it, which a change does not end; `holdsIn_text_iff` : a
  condition then finds a text by itself.
-/

namespace SchemaMigration.Sql

variable {db db' : Database} {t t' : Table} {r : Row} {name column other : String} {v w : Value} {i j n : Nat}
  {chosen : Row → Bool} {given : List (String × Value)}

/-! ## Definitions -/

/-- What a row holds in the column of this name, a null where there is none. -/
def Table.cell (t : Table) (column : String) (r : Row) : Value :=
  ((t.column? column).bind (r.cells[·]?)).getD .null

/-- What the column of this name keeps of a value. -/
def Table.kept (t : Table) (column : String) (v : Value) : Value :=
  match t.column? column with
  | some i => t.keepAt i v
  | none => v

/-- The row holds the value in the column of this name, as a condition asks for it. -/
def Table.holdsIn (t : Table) (column : String) (v : Value) (r : Row) : Bool :=
  (t.column? column).any (t.holds · v r)

/-- The row with a value in the column of this name. -/
def Table.withCell (t : Table) (column : String) (v : Value) (r : Row) : Row :=
  match t.column? column with
  | some i => t.assignRow [(i, t.keepAt i v)] r
  | none => r

/-- Every cell is as its column keeps it. -/
def Table.IsStored (t : Table) : Prop := ∀ r ∈ t.rows, r.cells.mapIdx t.keepAt = r.cells

instance (t : Table) : Decidable t.IsStored := List.decidableBAll _ t.rows

/-! ## One row -/

/-- Only the columns of a table say what a change does to a row. -/
theorem withCell_congr (h : t'.columns = t.columns) : t'.withCell column v = t.withCell column v := by
  obtain ⟨_, _, _, _⟩ := t
  obtain ⟨_, _, _, _⟩ := t'
  cases h
  rfl

theorem keepAt_congr (h : t'.columns = t.columns) : t'.keepAt = t.keepAt := by
  funext i v
  simp only [Table.keepAt, h]

theorem holdsIn_congr (h : t'.columns = t.columns) : t'.holdsIn column v = t.holdsIn column v := by
  funext r
  simp only [Table.holdsIn, Table.column?, Table.holds, h]

/-- Columns of different names stand in different places. -/
theorem column?_ne (hne : sameName column other = false) (hi : t.column? column = some i)
    (hj : t.column? other = some j) : i ≠ j := by
  rintro rfl
  rw [Table.column?, List.findIdx?_eq_some_iff_getElem] at hi hj
  obtain ⟨_, hcolumn, -⟩ := hi
  obtain ⟨_, hother, -⟩ := hj
  rw [sameName_trans (sameName_symm hcolumn) hother] at hne
  cases hne

theorem cells_withCell (hi : t.column? column = some i) :
    (t.withCell column v r).cells = r.cells.set i (t.keepAt i v) := by
  rw [Table.withCell, hi]
  exact t.cells_assignRow _ r

theorem cell_withCell_self (hc : (t.column? column).isSome) (hr : r.cells.length = t.columns.length) :
    t.cell column (t.withCell column v r) = t.kept column v := by
  obtain ⟨i, hi⟩ := Option.isSome_iff_exists.1 hc
  have hlt : i < r.cells.length := hr ▸ lt_length_of_column? hi
  rw [Table.cell, Table.kept, hi, Option.bind_some, cells_withCell hi, List.getElem?_set_self hlt]
  rfl

/-- The other columns stay as they are. -/
theorem getElem?_cells_withCell_other (hj : t.column? column ≠ some j) :
    (t.withCell column v r).cells[j]? = r.cells[j]? := by
  cases hi : t.column? column with
  | none => simp [Table.withCell, hi]
  | some i =>
    rw [cells_withCell hi, List.getElem?_set_ne]
    rintro rfl
    exact hj hi

theorem cell_withCell_other (hne : sameName column other = false) :
    t.cell other (t.withCell column v r) = t.cell other r := by
  cases hj : t.column? other with
  | none => simp [Table.cell, hj]
  | some j =>
    have hother : t.column? column ≠ some j := fun hi => column?_ne hne hi hj rfl
    rw [Table.cell, Table.cell, hj, Option.bind_some, Option.bind_some, getElem?_cells_withCell_other hother]

theorem holdsIn_withCell_other (hne : sameName column other = false) :
    t.holdsIn other w (t.withCell column v r) = t.holdsIn other w r := by
  cases hj : t.column? other with
  | none => simp [Table.holdsIn, hj]
  | some j =>
    have hother : t.column? column ≠ some j := fun hi => column?_ne hne hi hj rfl
    rw [Table.holdsIn, Table.holdsIn, hj, Option.any_some, Option.any_some, Table.holds, Table.holds,
      getElem?_cells_withCell_other hother]

/-! ## All rows -/

theorem update_perm (h : t.update [(i, v)] chosen = .ok (n, t')) :
    t'.columns = t.columns ∧
      t'.rows.Perm (t.rows.map fun r => if chosen r then t.assignRow [(i, t.keepAt i v)] r else r) := by
  unfold Table.update at h
  dsimp only at h
  split_ifs at h with hnone hrefused
  · cases h
    have hkeep : t.rows.map (fun r => if chosen r then t.assignRow [(i, t.keepAt i v)] r else r) = t.rows := by
      refine (List.map_congr_left fun r hr => ?_).trans (List.map_id _)
      have hr' : chosen r = false := by simpa using (by simpa using hnone : ∀ r ∈ t.rows, chosen r = false) r hr
      rw [hr']
      rfl
    exact ⟨rfl, .of_eq hkeep.symm⟩
  · cases h
    refine ⟨rfl, ?_⟩
    simp only [Table.assignRows, List.map_cons, List.map_nil]
    split
    · exact List.mergeSort_perm _ _
    · exact List.Perm.refl _

theorem all_holds_of_mapM {conditions : List (Nat × Value)}
    (h : (given.mapM fun (c, w) => (t.column? c).map (·, w)) = some conditions) (r : Row) :
    (conditions.all fun (j, w) => t.holds j w r) = given.all fun (c, w) => t.holdsIn c w r := by
  induction given generalizing conditions with
  | nil =>
    cases h
    rfl
  | cons g gs ih =>
    rw [List.mapM_cons] at h
    cases hj : t.column? g.1 with
    | none => simp [hj] at h
    | some j =>
      cases hrest : gs.mapM fun (c, w) => (t.column? c).map (·, w) with
      | none => simp [hj, hrest] at h
      | some rest =>
        simp only [hj, hrest, Option.map_some, Option.pure_def, Option.bind_eq_bind, Option.bind_some,
          Option.some.injEq] at h
        subst h
        simp only [List.all_cons, ih hrest, Table.holdsIn, hj, Option.any_some]

theorem exists_mapM_column? (h : ∀ p ∈ given, (t.column? p.1).isSome) :
    ∃ conditions, (given.mapM fun (c, w) => (t.column? c).map (·, w)) = some conditions := by
  induction given with
  | nil => exact ⟨[], rfl⟩
  | cons g gs ih =>
    obtain ⟨hg, hgs⟩ := List.forall_mem_cons.1 h
    obtain ⟨j, hj⟩ := Option.isSome_iff_exists.1 hg
    obtain ⟨conditions, hconditions⟩ := ih hgs
    exact ⟨(j, g.2) :: conditions, by simp [List.mapM_cons, hj, hconditions]⟩

/-- Where all columns are there, an update is one of the table alone. -/
theorem setWhere_eq_update (hp : isPlainName name = true) (ht : db.find? name = some t)
    (hi : t.column? column = some i) (hgiven : ∀ p ∈ given, (t.column? p.1).isSome) (v : Value) :
    db.setWhere name column v given =
      (t.update [(i, v)] fun r => given.all fun (c, w) => t.holdsIn c w r).map fun (n, t') =>
        (n, db.replace name t') := by
  obtain ⟨conditions, hconditions⟩ := exists_mapM_column? hgiven
  simp only [Database.setWhere, hp, if_true, Database.withTable, ht, hi, hconditions, all_holds_of_mapM hconditions]

/-- An update writes a value into the rows that hold all the given values, and leaves the other rows alone. -/
theorem setWhere_rows (h : db.setWhere name column v given = .ok (n, db')) (ht : db.find? name = some t) :
    (t.column? column).isSome ∧ ∃ t', db'.find? name = some t' ∧ t'.columns = t.columns ∧
      t'.rows.Perm (t.rows.map fun r =>
        if given.all fun (c, w) => t.holdsIn c w r then t.withCell column v r else r) := by
  unfold Database.setWhere Database.withTable at h
  split_ifs at h
  rw [ht] at h
  obtain ⟨⟨m, t'⟩, hupdate, heq⟩ := map_eq_ok_iff.1 h
  cases heq
  dsimp only at hupdate
  split at hupdate
  · next i conditions hi hconditions =>
    obtain ⟨hcolumns, hrows⟩ := update_perm hupdate
    have hname : sameName t'.name name = true := (update_ok hupdate).1 ▸ find?_name ht
    refine ⟨by rw [hi]; rfl, t', find?_replace_self hname (by rw [ht]; rfl), hcolumns, ?_⟩
    simpa only [Table.withCell, hi, all_holds_of_mapM hconditions] using hrows
  · cases hupdate

/-! ## What a column keeps -/

theorem toWhole_eq_text {s : String} : v.toWhole = .text s ↔ v = .text s := by
  cases v with
  | real d => cases hd : wholeReal? d <;> simp [Value.toWhole, hd]
  | _ => simp [Value.toWhole]

theorem toReal_eq_text {s : String} : v.toReal = .text s ↔ v = .text s := by
  cases v <;> simp [Value.toReal]

theorem orNull_eq_text {s : String} : v.orNull = .text s ↔ v = .text s := by
  cases v with
  | real d => cases hd : d.isUndefined <;> simp [Value.orNull, hd]
  | _ => simp [Value.orNull]

theorem orNull_cases (v : Value) : v.orNull = .null ∨ v.orNull = v := by
  cases v with
  | real d => cases hd : d.isUndefined <;> simp [Value.orNull, hd]
  | _ => exact .inr rfl

theorem ofInt_ne_text (k : Int) (s : String) : Value.ofInt k ≠ .text s := by
  rw [Value.ofInt]
  split_ifs <;> exact nofun

/-- A number that is read from a text is no text. -/
theorem numberOfText?_ne_text (a s : String) : numberOfText? a ≠ some (.text s) := by
  have hunsigned : ∀ negative cs, unsignedNumber? negative cs ≠ some (.text s) := by
    intro negative cs h
    unfold unsignedNumber? at h
    cases hrest : cs.dropWhile Char.isDigit with
    | nil =>
      simp only [hrest, Option.ite_none_left_eq_some, Option.some.injEq] at h
      exact ofInt_ne_text _ _ h.2
    | cons c ds =>
      simp only [hrest, Option.ite_none_left_eq_some, Option.map_eq_some_iff] at h
      obtain ⟨-, e, -, he⟩ := h
      cases he
  exact hunsigned _ _

/-- In a text that is still one as a number no number is found. -/
theorem toNumber_toNumber_of_text {s : String} (h : v.toNumber = .text s) : (Value.text s).toNumber = .text s := by
  cases v with
  | text u =>
    rw [Value.toNumber] at h
    cases hn : numberOfText? u with
    | none =>
      rw [hn] at h
      cases h
      rw [Value.toNumber, hn]
      rfl
    | some w =>
      rw [hn] at h
      exact absurd (hn.trans (congrArg some h)) (numberOfText?_ne_text u s)
  | _ => cases h

/-- A value in the form that a column prefers is left in that form. -/
theorem convert_convert (a : Affinity) (v : Value) : a.convert (a.convert v) = a.convert v := by
  have hwhole : v.toNumber.toWhole.toNumber.toWhole = v.toNumber.toWhole := by
    cases hw : v.toNumber with
    | text s => exact congrArg Value.toWhole (toNumber_toNumber_of_text hw)
    | real d => cases hd : wholeReal? d <;> simp [Value.toWhole, Value.toNumber, hd]
    | _ => rfl
  have hreal : v.toNumber.toReal.toNumber.toReal = v.toNumber.toReal := by
    cases hw : v.toNumber with
    | text s => exact congrArg Value.toReal (toNumber_toNumber_of_text hw)
    | _ => rfl
  cases a with
  | text =>
    cases v with
    | real d => cases hd : d.isUndefined <;> simp [Affinity.convert, Value.toText, hd]
    | _ => rfl
  | none => rfl
  | integer => exact hwhole
  | numeric => exact hwhole
  | real => exact hreal

/-- What a column keeps, it keeps as it is. -/
theorem apply_apply (a : Affinity) (v : Value) : a.apply (a.apply v) = a.apply v := by
  unfold Affinity.apply
  rcases orNull_cases (a.convert v) with h | h
  · rw [h]
    cases a <;> rfl
  · rw [h, convert_convert, h]

/-! ## Cells as they are stored -/

theorem keepAt_keepAt (t : Table) (i : Nat) (v : Value) : t.keepAt i (t.keepAt i v) = t.keepAt i v := by
  unfold Table.keepAt
  cases t.columns[i]? with
  | none => rfl
  | some c => exact apply_apply c.affinity v

/-- A change of a row leaves the cells as their columns keep them. -/
theorem mapIdx_cells_withCell (h : r.cells.mapIdx t.keepAt = r.cells) (v : Value) :
    (t.withCell column v r).cells.mapIdx t.keepAt = (t.withCell column v r).cells := by
  cases hi : t.column? column with
  | none => simpa [Table.withCell, hi] using h
  | some i => rw [cells_withCell hi, List.mapIdx_set, h, keepAt_keepAt]

theorem matchesCondition_text_iff {a : Affinity} {s : String} (h : a.apply (.text s) = .text s) (cell : Value) :
    matchesCondition a cell (.text s) = true ↔ cell = .text s := by
  have hcondition : (if a.isNumeric then (Value.text s).toNumber else if a = .text then (Value.text s).toText
      else .text s) = .text s := by
    cases a with
    | integer => exact toWhole_eq_text.1 (orNull_eq_text.1 h)
    | numeric => exact toWhole_eq_text.1 (orNull_eq_text.1 h)
    | real => exact toReal_eq_text.1 (orNull_eq_text.1 h)
    | text => rfl
    | none => rfl
  rw [matchesCondition, hcondition]
  cases cell <;> simp [Value.equal]

/-- A condition finds a text that the column keeps where it stands, and nowhere else. -/
theorem holdsIn_text_iff {s : String} (hc : (t.column? column).isSome) (hr : r.cells.length = t.columns.length)
    (hkept : t.kept column (.text s) = .text s) : t.holdsIn column (.text s) r = true ↔ t.cell column r = .text s := by
  obtain ⟨i, hi⟩ := Option.isSome_iff_exists.1 hc
  have hcolumn := List.getElem?_eq_getElem (lt_length_of_column? hi)
  have hcell := List.getElem?_eq_getElem (hr ▸ lt_length_of_column? hi : i < r.cells.length)
  simp only [Table.kept, hi, Table.keepAt, hcolumn] at hkept
  rw [Table.holdsIn, hi, Option.any_some, Table.holds, hcolumn, hcell, matchesCondition_text_iff hkept,
    Table.cell, hi, Option.bind_some, hcell, Option.getD_some]

theorem Table.IsStored.kept_cell (h : t.IsStored) (hr : r ∈ t.rows) (hc : (t.column? column).isSome) :
    t.kept column (t.cell column r) = t.cell column r := by
  obtain ⟨i, hi⟩ := Option.isSome_iff_exists.1 hc
  have hcell := List.getElem?_eq_getElem (length_cells_gt hi hr)
  have hkept : (r.cells.mapIdx t.keepAt)[i]? = r.cells[i]? := congrArg (·[i]?) (h r hr)
  rw [List.getElem?_mapIdx, hcell, Option.map_some, Option.some.injEq] at hkept
  rw [Table.kept, Table.cell, hi, Option.bind_some, hcell, Option.getD_some]
  exact hkept

end SchemaMigration.Sql
