import SchemaMigration.Proofs.Sql.RowUpdate

/-!
# SchemaMigration.Proofs.Sql.Repeated — the same update once more

A value that a column accepted is accepted again, and writing it where it stands already changes nothing.

* `Table.Accepts` : the column does not refuse the value.
* `Table.Admits` : the rows could have been left by an update of the column: they keep its rules, and they stand in
  the order of their numbers if it is the number of the row.
* `withCell_withCell` : a value written twice.
* `setWhere_accepted` : what an update that chose a row says of the value and of the table that it leaves.
* `setWhere_again` : an update that changes no row changes nothing.
-/

namespace SchemaMigration.Sql

variable {db db' : Database} {t t' : Table} {r : Row} {name column : String} {v : Value} {i n : Nat}
  {chosen : Row → Bool} {given : List (String × Value)}

/-! ## Definitions -/

/-- The column of this name does not refuse the value. -/
def Table.Accepts (t : Table) (column : String) (v : Value) : Prop :=
  ∀ i, t.column? column = some i → t.refusesAt i (t.keepAt i v) = false

/-- The rows keep the rules of the column, and stand in the order of their numbers if it is the number of the row. -/
def Table.Admits (t : Table) (column : String) : Prop :=
  ∀ i, t.column? column = some i →
    t.respectsKey t.rows i = true ∧ (t.rowIdColumn? = some i → t.rows.Pairwise fun a b => (a.id ≤ b.id : Bool))

theorem Table.Accepts.of_columns (h : t.Accepts column v) (hc : t'.columns = t.columns) : t'.Accepts column v := by
  obtain ⟨_, _, _, _⟩ := t
  obtain ⟨_, _, _, _⟩ := t'
  cases hc
  exact h

/-! ## One row -/

theorem assignRow_assignRow (t : Table) (s : Nat × Value) (r : Row) :
    t.assignRow [s] (t.assignRow [s] r) = t.assignRow [s] r := by
  have hcells : Table.assignCells (t.assignRow [s] r).cells [s] = Table.assignCells r.cells [s] := by
    simp [Table.cells_assignRow, Table.assignCells]
  rw [Table.assignRow, hcells]
  unfold Table.assignRow
  dsimp only
  cases t.rowIdColumn? with
  | none => rfl
  | some k =>
    cases hcell : (Table.assignCells r.cells [s])[k]? with
    | none => simp [hcell]
    | some w => cases w <;> simp +contextual [hcell]

/-- A value that is written twice. -/
theorem withCell_withCell (t : Table) (column : String) (v : Value) (r : Row) :
    t.withCell column v (t.withCell column v r) = t.withCell column v r := by
  unfold Table.withCell
  cases t.column? column with
  | none => rfl
  | some i => exact assignRow_assignRow t (i, t.keepAt i v) r

/-! ## All rows -/

theorem update_accepted (h : t.update [(i, v)] chosen = .ok (n, t')) (hsome : ∃ r ∈ t.rows, chosen r = true) :
    t.refusesAt i (t.keepAt i v) = false ∧ t.respectsKey t'.rows i = true ∧
      (t.rowIdColumn? = some i → t'.rows.Pairwise fun a b => (a.id ≤ b.id : Bool)) := by
  have hany : t.rows.any chosen = true := List.any_eq_true.2 hsome
  unfold Table.update at h
  dsimp only at h
  rw [if_neg (by simp [hany])] at h
  split_ifs at h with hrefused
  cases h
  simp only [List.map_cons, List.map_nil, List.any_cons, List.any_nil, Bool.or_false, List.all_cons, List.all_nil,
    Bool.and_true, Bool.or_eq_true, Bool.not_eq_true', not_or, Bool.not_eq_true, Bool.not_eq_false] at hrefused
  refine ⟨hrefused.1, hrefused.2, fun hid => ?_⟩
  simp only [Table.assignRows, List.map_cons, List.map_nil, List.any_cons, hid, decide_true, Bool.true_or, if_true]
  exact List.pairwise_mergeSort (fun a b c hab hbc => by simp at *; omega) (fun a b => by simp; omega) _

theorem update_again (hrefuses : t.refusesAt i (t.keepAt i v) = false) (hkey : t.respectsKey t.rows i = true)
    (hsorted : t.rowIdColumn? = some i → t.rows.Pairwise fun a b => (a.id ≤ b.id : Bool))
    (hkeeps : ∀ r ∈ t.rows, chosen r = true → t.assignRow [(i, t.keepAt i v)] r = r) :
    ∃ n, t.update [(i, v)] chosen = .ok (n, t) := by
  have hmap : t.rows.map (fun r => if chosen r then t.assignRow [(i, t.keepAt i v)] r else r) = t.rows := by
    refine (List.map_congr_left fun r hr => ?_).trans (List.map_id' _)
    split
    · next hchosen => exact hkeeps r hr hchosen
    · rfl
  have hrows : t.assignRows [(i, t.keepAt i v)] chosen = t.rows := by
    unfold Table.assignRows
    rw [hmap]
    split
    · next hid => exact List.mergeSort_of_pairwise (hsorted (by simpa using hid))
    · rfl
  unfold Table.update
  simp only [List.map_cons, List.map_nil, hrows]
  split
  · exact ⟨0, rfl⟩
  · exact ⟨t.rows.countP chosen, by simp [hrefuses, hkey]⟩

/-- An update that chose a row wrote a value that the column accepts, and left a table that admits it again. -/
theorem setWhere_accepted (h : db.setWhere name column v given = .ok (n, db')) (ht : db.find? name = some t)
    (hsome : ∃ r ∈ t.rows, (given.all fun (c, w) => t.holdsIn c w r) = true) :
    t.Accepts column v ∧ ∃ t', db'.find? name = some t' ∧ t'.columns = t.columns ∧ t'.Admits column := by
  unfold Database.setWhere Database.withTable at h
  split_ifs at h
  rw [ht] at h
  obtain ⟨⟨m, t'⟩, hupdate, heq⟩ := map_eq_ok_iff.1 h
  cases heq
  dsimp only at hupdate
  split at hupdate
  · next i conditions hi hconditions =>
    have hcolumns := (update_ok hupdate).2
    have hname : sameName t'.name name = true := (update_ok hupdate).1 ▸ find?_name ht
    obtain ⟨hrefuses, hkey, hsorted⟩ :=
      update_accepted hupdate (by simpa only [all_holds_of_mapM hconditions] using hsome)
    refine ⟨fun j hj => ?_, t', find?_replace_self hname (by rw [ht]; rfl), hcolumns, fun j hj => ?_⟩
    · obtain rfl : i = j := Option.some.inj (hi.symm.trans hj)
      exact hrefuses
    · rw [Table.column?, hcolumns] at hj
      obtain rfl : i = j := Option.some.inj (hi.symm.trans hj)
      refine ⟨?_, fun hid => hsorted ?_⟩
      · rwa [Table.respectsKey, Table.isKey, hcolumns]
      · rwa [Table.rowIdColumn?, hcolumns] at hid
  · cases hupdate

/-- An update that finds its value in all the rows that it chooses changes nothing. -/
theorem setWhere_again (hp : isPlainName name = true) (ht : db.find? name = some t) (hi : (t.column? column).isSome)
    (hgiven : ∀ p ∈ given, (t.column? p.1).isSome) (haccepts : t.Accepts column v) (hadmits : t.Admits column)
    (hkeeps : ∀ r ∈ t.rows, (given.all fun (c, w) => t.holdsIn c w r) = true → t.withCell column v r = r) :
    ∃ n, db.setWhere name column v given = .ok (n, db) := by
  obtain ⟨i, hi⟩ := Option.isSome_iff_exists.1 hi
  obtain ⟨hkey, hsorted⟩ := hadmits i hi
  obtain ⟨n, hupdate⟩ : ∃ n, t.update [(i, v)] (fun r => given.all fun (c, w) => t.holdsIn c w r) = .ok (n, t) := by
    refine update_again (haccepts i hi) hkey hsorted fun r hr hchosen => ?_
    simpa only [Table.withCell, hi] using hkeeps r hr hchosen
  refine ⟨n, ?_⟩
  rw [setWhere_eq_update hp ht hi hgiven, hupdate]
  exact congrArg (fun d => Except.ok (n, d)) (replace_self ht)

end SchemaMigration.Sql
