import SchemaMigration.Proofs.Sql.RowUpdate

/-!
# SchemaMigration.Proofs.Sql.FreeColumn — updates of a column that no rule binds

An update of such a column is never refused and leaves the rows in their order, so it is a change of every row by one
function.  Changes of that form are composed and compared by their functions.

* `Table.IsFree` : the column may be null, is no key and is not the number of the row.
* `Database.MapsRows` : a change of every row of one table by a function.
* `MapsRows.trans`, `MapsRows.unique` : one change after the other, and changes that do the same.
* `id_withCell_of_isFree`, `update_of_isFree` : an update of a free column leaves the rows in their places.
* `exists_setWhere_of_isFree` : an update of a free column is such a change.
-/

namespace SchemaMigration.Sql

variable {db db' db₁ db₂ : Database} {t t' u : Table} {name column other : String} {v w : Value} {i : Nat}
  {f g : Row → Row} {given : List (String × Value)}

/-! ## Definitions -/

/-- No rule of its table binds the column of this name: it may be null, is no key and is not the number of the row. -/
def Table.IsFree (t : Table) (column : String) : Prop :=
  ∀ i c, t.column? column = some i → t.columns[i]? = some c →
    c.notNull = false ∧ c.unique = false ∧ c.isRowId = false

/-- The table `t` of this name has every row changed by `f`, and nothing else is changed. -/
structure Database.MapsRows (name : String) (t : Table) (f : Row → Row) (db db' : Database) : Prop where
  found : db.find? name = some t
  changed : ∃ t', db' = db.replace name t' ∧ t'.name = t.name ∧ t'.columns = t.columns ∧ t'.rows = t.rows.map f

/-! ## Changes of every row -/

theorem Table.eq_of_rows (hn : t'.name = t.name) (hc : t'.columns = t.columns) (hr : t'.rows = t.rows) : t' = t := by
  obtain ⟨_, _, _, _⟩ := t
  obtain ⟨_, _, _, _⟩ := t'
  cases hn
  cases hc
  cases hr
  rfl

theorem Database.MapsRows.find? (h : db.MapsRows name t f db') :
    ∃ t', db'.find? name = some t' ∧ t'.name = t.name ∧ t'.columns = t.columns ∧ t'.rows = t.rows.map f := by
  obtain ⟨hfound, t', rfl, hn, hc, hr⟩ := h
  have hname : sameName t'.name name = true := hn ▸ find?_name hfound
  exact ⟨t', find?_replace_self hname (by rw [hfound]; rfl), hn, hc, hr⟩

theorem mapsRows_id (h : db.find? name = some t) (hf : ∀ r ∈ t.rows, f r = r) : db.MapsRows name t f db :=
  ⟨h, t, (replace_self h).symm, rfl, rfl, by rw [List.map_congr_left hf, List.map_id']⟩

/-- Two changes by functions that agree on the rows do the same. -/
theorem Database.MapsRows.unique (h : db.MapsRows name t f db₁) (h' : db.MapsRows name t g db₂)
    (hfg : ∀ r ∈ t.rows, f r = g r) : db₁ = db₂ := by
  obtain ⟨-, t₁, rfl, hn, hc, hr⟩ := h
  obtain ⟨-, t₂, rfl, hn', hc', hr'⟩ := h'
  rw [Table.eq_of_rows (hn.trans hn'.symm) (hc.trans hc'.symm)
    (hr.trans ((List.map_congr_left hfg).trans hr'.symm))]

/-- One change after the other. -/
theorem Database.MapsRows.trans (h : db.MapsRows name t f db₁) (ht : db₁.find? name = some t')
    (h' : db₁.MapsRows name t' g db₂) : db.MapsRows name t (g ∘ f) db₂ := by
  obtain ⟨u, hu, hn, hc, hr⟩ := h.find?
  obtain rfl : u = t' := Option.some.inj (hu.symm.trans ht)
  obtain ⟨-, w, rfl, hn', hc', hr'⟩ := h'
  obtain ⟨hfound, u', rfl, hun, -, -⟩ := h
  have hname : sameName u'.name name = true := hun ▸ find?_name hfound
  exact ⟨hfound, w, replace_replace hname, hn'.trans hn, hc'.trans hc, by rw [hr', hr, List.map_map]⟩

theorem Table.IsFree.of_columns (h : t.IsFree column) (hc : t'.columns = t.columns) : t'.IsFree column := by
  intro i c hi hi'
  rw [Table.column?, hc] at hi
  rw [hc] at hi'
  exact h i c hi hi'

/-! ## Updates -/

theorem rowIdColumn?_ne_of_isFree (h : t.IsFree column) (hi : t.column? column = some i) :
    t.rowIdColumn? ≠ some i := by
  intro hid
  obtain ⟨hlt, hrow, -⟩ := List.findIdx?_eq_some_iff_getElem.1 hid
  obtain ⟨-, -, hno⟩ := h i _ hi (List.getElem?_eq_getElem hlt)
  simp [hno] at hrow

/-- A row keeps its number. -/
theorem id_withCell_of_isFree (h : t.IsFree column) (r : Row) : (t.withCell column v r).id = r.id := by
  cases hi : t.column? column with
  | none => rw [Table.withCell, hi]
  | some i =>
    rw [Table.withCell, hi]
    unfold Table.assignRow
    dsimp only
    cases hid : t.rowIdColumn? with
    | none => rfl
    | some k =>
      have hne : i ≠ k := fun heq => rowIdColumn?_ne_of_isFree h hi (heq ▸ hid)
      dsimp only
      split
      · simp [hne]
      · rfl

/-- An update of a free column is not refused. -/
theorem update_of_isFree (h : t.IsFree column) (hi : t.column? column = some i) (v : Value) (chosen : Row → Bool) :
    ∃ n t', t.update [(i, v)] chosen = .ok (n, t') ∧ t'.name = t.name ∧ t'.columns = t.columns ∧
      t'.rows = t.rows.map fun r => if chosen r then t.withCell column v r else r := by
  have hcolumn := List.getElem?_eq_getElem (lt_length_of_column? hi)
  obtain ⟨hnull, hunique, hrow⟩ := h i _ hi hcolumn
  have hwith : ∀ r, t.withCell column v r = t.assignRow [(i, t.keepAt i v)] r := by
    intro r
    rw [Table.withCell, hi]
  have hrefuses : t.refusesAt i (t.keepAt i v) = false := by
    simp only [Table.refusesAt, hcolumn]
    cases t.keepAt i v <;> simp [hnull, hrow]
  have hrespects : ∀ rows, t.respectsKey rows i = true := by
    simp [Table.respectsKey, Table.isKey, hcolumn, hunique, hrow]
  simp only [hwith]
  by_cases hsome : t.rows.any chosen = true
  · have hrows : t.assignRows [(i, t.keepAt i v)] chosen =
        t.rows.map fun r => if chosen r then t.assignRow [(i, t.keepAt i v)] r else r := by
      simp [Table.assignRows, rowIdColumn?_ne_of_isFree h hi]
    simp [Table.update, hsome, hrefuses, hrespects, hrows]
  · -- no row is chosen, and the table is left as it is
    have hnone : ∀ r ∈ t.rows, ¬ chosen r = true := by simpa using hsome
    have hkeep : t.rows.map (fun r => if chosen r then t.assignRow [(i, t.keepAt i v)] r else r) = t.rows :=
      (List.map_congr_left fun r hr => if_neg (hnone r hr)).trans (List.map_id' _)
    exact ⟨0, t, by simp [Table.update, hsome], rfl, rfl, hkeep.symm⟩

/-- An update of a free column writes the value into the rows that hold all the given values. -/
theorem exists_setWhere_of_isFree (hp : isPlainName name = true) (ht : db.find? name = some t)
    (h : t.IsFree column) (hi : (t.column? column).isSome) (hgiven : ∀ p ∈ given, (t.column? p.1).isSome) (v : Value) :
    ∃ n db', db.setWhere name column v given = .ok (n, db') ∧
      db.MapsRows name t (fun r =>
        if given.all fun (c, w) => t.holdsIn c w r then t.withCell column v r else r) db' := by
  obtain ⟨i, hi⟩ := Option.isSome_iff_exists.1 hi
  obtain ⟨n, t', hupdate, hn, hc, hr⟩ :=
    update_of_isFree h hi v fun r => given.all fun (c, w) => t.holdsIn c w r
  refine ⟨n, db.replace name t', ?_, ht, t', rfl, hn, hc, hr⟩
  rw [setWhere_eq_update hp ht hi hgiven, hupdate]
  rfl

end SchemaMigration.Sql
