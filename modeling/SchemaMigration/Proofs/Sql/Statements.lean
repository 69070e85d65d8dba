import SchemaMigration.Proofs.Sql.Others

/-!
# SchemaMigration.Proofs.Sql.Statements — the tables that a statement does not name

A statement leaves every table alone that it does not name, and it does the same whether such a table is there
or not.

* `StaysOff` : a change of a database that has nothing to do with one of the tables.
* `Statement.staysOff_run` : a statement stays off the tables that it does not name.
* `Statement.ofText?`, `execute_of_ofText?` : a text that is one statement does what that statement does.
-/

namespace SchemaMigration.Sql

/-! ## Definitions -/

/-- The names of tables in a statement. -/
def Statement.names : Statement → List String
  | .create _ table _ => [table]
  | .drop _ table => [table]
  | .rename table newName => [table, newName]
  | .addColumn table _ => [table]
  | .insert table _ _ => [table]
  | .insertDefaults table => [table]
  | .update table _ _ => [table]
  | .delete table _ => [table]
  | .select _ table _ => table.toList

/-- The change leaves the table of this name alone, and does the same where this table is missing. -/
structure StaysOff (other : String) (f : Database → Except Fault Database) : Prop where
  leaves : ∀ db db', f db = .ok db' → db'.find? other = db.find? other
  blind : ∀ db, f (db.without other) = (f db).map (·.without other)

/-- The one statement that a text writes, if it is nothing else. -/
def Statement.ofText? (text : String) : Option Statement :=
  let cs := text.toList
  let (ts, rest) := firstStatement (cs.length + 1) cs
  if cs.contains (Char.ofNat 0) || hasMore rest || ts.contains .variable then none
  else (Statement.ofTokens? ts).filter fun s => !losesEnd cs s

variable {name other : String}

/-! ## Small changes -/

theorem hasTable_without (hne : sameName name other = false) (db : Database) :
    (db.without other).hasTable name = db.hasTable name := by
  simp only [Database.hasTable, find?_without hne]

/-- Where databases differ in this table only, a change that ends well on both makes the same of the others. -/
theorem StaysOff.agree {f : Database → Except Fault Database} {db db' d d' : Database} (h : StaysOff other f)
    (heq : db.without other = db'.without other) (hd : f db = .ok d) (hd' : f db' = .ok d') :
    d.without other = d'.without other := by
  have hleft := h.blind db
  have hright := h.blind db'
  rw [hd] at hleft
  rw [hd', ← heq, hleft] at hright
  exact Except.ok.inj hright

theorem staysOff_ok (other : String) : StaysOff other .ok where
  leaves db db' h := by
    cases h
    rfl
  blind _ := rfl

theorem staysOff_error (other : String) (e : Fault) : StaysOff other fun _ => .error e where
  leaves _ _ h := nomatch h
  blind _ := rfl

theorem staysOff_ite {c : Database → Bool} {f g : Database → Except Fault Database}
    (hc : ∀ db, c (db.without other) = c db) (hf : StaysOff other f) (hg : StaysOff other g) :
    StaysOff other fun db => if c db then f db else g db where
  leaves db db' h := by
    split at h
    · exact hf.leaves db db' h
    · exact hg.leaves db db' h
  blind db := by
    rw [hc]
    split
    · exact hf.blind db
    · exact hg.blind db

/-- A change of one table stays off the others, unless it gives the table the name of another. -/
theorem staysOff_withTable {α : Type} {change : Table → Except Fault (α × Table)}
    (hne : sameName name other = false) (hname : ∀ t a t', sameName t.name name = true →
      change t = .ok (a, t') → sameName t'.name other = false) :
    StaysOff other fun db => (db.withTable name change).map (·.2) where
  leaves db db' h := by
    obtain ⟨⟨a, d⟩, hw, rfl⟩ := map_eq_ok_iff.1 h
    unfold Database.withTable at hw
    cases hf : db.find? name with
    | none => simp [hf] at hw
    | some t =>
      rw [hf] at hw
      obtain ⟨⟨b, t'⟩, hc, heq⟩ := map_eq_ok_iff.1 hw
      cases heq
      exact find?_replace_other (hname t _ t' (find?_name hf) hc) hne
  blind db := by
    rw [withTable_without hne fun t a t' hf hc => hname t a t' (find?_name hf) hc]
    cases db.withTable name change <;> rfl

/-- The same for a change that keeps the name of the table. -/
theorem staysOff_withTable_of_name {α : Type} {change : Table → Except Fault (α × Table)}
    (hne : sameName name other = false) (hkept : ∀ t a t', change t = .ok (a, t') → t'.name = t.name) :
    StaysOff other fun db => (db.withTable name change).map (·.2) :=
  staysOff_withTable hne fun t a t' hn hc => not_sameName_of_sameName hne (hkept t a t' hc ▸ hn)

/-! ## New tables and removed tables -/

theorem staysOff_concat {t : Table} (hne : sameName t.name other = false) :
    StaysOff other fun db => .ok ⟨db.tables ++ [t]⟩ where
  leaves db db' h := by
    cases h
    simp [Database.find?, List.find?_append, hne]
  blind db := by simp [Database.without, Except.map, hne]

theorem staysOff_create {t : Table} (hne : sameName t.name other = false) : StaysOff other (·.create t) := by
  have hc : ∀ db : Database,
      ((db.without other).hasTable t.name || isInternalName t.name || !columnsAreSound t.columns) =
        (db.hasTable t.name || isInternalName t.name || !columnsAreSound t.columns) := by
    intro db
    rw [hasTable_without hne]
  exact staysOff_ite hc (staysOff_error other _) (staysOff_concat hne)

theorem staysOff_without (hne : sameName name other = false) : StaysOff other fun db => .ok (db.without name) where
  leaves db db' h := by
    cases h
    exact find?_without (not_sameName_symm hne)
  blind db := by
    simp only [Database.without, Except.map, List.filter_filter, Except.ok.injEq, Database.mk.injEq]
    exact List.filter_congr fun t _ => Bool.and_comm _ _

/-! ## Tables keep their names -/

theorem name_insert {t t' : Table} {cells : List Value} (h : t.insert cells = .ok t') : t'.name = t.name := by
  unfold Table.insert at h
  dsimp only at h
  split_ifs at h
  cases h
  rfl

theorem name_insertAll {t t' : Table} {rows : List (List Value)} (h : t.insertAll rows = .ok t') :
    t'.name = t.name := by
  induction rows generalizing t with
  | nil =>
    cases h
    rfl
  | cons cells rows ih =>
    unfold Table.insertAll at h
    split at h
    · cases h
    · next hi => exact (ih h).trans (name_insert hi)

theorem name_insertGiven {t t' : Table} {columns : Option (List String)} {rows : List (List Value)}
    (h : t.insertGiven columns rows = .ok t') : t'.name = t.name := by
  unfold Table.insertGiven at h
  dsimp only at h
  split at h
  · cases h
  · split_ifs at h
    exact name_insertAll h

theorem name_addColumn {t t' : Table} {c : Column} (h : t.addColumn c = .ok t') : t'.name = t.name := by
  unfold Table.addColumn at h
  split_ifs at h
  cases h
  rfl

theorem name_updateGiven {t t' : Table} {sets : List (String × Value)} {condition : Condition} {n : Nat}
    (h : t.updateGiven sets condition = .ok (n, t')) : t'.name = t.name := by
  unfold Table.updateGiven at h
  split at h
  · exact (update_ok h).1
  · cases h

/-- A new value in a column of one table is the same whether another table is there or not. -/
theorem setColumn_without {db : Database} {column : String} {v : Value} (hne : sameName name other = false) :
    (db.without other).setColumn name column v =
      (db.setColumn name column v).map fun r => (r.1, r.2.without other) := by
  unfold Database.setColumn
  split
  · refine withTable_without hne fun t n t' hf hu => not_sameName_of_sameName hne ?_
    rw [name_updateGiven hu]
    exact find?_name hf
  · rfl

/-! ## Statements -/

/-- A statement stays off every table that it does not name. -/
theorem Statement.staysOff_run (s : Statement) (hne : ∀ name ∈ s.names, sameName name other = false) :
    StaysOff other fun db => s.run db := by
  cases s with
  | create ifMissing table columns =>
    have ht : sameName table other = false := hne table List.mem_cons_self
    have hc : ∀ db : Database,
        (ifMissing && (db.without other).hasTable table) = (ifMissing && db.hasTable table) := by
      intro db
      rw [hasTable_without ht]
    exact staysOff_ite hc (staysOff_ok other) (staysOff_create ht)
  | drop ifPresent table =>
    have ht : sameName table other = false := hne table List.mem_cons_self
    have hc : ∀ db : Database, (db.without other).hasTable table = db.hasTable table := hasTable_without ht
    refine staysOff_ite hc (staysOff_without ht) ?_
    cases ifPresent with
    | true => exact staysOff_ok other
    | false => exact staysOff_error other _
  | rename table newName =>
    have ht : sameName table other = false := hne table List.mem_cons_self
    have hnew : sameName newName other = false := hne newName (List.mem_cons_of_mem _ List.mem_cons_self)
    have hc : ∀ db : Database, ((db.without other).hasTable newName || isInternalName newName) =
        (db.hasTable newName || isInternalName newName) := by
      intro db
      rw [hasTable_without hnew]
    refine staysOff_ite hc (staysOff_error other _) (staysOff_withTable ht fun t a t' _ hchange => ?_)
    cases hchange
    exact hnew
  | addColumn table column =>
    refine staysOff_withTable_of_name (hne table List.mem_cons_self) fun t a t' hc => ?_
    obtain ⟨u, hu, heq⟩ := map_eq_ok_iff.1 hc
    cases heq
    exact name_addColumn hu
  | insert table columns rows =>
    refine staysOff_withTable_of_name (hne table List.mem_cons_self) fun t a t' hc => ?_
    obtain ⟨u, hu, heq⟩ := map_eq_ok_iff.1 hc
    cases heq
    exact name_insertGiven hu
  | insertDefaults table =>
    refine staysOff_withTable_of_name (hne table List.mem_cons_self) fun t a t' hc => ?_
    obtain ⟨u, hu, heq⟩ := map_eq_ok_iff.1 hc
    cases heq
    exact name_insert hu
  | update table sets condition =>
    exact staysOff_withTable_of_name (hne table List.mem_cons_self) fun t a t' hc => name_updateGiven hc
  | delete table condition =>
    refine staysOff_withTable_of_name (hne table List.mem_cons_self) fun t a t' hc => ?_
    split at hc
    · cases hc
      rfl
    · cases hc
  | select asked table condition =>
    cases table with
    | none => exact staysOff_ite (fun _ => rfl) (staysOff_ok other) (staysOff_error other _)
    | some table =>
      have ht : sameName table other = false := hne table List.mem_cons_self
      constructor
      · intro db db' h
        dsimp only [Statement.run] at h
        split at h
        · cases h
        · split_ifs at h
          cases h
          rfl
      · intro db
        dsimp only [Statement.run]
        rw [find?_without ht]
        cases db.find? table with
        | none => rfl
        | some t =>
          dsimp only
          split_ifs <;> rfl

/-- A text that is one statement does what that statement does. -/
theorem execute_of_ofText? {text : String} {s : Statement} (h : Statement.ofText? text = some s) :
    execute text = fun db => s.run db := by
  funext db
  unfold Statement.ofText? at h
  unfold execute
  dsimp only at h ⊢
  cases hts : firstStatement (text.toList.length + 1) text.toList with
  | mk ts rest =>
    simp only [hts] at h ⊢
    split_ifs at h with hbad
    simp only [Bool.or_eq_true, not_or, Bool.not_eq_true] at hbad
    obtain ⟨⟨hzero, hmore⟩, hvariable⟩ := hbad
    obtain ⟨hs, hend⟩ := Option.filter_eq_some_iff.1 h
    have hsome : ts.isEmpty = false := by
      cases ts with
      | nil => cases hs
      | cons t ts => rfl
    simp only [Bool.not_eq_eq_eq_not, Bool.not_true] at hend
    simp only [hzero, hsome, hs, hend, hmore, hvariable, Bool.or_self, Bool.false_eq_true, if_false]
    split
    · next heq => exact heq.symm
    · rfl

end SchemaMigration.Sql
