import SchemaMigration.FolderSize
import SchemaMigration.Proofs.JobLogic

/-!
# SchemaMigration.Proofs.FolderSize — new folder sizes do not stop anything

The sizes of one type are written in one transaction, or not at all.  What goes wrong with a type becomes a
failure in the outcome, so the work on all types always ends well.

* `resize`, `resizeAll` : what becomes of a database, as a function of the database alone.
* `updateRows_cases` : the work in the transaction fails, or leaves one statement for the commit.
* `update_cases` : one type commits one statement, or fails and changes nothing.
* `yields_updateAll` : all types together always give an outcome.
-/

namespace SchemaMigration.FolderSize

open Job
open Sql (Value)

/-! ## Definitions -/

/-- The statement that writes the sizes of folders. -/
def resizing (table : String) (type : ResourceType) (totals : List (Value × Value)) : Sent :=
  ("UPDATE " ++ table ++ " SET size = ? WHERE type = ? AND full_name = ?", parametersOf type totals)

/-- Writes the sizes of folders, if there are any. -/
def writeTotals (table : String) (type : ResourceType) (totals : List (Value × Value)) : Job Nat := do
  unless totals.isEmpty do
    send (resizing table type totals).1 (resizing table type totals).2 fun db =>
      (writeSizes table type db totals).map ((), ·)
  return totals.length

/-- The question for the rows of a type. -/
def question (table : String) (type : ResourceType) : Sent :=
  ("SELECT full_name, size, is_directory FROM " ++ table ++ " WHERE type = ?", .once [.integer type.number])

/-- The database with the new folder sizes of a type, or what keeps them from being computed or written. -/
def resize (table : String) (type : ResourceType) (db : Sql.Database) : Except Accident Sql.Database :=
  match readRows table type db with
  | .error e => .error (.database e)
  | .ok (declared, rows) =>
    match missingColumn? declared rows with
    | some column => .error (.missingField column)
    | none => (folderTotals rows).bind (writeSizes table type db)

/-- The number of folders of a type. -/
def folderCount (table : String) (type : ResourceType) (db : Sql.Database) : Nat :=
  match readRows table type db with
  | .error _ => 0
  | .ok (_, rows) => rows.countP isFolder

/-- The database after the work on one type, which changes nothing where it fails. -/
def settle (table : String) (db : Sql.Database) (type : ResourceType) : Sql.Database :=
  (resize table type db).toOption.getD db

/-- The database after the work on all types. -/
def resizeAll (table : String) (db : Sql.Database) : Sql.Database := ResourceType.all.foldl (settle table) db

/-! ## One type -/

section OneType

variable {site : Site} {db : Sql.Database} {table : String} {type : ResourceType}

theorem writeTotals_cases (site : Site) (db : Sql.Database) (table : String) (type : ResourceType)
    (totals : List (Value × Value)) (last : Sent) :
    (∃ e, writeSizes table type db totals = .error e ∧
        Yields (writeTotals table type totals) site db (.error (.accident e)) db []) ∨
      ∃ db' k c, writeSizes table type db totals = .ok db' ∧
        Emits (writeTotals table type totals) site db (.ok totals.length) db' k ∧ Commits k [] ∧
        openAfter (some last) k = some c := by
  cases totals with
  | nil => exact .inr ⟨db, [], last, rfl, emits_pure 0, commits_nil, rfl⟩
  | cons t ts =>
    cases hw : writeSizes table type db (t :: ts) with
    | error e =>
      exact .inl ⟨e, rfl, yields_bind_error (yields_send_error (by rw [hw]; rfl))⟩
    | ok db' =>
      refine .inr ⟨db', _, resizing table type (t :: ts), rfl,
        emits_bind (emits_send_ok (by rw [hw]; rfl)) (emits_pure _), ?_, ?_⟩
      · exact (commits_sentEvents site _ _).append commits_nil
      · rw [List.append_nil]
        exact openAfter_sentEvents site _ _ _

theorem length_of_folderTotals {rows : List Resource} {totals : List (Value × Value)}
    (h : folderTotals rows = .ok totals) : totals.length = rows.countP isFolder := by
  have hfolders := (mapM_pair_eq_ok h).1
  rw [← List.length_map Prod.fst, hfolders, List.length_map, List.countP_eq_length_filter]

/-- Reading the rows and writing the sizes fails, or leaves a statement for the commit. -/
theorem updateRows_cases (site : Site) (db : Sql.Database) (table : String) (type : ResourceType) :
    (∃ e, resize table type db = .error e ∧
        Yields (updateRows table type) site db (.error (.accident e)) db []) ∨
      ∃ db' k c, resize table type db = .ok db' ∧
        Emits (updateRows table type) site db (.ok (folderCount table type db)) db' k ∧ Commits k [] ∧
        ∀ last, openAfter last k = some c := by
  unfold resize folderCount
  cases hread : readRows table type db with
  | error e => exact .inl ⟨_, rfl, yields_bind_error (yields_ask_error hread)⟩
  | ok found =>
  obtain ⟨declared, rows⟩ := found
  have hask : Emits (ask (question table type).1 [.integer type.number] (readRows table type)) site db
      (.ok (declared, rows)) db (sentEvents site (question table type).1 (question table type).2) :=
    emits_send_ok (by simp only [hread])
  have hquiet := commits_sentEvents site (question table type).1 (question table type).2
  dsimp only
  cases hcol : missingColumn? declared rows with
  | some column =>
    refine .inl ⟨.missingField column, rfl, yields_bind_of_quiet ⟨_, hask, hquiet⟩ ?_⟩
    dsimp only
    rw [hcol]
    exact yields_fail _
  | none =>
  cases htotals : folderTotals rows with
  | error e =>
    refine .inl ⟨e, rfl, yields_bind_of_quiet ⟨_, hask, hquiet⟩ ?_⟩
    dsimp only
    rw [hcol, htotals]
    exact yields_bind_error (yields_fail _)
  | ok totals =>
  have hrest : ∀ {r db' k}, Emits (writeTotals table type totals) site db r db' k →
      Emits (updateRows table type) site db r db'
        (sentEvents site (question table type).1 (question table type).2 ++ k) := by
    intro r db' k hk
    refine emits_bind hask ?_
    dsimp only
    rw [hcol, htotals]
    exact emits_bind (emits_pure totals) hk
  rcases writeTotals_cases site db table type totals (question table type) with
    ⟨e, hw, k, hk, hc⟩ | ⟨db', k, c, hw, hk, hc, hopen⟩
  · exact .inl ⟨e, hw, _, hrest hk, hquiet.append hc⟩
  · rw [length_of_folderTotals htotals] at hk
    refine .inr ⟨db', _, c, hw, hrest hk, hquiet.append hc, fun last => ?_⟩
    rw [openAfter_append, openAfter_sentEvents]
    exact hopen

/-- The sizes of one type are committed with one statement, or the type fails and nothing is changed. -/
theorem update_cases (site : Site) (db : Sql.Database) (table : String) (type : ResourceType) :
    (∃ e, resize table type db = .error e ∧
        Yields (update table type) site db (.error (.accident e)) db []) ∨
      ∃ db' c, resize table type db = .ok db' ∧
        Yields (update table type) site db (.ok (folderCount table type db)) db' [c] := by
  rcases updateRows_cases site db table type with ⟨e, hr, he⟩ | ⟨db', k, c, hr, hk, hc, hopen⟩
  · exact .inl ⟨e, hr, yields_bind_error (yields_transaction_error he)⟩
  · refine .inr ⟨db', c, hr, yields_bind_quiet ⟨_, emits_transaction_ok hk, hc.commit hopen⟩ ?_⟩
    exact yields_bind_of_quiet (yields_notify _) (yields_pure _)

end OneType

/-! ## All types -/

theorem yields_tryType (site : Site) (db : Sql.Database) (table : String) (o : Outcome)
    (type : ResourceType) :
    ∃ o' cs, Yields (tryType table o type) site db (.ok o') (settle table db type) cs := by
  unfold settle
  rcases update_cases site db table type with ⟨e, hr, he⟩ | ⟨db', c, hr, hn⟩
  · rw [hr]
    exact ⟨_, _, yields_rescue_error (yields_bind_error he) (yields_pure _)⟩
  · rw [hr]
    exact ⟨_, _, yields_rescue_ok (yields_bind hn (yields_pure _))⟩

theorem yields_foldlM_tryType (site : Site) (table : String) (types : List ResourceType) :
    ∀ (db : Sql.Database) (o : Outcome),
      ∃ o' cs, Yields (types.foldlM (tryType table) o) site db (.ok o') (types.foldl (settle table) db) cs := by
  induction types with
  | nil => exact fun db o => ⟨o, [], yields_pure o⟩
  | cons type types ih =>
    intro db o
    obtain ⟨o₁, cs₁, h₁⟩ := yields_tryType site db table o type
    obtain ⟨o₂, cs₂, h₂⟩ := ih (settle table db type) o₁
    exact ⟨o₂, _, yields_bind h₁ h₂⟩

/-- The work on all types always gives an outcome. -/
theorem yields_updateAll (site : Site) (db : Sql.Database) (table : String) :
    ∃ o cs, Yields (updateAll table) site db (.ok o) (resizeAll table db) cs :=
  yields_foldlM_tryType site table ResourceType.all db {}

end SchemaMigration.FolderSize
