import SchemaMigration.Proofs.FileTree
import SchemaMigration.Proofs.InstalledVersion.Writing
import SchemaMigration.Proofs.Path
import SchemaMigration.Proofs.ScriptRun
import SchemaMigration.Proofs.Text.Utf8

/-!
# SchemaMigration.Proofs.ScriptRun.Ending — every way in which a script ends

A path is refused, or it leads to no file, or to a file that is no text, or to a script.  Only in the last case is
anything sent, and then it is the statements of the script up to the first that fails.

* `statementsIn` : the statements of a script with a text.
* `script_refused`, `script_missing`, `script_undecodable`, `script_ok` : what is read, by what lies at the path.
* `execute_ends` : the ending of a script, its database and all that it sends.
* `execute_long_path` : a path that is refused although none of its names is too long.
-/

namespace SchemaMigration.ScriptRun

open Job
open FileTree (IsRefused maxNameBytes)
open InstalledVersion (bareSite)

variable {site : Site} {db : Sql.Database} {path : String} {bytes : List UInt8} {cs : List Char} {j : Journal}
  {r : Except Fault Nat} {s : Store}

/-! ## Definitions -/

/-- The path of a script, seen from the resource root. -/
def fileOf (site : Site) (path : String) : Path := site.root.join (.parse path)

/-- The statements of a script with this text. -/
def statementsIn (cs : List Char) : List String := (Script.statements (Text.unifyBreaks cs)).map String.ofList

/-- Why a script is not found. -/
def missing (site : Site) (path : String) : Fault :=
  .failure ((Failure.ofReason (.scriptNotFound path)).withFacts [("resource_root", .text site.root.render)])

/-- The database is as it was, and nothing was sent. -/
def Untouched (db : Sql.Database) (j : Journal) (s : Store) : Prop :=
  s.storage = .database db ∧ statements s.journal = statements j

/-! ## What is read -/

theorem script_refused {e : NameTooLong} (h : site.files.read? (fileOf site path) = .error e) :
    script site path = .error (.accident (.nameTooLong e.path)) := by
  unfold script fileOf at *
  rw [h]

theorem script_missing (h : site.files.read? (fileOf site path) = .ok none) :
    script site path = .error (missing site path) := by
  unfold script fileOf at *
  rw [h]
  rfl

theorem script_undecodable (h : site.files.read? (fileOf site path) = .ok (some bytes))
    (hb : ¬ ∃ cs, bytes = Text.encode cs) :
    ∃ e, script site path = .error (.ofReason (.scriptFailed path 0 "" (.undecodable e))) := by
  obtain ⟨e, he⟩ := Text.decode_error_iff.2 hb
  refine ⟨e, ?_⟩
  unfold script fileOf at *
  simp only [h, Loaded.ofBytes, Text.fileText, he, Except.map]

theorem script_ok (h : site.files.read? (fileOf site path) = .ok (some (Text.encode cs))) :
    script site path = .ok ⟨path, statementsIn cs⟩ := by
  have hdecode : Text.decode (Text.encode cs) = .ok cs := Text.decode_eq_ok_iff.2 rfl
  unfold script fileOf at *
  simp only [h, Loaded.ofBytes, Text.fileText, hdecode, Except.map, statementsIn]

/-! ## How it ends -/

/-- What cannot be read leaves no trace. -/
theorem untouched_of_unread {e : Fault} (he : script site path = .error e)
    (h : (execute path).run site ⟨.database db, j⟩ = (r, s)) : r = .error e ∧ Untouched db j s := by
  obtain ⟨hr, hst, hj⟩ := (sends_execute_unread he).run_eq h
  rw [List.append_nil] at hj
  exact ⟨hr, hst, hj⟩

/-- A script either runs to its end, or up to the first statement that fails. -/
theorem execute_text (hread : site.files.read? (fileOf site path) = .ok (some (Text.encode cs)))
    (h : (execute path).run site ⟨.database db, j⟩ = (r, s)) :
    (∃ db', runAll site.execute (statementsIn cs) db = .ok db' ∧ r = .ok (statementsIn cs).length ∧
        s.storage = .database db' ∧ statements s.journal = statements j ++ (statementsIn cs).flatMap carriedOut) ∨
      ∃ done stmt rest db' f, statementsIn cs = done ++ stmt :: rest ∧ runAll site.execute done db = .ok db' ∧
        site.execute stmt db' = .error f ∧
        r = .error (.ofReason (.scriptFailed path (done.length + 1 : Nat) stmt (.database f))) ∧
        s.storage = .database db' ∧
        statements s.journal = statements j ++ (done.flatMap carriedOut ++ [.sent stmt (.once [])]) := by
  have hscript := script_ok hread
  rcases runAll_cases site.execute (statementsIn cs) db with
    ⟨db', hrun⟩ | ⟨done, stmt, rest, db', f, hsplit, hdone, hf⟩
  · obtain ⟨hr, hst, hj⟩ := (sends_execute_ok hscript hrun).run_eq h
    exact .inl ⟨db', hrun, hr, hst, hj⟩
  · obtain ⟨hr, hst, hj⟩ := (sends_execute_failed hscript hsplit hdone hf).run_eq h
    rw [Nat.add_comm] at hr
    exact .inr ⟨done, stmt, rest, db', f, hsplit, hdone, hf, hr, hst, hj⟩

/-- Where no name in the path is too long, a script ends in one of five ways: its path is refused for its length, it
is not found, it is no text, it runs to its end, or it stops at the first statement that fails. -/
theorem execute_ends (hnames : ∀ part ∈ (fileOf site path).parts, part.utf8ByteSize ≤ maxNameBytes)
    (h : (execute path).run site ⟨.database db, j⟩ = (r, s)) :
    ((∃ e, site.files.read? (fileOf site path) = .error e) ↔ IsRefused (fileOf site path)) ∧
    (IsRefused (fileOf site path) →
      r = .error (.accident (.nameTooLong (fileOf site path).render)) ∧ Untouched db j s) ∧
    (site.files.read? (fileOf site path) = .ok none → r = .error (missing site path) ∧ Untouched db j s) ∧
    (∀ bytes, site.files.read? (fileOf site path) = .ok (some bytes) → (¬ ∃ cs, bytes = Text.encode cs) →
      ∃ e, r = .error (.ofReason (.scriptFailed path 0 "" (.undecodable e))) ∧ Untouched db j s) ∧
    ∀ cs, site.files.read? (fileOf site path) = .ok (some (Text.encode cs)) →
      (∃ db', runAll site.execute (statementsIn cs) db = .ok db' ∧ r = .ok (statementsIn cs).length ∧
          s.storage = .database db' ∧ statements s.journal = statements j ++ (statementsIn cs).flatMap carriedOut) ∨
        ∃ done stmt rest db' f, statementsIn cs = done ++ stmt :: rest ∧ runAll site.execute done db = .ok db' ∧
          site.execute stmt db' = .error f ∧
          r = .error (.ofReason (.scriptFailed path (done.length + 1 : Nat) stmt (.database f))) ∧
          s.storage = .database db' ∧
          statements s.journal = statements j ++ (done.flatMap carriedOut ++ [.sent stmt (.once [])]) := by
  have hrefused : ∀ e, site.files.read? (fileOf site path) = .error e ↔
      IsRefused (fileOf site path) ∧ e = ⟨(fileOf site path).render⟩ :=
    fun e => FileTree.read?_eq_error_iff hnames
  refine ⟨⟨fun ⟨e, he⟩ => ((hrefused e).1 he).1, fun hlong => ⟨_, (hrefused _).2 ⟨hlong, rfl⟩⟩⟩, ?_, ?_, ?_, ?_⟩
  · intro hlong
    exact untouched_of_unread (script_refused ((hrefused _).2 ⟨hlong, rfl⟩)) h
  · intro hnone
    exact untouched_of_unread (script_missing hnone) h
  · intro bytes hbytes hno
    obtain ⟨e, he⟩ := script_undecodable hbytes hno
    exact ⟨e, untouched_of_unread he h⟩
  · intro cs hcs
    exact execute_text hcs h

/-! ## A long path of short names -/

/-- A path of `n + 1` directories, each with a name of one letter. -/
def nested (n : Nat) : String := "/".intercalate (List.replicate (n + 1) "a")

theorem nested_succ (n : Nat) : nested (n + 1) = "a" ++ "/" ++ nested n := String.intercalate_cons_cons

theorem fileOf_nested (n : Nat) : fileOf bareSite (nested n) = ⟨"", List.replicate (n + 1) "a"⟩ := by
  have hname : ∀ name ∈ List.replicate (n + 1) "a", Path.IsName name := by
    intro name hname
    rw [List.eq_of_mem_replicate hname]
    decide
  rw [fileOf, nested, Path.parse_intercalate hname]
  rfl

theorem render_nested (n : Nat) : (fileOf bareSite (nested n)).render = nested n := by
  rw [fileOf_nested, Path.render, if_neg (by simp), nested]
  exact String.empty_append

theorem utf8ByteSize_nested (n : Nat) : (nested n).utf8ByteSize = 2 * n + 1 := by
  induction n with
  | zero => rfl
  | succ n ih =>
    have hone : "a".utf8ByteSize = 1 ∧ "/".utf8ByteSize = 1 := ⟨rfl, rfl⟩
    rw [nested_succ, String.utf8ByteSize_append, String.utf8ByteSize_append, ih, hone.1, hone.2]
    omega

theorem zero_not_mem_nested (n : Nat) : Char.ofNat 0 ∉ (nested n).toList := by
  induction n with
  | zero => decide
  | succ n ih =>
    rw [nested_succ, String.toList_append, String.toList_append, List.mem_append, List.mem_append]
    rintro ((h | h) | h)
    · revert h
      decide
    · revert h
      decide
    · exact ih h

theorem names_nested (n : Nat) : ∀ part ∈ (fileOf bareSite (nested n)).parts, part.utf8ByteSize ≤ maxNameBytes := by
  intro part hpart
  rw [fileOf_nested] at hpart
  rw [List.eq_of_mem_replicate hpart]
  decide

theorem isRefused_nested {n : Nat} (h : 2048 ≤ n) : IsRefused (fileOf bareSite (nested n)) := by
  rw [IsRefused, render_nested, utf8ByteSize_nested, FileTree.maxPathBytes]
  exact ⟨zero_not_mem_nested n, by omega⟩

/-- Names of one letter make a path that is too long, and the script is not reported as missing. -/
theorem execute_long_path :
    (∀ part ∈ (fileOf bareSite (nested 2100)).parts, part.utf8ByteSize ≤ maxNameBytes) ∧
      ((execute (nested 2100)).run bareSite ⟨.database {}, []⟩).1 =
        .error (.accident (.nameTooLong (nested 2100))) := by
  refine ⟨names_nested 2100, ?_⟩
  cases hrun : (execute (nested 2100)).run bareSite ⟨.database {}, []⟩ with
  | mk r s =>
    obtain ⟨hr, -⟩ := (execute_ends (names_nested 2100) hrun).2.1 (isRefused_nested (by decide))
    rw [hr, render_nested]

end SchemaMigration.ScriptRun
