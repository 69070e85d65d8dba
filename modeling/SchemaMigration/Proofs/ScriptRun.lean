import SchemaMigration.ScriptRun
import SchemaMigration.Proofs.JobTraces

/-!
# SchemaMigration.Proofs.ScriptRun — how far a script gets

Reading a script does not touch the database (`script`).  Its statements are committed one by one, so what
a script leaves behind is `runAll` of the statements before the first that fails.

* `sends_load` : reading a script.
* `runAll_cases` : all statements run, or those before some statement run and that one fails.
* `sends_execute_unread`, `sends_execute_failed`, `sends_execute_ok` : the three ways in which a script
  ends, and what it sends; `yields_execute_unread`, `yields_execute_failed`, `yields_execute_ok` : what it commits.
-/

namespace SchemaMigration.ScriptRun

open Job

variable {site : Site} {db db' : Sql.Database} {path stmt : String} {stmts done rest : List String}
  {loaded : Loaded} {e : Fault} {f : Sql.Fault}

/-! ## Definitions -/

/-- What reading a script gives. -/
def script (site : Site) (path : String) : Except Fault Loaded :=
  match site.files.read? (site.root.join (.parse path)) with
  | .error e => .error (.accident (.nameTooLong e.path))
  | .ok none => .error (.failure ((Failure.ofReason (.scriptNotFound path)).withFacts
      [("resource_root", .text site.root.render)]))
  | .ok (some bytes) => match Loaded.ofBytes path bytes with
    | .ok loaded => .ok loaded
    | .error e => .error (.ofReason (.scriptFailed path 0 "" (.undecodable e)))

/-- A statement as a script sends it. -/
def alone (stmt : String) : Sent := (stmt, .once [])

/-- What a statement of a script that succeeds sends, its commit included. -/
def carriedOut (stmt : String) : List Event := [.sent stmt (.once []), .committed]

/-- What a statement of a script does to a database. -/
def effect (site : Site) (stmt : String) (db : Sql.Database) : Except Accident (Unit × Sql.Database) :=
  match site.execute stmt db with
  | .ok db => .ok ((), db)
  | .error e => .error (.database e)

/-! ## Reading -/

theorem sends_load (site : Site) (db : Sql.Database) (path : String) :
    Sends (load path) site db (script site path) db [] := by
  unfold load resolve script
  cases hr : site.files.read? (site.root.join (.parse path)) with
  | error e =>
    refine sends_bind_error (sends_bind_of_quiet sends_site (sends_bind_error ?_))
    rw [hr]
    exact sends_fail _
  | ok found =>
    have hread : Sends (ofExcept (fun e => Fault.accident (.nameTooLong e.path))
        (site.files.read? (site.root.join (.parse path)))) site db (.ok found) db [] := by
      rw [hr]
      exact sends_pure _
    cases found with
    | none =>
      exact sends_bind_error (sends_bind_of_quiet sends_site (sends_bind_of_quiet hread (sends_fail _)))
    | some bytes =>
      refine sends_bind_of_quiet (sends_bind_of_quiet sends_site
        (sends_bind_of_quiet hread (sends_pure _))) ?_
      dsimp only
      cases Loaded.ofBytes path bytes with
      | ok loaded => exact sends_pure _
      | error e => exact sends_bind_of_quiet (sends_notify _) (sends_fail _)

theorem yields_load (site : Site) (db : Sql.Database) (path : String) :
    Yields (load path) site db (script site path) db [] := (sends_load site db path).yields commits_nil

/-! ## Statements -/

theorem sends_runStatement_ok (n : Nat) (h : site.execute stmt db = .ok db') :
    Sends (runStatement path n stmt) site db (.ok ()) db' (carriedOut stmt) := by
  have hs : Sends (send stmt (.once []) (effect site stmt)) site db (.ok ()) db' [.sent stmt (.once [])] :=
    sends_send_ok (by simp only [effect, h])
  refine sends_bind_of_quiet (sends_notify _) (sends_bind_of_quiet sends_site ?_)
  exact sends_bind (sends_onDatabaseError_ok hs) sends_commit

theorem sends_runStatement_error (n : Nat) (h : site.execute stmt db = .error f) :
    Sends (runStatement path n stmt) site db
      (.error (.ofReason (.scriptFailed path n stmt (.database f)))) db [.sent stmt (.once [])] := by
  have hs : Sends (send stmt (.once []) (effect site stmt)) site db (.error (.accident (.database f))) db
      [.sent stmt (.once [])] :=
    sends_send_error (by simp only [effect, h])
  refine sends_bind_of_quiet (sends_notify _) (sends_bind_of_quiet sends_site (sends_bind_error ?_))
  exact sends_onDatabaseError_database hs (sends_fail _)

theorem sends_runStatements_ok (n : Nat) (h : runAll site.execute stmts db = .ok db') :
    Sends (runStatements path n stmts) site db (.ok ()) db' (stmts.flatMap carriedOut) := by
  induction stmts generalizing n db with
  | nil =>
    cases h
    exact sends_pure ()
  | cons s ss ih =>
    unfold runAll at h
    cases hs : site.execute s db with
    | error e => simp [hs] at h
    | ok d =>
      simp only [hs] at h
      exact sends_bind (sends_runStatement_ok n hs) (ih _ h)

/-- The statements before the first that fails are done, and none after it is sent. -/
theorem sends_runStatements_error (n : Nat) (hd : runAll site.execute done db = .ok db')
    (hf : site.execute stmt db' = .error f) :
    Sends (runStatements path n (done ++ stmt :: rest)) site db
      (.error (.ofReason (.scriptFailed path (n + done.length : Nat) stmt (.database f)))) db'
      (done.flatMap carriedOut ++ [.sent stmt (.once [])]) := by
  induction done generalizing n db with
  | nil =>
    cases hd
    exact sends_bind_error (sends_runStatement_error n hf)
  | cons s ss ih =>
    unfold runAll at hd
    cases hs : site.execute s db with
    | error e => simp [hs] at hd
    | ok d =>
      simp only [hs] at hd
      have htail := ih (n + 1) hd
      rw [show n + 1 + ss.length = n + (s :: ss).length by simp only [List.length_cons]; omega] at htail
      rw [List.flatMap_cons, List.append_assoc]
      exact sends_bind (sends_runStatement_ok n hs) htail

/-- Each statement is committed on its own. -/
theorem commits_carriedOut (stmts : List String) : Commits (stmts.flatMap carriedOut) (stmts.map alone) := by
  induction stmts with
  | nil => exact commits_nil
  | cons s ss ih =>
    have hone : Commits (carriedOut s) [alone s] := fun _ => rfl
    exact hone.append ih

/-- All statements run, or those before some statement run and that one fails. -/
theorem runAll_cases (execute : String → Sql.Database → Except Sql.Fault Sql.Database)
    (stmts : List String) (db : Sql.Database) :
    (∃ db', runAll execute stmts db = .ok db') ∨
      ∃ done stmt rest db' f, stmts = done ++ stmt :: rest ∧ runAll execute done db = .ok db' ∧
        execute stmt db' = .error f := by
  induction stmts generalizing db with
  | nil => exact .inl ⟨db, rfl⟩
  | cons s ss ih =>
    cases hs : execute s db with
    | error f => exact .inr ⟨[], s, ss, db, f, rfl, rfl, hs⟩
    | ok d =>
      have hcons : ∀ ts, runAll execute (s :: ts) db = runAll execute ts d := fun ts => by
        simp only [runAll, hs]
      rcases ih d with ⟨db', h⟩ | ⟨done, stmt, rest, db', f, rfl, hd, hf⟩
      · exact .inl ⟨db', (hcons _).trans h⟩
      · exact .inr ⟨s :: done, stmt, rest, db', f, rfl, (hcons _).trans hd, hf⟩

/-! ## Scripts -/

theorem sends_execute_unread (h : script site path = .error e) :
    Sends (execute path) site db (.error e) db [] := by
  have hl := sends_load site db path
  rw [h] at hl
  exact sends_bind_error hl

theorem sends_execute_ok (hl : script site path = .ok loaded)
    (h : runAll site.execute loaded.statements db = .ok db') :
    Sends (execute path) site db (.ok loaded.statements.length) db' (loaded.statements.flatMap carriedOut) := by
  have hload := sends_load site db path
  rw [hl] at hload
  have hrun : Sends (do connect; runStatements path 1 loaded.statements) site db (.ok ()) db'
      (loaded.statements.flatMap carriedOut) :=
    sends_bind_of_quiet sends_connect (sends_runStatements_ok 1 h)
  refine sends_bind_of_quiet hload (sends_bind_quiet (sends_onDatabaseError_ok hrun) ?_)
  exact sends_bind_of_quiet (sends_notify _) (sends_pure _)

theorem sends_execute_failed (hl : script site path = .ok loaded)
    (hs : loaded.statements = done ++ stmt :: rest) (hd : runAll site.execute done db = .ok db')
    (hf : site.execute stmt db' = .error f) :
    Sends (execute path) site db
      (.error (.ofReason (.scriptFailed path (1 + done.length : Nat) stmt (.database f)))) db'
      (done.flatMap carriedOut ++ [.sent stmt (.once [])]) := by
  have hload := sends_load site db path
  rw [hl] at hload
  refine sends_bind_of_quiet hload (sends_bind_error (sends_onDatabaseError_other ?_ ?_))
  · rw [hs]
    exact sends_bind_of_quiet sends_connect (sends_runStatements_error 1 hd hf)
  · exact not_isDatabaseError_ofReason _

theorem yields_execute_unread (h : script site path = .error e) :
    Yields (execute path) site db (.error e) db [] := (sends_execute_unread h).yields commits_nil

theorem yields_execute_ok (hl : script site path = .ok loaded)
    (h : runAll site.execute loaded.statements db = .ok db') :
    Yields (execute path) site db (.ok loaded.statements.length) db' (loaded.statements.map alone) :=
  (sends_execute_ok hl h).yields (commits_carriedOut _)

theorem yields_execute_failed (hl : script site path = .ok loaded)
    (hs : loaded.statements = done ++ stmt :: rest) (hd : runAll site.execute done db = .ok db')
    (hf : site.execute stmt db' = .error f) :
    Yields (execute path) site db
      (.error (.ofReason (.scriptFailed path (1 + done.length : Nat) stmt (.database f)))) db'
      (done.map alone) := by
  refine (sends_execute_failed hl hs hd hf).yields ?_
  rw [← List.append_nil (done.map alone)]
  exact (commits_carriedOut done).append (commits_sent stmt _)

/-- A script that cannot be read has failed at none of its statements. -/
theorem number_of_script_error {number : Int} {cause : Accident} {other : String}
    (h : script site path = .error (.ofReason (.scriptFailed other number stmt cause))) : number = 0 := by
  unfold script at h
  split at h
  · cases h
  · cases h
  · split at h
    · cases h
    · cases Fault.ofReason_inj.1 (Except.error.inj h)
      rfl

end SchemaMigration.ScriptRun
