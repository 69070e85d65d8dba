import SchemaMigration.Proofs.Except
import SchemaMigration.Proofs.Text.Pieces
import SchemaMigration.Rehearsal

/-!
# SchemaMigration.Proofs.DatabaseUrl.Masking — a masked address says nothing of its password

A password stands behind the first colon that a user reaches and goes up to the first `@` behind it, whatever else it
holds.  So the reader finds the same user in front of it and the same text behind it for every password, and only one
part of the address depends on it, which a masked address leaves out.

* `withPassword` : an address with a password.
* `readUser_withPassword` : where the password ends.
* `parse_withPassword` : the password changes neither whether the address can be read nor any other part of it.
* `masked_withPassword` : so addresses that differ in their passwords alone are masked alike, and are reported alike
  by a connection.
-/

namespace SchemaMigration.DatabaseUrl

variable {driver user password other rest : String} {c : Char} {cs ds : List Char}

/-! ## Definitions -/

/-- A driver is named by letters, digits, underscores and `+`. -/
def isInDriver (c : Char) : Bool := Text.isWordChar c || c == '+'

/-- A user in front of a password holds neither colon nor slash. -/
def isInUser (c : Char) : Bool := c != ':' && c != '/'

/-- The address of a driver, a user, a password and the rest. -/
def withPassword (driver user password rest : String) : String :=
  driver ++ "://" ++ user ++ ":" ++ password ++ "@" ++ rest

/-- The address with this password, as it is written. -/
def setPassword (password : String) (u : DatabaseUrl) : DatabaseUrl :=
  { u with password := some (String.ofList (Text.percentDecode password.toList)) }

/-! ## Reading -/

/-- A text is cut at the first character that is not wanted. -/
theorem takeWhile_append_cons {p : Char → Bool} (h : ∀ d ∈ cs, p d = true) (hc : p c = false) (ds : List Char) :
    (cs ++ c :: ds).takeWhile p = cs ∧ (cs ++ c :: ds).dropWhile p = c :: ds := by
  rw [List.takeWhile_append_of_pos h, List.dropWhile_append_of_pos h, List.takeWhile_cons_of_neg (by simp [hc]),
    List.dropWhile_cons_of_neg (by simp [hc]), List.append_nil]
  exact ⟨rfl, rfl⟩

/-- The password goes up to the first `@`. -/
theorem readUser_withPassword {us ps : List Char} (hu : ∀ d ∈ us, isInUser d = true) (hp : '@' ∉ ps)
    (rs : List Char) : readUser (us ++ ':' :: (ps ++ '@' :: rs)) = (some (us, some ps), rs) := by
  obtain ⟨huser, hbehind⟩ := takeWhile_append_cons (c := ':') hu rfl (ps ++ '@' :: rs)
  obtain ⟨hpassword, hrest⟩ := takeWhile_append_cons (Text.bne_of_not_mem hp) (bne_self_eq_false '@') rs
  unfold isInUser at huser hbehind
  simp only [readUser, huser, hbehind, hpassword, hrest]

theorem toList_withPassword :
    (withPassword driver user password rest).toList =
      driver.toList ++ ':' :: '/' :: '/' :: (user.toList ++ ':' :: (password.toList ++ '@' :: rest.toList)) := by
  simp [withPassword]

/-- A driver is read as a whole. -/
theorem driver_withPassword (hdriver : ∀ c ∈ driver.toList, isInDriver c = true) (user password rest : String) :
    (withPassword driver user password rest).toList.takeWhile isInDriver = driver.toList ∧
      (withPassword driver user password rest).toList.dropWhile isInDriver =
        ':' :: '/' :: '/' :: (user.toList ++ ':' :: (password.toList ++ '@' :: rest.toList)) := by
  rw [toList_withPassword]
  exact takeWhile_append_cons hdriver (by decide) _

/-- The password of an address can be set before the address is read or afterwards. -/
theorem parse_withPassword (hdriver : ∀ c ∈ driver.toList, isInDriver c = true)
    (huser : ∀ c ∈ user.toList, isInUser c = true) (hpassword : '@' ∉ password.toList) (rest : String) :
    parse (withPassword driver user password rest) =
      (parse (withPassword driver user "" rest)).map (setPassword password) := by
  have hnone : '@' ∉ "".toList := by simp
  obtain ⟨hname, hbehind⟩ := driver_withPassword hdriver user password rest
  obtain ⟨hname', hbehind'⟩ := driver_withPassword hdriver user "" rest
  unfold isInDriver at hname hbehind hname' hbehind'
  simp only [parse, hname, hbehind, hname', hbehind']
  cases driver.toList with
  | nil => rfl
  | cons c name =>
    simp only [readUser_withPassword huser hpassword, readUser_withPassword huser hnone]
    -- what is left to read is the same for both
    split <;> rfl

/-! ## Masking -/

/-- Addresses that differ in their passwords alone are masked to the same text, or are refused with the same fault.
Where both of them give a connection, the notices of the two connections are the same, whatever drivers there are. -/
theorem masked_withPassword (drivers : Drivers) (settings : Settings) {driver user p q : String} (rest : String)
    (hdriver : ∀ c ∈ driver.toList, isInDriver c = true) (huser : ∀ c ∈ user.toList, isInUser c = true)
    (hp : '@' ∉ p.toList) (hq : '@' ∉ q.toList) :
    ({ settings with databaseUrl := withPassword driver user p rest } : Settings).maskedUrl =
        ({ settings with databaseUrl := withPassword driver user q rest } : Settings).maskedUrl ∧
      ∀ c d, Connection.ofSettings drivers { settings with databaseUrl := withPassword driver user p rest } = .ok c →
        Connection.ofSettings drivers { settings with databaseUrl := withPassword driver user q rest } = .ok d →
        c.notice = d.notice := by
  have hparse := parse_withPassword hdriver huser hp rest
  have hparse' := parse_withPassword hdriver huser hq rest
  refine ⟨?_, fun c d hc hd => ?_⟩
  · unfold Settings.maskedUrl
    rw [hparse, hparse']
    cases parse (withPassword driver user "" rest) with
    | error e => simp only [Except.map]
    | ok u => exact congrArg Except.ok (masked_password u _ _)
  · have hc' := Connection.ofSettings_url hc
    have hd' := Connection.ofSettings_url hd
    obtain ⟨u, hu, hcu⟩ := map_eq_ok_iff.1 (hparse.symm.trans hc')
    obtain ⟨u', hu', hdu⟩ := map_eq_ok_iff.1 (hparse'.symm.trans hd')
    obtain rfl : u = u' := Except.ok.inj (hu.symm.trans hu')
    rw [Connection.notice, Connection.notice, ← hcu, ← hdu]
    exact congrArg Notice.connected (masked_password u _ _)

/-- A connection to a server, with a password. -/
def connectionWith (password : String) : Connection where
  url :=
    { driver := "postgresql", user := some "a@b", password := some password, host := some "db", database := some "ds",
      query := [("t", "2"), ("s", "1")] }
  options := { echo := false, recycle := some 3600 }
  driver := ⟨"postgresql", "psycopg2"⟩

/-- A password that looks like the rest of an address is masked like an empty one, here behind a user that holds an
`@` and in front of a query that is put in order. -/
theorem masked_withPassword_of_signs :
    ({ databaseUrl := withPassword "postgresql" "a@b" "/:5432/%41?[x]" "db/ds?t=2&s=1" } : Settings).maskedUrl =
        .ok "postgresql://a%40b:***@db/ds?s=1&t=2" ∧
      Connection.ofSettings Rehearsal.drivers
          { databaseUrl := withPassword "postgresql" "a@b" "/:5432/%41?[x]" "db/ds?t=2&s=1" } =
        .ok (connectionWith "/:5432/A?[x]") ∧
      Connection.ofSettings Rehearsal.drivers
          { databaseUrl := withPassword "postgresql" "a@b" "" "db/ds?t=2&s=1" } =
        .ok (connectionWith "") ∧
      (connectionWith "/:5432/A?[x]").notice = (connectionWith "").notice := by
  obtain ⟨hmasked, hnotice⟩ := @masked_withPassword Rehearsal.drivers {} "postgresql" "a@b" "/:5432/%41?[x]" ""
    "db/ds?t=2&s=1" (List.all_eq_true.1 (by decide)) (List.all_eq_true.1 (by decide)) (by decide) (by decide)
  have hsigns : Connection.ofSettings Rehearsal.drivers
      { databaseUrl := withPassword "postgresql" "a@b" "/:5432/%41?[x]" "db/ds?t=2&s=1" } =
        .ok (connectionWith "/:5432/A?[x]") := eq_ok_of_toOption (by decide +kernel)
  have hempty : Connection.ofSettings Rehearsal.drivers
      { databaseUrl := withPassword "postgresql" "a@b" "" "db/ds?t=2&s=1" } =
        .ok (connectionWith "") := eq_ok_of_toOption (by decide +kernel)
  have hsorted : [("t", "2"), ("s", "1")].mergeSort (fun p q : String × String => p.1 ≤ q.1) =
      [("s", "1"), ("t", "2")] := by simp [List.mergeSort, List.MergeSort.Internal.splitInTwo]
  have hshown : (connectionWith "").url.masked = "postgresql://a%40b:***@db/ds?s=1&t=2" := by
    simp only [connectionWith, masked, render, renderQuery, List.isEmpty_cons, hsorted]
    decide +kernel
  have hempty' : ({ databaseUrl := withPassword "postgresql" "a@b" "" "db/ds?t=2&s=1" } : Settings).maskedUrl =
      .ok "postgresql://a%40b:***@db/ds?s=1&t=2" := by
    unfold Settings.maskedUrl
    rw [Connection.ofSettings_url hempty]
    exact congrArg Except.ok hshown
  exact ⟨hmasked.trans hempty', hsigns, hempty, hnotice _ _ hsigns hempty⟩

end SchemaMigration.DatabaseUrl
