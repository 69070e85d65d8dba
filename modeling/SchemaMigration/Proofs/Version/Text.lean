import SchemaMigration.Version
import SchemaMigration.Proofs.Except
import SchemaMigration.Proofs.Text.Trimming

/-!
# SchemaMigration.Proofs.Version.Text — the text of a version

* `ofChars_trim` : blanks around a version do not count.
* `IsRead` : a version that is read from its own text; every version that is read from any text is one
  (`isRead_of_ofChars`).
-/

namespace SchemaMigration

namespace Version

/-- A version that is read from its own text. -/
def IsRead (v : Version) : Prop := parse v.text = .ok v

theorem text_of_ofChars {cs : List Char} {v : Version} (h : ofChars cs = .ok v) :
    v.text = String.ofList (Text.trim cs) := by
  obtain ⟨ns, -, rfl⟩ := map_eq_ok_iff.1 h
  rfl

/-- Only the trimmed text counts. -/
theorem ofChars_trim (cs : List Char) : ofChars (Text.trim cs) = ofChars cs := by
  unfold ofChars
  rw [Text.trim_trim]

theorem isRead_of_ofChars {cs : List Char} {v : Version} (h : ofChars cs = .ok v) : v.IsRead := by
  unfold IsRead parse
  rw [text_of_ofChars h, String.toList_ofList, ofChars_trim]
  exact h

theorem isRead_of_parse {s : String} {v : Version} (h : parse s = .ok v) : v.IsRead :=
  isRead_of_ofChars h

end Version

end SchemaMigration
