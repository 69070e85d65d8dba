import SchemaMigration.Path
import SchemaMigration.Proofs.Text.Pieces

/-!
# SchemaMigration.Proofs.Path — paths and the names that they are made of

* `Path.IsName` : a text that is a part of a path as it stands.
* `Path.parse_intercalate` : names with slashes between them are read back as the parts of the path.
* `Path.render_child` : how one more name is written.
-/

namespace SchemaMigration

/-! ## Definitions -/

/-- A text that is a part of a path as it stands: not empty, not the directory itself, and in one piece. -/
def Path.IsName (s : String) : Prop := s ≠ "" ∧ s ≠ "." ∧ '/' ∉ s.toList

instance (s : String) : Decidable (Path.IsName s) := inferInstanceAs (Decidable (_ ∧ _ ∧ _))

namespace Path

variable {s : String} {names : List String} {p : Path}

/-! ## Cutting at slashes -/

theorem splitBy_slash_of_not_mem (h : '/' ∉ s.toList) : ∀ d ∈ s.toList, (d == '/') = false := by
  intro d hd
  rw [beq_eq_false_iff_ne]
  rintro rfl
  exact h hd

theorem splitBy_intercalate (hne : names ≠ []) (h : ∀ name ∈ names, '/' ∉ name.toList) :
    Text.splitBy (· == '/') ("/".intercalate names).toList = names.map String.toList := by
  have hpieces : ∀ w ∈ names.map String.toList, ∀ d ∈ w, (d == '/') = false := by
    intro w hw
    obtain ⟨name, hname, rfl⟩ := List.mem_map.1 hw
    exact splitBy_slash_of_not_mem (h name hname)
  rw [Text.toList_intercalate]
  exact Text.splitBy_joinWith (by decide) (by simpa using hne) hpieces

/-! ## Names with slashes between them -/

theorem anchorOf_of_head?_ne {cs : List Char} (h : cs.head? ≠ some '/') : anchorOf cs = "" := by
  unfold anchorOf
  split <;> simp_all

theorem head?_intercalate_ne (h : ∀ name ∈ names, IsName name) :
    ("/".intercalate names).toList.head? ≠ some '/' := by
  cases names with
  | nil => simp
  | cons name names =>
    obtain ⟨hne, -, hslash⟩ := h name List.mem_cons_self
    have hbegin : ∃ rest, ("/".intercalate (name :: names)).toList = name.toList ++ rest := by
      cases names with
      | nil => exact ⟨[], by simp⟩
      | cons next names => exact ⟨_, by rw [String.intercalate_cons_cons, String.toList_append,
          String.toList_append, List.append_assoc]⟩
    obtain ⟨rest, hrest⟩ := hbegin
    cases hcs : name.toList with
    | nil => exact absurd (String.toList_eq_nil_iff.1 hcs) hne
    | cons c cs =>
      rw [hrest, hcs]
      rintro ⟨⟩
      exact hslash (hcs ▸ List.mem_cons_self)

/-- Names with slashes between them are the parts of a path. -/
theorem parse_intercalate (h : ∀ name ∈ names, IsName name) : parse ("/".intercalate names) = ⟨"", names⟩ := by
  have hparts : (((Text.splitBy (· == '/') ("/".intercalate names).toList).map String.ofList).filter fun part =>
      part ≠ "" && part ≠ ".") = names := by
    by_cases hne : names = []
    · subst hne
      rfl
    · rw [splitBy_intercalate hne fun name hname => (h name hname).2.2, List.map_map, List.filter_eq_self.2]
      · simp
      · intro part hpart
        simp only [List.mem_map, Function.comp_apply, String.ofList_toList, exists_eq_right] at hpart
        have hname := h part hpart
        simp [hname.1, hname.2.1]
  rw [parse, anchorOf_of_head?_ne (head?_intercalate_ne h), hparts]

/-! ## One more name -/

theorem render_child (h : p.parts ≠ []) (name : String) : (p.child name).render = p.render ++ "/" ++ name := by
  have hnames : "/".intercalate (p.parts ++ [name]) = "/".intercalate p.parts ++ "/" ++ name := by
    rw [← String.toList_inj, Text.toList_intercalate, List.map_append, List.map_singleton,
      Text.joinWith_concat (by simpa using h), String.toList_append, String.toList_append, Text.toList_intercalate]
  have hne : (p.child name).parts ≠ [] := by simp [child]
  rw [render, if_neg (by simp [hne]), render, if_neg (by simp [h]), child, hnames]
  simp only [String.append_assoc]

end Path

end SchemaMigration
