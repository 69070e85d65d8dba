import Mathlib.Order.Defs.PartialOrder
import SchemaMigration.Version

/-!
# SchemaMigration.Proofs.Version.Order — versions are totally preordered

* `lexCompare_eq_compare` : keys compare as lists of numbers do in the library.
* `Preorder Version`, `Version.le_total`, `Version.not_le` : the order of versions; two versions that
  are written differently may be the same.
* `lt_of_le_of_not_same`, `not_same_of_lt`, `same_of_le_of_le` : of two versions that are not the same, one is the
  lesser.
-/

namespace SchemaMigration.Version

variable {u v w : Version}

theorem lexCompare_eq_compare (ms ns : List Nat) : lexCompare ms ns = Ord.compare ms ns := by
  induction ms generalizing ns with
  | nil =>
    cases ns with
    | nil => rfl
    | cons n ns => rfl
  | cons m ms ih =>
    cases ns with
    | nil => rfl
    | cons n ns =>
      rw [List.compare_cons_cons]
      simp only [lexCompare, ih]

theorem compare_eq (v w : Version) : compare v w = Ord.compare v.key w.key := lexCompare_eq_compare _ _

instance : Std.TransCmp compare where
  eq_swap := by
    intro v w
    rw [compare_eq, compare_eq]
    exact Std.OrientedCmp.eq_swap
  isLE_trans := by
    intro u v w
    rw [compare_eq, compare_eq, compare_eq]
    exact Std.TransCmp.isLE_trans

theorem le_iff_isLE : v ≤ w ↔ (compare v w).isLE := by
  show compare v w ≠ .gt ↔ _
  cases compare v w <;> simp

theorem not_le : ¬ v ≤ w ↔ w < v := by
  show ¬ compare v w ≠ .gt ↔ compare w v = .lt
  rw [Decidable.not_not]
  exact Std.OrientedCmp.gt_iff_lt

instance : Preorder Version where
  le_refl v := by
    show compare v v ≠ .gt
    simp
  le_trans u v w huv hvw := by
    rw [le_iff_isLE] at *
    exact Std.TransCmp.isLE_trans huv hvw
  lt_iff_le_not_ge v w := by
    rw [not_le, iff_and_self]
    intro h
    show compare v w ≠ .gt
    rw [show compare v w = .lt from h]
    simp

theorem le_total (v w : Version) : v ≤ w ∨ w ≤ v := by
  by_cases h : v ≤ w
  · exact .inl h
  · exact .inr (le_of_lt (not_le.1 h))

theorem not_lt : ¬ v < w ↔ w ≤ v := by rw [← not_le, Decidable.not_not]

theorem lt_of_le_of_not_same (h : v ≤ w) (hs : ¬ Same v w) : v < w := by
  rcases le_iff_not_lt.1 h with hlt | heq
  · exact hlt
  · exact absurd heq hs

theorem Same.symm (h : Same v w) : Same w v := Std.OrientedCmp.eq_symm h

theorem not_same_of_lt (h : v < w) : ¬ Same v w := fun hs => by
  cases h.symm.trans hs

theorem same_of_le_of_le (h : v ≤ w) (h' : w ≤ v) : Same v w := by
  rcases le_iff_not_lt.1 h with hlt | heq
  · exact absurd h' (not_le.2 hlt)
  · exact heq

end SchemaMigration.Version
