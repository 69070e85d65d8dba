import Mathlib.Data.List.DropRight
import SchemaMigration.Proofs.Version.Grammar
import SchemaMigration.Proofs.Version.Order
import SchemaMigration.Version.Comparison

/-!
# SchemaMigration.Proofs.Version.Comparison — every comparison follows one order

Versions are compared by their keys, which keep no zeros on the right but the first component.  This is the order of
the components, the shorter sequence filled up with zeros.

* `order`, `Relation.accepts` : that order, and what each relation says of it.
* `trimZeros_cons`, `lexCompare_cons_unless_zero` : one component on the left, of a key and of a comparison.
* `lexCompare_rdropWhile`, `paddedCompare_eq` : leaving the zeros out on the right, or filling them in, is the same.
* `compare_eq_order`, `Relation.between_eq`, `comparison_of_read` : the keys, the relations and the comparison follow
  the order.
* `comparisons_follow_order` : all of it, for versions that are read from texts.
-/

namespace SchemaMigration.Version

variable {u v w : Version} {m n : Nat} {ms ns : List Nat}

/-! ## Definitions -/

/-- The order of the components, the shorter sequence filled up with zeros on the right. -/
def order (v w : Version) : Ordering :=
  let width := max v.parts.length w.parts.length
  Ord.compare (v.parts.rightpad width 0) (w.parts.rightpad width 0)

/-- The relation holds of two values in this order. -/
def Relation.accepts : Relation → Ordering → Bool
  | .eq, o => o == .eq
  | .ne, o => o != .eq
  | .lt, o => o == .lt
  | .le, o => o != .gt
  | .gt, o => o == .gt
  | .ge, o => o != .lt

/-! ## Zeros on the right -/

theorem rdropWhile_zero_cons (n : Nat) (ns : List Nat) :
    (n :: ns).rdropWhile (· == 0) =
      if n = 0 ∧ ns.rdropWhile (· == 0) = [] then [] else n :: ns.rdropWhile (· == 0) := by
  simp only [List.rdropWhile, List.reverse_cons, List.dropWhile_append, List.isEmpty_iff, List.reverse_eq_nil_iff]
  split_ifs with hnil hn hn
  · simp [hn.1]
  · have hne : n ≠ 0 := fun h => hn ⟨h, hnil⟩
    simp [hne, hnil]
  · exact absurd hn.2 hnil
  · simp

/-- A key keeps the first component, and the others without the zeros on the right. -/
theorem trimZeros_cons (n : Nat) (ns : List Nat) : trimZeros (n :: ns) = n :: ns.rdropWhile (· == 0) := by
  induction ns generalizing n with
  | nil => rfl
  | cons m ms ih =>
    rw [trimZeros, ih m, rdropWhile_zero_cons]
    split_ifs with h
    · rw [h.1, h.2]
      rfl
    · split
      · next heq =>
        obtain ⟨rfl, hnil⟩ := List.cons.inj heq
        exact absurd ⟨rfl, hnil⟩ h
      · rfl

/-- Two sequences compare alike before and after one more component, which is left out where it would be a zero at
the end. -/
theorem lexCompare_cons_unless_zero (m n : Nat) (ms ns : List Nat) :
    lexCompare (if m = 0 ∧ ms = [] then [] else m :: ms) (if n = 0 ∧ ns = [] then [] else n :: ns) =
      (Ord.compare m n).then (lexCompare ms ns) := by
  have hpos : ∀ k, k ≠ 0 → Ord.compare 0 k = .lt ∧ Ord.compare k 0 = .gt := fun k hk =>
    ⟨Nat.compare_eq_lt.2 (Nat.pos_of_ne_zero hk), Nat.compare_eq_gt.2 (Nat.pos_of_ne_zero hk)⟩
  split_ifs with hm hn hn
  · rw [hm.1, hm.2, hn.1, hn.2]
    rfl
  · obtain ⟨rfl, rfl⟩ := hm
    by_cases h0 : n = 0
    · cases ns with
      | nil => exact absurd ⟨h0, rfl⟩ hn
      | cons k ks => simp [h0, lexCompare]
    · simp [(hpos n h0).1, lexCompare]
  · obtain ⟨rfl, rfl⟩ := hn
    by_cases h0 : m = 0
    · cases ms with
      | nil => exact absurd ⟨h0, rfl⟩ hm
      | cons k ks => simp [h0, lexCompare]
    · simp [(hpos m h0).2, lexCompare]
  · rfl

/-- Zeros on the right do not count where the shorter sequence is filled up with zeros. -/
theorem lexCompare_rdropWhile (ms ns : List Nat) :
    lexCompare (ms.rdropWhile (· == 0)) (ns.rdropWhile (· == 0)) = paddedCompare ms ns := by
  induction ms generalizing ns with
  | nil =>
    induction ns with
    | nil => rw [List.rdropWhile_nil, lexCompare_self, paddedCompare]
    | cons n ns ih =>
      rw [rdropWhile_zero_cons, paddedCompare, ← ih]
      exact lexCompare_cons_unless_zero 0 n [] _
  | cons m ms ih =>
    cases ns with
    | nil =>
      rw [rdropWhile_zero_cons, paddedCompare, ← ih]
      exact lexCompare_cons_unless_zero m 0 _ []
    | cons n ns =>
      rw [rdropWhile_zero_cons, rdropWhile_zero_cons, paddedCompare, ← ih]
      exact lexCompare_cons_unless_zero m n _ _

/-- Filling up with zeros first and comparing afterwards. -/
theorem paddedCompare_eq (ms ns : List Nat) :
    paddedCompare ms ns =
      Ord.compare (ms.rightpad (max ms.length ns.length) 0) (ns.rightpad (max ms.length ns.length) 0) := by
  induction ms generalizing ns with
  | nil =>
    induction ns with
    | nil => simp [paddedCompare]
    | cons n ns ih =>
      rw [paddedCompare, ih]
      simp [List.rightpad, List.replicate_succ, List.compare_cons_cons]
  | cons m ms ih =>
    cases ns with
    | nil =>
      rw [paddedCompare, ih]
      simp [List.rightpad, List.replicate_succ, List.compare_cons_cons]
    | cons n ns =>
      rw [paddedCompare, ih]
      simp [List.rightpad, List.compare_cons_cons]

/-! ## The order of versions -/

/-- Versions compare in the order of their components. -/
theorem compare_eq_order (hv : v.parts ≠ []) (hw : w.parts ≠ []) : compare v w = order v w := by
  obtain ⟨m, ms, hms⟩ := List.exists_cons_of_ne_nil hv
  obtain ⟨n, ns, hns⟩ := List.exists_cons_of_ne_nil hw
  rw [order, ← paddedCompare_eq, compare, key, key, hms, hns, trimZeros_cons, trimZeros_cons, lexCompare,
    lexCompare_rdropWhile, paddedCompare]

theorem key_eq_iff : v.key = w.key ↔ compare v w = .eq := by
  rw [compare_eq, Std.compare_eq_iff_eq]

/-- Equality and the lesser key tell all six relations. -/
theorem Relation.between_eq (r : Relation) (v w : Version) : r.between v w = r.accepts (compare v w) := by
  have hlt : (v < w) = (compare v w = .lt) := rfl
  simp only [Relation.between, key_eq_iff, hlt]
  cases r <;> cases compare v w <;> rfl

theorem comparison_of_read {left right : Comparand} (hv : left.read = .ok v) (hw : right.read = .ok w) :
    comparison left right = .ok (sign (compare v w)) := by
  have hread : comparison left right =
      if Relation.eq.between v w then .ok 0 else .ok (if Relation.gt.between v w then 1 else -1) := by
    rw [comparison, hv, hw]
    rfl
  rw [hread, Relation.between_eq, Relation.between_eq]
  cases compare v w <;> rfl

theorem isGreater_of_read {left right : Comparand} (hv : left.read = .ok v) (hw : right.read = .ok w) :
    isGreater left right = .ok (compare v w == .gt) := by
  rw [isGreater, comparison_of_read hv hw]
  cases compare v w <;> rfl

theorem sign_swap (o : Ordering) : sign o.swap = -sign o := by cases o <;> rfl

theorem sign_nonpos_iff {o : Ordering} : sign o ≤ 0 ↔ o.isLE := by cases o <;> decide

theorem holds_eq_iff : Relation.eq.holds v (.version w) = .ok true ↔ compare v w = .eq := by
  rw [Relation.holds, Relation.between_eq, Except.ok.injEq]
  simp [Relation.accepts]

/-- A version and the text it is read from are read alike. -/
theorem read_eq_of_mem {a : String} {c : Comparand} (ha : parse a = .ok v)
    (hc : c ∈ [Comparand.version v, .text a]) : c.read = .ok v := by
  simp only [List.mem_cons, List.not_mem_nil, or_false] at hc
  rcases hc with rfl | rfl
  · rfl
  · exact ha

/-- Two texts that are versions compare in the order of their components, be they given as versions or as texts:
the comparison is the sign of the order, every relation holds as the order says, and what is greater comes after.
The comparison is antisymmetric, transitive and total; it is zero just for equal versions, and equal versions have
equal keys and are hashed alike. -/
theorem comparisons_follow_order {a b : String} (ha : parse a = .ok v) (hb : parse b = .ok w) :
    (∀ left ∈ [Comparand.version v, .text a], ∀ right ∈ [Comparand.version w, .text b],
        comparison left right = .ok (sign (order v w)) ∧ isGreater left right = .ok (order v w == .gt)) ∧
      (∀ right ∈ [Comparand.version w, .text b], ∀ r : Relation, r.holds v right = .ok (r.accepts (order v w))) ∧
      (∃ n, comparison (.text a) (.text b) = .ok n ∧ comparison (.text b) (.text a) = .ok (-n) ∧
        (n = -1 ∨ n = 0 ∨ n = 1) ∧ (n = 0 ↔ Relation.eq.holds v (.version w) = .ok true)) ∧
      (∀ c u, parse c = .ok u → ∃ k m n, comparison (.text a) (.text b) = .ok k ∧
        comparison (.text b) (.text c) = .ok m ∧ comparison (.text a) (.text c) = .ok n ∧
        (k ≤ 0 → m ≤ 0 → n ≤ 0)) ∧
      (Relation.eq.holds v (.version w) = .ok true → v.key = w.key ∧ v.hashKey = w.hashKey) := by
  have horder : compare v w = order v w := compare_eq_order (parts_ne_nil_of_parse ha) (parts_ne_nil_of_parse hb)
  have hta : (Comparand.text a).read = .ok v := ha
  have htb : (Comparand.text b).read = .ok w := hb
  rw [← horder]
  refine ⟨fun left hleft right hright => ?_, fun right hright r => ?_, ?_, fun c u hc => ?_, fun heq => ?_⟩
  · have hl := read_eq_of_mem ha hleft
    have hr := read_eq_of_mem hb hright
    exact ⟨comparison_of_read hl hr, isGreater_of_read hl hr⟩
  · simp only [List.mem_cons, List.not_mem_nil, or_false] at hright
    rcases hright with rfl | rfl
    · rw [Relation.holds, Relation.between_eq]
    · rw [Relation.holds_text_of_parse hb, Relation.holds, Relation.between_eq]
  · have hback : comparison (.text b) (.text a) = .ok (-sign (compare v w)) := by
      have hswap : compare w v = (compare v w).swap := Std.OrientedCmp.eq_swap
      rw [comparison_of_read htb hta, hswap, sign_swap]
    refine ⟨_, comparison_of_read hta htb, hback, ?_, ?_⟩
    · cases compare v w <;> decide
    · rw [holds_eq_iff]
      cases compare v w <;> decide
  · have htc : (Comparand.text c).read = .ok u := hc
    refine ⟨_, _, _, comparison_of_read hta htb, comparison_of_read htb htc, comparison_of_read hta htc,
      fun hab hbc => ?_⟩
    rw [sign_nonpos_iff] at *
    exact Std.TransCmp.isLE_trans hab hbc
  · have hkey : v.key = w.key := key_eq_iff.2 (holds_eq_iff.1 heq)
    exact ⟨hkey, by rw [hashKey, hashKey, hkey]⟩

/-- Components compare as numbers, and a zero on the right does not count. -/
theorem comparisons_follow_order_of_tens :
    comparison (.text "1.10") (.text "1.2.0") = .ok 1 ∧
      isGreater (.text "1.10") (.version ⟨"1.2.0", [1, 2, 0]⟩) = .ok true ∧
      Relation.le.holds ⟨"1.10", [1, 10]⟩ (.text "1.2.0") = .ok false ∧
      (⟨"1.2.0", [1, 2, 0]⟩ : Version).hashKey = (⟨"1.2", [1, 2]⟩ : Version).hashKey := by
  have hten : parse "1.10" = .ok ⟨"1.10", [1, 10]⟩ := by decide +kernel
  have hzero : parse "1.2.0" = .ok ⟨"1.2.0", [1, 2, 0]⟩ := by decide +kernel
  have htwo : parse "1.2" = .ok ⟨"1.2", [1, 2]⟩ := by decide +kernel
  have horder : order ⟨"1.10", [1, 10]⟩ ⟨"1.2.0", [1, 2, 0]⟩ = .gt := by decide
  obtain ⟨hall, hrel, -⟩ := comparisons_follow_order hten hzero
  obtain ⟨-, -, -, -, hsame⟩ := comparisons_follow_order hzero htwo
  rw [horder] at hall hrel
  exact ⟨(hall (.text "1.10") (by simp) (.text "1.2.0") (by simp)).1,
    (hall (.text "1.10") (by simp) (.version ⟨"1.2.0", [1, 2, 0]⟩) (by simp)).2,
    hrel (.text "1.2.0") (by simp) .le, (hsame (by decide)).2⟩

end SchemaMigration.Version
