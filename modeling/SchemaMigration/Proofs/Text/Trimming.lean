import Mathlib.Data.List.DropRight
import Mathlib.Tactic.ByContra
import SchemaMigration.Proofs.Text.Pieces

/-!
# SchemaMigration.Proofs.Text.Trimming — what trimming keeps

Trimming removes blanks at the ends and nothing else.  So it is idempotent, it stops at the first character that is
not blank, and the characters that are not blank all stay, in their order.

* `trim_trim`, `trimRight_idem` : nothing is left to trim from a trimmed text.
* `trimLeft_append`, `trimRight_append` : of two texts, only the outer ends are trimmed.
* `trimLeft_trimRight`, `trim_trimRight` : the ends can be trimmed in either order.
* `inked` : the characters that are not blank; `inked_trim`, `inked_joinWith` : they are never lost.
* `trim_eq_nil_iff` : trimming leaves nothing just where all is blank.
-/

namespace SchemaMigration.Text

variable {a b cs : List Char} {ws : List (List Char)}

/-! ## Definitions -/

/-- The characters that are not blank. -/
def inked (cs : List Char) : List Char := cs.filter (!isBlank ·)

/-! ## Nothing is left to trim -/

theorem trimRight_idem (cs : List Char) : trimRight (trimRight cs) = trimRight cs :=
  List.rdropWhile_idempotent isBlank cs

/-- Cutting off the right end does not bring a blank to the left end. -/
theorem trimLeft_trim (cs : List Char) : trimLeft (trim cs) = trim cs := by
  have hpre : trimRight (trimLeft cs) <+: trimLeft cs := List.rdropWhile_prefix isBlank _
  unfold trim
  cases ht : trimRight (trimLeft cs) with
  | nil => rfl
  | cons c ds =>
    rw [ht] at hpre
    obtain ⟨es, he⟩ := hpre
    have hc : isBlank c ≠ true := by
      have hne : trimLeft cs ≠ [] := by
        rw [← he]
        exact List.cons_ne_nil _ _
      have hhead := List.head_dropWhile_not isBlank hne
      have heq : (trimLeft cs).head hne = c := by simp only [← he, List.cons_append, List.head_cons]
      rw [← heq]
      simpa only [Bool.not_eq_true, trimLeft, ne_eq] using hhead
    simp [trimLeft, hc]

theorem trim_trim (cs : List Char) : trim (trim cs) = trim cs := by
  rw [trim, trimLeft_trim]
  exact trimRight_idem _

theorem trimLeft_idem (cs : List Char) : trimLeft (trimLeft cs) = trimLeft cs :=
  List.dropWhile_idempotent isBlank cs

theorem trim_isInfix (cs : List Char) : trim cs <:+: cs :=
  (List.rdropWhile_prefix isBlank _).isInfix.trans (List.dropWhile_suffix isBlank).isInfix

theorem trim_subset (cs : List Char) : trim cs ⊆ cs := (trim_isInfix cs).subset

/-- A trimmed text does not begin with a blank. -/
theorem not_isBlank_of_prefix_trim {c : Char} (h : c :: a <+: trim cs) : isBlank c = false := by
  obtain ⟨b, hb⟩ := h
  have hleft := trimLeft_trim cs
  rw [← hb, List.cons_append, trimLeft, List.dropWhile_cons] at hleft
  by_contra hc
  rw [Bool.not_eq_false] at hc
  rw [if_pos hc] at hleft
  have hlen := congrArg List.length hleft
  have hle := (List.dropWhile_sublist isBlank (l := a ++ b)).length_le
  simp only [List.length_cons] at hlen
  omega

/-! ## Two texts -/

theorem trimRight_eq_nil_iff : trimRight cs = [] ↔ ∀ c ∈ cs, isBlank c = true := List.rdropWhile_eq_nil_iff

theorem trimLeft_append (h : trimLeft a ≠ []) : trimLeft (a ++ b) = trimLeft a ++ b := by
  unfold trimLeft at h ⊢
  rw [List.dropWhile_append, if_neg]
  simpa using h

theorem trimRight_append (h : trimRight b ≠ []) : trimRight (a ++ b) = a ++ trimRight b := by
  have hrev : (b.reverse.dropWhile isBlank).isEmpty = false := by
    rw [List.isEmpty_eq_false_iff]
    intro hb
    exact h (by rw [trimRight, dropRightWhile, hb]; rfl)
  simp only [trimRight, dropRightWhile, List.reverse_append, List.dropWhile_append, hrev, Bool.false_eq_true,
    if_false, List.reverse_reverse]

/-- Blanks behind a text are cut off together with its own. -/
theorem trimRight_append_blank (h : ∀ c ∈ b, isBlank c = true) : trimRight (a ++ b) = trimRight a := by
  have hrev : b.reverse.dropWhile isBlank = [] := by
    rw [List.dropWhile_eq_nil_iff]
    intro c hc
    exact h c (List.mem_reverse.1 hc)
  simp only [trimRight, dropRightWhile, List.reverse_append, List.dropWhile_append, hrev, List.isEmpty_nil, if_true]

/-- The two ends of a text can be trimmed in either order. -/
theorem trimLeft_trimRight (cs : List Char) : trimLeft (trimRight cs) = trim cs := by
  by_cases hb : ∀ c ∈ cs, isBlank c = true
  · rw [trim, trimRight_eq_nil_iff.2 hb, trimLeft_eq_nil_iff.2 hb]
    rfl
  · have hsplit : cs = cs.takeWhile isBlank ++ trimLeft cs := List.takeWhile_append_dropWhile.symm
    have hlead : ∀ c ∈ cs.takeWhile isBlank, isBlank c = true := fun c hc => List.mem_takeWhile_imp hc
    have hne : trimRight (trimLeft cs) ≠ [] := by
      intro hnil
      refine hb fun c hc => ?_
      rw [hsplit] at hc
      rcases List.mem_append.1 hc with hc | hc
      · exact hlead c hc
      · exact trimRight_eq_nil_iff.1 hnil c hc
    have hright : trimRight cs = cs.takeWhile isBlank ++ trim cs := by
      rw [trim, ← trimRight_append hne, ← hsplit]
    rw [hright, trimLeft, List.dropWhile_append_of_pos hlead]
    exact trimLeft_trim cs

@[simp] theorem trim_trimRight (cs : List Char) : trim (trimRight cs) = trim cs := by
  rw [← trimLeft_trimRight, trimRight_idem, trimLeft_trimRight]

/-- There is nothing to trim from a word. -/
theorem IsWord.trimLeft_eq (h : IsWord a) : trimLeft a = a :=
  List.dropWhile_eq_self_iff.2 fun hlen => by simp [h.2 _ (List.getElem_mem hlen)]

theorem IsWord.trimRight_eq (h : IsWord a) : trimRight a = a :=
  List.rdropWhile_eq_self_iff.2 fun hne => by simp [h.2 _ (List.getLast_mem hne)]

theorem IsWord.trim_eq (h : IsWord a) : trim a = a := by
  rw [trim, h.trimLeft_eq, h.trimRight_eq]

/-! ## The characters that are not blank -/

@[simp] theorem inked_append (a b : List Char) : inked (a ++ b) = inked a ++ inked b := List.filter_append ..

theorem inked_eq_nil_iff : inked cs = [] ↔ ∀ c ∈ cs, isBlank c = true := by
  simp [inked, List.filter_eq_nil_iff]

@[simp] theorem inked_trimLeft (cs : List Char) : inked (trimLeft cs) = inked cs := by
  have hlead : inked (cs.takeWhile isBlank) = [] :=
    inked_eq_nil_iff.2 fun c hc => List.mem_takeWhile_imp hc
  calc inked (trimLeft cs) = inked (cs.takeWhile isBlank) ++ inked (cs.dropWhile isBlank) := by rw [hlead]; rfl
    _ = inked cs := by rw [← inked_append, List.takeWhile_append_dropWhile]

@[simp] theorem inked_trimRight (cs : List Char) : inked (trimRight cs) = inked cs := by
  have hrev : ∀ ds : List Char, inked ds.reverse = (inked ds).reverse := fun ds => List.filter_reverse ..
  have h := inked_trimLeft cs.reverse
  rw [hrev] at h
  rw [trimRight, dropRightWhile, hrev]
  exact (congrArg List.reverse h).trans (List.reverse_reverse _)

@[simp] theorem inked_trim (cs : List Char) : inked (trim cs) = inked cs := by
  rw [trim, inked_trimRight, inked_trimLeft]

theorem trim_eq_nil_iff : trim cs = [] ↔ inked cs = [] := by
  constructor
  · intro h
    rw [← inked_trim, h]
    rfl
  · intro h
    have hleft : trimLeft cs = [] := trimLeft_eq_nil_iff.2 (inked_eq_nil_iff.1 h)
    rw [trim, hleft]
    rfl

/-- Texts are joined with blanks, so nothing is added that is not blank. -/
theorem inked_joinWith {sep : List Char} (hsep : inked sep = []) (ws : List (List Char)) :
    inked (joinWith sep ws) = inked ws.flatten := by
  induction ws with
  | nil => rfl
  | cons w ws ih =>
    cases ws with
    | nil => simp [joinWith]
    | cons v ws =>
      simp only [joinWith, List.flatten_cons, inked_append, hsep, List.append_nil] at ih ⊢
      rw [ih]

/-! ## Texts that are joined -/

theorem trimLeft_joinWith {w : List Char} (h : trimLeft w ≠ []) (sep : List Char) (ws : List (List Char)) :
    trimLeft (joinWith sep (w :: ws)) = joinWith sep (trimLeft w :: ws) := by
  cases ws with
  | nil => rfl
  | cons v vs => simp only [joinWith, List.append_assoc, trimLeft_append h]

theorem trimRight_joinWith {w : List Char} (h : trimRight w ≠ []) (sep : List Char) (ws : List (List Char)) :
    trimRight (joinWith sep (ws ++ [w])) = joinWith sep (ws ++ [trimRight w]) := by
  by_cases hne : ws = []
  · rw [hne]
    rfl
  · rw [joinWith_concat hne, joinWith_concat hne, trimRight_append h]

end SchemaMigration.Text
