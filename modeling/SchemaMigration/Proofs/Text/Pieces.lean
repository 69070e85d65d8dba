import Mathlib.Tactic.SplitIfs
import SchemaMigration.Text.Blank

/-!
# SchemaMigration.Proofs.Text.Pieces — the pieces and the words of a text

* `splitBy_of_not_mem` : a text without a place to cut is one piece.
* `splitBy_append_cons` : a character to cut at cuts a text into the pieces before it and those behind it.
* `splitBy_concat` : any other character at the end joins the last piece.
* `splitBy_joinWith`, `joinWith_splitBy` : a text is cut into pieces and joined from them again.
* `takeWhile_ne_append` : what stands before the first place to cut.
* `IsWord` : a text that is one word; `words_append_cons`, `IsWord.words_eq`, `words_concat` : the same for words.
-/

namespace SchemaMigration.Text

variable {p : Char → Bool} {cs w : List Char} {ws : List (List Char)} {c : Char}

/-! ## Definitions -/

/-- A text that is one word: not empty, and without blanks. -/
def IsWord (w : List Char) : Prop := w ≠ [] ∧ ∀ c ∈ w, isBlank c = false

instance (w : List Char) : Decidable (IsWord w) :=
  @instDecidableAnd _ _ inferInstance (List.decidableBAll (isBlank · = false) w)

/-! ## Pieces -/

theorem splitBy_of_not_mem (h : ∀ d ∈ cs, p d = false) : splitBy p cs = [cs] := by
  induction cs with
  | nil => rfl
  | cons d cs ih =>
    have hd := h d List.mem_cons_self
    simp [splitBy, hd, ih fun e he => h e (List.mem_cons_of_mem _ he)]

theorem splitBy_append_cons (hc : p c = true) (cs rest : List Char) :
    splitBy p (cs ++ c :: rest) = splitBy p cs ++ splitBy p rest := by
  induction cs with
  | nil => simp [splitBy, hc]
  | cons d cs ih =>
    simp only [List.cons_append, splitBy, ih]
    cases hp : splitBy p cs with
    | nil => exact absurd hp (splitBy_ne_nil p cs)
    | cons w ws => by_cases hd : p d = true <;> simp [hd]

theorem splitBy_concat (hc : p c = false) (cs : List Char) :
    ∃ ws w, splitBy p cs = ws ++ [w] ∧ splitBy p (cs ++ [c]) = ws ++ [w ++ [c]] := by
  induction cs with
  | nil => exact ⟨[], [], rfl, by simp [splitBy, hc]⟩
  | cons d cs ih =>
    obtain ⟨ws, w, hcs, hconcat⟩ := ih
    simp only [List.cons_append, splitBy, hcs, hconcat]
    by_cases hd : p d = true
    · exact ⟨[] :: ws, w, by simp [hd], by simp [hd]⟩
    · cases ws with
      | nil => exact ⟨[], d :: w, by simp [hd], by simp [hd]⟩
      | cons v vs => exact ⟨(d :: v) :: vs, w, by simp [hd], by simp [hd]⟩

/-! ### The first piece -/

theorem bne_of_not_mem (h : c ∉ cs) : ∀ d ∈ cs, (d != c) = true := fun _ hd => bne_iff_ne.2 fun hdc => h (hdc ▸ hd)

/-- A text up to a character goes up to where that character follows. -/
theorem takeWhile_ne_append (h : c ∉ cs) {rest : List Char} (hrest : ∀ d ∈ rest.head?, d = c) :
    (cs ++ rest).takeWhile (· != c) = cs := by
  rw [List.takeWhile_append_of_pos (bne_of_not_mem h)]
  cases rest with
  | nil => simp
  | cons d rest =>
    obtain rfl : d = c := hrest d rfl
    simp

/-! ### Pieces that are joined -/

/-- Pieces without a place to cut are found again between the characters that join them. -/
theorem splitBy_joinWith (hc : p c = true) (hne : ws ≠ []) (h : ∀ w ∈ ws, ∀ d ∈ w, p d = false) :
    splitBy p (joinWith [c] ws) = ws := by
  induction ws with
  | nil => exact absurd rfl hne
  | cons w ws ih =>
    have hw := splitBy_of_not_mem (h w List.mem_cons_self)
    cases ws with
    | nil => exact hw
    | cons v vs =>
      have hjoin : joinWith [c] (w :: v :: vs) = w ++ c :: joinWith [c] (v :: vs) := by simp [joinWith]
      have hrest := ih (List.cons_ne_nil _ _) fun u hu => h u (List.mem_cons_of_mem _ hu)
      rw [hjoin, splitBy_append_cons hc, hw, hrest, List.singleton_append]

/-- A text is its pieces with the character between them at which it was cut. -/
theorem joinWith_splitBy (c : Char) (cs : List Char) : joinWith [c] (splitBy (· == c) cs) = cs := by
  induction cs with
  | nil => rfl
  | cons d cs ih =>
    unfold splitBy
    cases hws : splitBy (· == c) cs with
    | nil => exact absurd hws (splitBy_ne_nil _ cs)
    | cons w ws =>
      rw [hws] at ih
      split_ifs with hd
      · rw [beq_iff_eq.1 hd, joinWith, ih]
        · rfl
        · exact List.cons_ne_nil _ _
      · cases ws with
        | nil => exact congrArg (d :: ·) ih
        | cons v vs => exact congrArg (d :: ·) ih

theorem not_of_mem_splitBy (h : w ∈ splitBy p cs) : ∀ d ∈ w, p d = false := by
  induction cs generalizing w with
  | nil => simp_all [splitBy]
  | cons d cs ih =>
    unfold splitBy at h
    split_ifs at h with hd
    · rcases List.mem_cons.1 h with rfl | h
      · simp
      · exact ih h
    · cases hws : splitBy p cs with
      | nil => exact absurd hws (splitBy_ne_nil p cs)
      | cons v vs =>
        rw [hws] at h ih
        rcases List.mem_cons.1 h with rfl | h
        · intro e he
          rcases List.mem_cons.1 he with rfl | he
          · simpa using hd
          · exact ih List.mem_cons_self e he
        · exact ih (List.mem_cons_of_mem _ h)

theorem toList_intercalate (sep : String) (ss : List String) :
    (sep.intercalate ss).toList = joinWith sep.toList (ss.map String.toList) := by
  induction ss with
  | nil => rfl
  | cons s ss ih =>
    cases ss with
    | nil => simp [joinWith]
    | cons t ts =>
      rw [String.intercalate_cons_cons, String.toList_append, String.toList_append, ih]
      rfl

theorem mem_joinWith {sep : List Char} (h : c ∈ joinWith sep ws) : c ∈ sep ∨ ∃ w ∈ ws, c ∈ w := by
  induction ws with
  | nil => exact absurd h List.not_mem_nil
  | cons w ws ih =>
    cases ws with
    | nil => exact .inr ⟨w, List.mem_cons_self, h⟩
    | cons v vs =>
      rw [joinWith, List.append_assoc, List.mem_append, List.mem_append] at h
      · rcases h with h | h | h
        · exact .inr ⟨w, List.mem_cons_self, h⟩
        · exact .inl h
        · exact (ih h).imp_right fun ⟨u, hu, hc⟩ => ⟨u, List.mem_cons_of_mem _ hu, hc⟩
      · exact List.cons_ne_nil _ _

theorem joinWith_concat (hne : ws ≠ []) (sep w : List Char) :
    joinWith sep (ws ++ [w]) = joinWith sep ws ++ sep ++ w := by
  induction ws with
  | nil => exact absurd rfl hne
  | cons v vs ih =>
    cases vs with
    | nil => rfl
    | cons u us =>
      have hrest := ih (List.cons_ne_nil u us)
      simp only [List.cons_append, joinWith, List.append_assoc] at hrest ⊢
      rw [hrest]

theorem infix_joinWith (h : w ∈ ws) (sep : List Char) : w <:+: joinWith sep ws := by
  induction ws with
  | nil => exact absurd h List.not_mem_nil
  | cons v vs ih =>
    cases vs with
    | nil => exact List.mem_singleton.1 h ▸ List.infix_rfl
    | cons u us =>
      rw [joinWith]
      · rcases List.mem_cons.1 h with rfl | h
        · exact ⟨[], sep ++ joinWith sep (u :: us), by simp⟩
        · exact (ih h).trans (List.suffix_append _ _).isInfix
      · exact List.cons_ne_nil _ _

/-! ## Words -/

theorem words_append_cons (hc : isBlank c = true) (cs rest : List Char) :
    words (cs ++ c :: rest) = words cs ++ words rest := by
  rw [words, splitBy_append_cons hc, List.filter_append]
  rfl

theorem IsWord.words_eq (h : IsWord w) : words w = [w] := by
  simp [words, splitBy_of_not_mem h.2, h.1]

/-- Behind a text that does not end in a blank, a character that is not blank joins the last word. -/
theorem words_concat {d : Char} (hd : isBlank d = false) (hc : isBlank c = false) (cs : List Char) :
    ∃ ws w, words (cs ++ [d]) = ws ++ [w] ∧ words (cs ++ [d] ++ [c]) = ws ++ [w ++ [c]] := by
  obtain ⟨us, u, -, hlast⟩ := splitBy_concat hd cs
  obtain ⟨vs, v, hv, hconcat⟩ := splitBy_concat hc (cs ++ [d])
  obtain ⟨rfl, hword⟩ := List.append_inj' (hlast.symm.trans hv) rfl
  obtain ⟨rfl, -⟩ := List.cons.inj hword
  refine ⟨us.filter (!·.isEmpty), u ++ [d], ?_, ?_⟩
  · rw [words, hv]
    simp
  · rw [words, hconcat]
    simp

end SchemaMigration.Text
