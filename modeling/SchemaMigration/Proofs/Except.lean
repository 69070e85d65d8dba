/-!
# SchemaMigration.Proofs.Except — results and errors

* `mapError_eq_ok_iff`, `map_eq_ok_iff`, `bind_eq_ok_iff` : a result that is made of another one is no
  error just where that one is none.
* `mapError_eq_error_iff`, `map_eq_error_iff`, `bind_eq_error_iff` : where its error comes from.
* `mapM_pair_eq_ok`, `exists_mapM_pair` : the results of a list, each beside what it is the result of.
-/

namespace SchemaMigration

variable {ε ε' α β : Type}

theorem mapError_eq_ok_iff {x : Except ε α} {f : ε → ε'} {a : α} : x.mapError f = .ok a ↔ x = .ok a := by
  cases x with
  | ok b => constructor <;> intro h <;> cases h <;> rfl
  | error e => constructor <;> intro h <;> cases h

theorem map_eq_ok_iff {x : Except ε α} {f : α → β} {b : β} :
    x.map f = .ok b ↔ ∃ a, x = .ok a ∧ f a = b := by
  constructor
  · intro h
    cases x with
    | ok a => exact ⟨a, rfl, Except.ok.inj h⟩
    | error e => cases h
  · rintro ⟨a, rfl, rfl⟩
    rfl

theorem bind_eq_ok_iff {x : Except ε α} {f : α → Except ε β} {b : β} :
    x.bind f = .ok b ↔ ∃ a, x = .ok a ∧ f a = .ok b := by
  constructor
  · intro h
    cases x with
    | ok a => exact ⟨a, rfl, h⟩
    | error e => cases h
  · rintro ⟨a, rfl, h⟩
    exact h

theorem mapError_eq_error_iff {x : Except ε α} {f : ε → ε'} {e' : ε'} :
    x.mapError f = .error e' ↔ ∃ e, x = .error e ∧ f e = e' := by
  constructor
  · intro h
    cases x with
    | ok a => cases h
    | error e => exact ⟨e, rfl, Except.error.inj h⟩
  · rintro ⟨e, rfl, rfl⟩
    rfl

theorem map_eq_error_iff {x : Except ε α} {f : α → β} {e : ε} : x.map f = .error e ↔ x = .error e := by
  cases x with
  | ok a => constructor <;> intro h <;> cases h
  | error e' => constructor <;> intro h <;> cases h <;> rfl

theorem bind_eq_error_iff {x : Except ε α} {f : α → Except ε β} {e : ε} :
    x.bind f = .error e ↔ x = .error e ∨ ∃ a, x = .ok a ∧ f a = .error e := by
  constructor
  · intro h
    cases x with
    | ok a => exact .inr ⟨a, rfl, h⟩
    | error e' =>
      cases h
      exact .inl rfl
  · rintro (rfl | ⟨a, rfl, h⟩)
    · rfl
    · exact h

theorem eq_ok_of_toOption {x : Except ε α} {a : α} (h : x.toOption = some a) : x = .ok a := by
  cases x with
  | ok b => exact congrArg _ (Option.some.inj h)
  | error e => cases h

/-- Results that are kept beside what they are made of. -/
theorem mapM_pair_eq_ok {f : α → Except ε β} {as : List α} {ps : List (α × β)}
    (h : (as.mapM fun a => (f a).map (a, ·)) = .ok ps) : ps.map Prod.fst = as ∧ ∀ p ∈ ps, f p.1 = .ok p.2 := by
  induction as generalizing ps with
  | nil =>
    cases h
    simp
  | cons a as ih =>
    rw [List.mapM_cons] at h
    obtain ⟨p, hp, hrest⟩ := bind_eq_ok_iff.1 h
    obtain ⟨qs, hqs, hps⟩ := bind_eq_ok_iff.1 hrest
    obtain ⟨b, hb, rfl⟩ := map_eq_ok_iff.1 hp
    obtain ⟨hfst, hall⟩ := ih hqs
    cases hps
    exact ⟨by rw [List.map_cons, hfst], List.forall_mem_cons.2 ⟨hb, hall⟩⟩

theorem exists_mapM_pair {f : α → Except ε β} {as : List α} (h : ∀ a ∈ as, ∃ b, f a = .ok b) :
    ∃ ps, (as.mapM fun a => (f a).map (a, ·)) = .ok ps := by
  induction as with
  | nil => exact ⟨[], rfl⟩
  | cons a as ih =>
    obtain ⟨⟨b, hb⟩, hrest⟩ := List.forall_mem_cons.1 h
    obtain ⟨ps, hps⟩ := ih hrest
    exact ⟨(a, b) :: ps, by rw [List.mapM_cons, hb, hps]; rfl⟩

end SchemaMigration
