import Mathlib.Algebra.Group.Nat.Defs
import SchemaMigration.Proofs.Version.Text

/-!
# SchemaMigration.Proofs.Version.Grammar — which texts are versions

A version is written as runs of digits with dots between them, blanks around it apart.  The first piece between
the dots that is no run, or that is too long, decides how a text is refused.

* `IsRun`, `IsComponent`, `IsCutAtDots` : runs of digits, those that are not too long, and what stands between dots.
* `parseComponents_cases` : all pieces are components, or the first that is not decides.
* `parse_eq_ok_iff`, `parse_tooLong_iff`, `parse_malformed` : the three ways in which a text is read.
* `parse_ofParts` : what is written in decimal is read back.
* `parse_grammar` : all of it, and the version at the front of the name of a step.
-/

namespace SchemaMigration

namespace Version

variable {text : String} {v : Version} {w long : List Char} {ws before after : List (List Char)} {ns : List Nat}

/-! ## Definitions -/

/-- A run of decimal digits. -/
def IsRun (w : List Char) : Prop := w ≠ [] ∧ ∀ c ∈ w, c.isDigit = true

/-- A run of digits that is not too long to be read. -/
def IsComponent (w : List Char) : Prop := IsRun w ∧ w.length ≤ Text.digitLimit

/-- The text is these pieces with dots between them, and no piece holds a dot. -/
def IsCutAtDots (cs : List Char) (ws : List (List Char)) : Prop :=
  ws ≠ [] ∧ (∀ w ∈ ws, '.' ∉ w) ∧ Text.joinWith ['.'] ws = cs

/-! ## One component -/

theorem isRun_iff : IsRun w ↔ (w.isEmpty || !w.all Char.isDigit) = false := by
  simp [IsRun]

theorem parseComponent_of_isComponent (h : IsComponent w) :
    parseComponent text w = .ok (Nat.ofDigitChars 10 w 0) := by
  have hvalue : Text.digitsValue (w.map fun c => c.toNat - 0x30) = Nat.ofDigitChars 10 w 0 := by
    rw [Text.digitsValue, List.foldl_map, Nat.ofDigitChars_eq_foldl]
    rfl
  rw [parseComponent, isRun_iff.1 h.1, if_neg Bool.false_ne_true, if_neg (Nat.not_lt.2 h.2), hvalue]

theorem parseComponent_of_long (h : IsRun w) (hlong : Text.digitLimit < w.length) :
    parseComponent text w = .error (.tooLong w.length) := by
  rw [parseComponent, isRun_iff.1 h, if_neg Bool.false_ne_true, if_pos hlong]

theorem parseComponent_of_not_isRun (h : ¬ IsRun w) : parseComponent text w = .error (.malformed text) := by
  rw [isRun_iff, Bool.not_eq_false] at h
  rw [parseComponent, if_pos h]

/-! ## All components -/

theorem parseComponents_of_components (h : ∀ w ∈ ws, IsComponent w) :
    parseComponents text ws = .ok (ws.map (Nat.ofDigitChars 10 · 0)) := by
  induction ws with
  | nil => rfl
  | cons w ws ih =>
    rw [parseComponents, parseComponent_of_isComponent (h w List.mem_cons_self),
      ih fun v hv => h v (List.mem_cons_of_mem _ hv)]
    rfl

/-- The first piece that is refused decides. -/
theorem parseComponents_of_refused {e : VersionFault} (h : ∀ w ∈ before, IsComponent w)
    (he : parseComponent text w = .error e) : parseComponents text (before ++ w :: after) = .error e := by
  induction before with
  | nil => rw [List.nil_append, parseComponents, he]
  | cons b bs ih =>
    rw [List.cons_append, parseComponents, parseComponent_of_isComponent (h b List.mem_cons_self),
      ih fun v hv => h v (List.mem_cons_of_mem _ hv)]
    rfl

/-- All pieces are components, or one of them is the first that is not. -/
theorem components_or_first (ws : List (List Char)) :
    (∀ w ∈ ws, IsComponent w) ∨
      ∃ before w after, ws = before ++ w :: after ∧ (∀ u ∈ before, IsComponent u) ∧ ¬ IsComponent w := by
  induction ws with
  | nil => exact .inl fun w hw => absurd hw List.not_mem_nil
  | cons w ws ih =>
    by_cases hw : IsComponent w
    · rcases ih with hall | ⟨before, u, after, rfl, hbefore, hu⟩
      · exact .inl (List.forall_mem_cons.2 ⟨hw, hall⟩)
      · exact .inr ⟨w :: before, u, after, rfl, List.forall_mem_cons.2 ⟨hw, hbefore⟩, hu⟩
    · exact .inr ⟨[], w, ws, rfl, fun u hu => absurd hu List.not_mem_nil, hw⟩

theorem parseComponents_cases (text : String) (ws : List (List Char)) :
    (∀ w ∈ ws, IsComponent w) ∧ parseComponents text ws = .ok (ws.map (Nat.ofDigitChars 10 · 0)) ∨
      ∃ before w after, ws = before ++ w :: after ∧ (∀ u ∈ before, IsComponent u) ∧
        (IsRun w ∧ Text.digitLimit < w.length ∧ parseComponents text ws = .error (.tooLong w.length) ∨
          ¬ IsRun w ∧ parseComponents text ws = .error (.malformed text)) := by
  rcases components_or_first ws with hall | ⟨before, w, after, rfl, hbefore, hw⟩
  · exact .inl ⟨hall, parseComponents_of_components hall⟩
  · refine .inr ⟨before, w, after, rfl, hbefore, ?_⟩
    by_cases hrun : IsRun w
    · have hlong : Text.digitLimit < w.length := Nat.lt_of_not_le fun hle => hw ⟨hrun, hle⟩
      exact .inl ⟨hrun, hlong, parseComponents_of_refused hbefore (parseComponent_of_long hrun hlong)⟩
    · exact .inr ⟨hrun, parseComponents_of_refused hbefore (parseComponent_of_not_isRun hrun)⟩

theorem parseComponents_eq_ok_iff :
    parseComponents text ws = .ok ns ↔ (∀ w ∈ ws, IsComponent w) ∧ ns = ws.map (Nat.ofDigitChars 10 · 0) := by
  constructor
  · intro h
    rcases parseComponents_cases text ws with ⟨hall, hok⟩ | ⟨before, w, after, -, -, ⟨-, -, he⟩ | ⟨-, he⟩⟩
    · rw [hok] at h
      exact ⟨hall, (Except.ok.inj h).symm⟩
    · rw [he] at h
      cases h
    · rw [he] at h
      cases h
  · rintro ⟨hall, rfl⟩
    exact parseComponents_of_components hall

/-- A run that is too long is reported just where it stands before every piece that is no run. -/
theorem parseComponents_tooLong_iff :
    (∃ n, parseComponents text ws = .error (.tooLong n)) ↔
      ∃ before long after, ws = before ++ long :: after ∧ (∀ w ∈ before, IsRun w) ∧ IsRun long ∧
        Text.digitLimit < long.length := by
  constructor
  · rintro ⟨n, h⟩
    rcases parseComponents_cases text ws with
      ⟨-, hok⟩ | ⟨before, w, after, hws, hbefore, ⟨hrun, hlong, -⟩ | ⟨-, he⟩⟩
    · rw [hok] at h
      cases h
    · exact ⟨before, w, after, hws, fun u hu => (hbefore u hu).1, hrun, hlong⟩
    · rw [he] at h
      cases h
  · rintro ⟨before, long, after, hws, hbefore, hrun, hlong⟩
    have hnot : ¬ IsComponent long := fun h => absurd h.2 (Nat.not_le.2 hlong)
    rcases parseComponents_cases text ws with
      ⟨hall, -⟩ | ⟨before', w, after', hws', hbefore', ⟨-, -, he⟩ | ⟨hbad, -⟩⟩
    · exact absurd (hall long (by simp [hws])) hnot
    · exact ⟨_, he⟩
    · -- the piece that is no run would have to stand before the long one, or the other way round
      exfalso
      rcases List.append_eq_append_iff.1 (hws.symm.trans hws') with ⟨mid, rfl, hmid⟩ | ⟨mid, rfl, hmid⟩
      · cases mid with
        | nil =>
          obtain ⟨rfl, -⟩ := List.cons.inj hmid
          exact hbad hrun
        | cons u us =>
          obtain ⟨rfl, -⟩ := List.cons.inj hmid
          exact hnot (hbefore' long (by simp))
      · cases mid with
        | nil =>
          obtain ⟨rfl, -⟩ := List.cons.inj hmid
          exact hbad hrun
        | cons u us =>
          obtain ⟨rfl, -⟩ := List.cons.inj hmid
          exact hbad (hbefore w (by simp))

/-! ## Texts -/

theorem isCutAtDots_iff {cs : List Char} : IsCutAtDots cs ws ↔ ws = Text.splitBy (· == '.') cs := by
  constructor
  · rintro ⟨hne, hdots, rfl⟩
    refine (Text.splitBy_joinWith (by decide) hne fun w hw d hd => ?_).symm
    rw [beq_eq_false_iff_ne]
    rintro rfl
    exact hdots w hw hd
  · rintro rfl
    refine ⟨Text.splitBy_ne_nil _ cs, fun w hw hdot => ?_, Text.joinWith_splitBy '.' cs⟩
    exact absurd (Text.not_of_mem_splitBy hw '.' hdot) (by decide)

theorem IsRun.not_dot_mem (h : IsRun w) : '.' ∉ w := fun hdot => absurd (h.2 '.' hdot) (by decide)

/-- What a text is read as follows from what stands between the dots of the trimmed text. -/
theorem parse_eq {s : String} (h : IsCutAtDots (Text.trim s.toList) ws) :
    parse s = (parseComponents (Text.trimmed s) ws).map (⟨Text.trimmed s, ·⟩) := by
  rw [isCutAtDots_iff.1 h]
  rfl

theorem exists_isCutAtDots (cs : List Char) : ∃ ws, IsCutAtDots cs ws := ⟨_, isCutAtDots_iff.2 rfl⟩

theorem IsCutAtDots.unique {cs : List Char} {us : List (List Char)} (h : IsCutAtDots cs ws) (hu : IsCutAtDots cs us) :
    ws = us := (isCutAtDots_iff.1 h).trans (isCutAtDots_iff.1 hu).symm

/-- A text is read as a version just where the trimmed text is runs of digits with dots between them. -/
theorem parse_eq_ok_iff {s : String} :
    parse s = .ok v ↔ ∃ ws, ws ≠ [] ∧ (∀ w ∈ ws, IsComponent w) ∧ Text.trim s.toList = Text.joinWith ['.'] ws ∧
      v = ⟨Text.trimmed s, ws.map (Nat.ofDigitChars 10 · 0)⟩ := by
  constructor
  · intro h
    obtain ⟨ws, hws⟩ := exists_isCutAtDots (Text.trim s.toList)
    rw [parse_eq hws] at h
    obtain ⟨ns, hns, rfl⟩ := map_eq_ok_iff.1 h
    obtain ⟨hall, rfl⟩ := parseComponents_eq_ok_iff.1 hns
    exact ⟨ws, hws.1, hall, hws.2.2.symm, rfl⟩
  · rintro ⟨ws, hne, hall, htext, rfl⟩
    rw [parse_eq ⟨hne, fun w hw => (hall w hw).1.not_dot_mem, htext.symm⟩, parseComponents_of_components hall]
    rfl

theorem parse_tooLong_iff {s : String} :
    (∃ n, parse s = .error (.tooLong n)) ↔
      ∃ before long after, IsCutAtDots (Text.trim s.toList) (before ++ long :: after) ∧ (∀ w ∈ before, IsRun w) ∧
        IsRun long ∧ Text.digitLimit < long.length := by
  obtain ⟨ws, hws⟩ := exists_isCutAtDots (Text.trim s.toList)
  have hmap : ∀ n, parse s = .error (.tooLong n) ↔
      parseComponents (Text.trimmed s) ws = .error (.tooLong n) := by
    intro n
    rw [parse_eq hws]
    cases parseComponents (Text.trimmed s) ws <;> simp [Except.map]
  simp only [hmap, parseComponents_tooLong_iff]
  constructor
  · rintro ⟨before, long, after, rfl, hbefore, hrun, hlong⟩
    exact ⟨before, long, after, hws, hbefore, hrun, hlong⟩
  · rintro ⟨before, long, after, hcut, hbefore, hrun, hlong⟩
    exact ⟨before, long, after, hws.unique hcut, hbefore, hrun, hlong⟩

/-- A text with a run that is too long is itself longer. -/
theorem digitLimit_lt_length {s : String} {n : Nat} (h : parse s = .error (.tooLong n)) :
    Text.digitLimit < s.toList.length := by
  obtain ⟨before, long, after, ⟨-, -, hjoin⟩, -, -, hlong⟩ := parse_tooLong_iff.1 ⟨n, h⟩
  have hpiece : long <:+: Text.joinWith ['.'] (before ++ long :: after) := Text.infix_joinWith (by simp) _
  rw [hjoin] at hpiece
  have hlength := (hpiece.trans (Text.trim_isInfix s.toList)).length_le
  omega

/-- A text that is not read, and not for a run that is too long, is refused as it was trimmed. -/
theorem parse_malformed {s : String} (hok : ∀ v, parse s ≠ .ok v) (hlong : ∀ n, parse s ≠ .error (.tooLong n)) :
    parse s = .error (.malformed (Text.trimmed s)) := by
  obtain ⟨ws, hws⟩ := exists_isCutAtDots (Text.trim s.toList)
  rw [parse_eq hws] at hok hlong ⊢
  rcases parseComponents_cases (Text.trimmed s) ws with ⟨-, h⟩ | ⟨_, w, _, -, -, ⟨-, -, h⟩ | ⟨-, h⟩⟩
  · exact absurd (by rw [h]; rfl) (hok _)
  · exact absurd (by rw [h]; rfl) (hlong w.length)
  · rw [h]
    rfl

theorem parts_ne_nil_of_parse {s : String} (h : parse s = .ok v) : v.parts ≠ [] := by
  obtain ⟨ws, hne, -, -, rfl⟩ := parse_eq_ok_iff.1 h
  simpa using hne

/-! ## Written versions -/

theorem isComponent_toDigits {n : Nat} (h : n < 10 ^ Text.digitLimit) : IsComponent (Nat.toDigits 10 n) :=
  ⟨⟨Nat.toDigits_ne_nil, fun _ hc => Nat.isDigit_of_mem_toDigits (by decide) (by decide) hc⟩,
    (Nat.length_toDigits_le_iff (by decide) (by decide)).2 h⟩

theorem toList_text_ofParts (ns : List Nat) :
    (ofParts ns).text.toList = Text.joinWith ['.'] (ns.map (Nat.toDigits 10)) := by
  simp only [ofParts, Text.toList_intercalate, List.map_map]
  simp [Function.comp_def]

theorem isBlank_of_isDigit {c : Char} (h : c.isDigit = true) : Text.isBlank c = false := by
  have hrange : 48 ≤ c.toNat ∧ c.toNat ≤ 57 := by simpa [Char.isDigit, UInt32.le_iff_toNat_le] using h
  simp only [Text.isBlank, Bool.or_eq_false_iff, Bool.and_eq_false_iff, decide_eq_false_iff_not,
    beq_eq_false_iff_ne]
  omega

/-- Runs with dots between them are one word. -/
theorem isWord_joinWith (hne : ws ≠ []) (h : ∀ w ∈ ws, IsRun w) : Text.IsWord (Text.joinWith ['.'] ws) := by
  constructor
  · cases ws with
    | nil => exact absurd rfl hne
    | cons w ws =>
      have hw := (h w List.mem_cons_self).1
      cases ws with
      | nil => exact hw
      | cons v vs => simp [Text.joinWith]
  · intro c hc
    rcases Text.mem_joinWith hc with hdot | ⟨w, hw, hcw⟩
    · rw [List.mem_singleton.1 hdot]
      decide
    · exact isBlank_of_isDigit ((h w hw).2 c hcw)

theorem parse_ofParts (hne : ns ≠ []) (h : ∀ n ∈ ns, n < 10 ^ Text.digitLimit) :
    parse (ofParts ns).text = .ok (ofParts ns) := by
  have hall : ∀ w ∈ ns.map (Nat.toDigits 10), IsComponent w := by
    simpa using fun n hn => isComponent_toDigits (h n hn)
  have htrim : Text.trim (ofParts ns).text.toList = (ofParts ns).text.toList := by
    rw [toList_text_ofParts]
    exact (isWord_joinWith (by simpa using hne) fun w hw => (hall w hw).1).trim_eq
  refine parse_eq_ok_iff.2 ⟨ns.map (Nat.toDigits 10), by simpa using hne, hall, ?_, ?_⟩
  · rw [htrim, toList_text_ofParts]
  · rw [Text.trimmed, htrim, String.ofList_toList, List.map_map]
    simp [ofParts, Function.comp_def]

/-! ## Names of steps -/

/-- What follows the first underscore of the name of a step does not count. -/
theorem ofStepName_eq_parse {t : String} (h : '_' ∉ t.toList) (rest : List Char)
    (hrest : rest.head? = none ∨ rest.head? = some '_') : ofStepName (String.ofList (t.toList ++ rest)) = parse t := by
  have hnext : ∀ c ∈ rest.head?, c = '_' := by
    rcases hrest with hrest | hrest <;> simp [hrest]
  have htake : (t.toList ++ rest).takeWhile (· != '_') = t.toList := Text.takeWhile_ne_append h hnext
  rw [ofStepName, String.toList_ofList, htake, parse]

/-! ## The grammar -/

/-- A text is read as a version just where, trimmed, it is runs of digits of at most the given length with dots
between them; the version has the trimmed text and the numbers of the runs, and is read again from its own text.
A run that is too long is reported where it stands before every piece that is no run, and everything else is
refused as malformed.  Whatever numbers within the limit are written with dots between them are read back, and the
name of a step is read up to its first underscore. -/
theorem parse_grammar (s : String) :
    (∀ v, parse s = .ok v ↔ ∃ ws, ws ≠ [] ∧ (∀ w ∈ ws, IsRun w ∧ w.length ≤ Text.digitLimit) ∧
        Text.trim s.toList = Text.joinWith ['.'] ws ∧
        v = ⟨Text.trimmed s, ws.map (Nat.ofDigitChars 10 · 0)⟩) ∧
      (∀ v, parse s = .ok v → parse v.text = .ok v) ∧
      ((∃ n, parse s = .error (.tooLong n)) ↔
        ∃ before long after, IsCutAtDots (Text.trim s.toList) (before ++ long :: after) ∧
          (∀ w ∈ before, IsRun w) ∧ IsRun long ∧ Text.digitLimit < long.length) ∧
      ((∀ v, parse s ≠ .ok v) → (∀ n, parse s ≠ .error (.tooLong n)) →
        parse s = .error (.malformed (Text.trimmed s))) ∧
      (∀ ns, ns ≠ [] → (∀ n ∈ ns, n < 10 ^ Text.digitLimit) → parse (ofParts ns).text = .ok (ofParts ns)) ∧
      ('_' ∉ s.toList → ∀ x, ofStepName s = parse s ∧ ofStepName (s ++ "_" ++ x) = parse s) := by
  refine ⟨fun v => parse_eq_ok_iff, fun v h => isRead_of_parse h, parse_tooLong_iff, parse_malformed,
    fun ns hne h => parse_ofParts hne h, fun h x => ⟨?_, ?_⟩⟩
  · simpa using ofStepName_eq_parse h [] (.inl rfl)
  · have hstep := ofStepName_eq_parse h ('_' :: x.toList) (.inr rfl)
    have htext : String.ofList (s.toList ++ '_' :: x.toList) = s ++ "_" ++ x := by
      rw [← String.toList_inj]
      simp
    rwa [htext] at hstep

/-- Leading zeros and blanks around a version are allowed, a sign is not. -/
theorem parse_grammar_zeros :
    parse " 1.010\n" = .ok ⟨"1.010", [1, 10]⟩ ∧ parse "1.010" = .ok ⟨"1.010", [1, 10]⟩ ∧
      parse "1.-2" = .error (.malformed "1.-2") ∧ parse (ofParts [2, 0, 6]).text = .ok (ofParts [2, 0, 6]) ∧
      ofStepName "2.0.6_resource_size" = parse "2.0.6" := by
  have hread : parse " 1.010\n" = .ok ⟨"1.010", [1, 10]⟩ := by decide +kernel
  obtain ⟨-, hagain, -⟩ := parse_grammar " 1.010\n"
  obtain ⟨-, -, -, hbad, -⟩ := parse_grammar "1.-2"
  obtain ⟨-, -, -, -, hwritten, hstep⟩ := parse_grammar "2.0.6"
  have hsign : parse "1.-2" = .error (.malformed "1.-2") := by decide +kernel
  have htrim : Text.trimmed "1.-2" = "1.-2" := by decide +kernel
  have hname : "2.0.6" ++ "_" ++ "resource_size" = "2.0.6_resource_size" := by decide +kernel
  refine ⟨hread, hagain ⟨"1.010", [1, 10]⟩ hread, htrim ▸ hbad (by simp [hsign]) (by simp [hsign]),
    hwritten [2, 0, 6] (by simp) ?_, hname ▸ (hstep (by decide) "resource_size").2⟩
  intro n hn
  have hsmall : n < 10 ^ 1 := by
    simp only [List.mem_cons, List.not_mem_nil, or_false] at hn
    omega
  exact lt_of_lt_of_le hsmall (Nat.pow_le_pow_right (by decide) (by decide))

end Version

end SchemaMigration
