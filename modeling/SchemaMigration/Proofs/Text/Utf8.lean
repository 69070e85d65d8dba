import SchemaMigration.Text.Utf8
import SchemaMigration.Proofs.Except

/-!
# SchemaMigration.Proofs.Text.Utf8 — bytes that are a text

The bytes of every text are decoded to that text, and no other bytes are decoded at all.

* `isContinuation_iff`, `fitsSecond_iff` : the conditions on single bytes, as conditions on numbers.
* `utf8EncodeChar_one`, …, `utf8EncodeChar_four` : a character that is made of some bytes has just these bytes.
* `utf8Pieces_encodeChar` : the bytes of a character are one piece.
* `decode_eq_ok_iff`, `decode_error_iff` : what is decoded is the text of the bytes, if they are those of a text.
-/

namespace SchemaMigration.Text

variable {a b c d : UInt8} {bytes : List UInt8} {cs : List Char}

/-! ## Single bytes -/

theorem isContinuation_iff : isContinuation b = true ↔ 0x80 ≤ b.toNat ∧ b.toNat < 0xC0 := by
  simp [isContinuation, UInt8.le_iff_toNat_le, UInt8.lt_iff_toNat_lt]

theorem fitsSecond_iff :
    fitsSecond a b = true ↔ (0x80 ≤ b.toNat ∧ b.toNat < 0xC0) ∧ (a.toNat = 0xE0 → 0xA0 ≤ b.toNat) ∧
      (a.toNat = 0xED → b.toNat < 0xA0) ∧ (a.toNat = 0xF0 → 0x90 ≤ b.toNat) ∧ (a.toNat = 0xF4 → b.toNat < 0x90) := by
  simp only [fitsSecond, Bool.and_eq_true, isContinuation_iff, Bool.not_eq_true', Bool.and_eq_false_iff,
    beq_eq_false_iff_ne, decide_eq_false_iff_not, UInt8.lt_iff_toNat_lt, UInt8.le_iff_toNat_le,
    ne_eq, ← UInt8.toNat_inj]
  simp only [UInt8.reduceToNat]
  omega

/-! ## The bytes of a character -/

theorem toNat_ofNat_of_lt {n : Nat} (h : n < 0xD800 ∨ 0xE000 ≤ n ∧ n < 0x110000) : (Char.ofNat n).toNat = n := by
  have hv : n.isValidChar := by
    rcases h with h | h
    · exact .inl h
    · exact .inr ⟨by omega, h.2⟩
  rw [Char.ofNat, dif_pos hv]
  rfl

/-- The bytes of a character by its number. -/
theorem utf8EncodeChar_eq (x : Char) :
    String.utf8EncodeChar x =
      if x.toNat ≤ 0x7F then [UInt8.ofNat x.toNat]
      else if x.toNat ≤ 0x7FF then [UInt8.ofNat (x.toNat / 64 % 32 + 0xC0), UInt8.ofNat (x.toNat % 64 + 0x80)]
      else if x.toNat ≤ 0xFFFF then
        [UInt8.ofNat (x.toNat / 4096 % 16 + 0xE0), UInt8.ofNat (x.toNat / 64 % 64 + 0x80),
          UInt8.ofNat (x.toNat % 64 + 0x80)]
      else
        [UInt8.ofNat (x.toNat / 262144 % 8 + 0xF0), UInt8.ofNat (x.toNat / 4096 % 64 + 0x80),
          UInt8.ofNat (x.toNat / 64 % 64 + 0x80), UInt8.ofNat (x.toNat % 64 + 0x80)] := rfl

/-- A byte is known by its number. -/
theorem ofNat_eq_of_toNat {n : Nat} (h : n = a.toNat) : UInt8.ofNat n = a := by
  rw [h, UInt8.ofNat_toNat]

theorem utf8EncodeChar_one (ha : a.toNat < 0x80) : String.utf8EncodeChar (Char.ofNat a.toNat) = [a] := by
  rw [utf8EncodeChar_eq, toNat_ofNat_of_lt (by omega), if_pos (by omega), UInt8.ofNat_toNat]

theorem utf8EncodeChar_two (ha : 0xC2 ≤ a.toNat) (ha' : a.toNat < 0xE0) (hb : fitsSecond a b = true) :
    String.utf8EncodeChar (charOfBytes (a.toNat - 0xC0) [b]) = [a, b] := by
  rw [fitsSecond_iff] at hb
  have hn : (charOfBytes (a.toNat - 0xC0) [b]).toNat = (a.toNat - 0xC0) * 64 + (b.toNat - 0x80) :=
    toNat_ofNat_of_lt (by dsimp only [List.foldl]; omega)
  rw [utf8EncodeChar_eq, hn, if_neg (by omega), if_pos (by omega), ofNat_eq_of_toNat (a := a) (by omega),
    ofNat_eq_of_toNat (a := b) (by omega)]

theorem utf8EncodeChar_three (ha : 0xE0 ≤ a.toNat) (ha' : a.toNat < 0xF0) (hb : fitsSecond a b = true)
    (hc : isContinuation c = true) : String.utf8EncodeChar (charOfBytes (a.toNat - 0xE0) [b, c]) = [a, b, c] := by
  rw [fitsSecond_iff] at hb
  rw [isContinuation_iff] at hc
  have hn : (charOfBytes (a.toNat - 0xE0) [b, c]).toNat =
      ((a.toNat - 0xE0) * 64 + (b.toNat - 0x80)) * 64 + (c.toNat - 0x80) :=
    toNat_ofNat_of_lt (by dsimp only [List.foldl]; omega)
  rw [utf8EncodeChar_eq, hn, if_neg (by omega), if_neg (by omega), if_pos (by omega),
    ofNat_eq_of_toNat (a := a) (by omega), ofNat_eq_of_toNat (a := b) (by omega),
    ofNat_eq_of_toNat (a := c) (by omega)]

theorem utf8EncodeChar_four (ha : 0xF0 ≤ a.toNat) (ha' : a.toNat < 0xF5) (hb : fitsSecond a b = true)
    (hc : isContinuation c = true) (hd : isContinuation d = true) :
    String.utf8EncodeChar (charOfBytes (a.toNat - 0xF0) [b, c, d]) = [a, b, c, d] := by
  rw [fitsSecond_iff] at hb
  rw [isContinuation_iff] at hc hd
  have hn : (charOfBytes (a.toNat - 0xF0) [b, c, d]).toNat =
      (((a.toNat - 0xF0) * 64 + (b.toNat - 0x80)) * 64 + (c.toNat - 0x80)) * 64 + (d.toNat - 0x80) :=
    toNat_ofNat_of_lt (by dsimp only [List.foldl]; omega)
  rw [utf8EncodeChar_eq, hn, if_neg (by omega), if_neg (by omega), if_neg (by omega),
    ofNat_eq_of_toNat (a := a) (by omega), ofNat_eq_of_toNat (a := b) (by omega),
    ofNat_eq_of_toNat (a := c) (by omega), ofNat_eq_of_toNat (a := d) (by omega)]

/-! ## Pieces -/

theorem utf8Pieces_one (ha : a.toNat < 0x80) :
    utf8Pieces (a :: bytes) = .char (Char.ofNat a.toNat) :: utf8Pieces bytes := by
  rw [utf8Pieces.eq_def]
  exact if_pos (UInt8.lt_iff_toNat_lt.2 ha)

/-- A byte that leads several. -/
theorem leads_iff : (¬ a < 0x80 ∧ ¬ (a < 0xC2 || 0xF5 ≤ a) = true) ↔ 0xC2 ≤ a.toNat ∧ a.toNat < 0xF5 := by
  simp only [Bool.or_eq_true, decide_eq_true_eq, UInt8.lt_iff_toNat_lt, UInt8.le_iff_toNat_le, UInt8.reduceToNat]
  omega

theorem utf8Pieces_two (ha : 0xC2 ≤ a.toNat) (ha' : a.toNat < 0xE0) (hb : fitsSecond a b = true) :
    utf8Pieces (a :: b :: bytes) = .char (charOfBytes (a.toNat - 0xC0) [b]) :: utf8Pieces bytes := by
  obtain ⟨h₁, h₂⟩ := leads_iff.2 ⟨ha, by omega⟩
  have h₃ : a < 0xE0 := UInt8.lt_iff_toNat_lt.2 ha'
  rw [utf8Pieces.eq_def]
  simp only [if_neg h₁, if_neg h₂, hb, h₃, Bool.not_true, Bool.false_eq_true, if_false, if_true]

theorem utf8Pieces_three (ha : 0xE0 ≤ a.toNat) (ha' : a.toNat < 0xF0) (hb : fitsSecond a b = true)
    (hc : isContinuation c = true) :
    utf8Pieces (a :: b :: c :: bytes) = .char (charOfBytes (a.toNat - 0xE0) [b, c]) :: utf8Pieces bytes := by
  obtain ⟨h₁, h₂⟩ := leads_iff.2 ⟨Nat.le_trans (by decide) ha, by omega⟩
  have h₃ : ¬ a < 0xE0 := by rw [UInt8.lt_iff_toNat_lt]; exact Nat.not_lt.2 ha
  have h₄ : a < 0xF0 := UInt8.lt_iff_toNat_lt.2 ha'
  rw [utf8Pieces.eq_def]
  simp only [if_neg h₁, if_neg h₂, hb, h₃, hc, h₄, Bool.not_true, Bool.false_eq_true, if_false, if_true]

theorem utf8Pieces_four (ha : 0xF0 ≤ a.toNat) (ha' : a.toNat < 0xF5) (hb : fitsSecond a b = true)
    (hc : isContinuation c = true) (hd : isContinuation d = true) :
    utf8Pieces (a :: b :: c :: d :: bytes) = .char (charOfBytes (a.toNat - 0xF0) [b, c, d]) :: utf8Pieces bytes := by
  obtain ⟨h₁, h₂⟩ := leads_iff.2 ⟨Nat.le_trans (by decide) ha, ha'⟩
  have h₃ : ¬ a < 0xE0 := by rw [UInt8.lt_iff_toNat_lt]; exact Nat.not_lt.2 (Nat.le_trans (by decide) ha)
  have h₄ : ¬ a < 0xF0 := by rw [UInt8.lt_iff_toNat_lt]; exact Nat.not_lt.2 ha
  rw [utf8Pieces.eq_def]
  simp only [if_neg h₁, if_neg h₂, hb, h₃, hc, h₄, hd, Bool.not_true, Bool.false_eq_true, if_false]

/-! ## The bytes of a character are one piece -/

theorem toNat_char (x : Char) : x.toNat < 0xD800 ∨ 0xE000 ≤ x.toNat ∧ x.toNat < 0x110000 := by
  rcases x.valid with h | h
  · exact .inl h
  · exact .inr ⟨h.1, h.2⟩

theorem charOfBytes_eq {x : Char} {lead : Nat} {rest : List UInt8}
    (h : rest.foldl (fun n b => n * 64 + (b.toNat - 0x80)) lead = x.toNat) : charOfBytes lead rest = x := by
  rw [charOfBytes, h, Char.ofNat_toNat]

theorem exists_byte {n : Nat} (h : n < 256) : ∃ a : UInt8, UInt8.ofNat n = a ∧ a.toNat = n :=
  ⟨_, rfl, UInt8.toNat_ofNat_of_lt h⟩

theorem utf8Pieces_encodeChar (x : Char) (rest : List UInt8) :
    utf8Pieces (String.utf8EncodeChar x ++ rest) = .char x :: utf8Pieces rest := by
  have hx := toNat_char x
  obtain ⟨last, hlast, hl⟩ := exists_byte (by omega : x.toNat % 64 + 0x80 < 256)
  rw [utf8EncodeChar_eq, hlast]
  split
  · obtain ⟨a, ha, hn⟩ := exists_byte (by omega : x.toNat < 256)
    rw [ha, List.singleton_append, utf8Pieces_one (by omega), hn, Char.ofNat_toNat]
  split
  · obtain ⟨a, ha, hn⟩ := exists_byte (by omega : x.toNat / 64 % 32 + 0xC0 < 256)
    rw [ha, List.cons_append, List.singleton_append,
      utf8Pieces_two (by omega) (by omega) (fitsSecond_iff.2 (by omega)), charOfBytes_eq]
    dsimp only [List.foldl]
    omega
  obtain ⟨third, hthird, ht⟩ := exists_byte (by omega : x.toNat / 64 % 64 + 0x80 < 256)
  rw [hthird]
  split
  · obtain ⟨a, ha, hn⟩ := exists_byte (by omega : x.toNat / 4096 % 16 + 0xE0 < 256)
    rw [ha, List.cons_append, List.cons_append, List.singleton_append,
      utf8Pieces_three (by omega) (by omega) (fitsSecond_iff.2 (by omega)) (isContinuation_iff.2 (by omega)),
      charOfBytes_eq]
    dsimp only [List.foldl]
    omega
  · obtain ⟨a, ha, hn⟩ := exists_byte (by omega : x.toNat / 262144 % 8 + 0xF0 < 256)
    obtain ⟨b, hb, hm⟩ := exists_byte (by omega : x.toNat / 4096 % 64 + 0x80 < 256)
    rw [ha, hb, List.cons_append, List.cons_append, List.cons_append, List.singleton_append,
      utf8Pieces_four (by omega) (by omega) (fitsSecond_iff.2 (by omega)) (isContinuation_iff.2 (by omega))
        (isContinuation_iff.2 (by omega)), charOfBytes_eq]
    dsimp only [List.foldl]
    omega

/-! ## Whole texts -/

theorem utf8Pieces_encode (cs : List Char) : utf8Pieces (encode cs) = cs.map .char := by
  induction cs with
  | nil => rfl
  | cons x cs ih => rw [encode, List.flatMap_cons, utf8Pieces_encodeChar, ← encode, ih, List.map_cons]

/-- A piece that is no character is not passed over. -/
theorem textOfPieces_char_eq_ok_iff {position : Nat} {x : Char} {ps : List Utf8Piece} :
    textOfPieces position (.char x :: ps) = .ok cs ↔
      ∃ rest, textOfPieces (position + x.utf8Size) ps = .ok rest ∧ cs = x :: rest := by
  rw [textOfPieces, map_eq_ok_iff]
  simp only [eq_comm]

/-- Bytes whose pieces are the characters of a text are the bytes of that text. -/
theorem eq_encode_of_textOfPieces {position : Nat} (h : textOfPieces position (utf8Pieces bytes) = .ok cs) :
    bytes = encode cs := by
  -- a step that finds a character takes just the bytes of that character away
  have hstep : ∀ (form : List UInt8) {x : Char} {rest : List UInt8} {position : Nat} {cs : List Char},
      utf8Pieces (form ++ rest) = .char x :: utf8Pieces rest → String.utf8EncodeChar x = form →
      (∀ {position cs}, textOfPieces position (utf8Pieces rest) = .ok cs → rest = encode cs) →
      textOfPieces position (utf8Pieces (form ++ rest)) = .ok cs → form ++ rest = encode cs := by
    intro form x rest position cs hpieces hform ih h
    rw [hpieces, textOfPieces_char_eq_ok_iff] at h
    obtain ⟨tail, htail, rfl⟩ := h
    rw [encode, List.flatMap_cons, hform, ← encode, ih htail]
  induction bytes using utf8Pieces.induct generalizing position cs with
  | case1 =>
    cases h
    rfl
  | case2 a s ha ih =>
    have ha' := UInt8.lt_iff_toNat_lt.1 ha
    exact hstep [a] (utf8Pieces_one ha') (utf8EncodeChar_one ha') ih h
  | case6 a h₁ h₂ b s hb h₃ ih =>
    obtain ⟨ha, -⟩ := leads_iff.1 ⟨h₁, h₂⟩
    have ha' := UInt8.lt_iff_toNat_lt.1 h₃
    have hb' : fitsSecond a b = true := by simpa using hb
    exact hstep [a, b] (utf8Pieces_two ha ha' hb') (utf8EncodeChar_two ha ha' hb') ih h
  | case9 a h₁ h₂ b hb h₃ c s hc h₄ ih =>
    have ha := Nat.not_lt.1 (mt UInt8.lt_iff_toNat_lt.2 h₃)
    have ha' := UInt8.lt_iff_toNat_lt.1 h₄
    have hb' : fitsSecond a b = true := by simpa using hb
    have hc' : isContinuation c = true := by simpa using hc
    exact hstep [a, b, c] (utf8Pieces_three ha ha' hb' hc') (utf8EncodeChar_three ha ha' hb' hc') ih h
  | case12 a h₁ h₂ b hb h₃ c hc h₄ d s hd ih =>
    obtain ⟨-, ha'⟩ := leads_iff.1 ⟨h₁, h₂⟩
    have ha := Nat.not_lt.1 (mt UInt8.lt_iff_toNat_lt.2 h₄)
    have hb' : fitsSecond a b = true := by simpa using hb
    have hc' : isContinuation c = true := by simpa using hc
    have hd' : isContinuation d = true := by simpa using hd
    exact hstep [a, b, c, d] (utf8Pieces_four ha ha' hb' hc' hd') (utf8EncodeChar_four ha ha' hb' hc' hd')
      ih h
  | _ =>
    -- in the other cases the first piece is no character
    rw [utf8Pieces.eq_def] at h
    simp only [*, if_true, if_false] at h
    cases h

/-- The text of bytes is the one whose bytes they are. -/
theorem decode_eq_ok_iff : decode bytes = .ok cs ↔ bytes = encode cs := by
  constructor
  · exact eq_encode_of_textOfPieces
  · rintro rfl
    rw [decode, utf8Pieces_encode, textOfPieces_map_char]

/-- Bytes that are not decoded are the bytes of no text. -/
theorem decode_error_iff : (∃ e, decode bytes = .error e) ↔ ¬ ∃ cs, bytes = encode cs := by
  simp only [← decode_eq_ok_iff]
  cases decode bytes with
  | ok cs => simp
  | error e => simp

end SchemaMigration.Text
