import BuildDispatch.Bytes.Utf8

/-! Writing back what was read as UTF-8.  The chunks of a byte string spell exactly its bytes, so
a byte string that reads as a text is the UTF-8 form of that text and of no other. -/

namespace BuildDispatch

namespace Utf8

/-- The bytes that a chunk was read from. -/
def Chunk.bytes : Chunk → Bytes
  | .scalar c => String.utf8EncodeChar c
  | .broken b => b

theorem val_ofNat {n : Nat} (h : n < 0xD800 ∨ 0xDFFF < n ∧ n < 0x110000) :
    (Char.ofNat n).val.toNat = n := by
  rw [Char.ofNat, dif_pos h]
  rfl

/-! ### The UTF-8 form of what was read -/

theorem ofNat_eq_of_toNat {n : Nat} {b : UInt8} (h : n = b.toNat) : UInt8.ofNat n = b := by
  rw [h, UInt8.ofNat_toNat]

theorem encodeChar_one {a : UInt8} (hWidth : width a = 1) :
    String.utf8EncodeChar (.ofNat a.toNat) = [a] := by
  have ha := width_eq_one.mp hWidth
  rw [String.utf8EncodeChar, val_ofNat (by omega), if_pos (by omega), UInt8.ofNat_toNat]

theorem encodeChar_two {a b : UInt8} (hWidth : width a = 2) (hSecond : isSecond a b = true) :
    String.utf8EncodeChar (.ofNat (a.toNat % 32 * 64 + payload b)) = [a, b] := by
  have ha := width_eq_two.mp hWidth
  have hb := (isSecond_iff.mp hSecond).1
  unfold payload
  rw [String.utf8EncodeChar, val_ofNat (by omega), if_neg (by omega), if_pos (by omega)]
  rw [ofNat_eq_of_toNat (b := a) (by omega), ofNat_eq_of_toNat (b := b) (by omega)]

theorem encodeChar_three {a b c : UInt8} (hWidth : width a = 3) (hSecond : isSecond a b = true)
    (hThird : isTail c = true) :
    String.utf8EncodeChar (.ofNat (a.toNat % 16 * 4096 + payload b * 64 + payload c)) =
      [a, b, c] := by
  have ha := width_eq_three.mp hWidth
  have hb := isSecond_iff.mp hSecond
  have hc := isTail_iff.mp hThird
  unfold payload
  rw [String.utf8EncodeChar, val_ofNat (by omega), if_neg (by omega), if_neg (by omega),
    if_pos (by omega)]
  rw [ofNat_eq_of_toNat (b := a) (by omega), ofNat_eq_of_toNat (b := b) (by omega),
    ofNat_eq_of_toNat (b := c) (by omega)]

theorem encodeChar_four {a b c d : UInt8} (hWidth : width a = 4) (hSecond : isSecond a b = true)
    (hThird : isTail c = true) (hFourth : isTail d = true) :
    String.utf8EncodeChar (.ofNat (a.toNat % 8 * 262144 + payload b * 4096 + payload c * 64
      + payload d)) = [a, b, c, d] := by
  have ha := width_eq_four.mp hWidth
  have hb := isSecond_iff.mp hSecond
  have hc := isTail_iff.mp hThird
  have hd := isTail_iff.mp hFourth
  unfold payload
  rw [String.utf8EncodeChar, val_ofNat (by omega), if_neg (by omega), if_neg (by omega),
    if_neg (by omega)]
  rw [ofNat_eq_of_toNat (b := a) (by omega), ofNat_eq_of_toNat (b := b) (by omega),
    ofNat_eq_of_toNat (b := c) (by omega), ofNat_eq_of_toNat (b := d) (by omega)]

/-- Chunks lose no byte and change none. -/
theorem flatMap_bytes_chunks (b : Bytes) : (chunks b).flatMap Chunk.bytes = b := by
  fun_induction chunks b with
  | case1 => rfl
  | case2 a r hWidth ih => simp [Chunk.bytes, encodeChar_one hWidth, ih]
  | case3 a hWidth b r hSecond ih => simp [Chunk.bytes, encodeChar_two hWidth hSecond, ih]
  | case6 a hWidth b hSecond c r hThird ih =>
    simp [Chunk.bytes, encodeChar_three hWidth hSecond hThird, ih]
  | case11 a hWidth b hSecond c hThird d r hFourth ih =>
    simp [Chunk.bytes, encodeChar_four hWidth hSecond hThird hFourth, ih]
  | case4 | case5 | case7 | case8 | case9 | case10 | case12 | case13 | case14 | case15 | case16
  | case17 | case18 => simp_all [Chunk.bytes]

/-- Bytes have chunks unless there are none. -/
theorem chunks_ne_nil {b : Bytes} (h : b ≠ []) : chunks b ≠ [] := by
  intro e
  have back := flatMap_bytes_chunks b
  rw [e] at back
  exact h back.symm

theorem flatMap_bytes_of_mapM_scalar? {l : List Chunk} {s : List Char}
    (h : l.mapM Chunk.scalar? = some s) :
    l.flatMap Chunk.bytes = s.flatMap String.utf8EncodeChar := by
  induction l generalizing s with
  | nil =>
    cases h
    rfl
  | cons k l ih =>
    rw [List.mapM_cons] at h
    cases k with
    | broken b => simp [Chunk.scalar?] at h
    | scalar c =>
      cases hl : l.mapM Chunk.scalar? with
      | none => simp [Chunk.scalar?, hl] at h
      | some t =>
        simp only [Chunk.scalar?, hl, Option.bind_eq_bind, Option.bind_some, Option.pure_def,
          Option.some.injEq] at h
        subst h
        rw [List.flatMap_cons, List.flatMap_cons, ih hl, Chunk.bytes]

end Utf8

namespace Bytes

/-- Bytes that read as a text are its UTF-8 form. -/
theorem ofText_of_text? {b : Bytes} {s : String} (h : b.text? = some s) : ofText s = b := by
  obtain ⟨l, hl, rfl⟩ := Option.map_eq_some_iff.mp h
  rw [ofText, String.toList_ofList, ← Utf8.flatMap_bytes_of_mapM_scalar? hl,
    Utf8.flatMap_bytes_chunks]

/-- Exactly the UTF-8 form of a text reads as the text. -/
theorem text?_eq_some_iff {b : Bytes} {s : String} : b.text? = some s ↔ b = ofText s := by
  constructor
  · intro h
    exact (ofText_of_text? h).symm
  · rintro rfl
    exact text?_ofText s

/-- Bytes that are the UTF-8 form of a text. -/
def IsText (b : Bytes) : Prop := ∃ s, b = ofText s

theorem isText_ofText (s : String) : (ofText s).IsText := ⟨s, rfl⟩

/-- A lossy reading loses nothing of a text. -/
theorem IsText.ofText_lossyText {b : Bytes} (h : b.IsText) : ofText b.lossyText = b := by
  obtain ⟨s, rfl⟩ := h
  rw [lossyText_ofText]

theorem IsText.append {b c : Bytes} (hb : b.IsText) (hc : c.IsText) : (b ++ c).IsText := by
  obtain ⟨s, rfl⟩ := hb
  obtain ⟨t, rfl⟩ := hc
  exact ⟨s ++ t, (ofText_append s t).symm⟩

end Bytes

end BuildDispatch
