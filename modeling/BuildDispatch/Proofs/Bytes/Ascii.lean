import BuildDispatch.Proofs.Bytes.Utf8

/-! ASCII bytes in UTF-8 forms.  All bytes of a longer form are above them, so an ASCII byte stands
in the UTF-8 form of a text exactly where its character stands in the text. -/

namespace BuildDispatch

namespace Utf8

/-- A byte with bits added above the ASCII range is no ASCII byte. -/
theorem ne_ofNat_of_ascii {b : UInt8} (hb : b.toNat < 0x80) {n : Nat} (hn : 0x80 ≤ n)
    (h : n < 0x100) : b ≠ .ofNat n := by
  intro e
  have hValue := congrArg UInt8.toNat e
  rw [toNat_ofNat_of_lt h] at hValue
  omega

theorem mem_encodeChar_iff {b : UInt8} (hb : b.toNat < 0x80) (c : Char) :
    b ∈ String.utf8EncodeChar c ↔ c.toNat = b.toNat := by
  have hc : c.val.toNat = c.toNat := rfl
  unfold String.utf8EncodeChar
  simp only [hc]
  generalize c.toNat = n
  split
  · rw [List.mem_singleton]
    constructor
    · rintro rfl
      exact (toNat_ofNat_of_lt (by omega)).symm
    · intro h
      rw [h, UInt8.ofNat_toNat]
  · -- every byte of a longer form has its top bit set
    have hne : n ≠ b.toNat := by omega
    have hTail : ∀ m : Nat, b ≠ .ofNat (m % 64 + 128) := fun m =>
      ne_ofNat_of_ascii hb (by omega) (by omega)
    have hTwo : b ≠ .ofNat (n / 64 % 32 + 192) := ne_ofNat_of_ascii hb (by omega) (by omega)
    have hThree : b ≠ .ofNat (n / 4096 % 16 + 224) := ne_ofNat_of_ascii hb (by omega) (by omega)
    have hFour : b ≠ .ofNat (n / 262144 % 8 + 240) := ne_ofNat_of_ascii hb (by omega) (by omega)
    split
    · simp only [List.mem_cons, List.not_mem_nil, hTwo, hTail, hne, or_self]
    · split
      · simp only [List.mem_cons, List.not_mem_nil, hThree, hTail, hne, or_self]
      · simp only [List.mem_cons, List.not_mem_nil, hFour, hTail, hne, or_self]

end Utf8

namespace Bytes

theorem mem_ofText_iff {c : Char} (hc : c.toNat < 0x80) (s : String) :
    .ofNat c.toNat ∈ ofText s ↔ c ∈ s.toList := by
  have hByte : (UInt8.ofNat c.toNat).toNat = c.toNat := Utf8.toNat_ofNat_of_lt (by omega)
  rw [ofText, List.mem_flatMap]
  simp only [Utf8.mem_encodeChar_iff (hByte.symm ▸ hc), hByte]
  constructor
  · rintro ⟨d, hd, e⟩
    rwa [← Char.toNat_inj.mp e]
  · exact fun h => ⟨c, h, rfl⟩

theorem nul_mem_ofText (s : String) : (0 : UInt8) ∈ ofText s ↔ '\x00' ∈ s.toList :=
  mem_ofText_iff (c := '\x00') (by decide) s

theorem equals_mem_ofText (s : String) : (0x3D : UInt8) ∈ ofText s ↔ '=' ∈ s.toList :=
  mem_ofText_iff (c := '=') (by decide) s

theorem ofText_eq_nil {s : String} : ofText s = [] ↔ s = "" :=
  ⟨fun h => ofText_inj (h.trans ofText_empty.symm), fun h => h ▸ ofText_empty⟩

end Bytes

end BuildDispatch
