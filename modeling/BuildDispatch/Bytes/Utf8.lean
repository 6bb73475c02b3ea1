import BuildDispatch.Bytes

/-!
Reading bytes as UTF-8.  `chunks` splits any byte string into scalar values and maximal ill-formed
parts; a byte string is text when it has no such part, and a lossy reading puts U+FFFD for each.
Reading the UTF-8 form of a text gives the text back.
-/

namespace BuildDispatch

namespace Utf8

/-- A scalar value, or the bytes of a longest part that begins a well-formed sequence in vain. -/
inductive Chunk where
  | scalar (c : Char)
  | broken (bytes : Bytes)
  deriving Repr, DecidableEq

/-- A byte that may only continue a sequence. -/
def isTail (b : UInt8) : Bool := 0x80 ≤ b.toNat && b.toNat ≤ 0xBF

/-- The second bytes that may follow a lead byte: overlong forms, surrogates and values above
U+10FFFF are cut off here. -/
def isSecond (lead b : UInt8) : Bool :=
  if lead.toNat = 0xE0 then 0xA0 ≤ b.toNat && b.toNat ≤ 0xBF
  else if lead.toNat = 0xED then 0x80 ≤ b.toNat && b.toNat ≤ 0x9F
  else if lead.toNat = 0xF0 then 0x90 ≤ b.toNat && b.toNat ≤ 0xBF
  else if lead.toNat = 0xF4 then 0x80 ≤ b.toNat && b.toNat ≤ 0x8F
  else isTail b

/-- The length of the sequences that a byte begins; `0` if none. -/
def width (b : UInt8) : Nat :=
  if b.toNat < 0x80 then 1
  else if b.toNat < 0xC2 then 0
  else if b.toNat < 0xE0 then 2
  else if b.toNat < 0xF0 then 3
  else if b.toNat < 0xF5 then 4
  else 0

/-- The six payload bits of a continuing byte. -/
def payload (b : UInt8) : Nat := b.toNat % 64

/-- Splits bytes into scalar values and maximal ill-formed parts. -/
def chunks : Bytes → List Chunk
  | [] => []
  | a :: r =>
    match width a with
    | 1 => .scalar (.ofNat a.toNat) :: chunks r
    | 2 =>
      match r with
      | b :: r₂ =>
        if isSecond a b then
          .scalar (.ofNat (a.toNat % 32 * 64 + payload b)) :: chunks r₂
        else .broken [a] :: chunks (b :: r₂)
      | [] => [.broken [a]]
    | 3 =>
      match r with
      | b :: r₂ =>
        if isSecond a b then
          match r₂ with
          | c :: r₃ =>
            if isTail c then
              .scalar (.ofNat (a.toNat % 16 * 4096 + payload b * 64 + payload c)) :: chunks r₃
            else .broken [a, b] :: chunks (c :: r₃)
          | [] => [.broken [a, b]]
        else .broken [a] :: chunks (b :: r₂)
      | [] => [.broken [a]]
    | 4 =>
      match r with
      | b :: r₂ =>
        if isSecond a b then
          match r₂ with
          | c :: r₃ =>
            if isTail c then
              match r₃ with
              | d :: r₄ =>
                if isTail d then
                  .scalar (.ofNat (a.toNat % 8 * 262144 + payload b * 4096 + payload c * 64
                    + payload d)) :: chunks r₄
                else .broken [a, b, c] :: chunks (d :: r₄)
              | [] => [.broken [a, b, c]]
            else .broken [a, b] :: chunks (c :: r₃)
          | [] => [.broken [a, b]]
        else .broken [a] :: chunks (b :: r₂)
      | [] => [.broken [a]]
    | _ => .broken [a] :: chunks r

/-- The scalar value of a chunk, U+FFFD for an ill-formed part. -/
def Chunk.replaced : Chunk → Char
  | .scalar c => c
  | .broken _ => '\uFFFD'

/-- The scalar value of a well-formed chunk. -/
def Chunk.scalar? : Chunk → Option Char
  | .scalar c => some c
  | .broken _ => none

/-! ### Lead and later bytes -/

section Sequences

variable {a b c d : UInt8}

theorem width_eq_one : width a = 1 ↔ a.toNat < 0x80 := by
  unfold width
  repeat' split
  all_goals omega

theorem width_eq_two : width a = 2 ↔ 0xC2 ≤ a.toNat ∧ a.toNat < 0xE0 := by
  unfold width
  repeat' split
  all_goals omega

theorem width_eq_three : width a = 3 ↔ 0xE0 ≤ a.toNat ∧ a.toNat < 0xF0 := by
  unfold width
  repeat' split
  all_goals omega

theorem width_eq_four : width a = 4 ↔ 0xF0 ≤ a.toNat ∧ a.toNat < 0xF5 := by
  unfold width
  repeat' split
  all_goals omega

theorem isTail_iff : isTail b = true ↔ 0x80 ≤ b.toNat ∧ b.toNat ≤ 0xBF := by
  simp [isTail]

/-- A second byte is a tail, and no overlong form, surrogate or value above U+10FFFF begins with
it. -/
theorem isSecond_iff : isSecond a b = true ↔
    (0x80 ≤ b.toNat ∧ b.toNat ≤ 0xBF) ∧ (a.toNat = 0xE0 → 0xA0 ≤ b.toNat) ∧
      (a.toNat = 0xED → b.toNat ≤ 0x9F) ∧ (a.toNat = 0xF0 → 0x90 ≤ b.toNat) ∧
      (a.toNat = 0xF4 → b.toNat ≤ 0x8F) := by
  simp only [isSecond, isTail]
  repeat' split
  all_goals
    simp only [Bool.and_eq_true, decide_eq_true_eq]
    omega

/-! ### Reading a sequence of each length -/

theorem chunks_one (hWidth : width a = 1) (r : Bytes) :
    chunks (a :: r) = .scalar (.ofNat a.toNat) :: chunks r := by
  rw [chunks.eq_def]
  simp only [hWidth]

theorem chunks_two (hWidth : width a = 2) (hSecond : isSecond a b = true) (r : Bytes) :
    chunks (a :: b :: r) = .scalar (.ofNat (a.toNat % 32 * 64 + payload b)) :: chunks r := by
  rw [chunks.eq_def]
  simp only [hWidth, hSecond, if_true]

theorem chunks_three (hWidth : width a = 3) (hSecond : isSecond a b = true)
    (hThird : isTail c = true) (r : Bytes) :
    chunks (a :: b :: c :: r) =
      .scalar (.ofNat (a.toNat % 16 * 4096 + payload b * 64 + payload c)) :: chunks r := by
  rw [chunks.eq_def]
  simp only [hWidth, hSecond, hThird, if_true]

theorem chunks_four (hWidth : width a = 4) (hSecond : isSecond a b = true)
    (hThird : isTail c = true) (hFourth : isTail d = true) (r : Bytes) :
    chunks (a :: b :: c :: d :: r) =
      .scalar (.ofNat (a.toNat % 8 * 262144 + payload b * 4096 + payload c * 64 + payload d)) ::
        chunks r := by
  rw [chunks.eq_def]
  simp only [hWidth, hSecond, hThird, hFourth, if_true]

/-! ### Reading the form of a scalar value of each length -/

variable {n : Nat}

theorem chunks_form_two (hLow : 0x80 ≤ n) (hHigh : n < 0x800)
    (ha : a.toNat = n / 64 % 32 + 192) (hb : b.toNat = n % 64 + 128) (r : Bytes) :
    chunks (a :: b :: r) = .scalar (.ofNat n) :: chunks r := by
  have hWidth : width a = 2 := width_eq_two.mpr (by omega)
  have hSecond : isSecond a b = true := isSecond_iff.mpr (by omega)
  have hValue : a.toNat % 32 * 64 + payload b = n := by
    rw [payload]
    omega
  rw [chunks_two hWidth hSecond, hValue]

theorem chunks_form_three (hLow : 0x800 ≤ n) (hHigh : n < 0x10000)
    (hSurrogate : n < 0xD800 ∨ 0xDFFF < n) (ha : a.toNat = n / 4096 % 16 + 224)
    (hb : b.toNat = n / 64 % 64 + 128) (hc : c.toNat = n % 64 + 128) (r : Bytes) :
    chunks (a :: b :: c :: r) = .scalar (.ofNat n) :: chunks r := by
  have hWidth : width a = 3 := width_eq_three.mpr (by omega)
  have hSecond : isSecond a b = true := isSecond_iff.mpr (by omega)
  have hThird : isTail c = true := isTail_iff.mpr (by omega)
  have hValue : a.toNat % 16 * 4096 + payload b * 64 + payload c = n := by
    rw [payload, payload]
    omega
  rw [chunks_three hWidth hSecond hThird, hValue]

theorem chunks_form_four (hLow : 0x10000 ≤ n) (hHigh : n < 0x110000)
    (ha : a.toNat = n / 262144 % 8 + 240) (hb : b.toNat = n / 4096 % 64 + 128)
    (hc : c.toNat = n / 64 % 64 + 128) (hd : d.toNat = n % 64 + 128) (r : Bytes) :
    chunks (a :: b :: c :: d :: r) = .scalar (.ofNat n) :: chunks r := by
  have hWidth : width a = 4 := width_eq_four.mpr (by omega)
  have hSecond : isSecond a b = true := isSecond_iff.mpr (by omega)
  have hThird : isTail c = true := isTail_iff.mpr (by omega)
  have hFourth : isTail d = true := isTail_iff.mpr (by omega)
  have hValue : a.toNat % 8 * 262144 + payload b * 4096 + payload c * 64 + payload d = n := by
    rw [payload, payload, payload]
    omega
  rw [chunks_four hWidth hSecond hThird hFourth, hValue]

end Sequences

/-! ### Reading what was written -/

theorem toNat_ofNat_of_lt {n : Nat} (h : n < 256) : (UInt8.ofNat n).toNat = n :=
  Nat.mod_eq_of_lt h

theorem toNat_tail (n : Nat) : (UInt8.ofNat (n % 64 + 128)).toNat = n % 64 + 128 :=
  toNat_ofNat_of_lt (by omega)

/-- The first chunk of the UTF-8 form of a character is the character. -/
theorem chunks_encodeChar_append (c : Char) (r : Bytes) :
    chunks (String.utf8EncodeChar c ++ r) = .scalar c :: chunks r := by
  have hValid : c.val.toNat < 0xD800 ∨ 0xDFFF < c.val.toNat ∧ c.val.toNat < 0x110000 := c.valid
  have hBack : Char.ofNat c.val.toNat = c := Char.ofNat_toNat c
  suffices hRead : chunks (String.utf8EncodeChar c ++ r) =
      .scalar (.ofNat c.val.toNat) :: chunks r by rwa [hBack] at hRead
  unfold String.utf8EncodeChar
  generalize c.val.toNat = n at hValid ⊢
  dsimp only
  -- the form has one, two, three or four bytes
  split
  · have hByte : (UInt8.ofNat n).toNat = n := toNat_ofNat_of_lt (by omega)
    have hWidth : width (.ofNat n) = 1 := width_eq_one.mpr (by omega)
    rw [List.singleton_append, chunks_one hWidth, hByte]
  · split
    · have hLead : (UInt8.ofNat (n / 64 % 32 + 192)).toNat = n / 64 % 32 + 192 :=
        toNat_ofNat_of_lt (by omega)
      exact chunks_form_two (by omega) (by omega) hLead (toNat_tail _) r
    · split
      · have hLead : (UInt8.ofNat (n / 4096 % 16 + 224)).toNat = n / 4096 % 16 + 224 :=
          toNat_ofNat_of_lt (by omega)
        exact chunks_form_three (by omega) (by omega) (by omega) hLead (toNat_tail _)
          (toNat_tail _) r
      · have hLead : (UInt8.ofNat (n / 262144 % 8 + 240)).toNat = n / 262144 % 8 + 240 :=
          toNat_ofNat_of_lt (by omega)
        exact chunks_form_four (by omega) (by omega) hLead (toNat_tail _) (toNat_tail _)
          (toNat_tail _) r

/-- The UTF-8 form of a text is read back character by character. -/
theorem chunks_ofText (s : String) : chunks (.ofText s) = s.toList.map .scalar := by
  unfold Bytes.ofText
  induction s.toList with
  | nil => rfl
  | cons c r ih => rw [List.flatMap_cons, chunks_encodeChar_append, ih, List.map_cons]

end Utf8

namespace Bytes

/-- The text whose UTF-8 form the bytes are, if they are one. -/
def text? (b : Bytes) : Option String :=
  ((Utf8.chunks b).mapM Utf8.Chunk.scalar?).map String.ofList

/-- The bytes as text, each maximal ill-formed part as one U+FFFD. -/
def lossyText (b : Bytes) : String := String.ofList ((Utf8.chunks b).map Utf8.Chunk.replaced)

theorem mapM_scalar? (l : List Char) :
    (l.map Utf8.Chunk.scalar).mapM Utf8.Chunk.scalar? = some l := by
  induction l with
  | nil => rfl
  | cons c r ih => simp [ih, Utf8.Chunk.scalar?]

@[simp] theorem text?_ofText (s : String) : text? (ofText s) = some s := by
  rw [text?, Utf8.chunks_ofText, mapM_scalar?]
  simp

@[simp] theorem lossyText_ofText (s : String) : lossyText (ofText s) = s := by
  have h : Utf8.Chunk.replaced ∘ Utf8.Chunk.scalar = id := rfl
  simp [lossyText, Utf8.chunks_ofText, h]

end Bytes

end BuildDispatch
