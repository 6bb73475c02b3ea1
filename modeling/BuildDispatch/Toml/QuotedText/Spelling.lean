import BuildDispatch.Toml.QuotedText

/-!
Writing a text as a basic string: quotes, backslashes and control characters by their code point in
four hexadecimal digits, and all else as it is.  Main statement: what is written is read back, with
whatever stands behind it left over.
-/

namespace BuildDispatch.Toml

namespace QuotedText

/-- Characters that are written by their code point. -/
def isEscaped (c : Char) : Bool :=
  c == '"' || c == '\\' || c.toNat < 0x20 || (0x7F ≤ c.toNat && c.toNat < 0xA0)

/-- An upper case digit to the base 16. -/
def hexDigit (n : Nat) : Char := Char.ofNat (if n < 10 then 48 + n else 55 + n)

/-- The last four hexadecimal digits of a number. -/
def fourDigits (n : Nat) : List Char :=
  [hexDigit (n / 4096 % 16), hexDigit (n / 256 % 16), hexDigit (n / 16 % 16), hexDigit (n % 16)]

/-- A character inside a basic string. -/
def spellChar (c : Char) : List Char :=
  if isEscaped c then '\\' :: 'u' :: fourDigits c.toNat else [c]

/-- A text as a basic string. -/
def spell (s : String) : List Char := '"' :: (s.toList.flatMap spellChar ++ ['"'])

/-- Four digits have the value that they were made from. -/
theorem digits_fourDigits {n : Nat} (h : n < 160) :
    (fourDigits n).all isHexDigit = true ∧ digitsValue 16 (fourDigits n) = n := by
  have all : ∀ n < 160, (fourDigits n).all isHexDigit = true ∧
      digitsValue 16 (fourDigits n) = n := by decide +kernel
  exact all n h

theorem toNat_lt_of_isEscaped {c : Char} (h : isEscaped c = true) : c.toNat < 160 := by
  simp only [isEscaped, Bool.or_eq_true, Bool.and_eq_true, beq_iff_eq, decide_eq_true_eq] at h
  rcases h with ((rfl | rfl) | h) | h
  · decide
  · decide
  · omega
  · omega

/-- An escaped character is read back. -/
theorem escape_fourDigits_append {c : Char} (h : isEscaped c = true) (r : List Char) :
    escape ('u' :: (fourDigits c.toNat ++ r)) = some (c, r) := by
  have small := toNat_lt_of_isEscaped h
  obtain ⟨digits, value⟩ := digits_fourDigits small
  have exact : exactDigits isHexDigit 4 (fourDigits c.toNat ++ r) =
      some (fourDigits c.toNat, r) := by
    have length : (fourDigits c.toNat).length = 4 := rfl
    simp [exactDigits, ← length, digits]
  have scalar : scalar? c.toNat = some c := by
    rw [scalar?, if_pos (by simp; omega), Char.ofNat_toNat]
  simp [escape, codePoint, exact, value, scalar]

/-- A character that is not escaped is an ordinary one. -/
theorem ordinary_of_not_isEscaped {c : Char} (h : isEscaped c = false) :
    c ≠ '"' ∧ c ≠ '\\' ∧ isTextChar c = true := by
  simp only [isEscaped, Bool.or_eq_false_iff, Bool.and_eq_false_iff, beq_eq_false_iff_ne,
    decide_eq_false_iff_not] at h
  obtain ⟨⟨⟨quote, backslash⟩, low⟩, high⟩ := h
  refine ⟨quote, backslash, ?_⟩
  simp only [isTextChar, Bool.or_eq_true, Bool.and_eq_true, decide_eq_true_eq, bne_iff_ne]
  omega

/-- The inside of a written string is read back up to its closing quote. -/
theorem basicBody_spell_append (s r : List Char) (fuel : Nat) (h : s.length < fuel) :
    basicBody fuel (s.flatMap spellChar ++ '"' :: r) = some (s, r) := by
  induction s generalizing fuel with
  | nil =>
    cases fuel with
    | zero => exact absurd h (Nat.not_lt_zero _)
    | succ fuel => rfl
  | cons c s ih =>
    cases fuel with
    | zero => exact absurd h (Nat.not_lt_zero _)
    | succ fuel =>
      have ih := ih fuel (Nat.lt_of_succ_lt_succ h)
      rw [List.flatMap_cons, List.append_assoc]
      cases e : isEscaped c with
      | true =>
        rw [spellChar, if_pos e, List.cons_append, List.cons_append, basicBody.eq_def]
        simp [escape_fourDigits_append e, ih]
      | false =>
        obtain ⟨quote, backslash, ordinary⟩ := ordinary_of_not_isEscaped e
        rw [spellChar, if_neg (by simp [e]), List.singleton_append, basicBody.eq_def]
        simp [ordinary, ih]

/-- No character is written by nothing. -/
theorem length_le_length_flatMap_spellChar (s : List Char) :
    s.length ≤ (s.flatMap spellChar).length := by
  induction s with
  | nil => exact Nat.le_refl 0
  | cons c s ih =>
    have h : 1 ≤ (spellChar c).length := by
      unfold spellChar
      split <;> simp
    rw [List.flatMap_cons, List.length_append, List.length_cons]
    omega

/-- A written string is read back. -/
theorem readShort_spell_append (s : String) (r : List Char) :
    readShort (spell s ++ r) = some (s, r) := by
  have enough : s.toList.length < (s.toList.flatMap spellChar ++ '"' :: r).length := by
    have := length_le_length_flatMap_spellChar s.toList
    rw [List.length_append, List.length_cons]
    omega
  rw [spell, List.cons_append, List.append_assoc, List.singleton_append, readShort,
    basicBody_spell_append s.toList r _ enough]
  simp

end QuotedText

end BuildDispatch.Toml
