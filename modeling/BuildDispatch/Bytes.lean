/-!
Byte strings: what an operating system hands over as arguments, environment names and values, paths
and output.  A text stands for its UTF-8 form, and no two texts have the same form.  Order is
bytewise.
-/

namespace BuildDispatch

/-- Arbitrary bytes, in order. -/
abbrev Bytes := List UInt8

namespace Bytes

/-- The UTF-8 form of a text. -/
def ofText (s : String) : Bytes := s.toList.flatMap String.utf8EncodeChar

/-- Two texts with the same UTF-8 form are equal. -/
theorem ofText_inj {s t : String} (h : ofText s = ofText t) : s = t := by
  apply String.toByteArray_inj.mp
  rw [← String.utf8Encode_toList (b := s), ← String.utf8Encode_toList (b := t)]
  exact congrArg List.toByteArray h

@[simp] theorem ofText_empty : ofText "" = [] := rfl

theorem ofText_append (s t : String) : ofText (s ++ t) = ofText s ++ ofText t := by
  simp [ofText, List.flatMap_append]

end Bytes

/-- Keys that are compared through byte strings: equal bytes mean equal keys. -/
class ByteKey (κ : Type) where
  bytes : κ → Bytes
  bytes_inj : ∀ {a b : κ}, bytes a = bytes b → a = b

instance : ByteKey Bytes := ⟨id, fun h => h⟩

instance : ByteKey String := ⟨Bytes.ofText, Bytes.ofText_inj⟩

namespace ByteKey

variable {κ : Type} [ByteKey κ]

/-- Bytewise order of keys. -/
def before (a b : κ) : Prop := bytes a < bytes b

instance (a b : κ) : Decidable (before a b) := inferInstanceAs (Decidable (bytes a < bytes b))

theorem before_irrefl (a : κ) : ¬ before a a := List.lt_irrefl _

theorem before_trans {a b c : κ} (h : before a b) (k : before b c) : before a c :=
  List.lt_trans h k

/-- Two keys neither of which comes first are the same key. -/
theorem eq_of_not_before {a b : κ} (h : ¬ before a b) (k : ¬ before b a) : a = b :=
  bytes_inj (List.le_antisymm (List.not_lt.mp k) (List.not_lt.mp h))

theorem ne_of_before {a b : κ} (h : before a b) : a ≠ b := by
  intro e
  subst e
  exact before_irrefl _ h

end ByteKey

end BuildDispatch
