import BuildDispatch.WaitStatus
import Mathlib.Logic.Function.Basic

/-! The wording of wait statuses.  It opens with the kind of the ending, and no number in it is
followed by a digit, so it can be read back: no two endings are worded alike. -/

namespace BuildDispatch

namespace WaitStatus

/-! ### Numbers and what follows them -/

/-- A text that does not carry on a number in front of it. -/
def EndsNumber (s : String) : Prop := ∀ c ∈ s.toList.head?, c.isDigit = false

theorem endsNumber_empty : EndsNumber "" := nofun

theorem EndsNumber.append {s t : String} (hs : EndsNumber s) (ht : EndsNumber t) :
    EndsNumber (s ++ t) := by
  intro c hc
  rw [String.toList_append, List.head?_append] at hc
  cases hHead : s.toList.head? with
  | none =>
    rw [hHead, Option.none_or] at hc
    exact ht c hc
  | some d =>
    rw [hHead, Option.some_or] at hc
    exact hs c (hHead ▸ hc)

theorem takeWhile_natRepr_append {s : String} (hs : EndsNumber s) (n : Nat) :
    (n.repr ++ s).toList.takeWhile Char.isDigit = Nat.toDigits 10 n := by
  have hDigits : ∀ c ∈ Nat.toDigits 10 n, c.isDigit = true := fun c hc =>
    Nat.isDigit_of_mem_toDigits (by decide) (by decide) hc
  have hRest : s.toList.takeWhile Char.isDigit = [] := by
    cases hList : s.toList with
    | nil => rfl
    | cons c r =>
      have hEnd : c.isDigit = false := hs c (by rw [hList]; rfl)
      simp [hEnd]
  rw [String.toList_append, Nat.toList_repr, List.takeWhile_append_of_pos hDigits, hRest,
    List.append_nil]

theorem eq_of_natRepr_append_eq {m n : Nat} {s t : String} (hs : EndsNumber s)
    (ht : EndsNumber t) (h : m.repr ++ s = n.repr ++ t) : m = n := by
  have hDigits : Nat.toDigits 10 m = Nat.toDigits 10 n := by
    rw [← takeWhile_natRepr_append hs m, h, takeWhile_natRepr_append ht n]
  have hBack : Nat.ofDigitChars 10 (Nat.toDigits 10 m) 0 = m := Nat.ofDigitChars_ten_toDigits
  rw [← hBack, hDigits, Nat.ofDigitChars_ten_toDigits]

theorem natRepr_append_ne_minus (n : Nat) (s t : String) : n.repr ++ s ≠ "-" ++ t := by
  intro h
  have hHead := congrArg (·.toList.head?) h
  simp only [String.toList_append, Nat.toList_repr] at hHead
  cases hDigits : Nat.toDigits 10 n with
  | nil => exact absurd hDigits Nat.toDigits_ne_nil
  | cons c r =>
    have hDigit : c.isDigit = true :=
      Nat.isDigit_of_mem_toDigits (by decide) (by decide) (hDigits ▸ List.mem_cons_self)
    rw [hDigits] at hHead
    have hMinus : c = '-' := Option.some.inj hHead
    rw [hMinus] at hDigit
    exact absurd hDigit (by decide)

theorem eq_of_intRepr_append_eq {a b : Int} {s t : String} (hs : EndsNumber s)
    (ht : EndsNumber t) (h : a.repr ++ s = b.repr ++ t) : a = b := by
  rw [Int.repr_eq_if, Int.repr_eq_if] at h
  by_cases ha : 0 ≤ a
  · rw [if_pos ha] at h
    by_cases hb : 0 ≤ b
    · rw [if_pos hb] at h
      have hValue := eq_of_natRepr_append_eq hs ht h
      omega
    · rw [if_neg hb, String.append_assoc] at h
      exact absurd h (natRepr_append_ne_minus _ _ _)
  · rw [if_neg ha, String.append_assoc] at h
    by_cases hb : 0 ≤ b
    · rw [if_pos hb] at h
      exact absurd h.symm (natRepr_append_ne_minus _ _ _)
    · rw [if_neg hb, String.append_assoc, String.append_right_inj] at h
      have hValue := eq_of_natRepr_append_eq hs ht h
      omega

/-! ### Signals -/

/-- A signal is worded by its number, and by its name where it has one. -/
theorem exists_signalText_eq (signal : Nat) :
    ∃ name, signalText signal = signal.repr ++ name ∧ EndsNumber name := by
  unfold signalText
  cases signalName? signal with
  | none => exact ⟨"", String.append_empty.symm, endsNumber_empty⟩
  | some name =>
    refine ⟨" (" ++ (name ++ ")"), ?_, by simp [EndsNumber]⟩
    exact String.append_assoc.trans String.append_assoc

theorem signalText_append_inj {m n : Nat} {s t : String} (hs : EndsNumber s) (ht : EndsNumber t)
    (h : signalText m ++ s = signalText n ++ t) : m = n ∧ s = t := by
  have hNumber : m = n := by
    obtain ⟨a, ha, hEnds⟩ := exists_signalText_eq m
    obtain ⟨b, hb, hEnds'⟩ := exists_signalText_eq n
    rw [ha, hb, String.append_assoc, String.append_assoc] at h
    exact eq_of_natRepr_append_eq (hEnds.append hs) (hEnds'.append ht) h
  subst hNumber
  exact ⟨rfl, (String.append_right_inj _).mp h⟩

/-- What is added to a signal that left an image of the process behind. -/
def coreNote (coreDumped : Bool) : String := if coreDumped then " (core dumped)" else ""

theorem endsNumber_coreNote (coreDumped : Bool) : EndsNumber (coreNote coreDumped) := by
  cases coreDumped <;> simp [EndsNumber, coreNote]

theorem coreNote_injective : Function.Injective coreNote := by
  intro a b h
  cases a <;> cases b <;> simp [coreNote] at h ⊢

/-! ### Kinds of endings -/

/-- What a wait status reports, without its numbers. -/
inductive Kind where
  | exited
  | signalled
  | stopped
  | continued
  | unrecognised
  deriving Repr, DecidableEq

def Ending.kind : Ending → Kind
  | .exited _ => .exited
  | .signalled _ _ => .signalled
  | .stopped _ => .stopped
  | .continued => .continued
  | .unrecognised _ => .unrecognised

/-- What a wording opens with. -/
def Kind.label : Kind → String
  | exited => "exit status: "
  | signalled => "signal: "
  | stopped => "stopped (not terminated) by signal: "
  | continued => "continued (WIFCONTINUED)"
  | unrecognised => "unrecognised wait status: "

/-- The first two letters tell the kinds apart. -/
theorem Kind.label_append_inj {k l : Kind} {s t : String} (h : k.label ++ s = l.label ++ t) :
    k = l := by
  have take_append (k : Kind) (s : String) :
      (k.label ++ s).toList.take 2 = k.label.toList.take 2 := by
    rw [String.toList_append, List.take_append_of_le_length]
    cases k <;> decide
  have hLetters : k.label.toList.take 2 = l.label.toList.take 2 := by
    rw [← take_append k s, h, take_append l t]
  revert hLetters
  cases k <;> cases l <;> decide

theorem Ending.text_signalled (signal : Nat) (coreDumped : Bool) :
    (Ending.signalled signal coreDumped).text =
      "signal: " ++ (signalText signal ++ coreNote coreDumped) :=
  String.append_assoc

theorem Ending.text_unrecognised (raw : UInt32) :
    ∃ hexadecimal, EndsNumber hexadecimal ∧ (Ending.unrecognised raw).text =
      "unrecognised wait status: " ++ ((signed raw).repr ++ hexadecimal) := by
  refine ⟨" 0x" ++ String.ofList (Nat.toDigits 16 raw.toNat), by simp [EndsNumber], ?_⟩
  rw [← Int.toString_eq_repr]
  exact String.append_assoc.trans String.append_assoc

theorem Ending.exists_text_eq (e : Ending) : ∃ rest, e.text = e.kind.label ++ rest := by
  cases e with
  | exited code => exact ⟨_, rfl⟩
  | signalled signal coreDumped => exact ⟨_, text_signalled signal coreDumped⟩
  | stopped signal => exact ⟨_, rfl⟩
  | continued => exact ⟨"", String.append_empty.symm⟩
  | unrecognised raw =>
    obtain ⟨hexadecimal, -, hText⟩ := text_unrecognised raw
    exact ⟨_, hText⟩

/-- No two endings are worded alike. -/
theorem Ending.text_injective : Function.Injective Ending.text := by
  intro d e h
  have hKind : d.kind = e.kind := by
    obtain ⟨rest, hRest⟩ := d.exists_text_eq
    obtain ⟨rest', hRest'⟩ := e.exists_text_eq
    rw [hRest, hRest'] at h
    exact Kind.label_append_inj h
  cases d with
  | exited code =>
    cases e with
    | exited code' =>
      have hText : code.repr ++ "" = code'.repr ++ "" :=
        congrArg (· ++ "") ((String.append_right_inj _).mp h)
      rw [eq_of_natRepr_append_eq endsNumber_empty endsNumber_empty hText]
    | _ => cases hKind
  | signalled signal coreDumped =>
    cases e with
    | signalled signal' coreDumped' =>
      rw [text_signalled, text_signalled, String.append_right_inj] at h
      obtain ⟨hSignal, hCore⟩ := signalText_append_inj (endsNumber_coreNote coreDumped)
        (endsNumber_coreNote coreDumped') h
      rw [hSignal, coreNote_injective hCore]
    | _ => cases hKind
  | stopped signal =>
    cases e with
    | stopped signal' =>
      have hText : signalText signal ++ "" = signalText signal' ++ "" :=
        congrArg (· ++ "") ((String.append_right_inj _).mp h)
      rw [(signalText_append_inj endsNumber_empty endsNumber_empty hText).1]
    | _ => cases hKind
  | continued =>
    cases e with
    | continued => rfl
    | _ => cases hKind
  | unrecognised raw =>
    cases e with
    | unrecognised raw' =>
      obtain ⟨hexadecimal, hEnds, hText⟩ := text_unrecognised raw
      obtain ⟨hexadecimal', hEnds', hText'⟩ := text_unrecognised raw'
      rw [hText, hText', String.append_right_inj] at h
      have hNumber := eq_of_intRepr_append_eq hEnds hEnds' h
      rw [UInt32.toBitVec_inj.mp (BitVec.toInt_inj.mp hNumber)]
    | _ => cases hKind

end WaitStatus

end BuildDispatch
