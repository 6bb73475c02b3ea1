import BuildDispatch.Proofs.Dispatch.Ending
import BuildDispatch.Proofs.WaitStatus.Wording
import Mathlib.Algebra.Group.Nat.Defs

/-! How the end of a process is judged.  The bits of its wait status say what kind of status it is,
each status is of one kind, and the failure that is reported shows the bits that count for its kind
and no others. -/

namespace BuildDispatch

namespace WaitStatus

/-- The number that the bits of a status from `low` up to `high` make. -/
def bits (s : WaitStatus) (high low : Nat) : Nat := (s.raw.toBitVec.extractLsb high low).toNat

theorem bits_eq (s : WaitStatus) (high low : Nat) :
    s.bits high low = s.raw.toNat / 2 ^ low % 2 ^ (high - low + 1) := by
  rw [bits, BitVec.extractLsb_toNat, Nat.shiftRight_eq_div_pow]
  rfl

variable {s t : WaitStatus} {kind : Kind}

/-- The low byte is the number of a signal and the mark of a core dump. -/
theorem lowByte_eq_iff : s.bits 7 0 = t.bits 7 0 ↔
    s.bits 6 0 = t.bits 6 0 ∧ (s.bits 7 7 = 1 ↔ t.bits 7 7 = 1) := by
  simp only [bits_eq]
  omega

namespace Kind

/-- What the bits of a status must be for it to be of a kind. -/
def Applies (s : WaitStatus) : Kind → Prop
  | exited => s.bits 6 0 = 0
  | signalled => 1 ≤ s.bits 6 0 ∧ s.bits 6 0 ≤ 126
  | stopped => s.bits 7 0 = 0x7f
  | continued => s.raw = 0xffff
  | unrecognised =>
    ¬ (s.bits 6 0 = 0 ∨ (1 ≤ s.bits 6 0 ∧ s.bits 6 0 ≤ 126) ∨ s.bits 7 0 = 0x7f ∨ s.raw = 0xffff)

/-- What a status of a kind reports. -/
def ending (s : WaitStatus) : Kind → Ending
  | exited => .exited (s.bits 15 8)
  | signalled => .signalled (s.bits 6 0) (s.bits 7 7 == 1)
  | stopped => .stopped (s.bits 15 8)
  | continued => .continued
  | unrecognised => .unrecognised s.raw

/-- Two statuses agree on the bits that a kind shows. -/
def Agree (s t : WaitStatus) : Kind → Prop
  | exited => s.bits 15 8 = t.bits 15 8
  | signalled => s.bits 7 0 = t.bits 7 0
  | stopped => s.bits 15 8 = t.bits 15 8
  | continued => True
  | unrecognised => s.raw = t.raw

theorem kind_ending (s : WaitStatus) (kind : Kind) : (kind.ending s).kind = kind := by
  cases kind <;> rfl

theorem exists_applies (s : WaitStatus) : ∃ kind : Kind, kind.Applies s := by
  by_cases h : Kind.unrecognised.Applies s
  · exact ⟨_, h⟩
  · rcases not_not.mp h with hExited | hSignalled | hStopped | hContinued
    · exact ⟨.exited, hExited⟩
    · exact ⟨.signalled, hSignalled⟩
    · exact ⟨.stopped, hStopped⟩
    · exact ⟨.continued, hContinued⟩

/-- The tests of `WaitStatus.ending`, taken in order, find the kind that applies. -/
theorem Applies.ending_eq (h : kind.Applies s) : s.ending = kind.ending s := by
  have hLow : s.bits 6 0 = s.raw.toNat % 128 := by simp [bits_eq]
  have hByte : s.bits 7 0 = s.raw.toNat % 256 := by simp [bits_eq]
  have hCore : s.bits 7 7 = s.raw.toNat / 128 % 2 := by simp [bits_eq]
  have hSecond : s.bits 15 8 = s.raw.toNat / 256 % 256 := by simp [bits_eq]
  have hContinued : s.raw = 0xffff ↔ s.raw.toNat = 65535 := by simp [← UInt32.toNat_inj]
  unfold WaitStatus.ending
  cases kind with
  | exited =>
    simp only [Applies, hLow] at h
    rw [ending, hSecond, if_pos h]
  | signalled =>
    simp only [Applies, hLow] at h
    rw [ending, hLow, hCore, if_neg (by omega), if_pos (by omega)]
  | stopped =>
    simp only [Applies, hByte] at h
    rw [ending, hSecond, if_neg (by omega), if_neg (by omega), if_pos (by omega)]
  | continued =>
    have hRaw := hContinued.mp h
    rw [ending, if_neg (by omega), if_neg (by omega), if_neg (by omega), if_pos hRaw]
  | unrecognised =>
    simp only [Applies, hLow, hByte, hContinued] at h
    rw [ending, if_neg (by omega), if_neg (by omega), if_neg (by omega), if_neg (by omega)]

theorem Applies.unique {kind' : Kind} (h : kind.Applies s) (h' : kind'.Applies s) :
    kind = kind' := by
  rw [← kind_ending s kind, ← h.ending_eq, h'.ending_eq, kind_ending]

theorem existsUnique_applies (s : WaitStatus) : ∃! kind : Kind, kind.Applies s := by
  obtain ⟨kind, h⟩ := exists_applies s
  exact ⟨kind, h, fun kind' h' => h'.unique h⟩

theorem ending_eq_ending_iff : kind.ending s = kind.ending t ↔ kind.Agree s t := by
  cases kind with
  | exited => simp [ending, Agree]
  | signalled =>
    rw [ending, ending, Ending.signalled.injEq, beq_eq_beq, Agree, lowByte_eq_iff]
  | stopped => simp [ending, Agree]
  | continued => simp [ending, Agree]
  | unrecognised => simp [ending, Agree]

end Kind

/-- Statuses are worded alike if they are of one kind and agree on what it shows. -/
theorem text_eq_iff :
    s.text = t.text ↔ ∃ kind : Kind, kind.Applies s ∧ kind.Applies t ∧ kind.Agree s t := by
  constructor
  · intro h
    obtain ⟨kind, hs⟩ := Kind.exists_applies s
    obtain ⟨kind', ht⟩ := Kind.exists_applies t
    have hEnding : kind.ending s = kind'.ending t := by
      rw [← hs.ending_eq, ← ht.ending_eq]
      exact Ending.text_injective h
    have hKind : kind = kind' := by
      rw [← Kind.kind_ending s kind, hEnding, Kind.kind_ending]
    subst hKind
    exact ⟨kind, hs, ht, Kind.ending_eq_ending_iff.mp hEnding⟩
  · rintro ⟨kind, hs, ht, hAgree⟩
    rw [text, text, hs.ending_eq, ht.ending_eq, Kind.ending_eq_ending_iff.mpr hAgree]

end WaitStatus

namespace Command

open WaitStatus (Kind)

variable {c : Command} {s : WaitStatus} {f : Failure}

theorem check_eq_ok : c.check s = .ok () ↔ s.raw = 0 := by
  obtain ⟨raw⟩ := s
  change c.judge (.ok ⟨raw⟩) = .ok () ↔ raw = 0
  rw [judge_eq_ok, Except.ok.injEq, WaitStatus.mk.injEq]

theorem check_of_ne_zero (h : s.raw ≠ 0) :
    c.check s = .error (.childFailed c.program.lossyText c.action.lossyText s) := by
  rw [check, if_neg]
  rwa [WaitStatus.isSuccess, beq_iff_eq]

theorem eq_of_check_eq_error (h : c.check s = .error f) :
    f = .childFailed c.program.lossyText c.action.lossyText s := by
  have hRaw : s.raw ≠ 0 := by
    intro hZero
    cases h.symm.trans (check_eq_ok.mpr hZero)
  rw [check_of_ne_zero hRaw] at h
  cases h
  rfl

theorem message_childFailed (program action : String) (s : WaitStatus) :
    (Failure.childFailed program action s).message =
      "`" ++ program ++ " " ++ action ++ "` failed (" ++ s.text ++ ")" := rfl

theorem message_childFailed_inj {program action : String} {s t : WaitStatus} :
    (Failure.childFailed program action s).message =
      (Failure.childFailed program action t).message ↔ s.text = t.text := by
  rw [message_childFailed, message_childFailed, String.append_left_inj, String.append_right_inj]

/-- How the statuses of the processes of one command are judged. -/
structure JudgesByBits (program action : String) (judge : WaitStatus → Except Failure Unit) :
    Prop where
  success : ∀ s, judge s = .ok () ↔ s.raw = 0
  oneKind : ∀ s, ∃! kind : Kind, kind.Applies s
  /-- A failure names the program and the action, and words what the status reports. -/
  message : ∀ s (kind : Kind), s.raw ≠ 0 → kind.Applies s → ∃ f, judge s = .error f ∧
    f.message = "`" ++ program ++ " " ++ action ++ "` failed (" ++ (kind.ending s).text ++ ")"
  sameMessage : ∀ s t f g, judge s = .error f → judge t = .error g →
    (f.message = g.message ↔
      ∃ kind : Kind, kind.Applies s ∧ kind.Applies t ∧ kind.Agree s t)

/-- Only the status zero is a success.  Any other is a failure whose message shows its kind and the
bits that count for it, so failures of one command are told apart by just these. -/
theorem check_judgesByBits (tool : Tool) (request : Request) (policy : ActionPolicy)
    (inherited : Environment) :
    JudgesByBits tool.program.lossyText request.action
      (compose tool request policy inherited).check := by
  have hAction : (compose tool request policy inherited).action.lossyText = request.action :=
    Bytes.lossyText_ofText request.action
  refine ⟨fun s => check_eq_ok, Kind.existsUnique_applies, fun s kind hFailed hKind => ?_,
    fun s t f g hf hg => ?_⟩
  · refine ⟨_, check_of_ne_zero hFailed, ?_⟩
    rw [hAction, message_childFailed, WaitStatus.text, hKind.ending_eq]
    rfl
  · rw [eq_of_check_eq_error hf, eq_of_check_eq_error hg, message_childFailed_inj,
      WaitStatus.text_eq_iff]

/-- Statuses that are close to each other: no exit with code zero is a success unless all bits are
zero, and only one word with the low bits of a stop reports a continuation. -/
example :
    ([0x80, 0x10000, 0x8b, 0x137f, 0xff, 0xffff, 0xffffffff].map fun raw =>
      WaitStatus.text ⟨raw⟩) =
      ["exit status: 0", "exit status: 0", "signal: 11 (SIGSEGV) (core dumped)",
        "stopped (not terminated) by signal: 19 (SIGSTOP)",
        "unrecognised wait status: 255 0xff", "continued (WIFCONTINUED)",
        "unrecognised wait status: -1 0xffffffff"] := by
  decide +kernel

end Command

end BuildDispatch
