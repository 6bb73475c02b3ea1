import BuildDispatch.Config.Validity
import BuildDispatch.Proofs.Environment.Block

/-! Which configurations break no rule: exactly those whose tool and actions have names and whose
overrides an environment can take. -/

namespace BuildDispatch

namespace EnvOverride

variable {action : String} {o : EnvOverride}

theorem isSettable_iff :
    o.IsSettable ↔ o.name ≠ "" ∧ '=' ∉ o.name.toList ∧ '\x00' ∉ o.name.toList ∧
      '\x00' ∉ o.value.toList := by
  have hEmpty : o.key = [] ↔ o.name = "" := Bytes.ofText_eq_nil
  have hEquals : 0x3D ∈ o.key ↔ '=' ∈ o.name.toList := Bytes.equals_mem_ofText _
  have hNul : 0 ∈ o.key ↔ '\x00' ∈ o.name.toList := Bytes.nul_mem_ofText _
  have hValue : 0 ∈ o.fragment ↔ '\x00' ∈ o.value.toList := Bytes.nul_mem_ofText _
  rw [Ne, ← hEmpty, ← hEquals, ← hNul, ← hValue]
  constructor
  · rintro ⟨hName, hFragment⟩
    exact ⟨hName.ne_nil, hName.equals_notMem, hName.nul_notMem, hFragment⟩
  · rintro ⟨hNe, hNoEquals, hNoNul, hFragment⟩
    exact ⟨⟨hNe, hNoEquals, hNoNul⟩, hFragment⟩

theorem isBadName_iff :
    (o.name.isEmpty || o.name.toList.any isForbiddenInName) = true ↔
      o.name = "" ∨ '=' ∈ o.name.toList ∨ '\x00' ∈ o.name.toList := by
  simp [isForbiddenInName, List.any_eq_true, exists_or, and_or_left]

theorem violation?_eq_none_iff : o.violation? action = none ↔ o.IsSettable := by
  have hValue : o.value.toList.contains '\x00' = true ↔ '\x00' ∈ o.value.toList :=
    List.contains_iff_mem
  rw [isSettable_iff, violation?]
  simp only [isBadName_iff, hValue]
  constructor
  · intro h
    split at h
    · cases h
    · rename_i hName
      split at h
      · cases h
      · rename_i hNoNul
        simp only [not_or] at hName
        exact ⟨hName.1, hName.2.1, hName.2.2, hNoNul⟩
  · rintro ⟨hNe, hNoEquals, hNoNul, hNoNulInValue⟩
    rw [if_neg (by simp [hNe, hNoEquals, hNoNul]), if_neg hNoNulInValue]

end EnvOverride

namespace Config

/-- The rules for configurations. -/
structure WellFormed (c : Config) : Prop where
  tool : c.tool ≠ some ""
  actions : ∀ entry ∈ c.actions.entries,
    entry.1 ≠ "" ∧ ∀ o ∈ entry.2.env, EnvOverride.IsSettable o

theorem entryViolation?_eq_none_iff {entry : String × ActionPolicy} :
    entryViolation? entry = none ↔ entry.1 ≠ "" ∧ ∀ o ∈ entry.2.env, o.IsSettable := by
  unfold entryViolation?
  split
  · rename_i hEmpty
    simp_all
  · rename_i hNamed
    rw [List.findSome?_eq_none_iff]
    simp only [EnvOverride.violation?_eq_none_iff]
    simp_all

theorem violation?_eq_none_iff {c : Config} : c.violation? = none ↔ c.WellFormed := by
  unfold violation?
  split
  · rename_i hTool
    constructor
    · intro h
      cases h
    · intro h
      exact absurd hTool h.tool
  · rename_i hTool
    rw [List.findSome?_eq_none_iff]
    simp only [entryViolation?_eq_none_iff]
    exact ⟨fun h => ⟨hTool, h⟩, fun h => h.actions⟩

end Config

end BuildDispatch
